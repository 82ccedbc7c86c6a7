import ChargeMate.LedgerMoves

/-! Bookings along moves: the lifecycle graph, the version, and the slots that blocking bookings
keep. Everything here follows from one case analysis of a move, `Move.booking_cases`. -/

namespace ChargeMate

open Relational

/-- The edges of the lifecycle graph. -/
def BookingStatus.successors : BookingStatus → List BookingStatus
  | .held => [.paymentPending, .cancelled, .expired]
  | .paymentPending => [.held, .expired, .confirmed, .cancelled]
  | .confirmed => [.active, .cancelled]
  | .active => [.completed]
  | .completed | .cancelled | .expired => []

/-- The columns of a booking that nothing writes after its creation agree. -/
structure Booking.SameTerms (b b' : Booking) : Prop where
  id : b'.id = b.id
  userId : b'.userId = b.userId
  chargePointId : b'.chargePointId = b.chargePointId
  startsAt : b'.startsAt = b.startsAt
  endsAt : b'.endsAt = b.endsAt
  holdExpiresAt : b'.holdExpiresAt = b.holdExpiresAt
  totalAmount : b'.totalAmount = b.totalAmount
  currency : b'.currency = b.currency

/-- One committed change of a booking: along one edge, with the next version. -/
structure Booking.Advances (b b' : Booking) : Prop extends b.SameTerms b' where
  edge : b'.status ∈ b.status.successors
  version : b'.version = b.version + 1
  cancelledAt : b'.status ≠ .cancelled → b'.cancelledAt = b.cancelledAt
  cancelled : b'.status = .cancelled → b'.cancelledAt ≠ none

theorem Booking.SameTerms.refl (b : Booking) : b.SameTerms b :=
  ⟨rfl, rfl, rfl, rfl, rfl, rfl, rfl, rfl⟩

theorem Booking.SameTerms.trans {a b c : Booking} (hab : a.SameTerms b) (hbc : b.SameTerms c) :
    a.SameTerms c where
  id := hbc.id.trans hab.id
  userId := hbc.userId.trans hab.userId
  chargePointId := hbc.chargePointId.trans hab.chargePointId
  startsAt := hbc.startsAt.trans hab.startsAt
  endsAt := hbc.endsAt.trans hab.endsAt
  holdExpiresAt := hbc.holdExpiresAt.trans hab.holdExpiresAt
  totalAmount := hbc.totalAmount.trans hab.totalAmount
  currency := hbc.currency.trans hab.currency

theorem Booking.Overlaps.of_sameTerms {b b' c c' : Booking} (hb : b.SameTerms b')
    (hc : c.SameTerms c') (h : b'.Overlaps c') : b.Overlaps c := by
  unfold Booking.Overlaps at *
  rwa [hb.chargePointId, hc.chargePointId, hb.startsAt, hb.endsAt, hc.startsAt, hc.endsAt] at h

theorem Booking.Overlaps.symm {b c : Booking} (h : b.Overlaps c) : c.Overlaps b :=
  ⟨h.1.symm, h.2.2, h.2.1⟩

/-! ### The writes of bookings -/

theorem Booking.advances_advance {b : Booking} {status : BookingStatus}
    (hedge : status ∈ b.status.successors) (hstatus : status ≠ .cancelled) :
    b.Advances (b.advance status) where
  id := rfl
  userId := rfl
  chargePointId := rfl
  startsAt := rfl
  endsAt := rfl
  holdExpiresAt := rfl
  totalAmount := rfl
  currency := rfl
  edge := hedge
  version := rfl
  cancelledAt := fun _ => rfl
  cancelled := fun h => absurd h hstatus

theorem Booking.advances_cancel {b : Booking} (now : Timestamp)
    (hstatus : b.status ∈ cancellableBookingStatuses) : b.Advances (b.cancel now) where
  id := rfl
  userId := rfl
  chargePointId := rfl
  startsAt := rfl
  endsAt := rfl
  holdExpiresAt := rfl
  totalAmount := rfl
  currency := rfl
  edge := by
    simp only [cancellableBookingStatuses, List.mem_cons, List.not_mem_nil, or_false] at hstatus
    rcases hstatus with h | h | h <;> simp [h, Booking.cancel, BookingStatus.successors]
  version := rfl
  cancelledAt := fun h => absurd rfl h
  cancelled := fun _ => Option.some_ne_none now

theorem Booking.expire_eq (b : Booking) : b.expire = b.advance .expired := rfl

theorem Booking.holdLapsed_eq_true {b : Booking} {now : Timestamp} :
    b.holdLapsed now = true ↔ b.status = .held ∧ ∃ t, b.holdExpiresAt = some t ∧ t ≤ now := by
  simp [Booking.holdLapsed]

theorem Booking.advances_expire {b : Booking} (h : b.status = .held) : b.Advances b.expire := by
  rw [Booking.expire_eq]
  exact Booking.advances_advance (by simp [h, BookingStatus.successors]) (by decide)

/-- A released booking is unchanged, or it has left `PAYMENT_PENDING` for `HELD` or `EXPIRED`. -/
theorem Booking.release_cases (b : Booking) (now : Timestamp) :
    (b.status ≠ .paymentPending ∧ b.release now = b) ∨
    (b.status = .paymentPending ∧ b.release now = b.advance (b.releasedStatus now)) := by
  unfold Booking.release
  split
  · next h => exact Or.inr ⟨h, rfl⟩
  · next h => exact Or.inl ⟨h, rfl⟩

theorem Booking.releasedStatus_cases (b : Booking) (now : Timestamp) :
    b.releasedStatus now = .held ∨ b.releasedStatus now = .expired := by
  unfold Booking.releasedStatus
  split
  · exact Or.inl rfl
  · exact Or.inr rfl

theorem Booking.advances_release (b : Booking) (now : Timestamp) :
    b.release now = b ∨ b.Advances (b.release now) := by
  rcases b.release_cases now with ⟨_, h⟩ | ⟨hpending, h⟩
  · exact Or.inl h
  · refine Or.inr (h ▸ Booking.advances_advance ?_ ?_)
    all_goals rcases b.releasedStatus_cases now with hr | hr <;>
      simp [hpending, hr, BookingStatus.successors]

/-- What a booking row is after a move: a row that was there with its terms, unchanged or
advanced, or a new one that overlaps no other blocking booking. -/
theorem Move.booking_cases {c : Cause} {L L' : Ledger} (h : Move L c L') {id : Uuid}
    {b' : Booking} (hb' : L'.bookings id = some b') :
    (∃ b, L.bookings id = some b ∧ (b' = b ∨ b.Advances b')) ∨
    (L.bookings id = none ∧ b'.Fresh ∧
      ∀ j c, L'.bookings j = some c → j ≠ id → c.Blocking → ¬c.Overlaps b') := by
  have hput : ∀ b c : Booking, L.bookings b.id = some b → (c = b ∨ b.Advances c) → c.id = b.id →
      (L.bookings.put c) id = some b' →
      (∃ b, L.bookings id = some b ∧ (b' = b ∨ b.Advances b')) := by
    intro b c hb hc hid hget
    rcases Register.of_put hget with ⟨hk, rfl⟩ | hget
    · exact ⟨b, by rw [← hk, Booking.key_eq, hid, hb], hc⟩
    · exact ⟨b', hget, Or.inl rfl⟩
  have hexp : ∀ (among : Booking → Bool) (now : Timestamp),
      (L.expire among now).bookings id = some b' →
      ∃ b, L.bookings id = some b ∧ (b' = b ∨ b.Advances b') := by
    intro among now hget
    obtain ⟨b, hb, rfl⟩ := Option.map_eq_some_iff.mp hget
    refine ⟨b, hb, ?_⟩
    split
    · next hl =>
      simp only [Bool.and_eq_true] at hl
      exact Or.inr (Booking.advances_expire (Booking.holdLapsed_eq_true.mp hl.2).1)
    · exact Or.inl rfl
  have hkey : ∀ {id : Uuid} {b : Booking}, L.bookings id = some b → L.bookings b.id = some b := by
    intro id b hb
    rwa [show b.id = id from Register.key_eq hb]
  cases h with
  | stay | orderCreated | orderRefused | authorize | pin | mismatch | captureAgain | captureLate
  | refundChange | refundProcess => exact Or.inl ⟨b', hb', Or.inl rfl⟩
  | expire among now => exact Or.inl (hexp among now hb')
  | hold among now b hnew hfresh hfree =>
      rcases Register.of_put hb' with ⟨hk, rfl⟩ | hb'
      · refine Or.inr ⟨hk ▸ hnew, hfresh, ?_⟩
        intro j c hc hj
        rw [Register.get_put, if_neg (by rw [hk]; exact hj.symm)] at hc
        exact hfree j c hc
      · exact Or.inl (hexp among now hb')
  | begin b p hb hheld hnew hopens hkey =>
      have hadv : b.Advances (b.advance .paymentPending) :=
        Booking.advances_advance (by simp [hheld, BookingStatus.successors]) (by decide)
      exact Or.inl (hput b _ hb (Or.inr hadv) rfl hb')
  | compensate p b now hp hb hinitiated =>
      have hrel := b.advances_release now
      exact Or.inl (hput b _ (hkey hb) hrel (by rcases hrel with h | h; rw [h]; exact h.id) hb')
  | fail p b paymentId now hp hb =>
      have hrel := b.advances_release now
      exact Or.inl (hput b _ (hkey hb) hrel (by rcases hrel with h | h; rw [h]; exact h.id) hb')
  | confirm p b paymentId hp hb horder hrefunded hpin hpending =>
      have hadv : b.Advances (b.advance .confirmed) :=
        Booking.advances_advance (by simp [hpending, BookingStatus.successors]) (by decide)
      exact Or.inl (hput b _ (hkey hb) (Or.inr hadv) rfl hb')
  | cancel b now hb hstatus =>
      exact Or.inl (hput b _ hb (Or.inr (Booking.advances_cancel now hstatus)) rfl hb')
  | cancelRefund b p r now hb hconfirmed =>
      have hstatus : b.status ∈ cancellableBookingStatuses := by
        simp [hconfirmed, cancellableBookingStatuses]
      exact Or.inl (hput b _ hb (Or.inr (Booking.advances_cancel now hstatus)) rfl hb')
  | start b s hb hconfirmed =>
      have hadv : b.Advances (b.advance .active) :=
        Booking.advances_advance (by simp [hconfirmed, BookingStatus.successors]) (by decide)
      exact Or.inl (hput b _ hb (Or.inr hadv) rfl hb')
  | complete b s s' hb hactive =>
      have hadv : b.Advances (b.advance .completed) :=
        Booking.advances_advance (by simp [hactive, BookingStatus.successors]) (by decide)
      exact Or.inl (hput b _ hb (Or.inr hadv) rfl hb')

/-- No move deletes a booking. -/
theorem Move.booking_next {c : Cause} {L L' : Ledger} (h : Move L c L') {id : Uuid}
    {b : Booking} (hb : L.bookings id = some b) :
    ∃ b', L'.bookings id = some b' ∧ (b' = b ∨ b.Advances b') := by
  have hkept : ∃ b', L'.bookings id = some b' := by
    have hput : ∀ d : Booking, ∃ b', (L.bookings.put d) id = some b' := by
      intro d
      rw [Register.get_put]
      split
      · exact ⟨d, rfl⟩
      · exact ⟨b, hb⟩
    have hexp : ∀ (among : Booking → Bool) (now : Timestamp),
        ∃ b', (L.expire among now).bookings id = some b' := by
      intro among now
      rw [Ledger.bookings_expire, hb]
      exact ⟨_, rfl⟩
    cases h with
    | stay | orderCreated | orderRefused | authorize | pin | mismatch | captureAgain | captureLate
    | refundChange | refundProcess => exact ⟨b, hb⟩
    | expire among now => exact hexp among now
    | hold among now d =>
        rw [Register.get_put]
        split
        · exact ⟨d, rfl⟩
        · exact hexp among now
    | begin | compensate | fail | confirm | cancel | cancelRefund | start | complete => exact hput _
  obtain ⟨b', hb'⟩ := hkept
  rcases h.booking_cases hb' with ⟨b₀, hb₀, hcase⟩ | ⟨hnone, _⟩
  · rw [hb] at hb₀
    cases hb₀
    exact ⟨b', hb', hcase⟩
  · rw [hb] at hnone
    cases hnone

theorem Move.sameTerms {c : Cause} {L L' : Ledger} (h : Move L c L') {id : Uuid}
    {b : Booking} (hb : L.bookings id = some b) :
    ∃ b', L'.bookings id = some b' ∧ b.SameTerms b' := by
  obtain ⟨b', hb', rfl | hadv⟩ := h.booking_next hb
  · exact ⟨_, hb', Booking.SameTerms.refl _⟩
  · exact ⟨b', hb', hadv.toSameTerms⟩

/-! ### What moves keep of bookings -/

/-- No edge leads back to a status that keeps the slot. -/
theorem BookingStatus.blocking_of_successor {s t : BookingStatus} (h : t ∈ s.successors)
    (ht : t ∈ blockingBookingStatuses) : s ∈ blockingBookingStatuses := by
  cases s <;> cases t <;> revert h ht <;> decide

theorem Booking.Advances.blocking {b b' : Booking} (h : b.Advances b') (hb' : b'.Blocking) :
    b.Blocking :=
  BookingStatus.blocking_of_successor h.edge hb'

/-- `CANCELLED`, `EXPIRED` and `COMPLETED` have no way out. -/
def BookingStatus.Final (s : BookingStatus) : Prop := s.successors = []

theorem Booking.Advances.not_final {b b' : Booking} (h : b.Advances b') : ¬b.status.Final := by
  intro hfinal
  have hedge := h.edge
  rw [hfinal] at hedge
  exact absurd hedge List.not_mem_nil

structure Ledger.BookingsSound (L : Ledger) : Prop where
  held : ∀ id b, L.bookings id = some b → b.holdExpiresAt ≠ none
  cancelled : ∀ id b, L.bookings id = some b → (b.cancelledAt ≠ none ↔ b.status = .cancelled)
  disjoint : ∀ i j b c, L.bookings i = some b → L.bookings j = some c → i ≠ j →
    b.Blocking → c.Blocking → ¬b.Overlaps c

theorem Move.held {c : Cause} {L L' : Ledger} (h : Move L c L') (hL : L.BookingsSound)
    {id : Uuid} {b' : Booking} (hb' : L'.bookings id = some b') : b'.holdExpiresAt ≠ none := by
  rcases h.booking_cases hb' with ⟨b, hb, rfl | hadv⟩ | ⟨_, hfresh, _⟩
  · exact hL.held id _ hb
  · rw [hadv.holdExpiresAt]
    exact hL.held id b hb
  · exact hfresh.holdExpiresAt

theorem Move.cancelled {c : Cause} {L L' : Ledger} (h : Move L c L')
    (hL : L.BookingsSound) {id : Uuid} {b' : Booking} (hb' : L'.bookings id = some b') :
    b'.cancelledAt ≠ none ↔ b'.status = .cancelled := by
  rcases h.booking_cases hb' with ⟨b, hb, rfl | hadv⟩ | ⟨_, hfresh, _⟩
  · exact hL.cancelled id _ hb
  · by_cases hstatus : b'.status = .cancelled
    · exact iff_of_true (hadv.cancelled hstatus) hstatus
    · rw [hadv.cancelledAt hstatus]
      refine iff_of_false ?_ hstatus
      rw [hL.cancelled id b hb]
      intro hb
      exact hadv.not_final (by rw [hb]; rfl)
  · rw [hfresh.cancelledAt, hfresh.status]
    simp

/-- A blocking booking was blocking before, or it is new and was checked against the others. -/
theorem Move.disjoint {c : Cause} {L L' : Ledger} (h : Move L c L')
    (hL : L.BookingsSound) {i j : Uuid} {b d : Booking} (hb : L'.bookings i = some b)
    (hd : L'.bookings j = some d) (hij : i ≠ j) (hbb : b.Blocking) (hdb : d.Blocking) :
    ¬b.Overlaps d := by
  have hold : ∀ {k : Uuid} {e e' : Booking}, L.bookings k = some e →
      (e' = e ∨ e.Advances e') → e'.Blocking → e.Blocking ∧ e.SameTerms e' := by
    intro k e e' _ he' hblock
    rcases he' with rfl | hadv
    · exact ⟨hblock, Booking.SameTerms.refl _⟩
    · exact ⟨hadv.blocking hblock, hadv.toSameTerms⟩
  rcases h.booking_cases hb with ⟨b₀, hb₀, hbcase⟩ | ⟨_, _, hfree⟩
  · rcases h.booking_cases hd with ⟨d₀, hd₀, hdcase⟩ | ⟨_, _, hfree⟩
    · obtain ⟨hb₀b, hbterms⟩ := hold hb₀ hbcase hbb
      obtain ⟨hd₀b, hdterms⟩ := hold hd₀ hdcase hdb
      intro hover
      exact hL.disjoint i j b₀ d₀ hb₀ hd₀ hij hb₀b hd₀b (hover.of_sameTerms hbterms hdterms)
    · exact hfree i b hb hij hbb
  · intro hover
    exact hfree j d hd hij.symm hdb hover.symm

theorem Move.bookingsSound {c : Cause} {L L' : Ledger} (h : Move L c L')
    (hL : L.BookingsSound) : L'.BookingsSound where
  held _ _ := h.held hL
  cancelled _ _ := h.cancelled hL
  disjoint _ _ _ _ := h.disjoint hL

end ChargeMate
