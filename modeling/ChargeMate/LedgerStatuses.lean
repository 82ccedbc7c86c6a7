import ChargeMate.LedgerRefunds

/-! What stands behind the status of a booking: an open payment attempt while it awaits payment,
a captured payment once it is confirmed. With this the ledger is sound as a whole. -/

namespace ChargeMate

open Relational

/-- A payment attempt that has neither failed nor collected anything. -/
def Payment.Open (p : Payment) : Prop :=
  p.status = .initiated ∨ p.status = .orderCreated ∨ p.status = .authorized

/-- A booking that has been paid for and is neither cancelled nor expired. -/
def Booking.Paid (b : Booking) : Prop :=
  b.status = .confirmed ∨ b.status = .active ∨ b.status = .completed

theorem Payment.Open.not_collected {p : Payment} (h : p.Open) : ¬p.Collected := by
  rintro (hc | hc) <;> simp [Payment.Open, hc] at h

structure Ledger.Backed (L : Ledger) : Prop where
  pending : ∀ id b, L.bookings id = some b → b.status = .paymentPending →
    ∃ p, L.payments p.id = some p ∧ p.bookingId = id ∧ p.Open
  paid : ∀ id b, L.bookings id = some b → b.Paid →
    ∃ p, L.payments p.id = some p ∧ p.bookingId = id ∧ p.status = .captured

theorem Booking.status_release_ne (b : Booking) (now : Timestamp) :
    (b.release now).status ≠ .paymentPending := by
  rcases b.release_cases now with ⟨h, heq⟩ | ⟨_, heq⟩
  · rwa [heq]
  · rw [heq]
    rcases b.releasedStatus_cases now with hr | hr <;> simp [Booking.advance, hr]

theorem Booking.id_release (b : Booking) (now : Timestamp) : (b.release now).id = b.id := by
  rcases b.release_cases now with ⟨_, heq⟩ | ⟨_, heq⟩ <;> rw [heq]
  rfl

/-- What a move has written to the ledger when it gives a booking its status. -/
def Ledger.Grounds (L' : Ledger) (c : Cause) (b' : Booking) : Prop :=
  match b'.status with
  | .paymentPending => ∃ p, L'.payments p.id = some p ∧ p.bookingId = b'.id ∧ p.Open
  | .confirmed => ∃ p, L'.payments p.id = some p ∧ p.bookingId = b'.id ∧ p.status = .captured
  | .cancelled => c = .cancel b'.id ∨
      ∃ p r, c = .refund b'.id p ∧ L'.refunds r.id = some r ∧ r.paymentId = p
  | .held | .active | .completed | .expired => True

/-- A booking that a move changes has the grounds of its new status. -/
theorem Move.grounds {c : Cause} {L L' : Ledger} (h : Move L c L') {id : Uuid} {b' : Booking}
    (hb' : L'.bookings id = some b') (hne : L.bookings id ≠ some b') : L'.Grounds c b' := by
  have hput : ∀ {d : Booking}, (L.bookings.put d) id = some b' → b' = d := by
    intro d hget
    rcases Register.of_put hget with ⟨_, heq⟩ | hold
    · exact heq
    · exact absurd hold hne
  have hidle : b'.status = .held ∨ b'.status = .expired → L'.Grounds c b' := by
    rintro (hs | hs) <;> simp [Ledger.Grounds, hs]
  have hexp : ∀ (among : Booking → Bool) (now : Timestamp),
      (L.expire among now).bookings id = some b' → b'.status = .held ∨ b'.status = .expired := by
    intro among now hget
    obtain ⟨b, hb, heq⟩ := Option.map_eq_some_iff.mp hget
    by_cases hl : (among b && b.holdLapsed now) = true
    · rw [if_pos hl] at heq
      exact Or.inr (heq ▸ rfl)
    · rw [if_neg hl] at heq
      exact absurd (heq ▸ hb) hne
  have hrel : ∀ {d : Booking} {k : Uuid} (now : Timestamp), L.bookings k = some d →
      (L.bookings.put (d.release now)) id = some b' →
      b'.status = .held ∨ b'.status = .expired := by
    intro d k now hd hget
    rcases d.release_cases now with ⟨_, heq⟩ | ⟨_, heq⟩
    · rw [heq, Register.put_of_get hd] at hget
      exact absurd hget hne
    · rw [hput hget, heq]
      exact d.releasedStatus_cases now
  cases h with
  | stay | orderCreated | orderRefused | authorize | pin | mismatch | captureAgain | captureLate
  | refundChange | refundProcess => exact absurd hb' hne
  | expire among now => exact hidle (hexp among now hb')
  | hold among now d hnew hfresh =>
      rcases Register.of_put hb' with ⟨_, rfl⟩ | hold
      · exact hidle (Or.inl hfresh.status)
      · exact hidle (hexp among now hold)
  | begin d p hd hheld hnew hopens =>
      rw [hput hb']
      exact ⟨p, by simp, hopens.bookingId, Or.inl hopens.status⟩
  | compensate p d now hp hd => exact hidle (hrel now hd hb')
  | fail p d paymentId now hp hd => exact hidle (hrel now hd hb')
  | confirm p d paymentId hp hd =>
      rw [hput hb']
      exact ⟨{ p with providerPaymentId := some paymentId, status := .captured }, by simp,
        (Register.key_eq hd).symm, rfl⟩
  | cancel d now =>
      rw [hput hb']
      exact Or.inl rfl
  | cancelRefund d p r now hd hconfirmed hp hbooking hcap hnew hopens =>
      rw [hput hb']
      exact Or.inr ⟨p.id, r, rfl, by simp, hopens.paymentId⟩
  | start d s =>
      rw [hput hb']
      trivial
  | complete d s s' =>
      rw [hput hb']
      trivial

/-- A booking that a move leaves in `PAYMENT_PENDING` keeps its open attempt. -/
theorem Move.open_kept {c : Cause} {L L' : Ledger} (h : Move L c L') (hR : L.RefundsSound)
    {p : Payment} {b : Booking} (hp : L.payments p.id = some p) (hopen : p.Open)
    (hb : L.bookings p.bookingId = some b) (hb' : L'.bookings p.bookingId = some b)
    (hpending : b.status = .paymentPending) :
    ∃ p', L'.payments p'.id = some p' ∧ p'.bookingId = p.bookingId ∧ p'.Open := by
  have hwrite : ∀ q q' : Payment, L.payments q.id = some q → q'.id = q.id →
      q'.bookingId = q.bookingId → (q = p → q'.Open) →
      ∃ p', (L.payments.put q') p'.id = some p' ∧ p'.bookingId = p.bookingId ∧ p'.Open := by
    intro q q' hq hid hbooking hstays
    have hkey : L.payments (key q') = some q := by rw [Payment.key_eq, hid, hq]
    obtain ⟨p', hp', ⟨rfl, rfl⟩ | rfl⟩ := Register.put_next hkey hp
    · exact ⟨_, hid ▸ hp', hbooking, hstays rfl⟩
    · exact ⟨_, hp', rfl, hopen⟩
  have hread : ∀ {q : Payment} {d : Booking}, L.bookings q.bookingId = some d → q = p →
      d.status = .paymentPending := by
    rintro q d hd rfl
    rw [hb] at hd
    cases hd
    exact hpending
  -- a booking that is written has left `PAYMENT_PENDING`, so it is not this one
  have hleft : ∀ {q : Payment} {d d' : Booking}, L.bookings q.bookingId = some d → d'.id = d.id →
      d'.status ≠ .paymentPending → (L.bookings.put d') p.bookingId = some b → q ≠ p := by
    rintro q d d' hd hid hstatus hget rfl
    have hkey : key d' = q.bookingId := hid.trans (Register.key_eq hd)
    rw [Register.get_put, if_pos hkey] at hget
    cases hget
    exact hstatus hpending
  cases h with
  | stay | refundChange | expire | hold | cancel | cancelRefund | start | complete =>
      exact ⟨p, hp, rfl, hopen⟩
  | begin d q hd hheld hnew => exact ⟨p, Register.put_of_new hnew hp, rfl, hopen⟩
  | orderCreated q d orderId hq => exact hwrite q _ hq rfl rfl fun _ => Or.inr (Or.inl rfl)
  | orderRefused q d orderId hq hd hinitiated hchanged =>
      exact hwrite q _ hq rfl rfl fun hqp => absurd (hread hd hqp) hchanged
  | compensate q d now hq hd =>
      exact hwrite q _ hq rfl rfl fun hqp =>
        absurd hqp (hleft hd (d.id_release now) (d.status_release_ne now) hb')
  | authorize q paymentId hq => exact hwrite q _ hq rfl rfl fun _ => Or.inr (Or.inr rfl)
  | pin q paymentId hq => exact hwrite q _ hq rfl rfl fun hqp => hqp ▸ hopen
  | mismatch q code hq => exact hwrite q _ hq rfl rfl fun hqp => hqp ▸ hopen
  | confirm q d paymentId hq hd =>
      have hid : (d.advance .confirmed).id = d.id := rfl
      exact hwrite q _ hq rfl rfl fun hqp =>
        absurd hqp (hleft hd hid (by simp [Booking.advance]) hb')
  | captureAgain q d paymentId hq hd horder hrefunded hpin hconfirmed =>
      refine hwrite q _ hq rfl rfl fun hqp => absurd (hread hd hqp) ?_
      simp [hconfirmed]
  | captureLate q d paymentId hq hd horder hrefunded hpin hchanged =>
      exact hwrite q _ hq rfl rfl fun hqp => absurd (hread hd hqp) hchanged
  | fail q d paymentId now hq hd =>
      exact hwrite q _ hq rfl rfl fun hqp =>
        absurd hqp (hleft hd (d.id_release now) (d.status_release_ne now) hb')
  | refundProcess r r' q hr hq hreturns =>
      refine hwrite q _ hq rfl rfl fun hqp => ?_
      subst hqp
      exact absurd (hR.captured hr hq hreturns) hopen.not_collected

theorem Move.pending {c : Cause} {L L' : Ledger} (h : Move L c L') (hR : L.RefundsSound)
    (hB : L.Backed) {id : Uuid} {b' : Booking} (hb' : L'.bookings id = some b')
    (hstatus : b'.status = .paymentPending) :
    ∃ p, L'.payments p.id = some p ∧ p.bookingId = id ∧ p.Open := by
  by_cases hb : L.bookings id = some b'
  · obtain ⟨p, hp, rfl, hopen⟩ := hB.pending id b' hb hstatus
    exact h.open_kept hR hp hopen hb hb' hstatus
  · have hgrounds := h.grounds hb' hb
    have hid : b'.id = id := Register.key_eq hb'
    simpa only [Ledger.Grounds, hstatus, hid] using hgrounds

/-- A captured payment of a booking that is not cancelled stays captured. -/
theorem Move.captured_kept {c : Cause} {L L' : Ledger} (h : Move L c L')
    (hL : L.PaymentsSound) (hR : L.RefundsSound) {p : Payment} {b : Booking}
    (hp : L.payments p.id = some p) (hstatus : p.status = .captured)
    (hb : L.bookings p.bookingId = some b) (hcancelled : b.status ≠ .cancelled) :
    ∃ p', L'.payments p'.id = some p' ∧ p'.bookingId = p.bookingId ∧ p'.status = .captured := by
  have hid : b.id = p.bookingId := Register.key_eq hb
  rcases h.refunds_cases with ⟨_, hsame⟩ | ⟨d, q, r, now, _, _, _, _, _, _, _, _, rfl⟩ |
    ⟨r, r', _, _, _, _, rfl⟩ | ⟨r, r', q, hr, hq, hreturns, _, _, _, rfl⟩
  · obtain ⟨p', hp', hcont⟩ := h.payment_next hL hR hp
    obtain ⟨p'', hp'', hs⟩ := hsame p.id p hp (Or.inl hstatus)
    rw [hp'] at hp''
    cases hp''
    exact ⟨p', hcont.id ▸ hp', hcont.bookingId, hs.trans hstatus⟩
  · exact ⟨p, hp, rfl, hstatus⟩
  · exact ⟨p, hp, rfl, hstatus⟩
  · have hne : q.id ≠ p.id := by
      intro hqp
      rw [hqp, hp] at hq
      cases hq
      exact hcancelled (hR.cancelled hr (by rw [hreturns, hp]) (hid ▸ hb) hid.symm)
    exact ⟨p, by rw [Register.get_put, if_neg (by simpa using hne), hp], rfl, hstatus⟩

theorem Move.paid {c : Cause} {L L' : Ledger} (h : Move L c L') (hL : L.PaymentsSound)
    (hR : L.RefundsSound) (hB : L.Backed) {id : Uuid} {b' : Booking}
    (hb' : L'.bookings id = some b') (hpaid : b'.Paid) :
    ∃ p, L'.payments p.id = some p ∧ p.bookingId = id ∧ p.status = .captured := by
  -- a booking paid for before the move keeps its captured payment
  have hkept : ∀ b, L.bookings id = some b → b.Paid →
      ∃ p, L'.payments p.id = some p ∧ p.bookingId = id ∧ p.status = .captured := by
    intro b hb hbpaid
    obtain ⟨p, hp, hpid, hstatus⟩ := hB.paid id b hb hbpaid
    rw [← hpid] at hb ⊢
    refine h.captured_kept hL hR hp hstatus hb ?_
    rcases hbpaid with hs | hs | hs <;> simp [hs]
  rcases h.booking_cases hb' with ⟨b, hb, rfl | hadv⟩ | ⟨_, hfresh, _⟩
  · exact hkept _ hb hpaid
  · by_cases hbpaid : b.Paid
    · exact hkept b hb hbpaid
    · have hedge := hadv.edge
      cases hs : b.status <;> simp only [Booking.Paid, hs, reduceCtorEq, or_false, or_true,
        not_true_eq_false] at hbpaid <;> rw [hs] at hedge <;>
        simp only [BookingStatus.successors, List.mem_cons, List.not_mem_nil, or_false] at hedge
      · rcases hpaid with hp | hp | hp <;> simp [hp] at hedge
      · have hconfirmed : b'.status = .confirmed := by
          rcases hpaid with hp | hp | hp <;> simp_all
        have hne : L.bookings id ≠ some b' := by
          rw [hb]
          rintro ⟨⟩
          rw [hs] at hconfirmed
          cases hconfirmed
        have hgrounds := h.grounds hb' hne
        have hid : b'.id = id := Register.key_eq hb'
        simpa only [Ledger.Grounds, hconfirmed, hid] using hgrounds
  · rcases hpaid with hp | hp | hp <;> simp [hfresh.status] at hp

/-! ### The ledger as a whole -/

structure Ledger.Sound (L : Ledger) : Prop where
  bookings : L.BookingsSound
  payments : L.PaymentsSound
  refunds : L.RefundsSound
  backed : L.Backed

theorem Move.sound {c : Cause} {L L' : Ledger} (h : Move L c L') (hL : L.Sound) :
    L'.Sound where
  bookings := h.bookingsSound hL.bookings
  payments := h.paymentsSound hL.payments hL.refunds
  refunds := h.refundsSound hL.payments hL.refunds
  backed :=
    { pending := fun _ _ hb' => h.pending hL.refunds hL.backed hb'
      paid := fun _ _ hb' => h.paid hL.payments hL.refunds hL.backed hb' }

/-- An attempt whose provider call is not answered by the move is left alone. -/
theorem Move.initiated_kept {c : Cause} {L L' : Ledger} (h : Move L c L') (hL : L.Sound)
    {id : Uuid} {p : Payment} (hp : L.payments id = some p) (hinitiated : p.status = .initiated)
    (hother : c ≠ .answer id) : L'.payments id = some p := by
  have hput : ∀ q q' : Payment, L.payments q.id = some q → q'.id = q.id →
      (q.id ≠ id) → (L.payments.put q') id = some p := by
    intro q q' _ hid hne
    rw [Register.get_put, if_neg (by rw [Payment.key_eq, hid]; exact hne), hp]
  have horder : ∀ q : Payment, L.payments q.id = some q → q.providerOrderId ≠ none → q.id ≠ id := by
    rintro q hq horder rfl
    rw [hp] at hq
    cases hq
    exact horder (hL.payments.initiated _ _ hp hinitiated).1
  have hstatus : ∀ q : Payment, L.payments q.id = some q → q.status ≠ .initiated → q.id ≠ id := by
    rintro q hq hs rfl
    rw [hp] at hq
    cases hq
    exact hs hinitiated
  cases h with
  | stay | expire | hold | cancel | cancelRefund | refundChange | start | complete => exact hp
  | begin b q hb hheld hnew => exact Register.put_of_new hnew hp
  | orderCreated q b orderId hq => exact hput q _ hq rfl fun hid => hother (hid ▸ rfl)
  | orderRefused q b orderId hq => exact hput q _ hq rfl fun hid => hother (hid ▸ rfl)
  | compensate q b now hq => exact hput q _ hq rfl fun hid => hother (hid ▸ rfl)
  | authorize q paymentId hq hcreated => exact hput q _ hq rfl (hstatus q hq (by simp [hcreated]))
  | pin q paymentId hq ho => exact hput q _ hq rfl (horder q hq ho)
  | mismatch q code hq ho => exact hput q _ hq rfl (horder q hq ho)
  | confirm q b paymentId hq hb ho => exact hput q _ hq rfl (horder q hq ho)
  | captureAgain q b paymentId hq hb ho => exact hput q _ hq rfl (horder q hq ho)
  | captureLate q b paymentId hq hb ho => exact hput q _ hq rfl (horder q hq ho)
  | fail q b paymentId now hq hb ho => exact hput q _ hq rfl (horder q hq ho)
  | refundProcess r r' q hr hq hreturns =>
      refine hput q _ hq rfl (hstatus q hq ?_)
      rcases hL.refunds.captured hr hq hreturns with hs | hs <;> simp [hs]

end ChargeMate
