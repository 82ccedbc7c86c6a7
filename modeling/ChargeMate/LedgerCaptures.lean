import ChargeMate.LedgerStatuses

/-! Captured payments along moves: where a captured payment comes from, and under which conditions
on the cause of a move the captures of a booking stay in order. -/

namespace ChargeMate

open Relational

/-- The capture was recorded as one that had found its booking closed. -/
def Payment.Flagged (p : Payment) : Prop :=
  p.lastErrorCode = some "captured_after_booking_closed"

instance (p : Payment) : Decidable p.Flagged := by
  unfold Payment.Flagged
  infer_instance

instance (p : Payment) : Decidable p.Collected := by
  unfold Payment.Collected
  infer_instance

instance (b : Booking) : Decidable b.Paid := by
  unfold Booking.Paid
  infer_instance

/-- A payment that was captured before the move; it loses its flag only to a mismatch. -/
structure Payment.CaptureKept (c : Cause) (L L' : Ledger) (p p' : Payment) : Prop where
  captured : p.status = .captured
  flag : p.Flagged → ¬p'.Flagged → c = .mismatch p.id ∧ L'.bookings = L.bookings

/-- A payment that the move captures: it confirms its booking, finds it confirmed, or is flagged. -/
structure Payment.CaptureMade (c : Cause) (L L' : Ledger) (p p' : Payment) : Prop where
  uncollected : ¬p.Collected
  cause : c = .capture p.id
  booking : ∃ b, L.bookings p.bookingId = some b ∧
    ((b.status = .paymentPending ∧ L'.bookings p.bookingId = some (b.advance .confirmed)) ∨
      (b.status ≠ .paymentPending ∧ L'.bookings p.bookingId = some b ∧
        (b.status ≠ .confirmed → p'.Flagged)))

/-- Where a captured payment comes from. -/
theorem Move.captured_cases {c : Cause} {L L' : Ledger} (h : Move L c L') {id : Uuid} {p' : Payment}
    (hp' : L'.payments id = some p') (hstatus : p'.status = .captured) :
    ∃ p, L.payments id = some p ∧ p'.bookingId = p.bookingId ∧
      (p.CaptureKept c L L' p' ∨ p.CaptureMade c L L' p') := by
  have hold : L.payments id = some p' → ∃ p, L.payments id = some p ∧ p'.bookingId = p.bookingId ∧
      (p.CaptureKept c L L' p' ∨ p.CaptureMade c L L' p') :=
    fun hp => ⟨p', hp, rfl, Or.inl ⟨hstatus, fun hf hnf => absurd hf hnf⟩⟩
  -- a write of one payment is looked at for that payment only
  have hput : ∀ q q' : Payment, (L.payments.put q') id = some p' → L.payments q.id = some q →
      q'.id = q.id → q'.bookingId = q.bookingId →
      (q'.status = .captured → q.CaptureKept c L L' q' ∨ q.CaptureMade c L L' q') →
      ∃ p, L.payments id = some p ∧ p'.bookingId = p.bookingId ∧
        (p.CaptureKept c L L' p' ∨ p.CaptureMade c L L' p') := by
    intro q q' hget hq hid hbooking hcase
    rcases Register.of_put hget with ⟨hk, rfl⟩ | hget
    · rw [Payment.key_eq, hid] at hk
      exact ⟨q, hk ▸ hq, hbooking, hcase hstatus⟩
    · exact hold hget
  -- a write that leaves the flag alone
  have hkept : ∀ q q' : Payment, q.status = .captured → (q.Flagged → q'.Flagged) →
      q.CaptureKept c L L' q' :=
    fun q q' hq hflag => ⟨hq, fun hf hnf => absurd (hflag hf) hnf⟩
  have hcollected : ∀ q : Payment, q.status ≠ .captured → q.status ≠ .refunded → ¬q.Collected := by
    rintro q hcaptured hrefunded (hc | hc)
    · exact hcaptured hc
    · exact hrefunded hc
  cases h with
  | stay | expire | hold | cancel | cancelRefund | refundChange | start | complete => exact hold hp'
  | begin b q hb hheld hnew hopens =>
      rcases Register.of_put hp' with ⟨_, rfl⟩ | hp'
      · rw [hopens.status] at hstatus
        cases hstatus
      · exact hold hp'
  | orderCreated q b orderId hq => exact hput q _ hp' hq rfl rfl (by simp)
  | orderRefused q b orderId hq => exact hput q _ hp' hq rfl rfl (by simp)
  | compensate q b now hq => exact hput q _ hp' hq rfl rfl (by simp)
  | authorize q paymentId hq => exact hput q _ hp' hq rfl rfl (by simp)
  | fail q b paymentId now hq => exact hput q _ hp' hq rfl rfl (by simp)
  | refundProcess r r' q hr hq => exact hput q _ hp' hq rfl rfl (by simp)
  | pin q paymentId hq =>
      exact hput q _ hp' hq rfl rfl fun hs => Or.inl (hkept q _ hs fun hf => hf)
  | mismatch q code hq =>
      exact hput q _ hp' hq rfl rfl fun hs => Or.inl ⟨hs, fun _ _ => ⟨rfl, rfl⟩⟩
  | confirm q b paymentId hq hb horder hrefunded hpin hpending =>
      refine hput q _ hp' hq rfl rfl fun _ => ?_
      by_cases hs : q.status = .captured
      · exact Or.inl (hkept q _ hs fun hf => hf)
      · exact Or.inr ⟨hcollected q hs hrefunded, rfl, b, hb,
          Or.inl ⟨hpending, if_pos (Register.key_eq hb)⟩⟩
  | captureAgain q b paymentId hq hb horder hrefunded hpin hconfirmed =>
      refine hput q _ hp' hq rfl rfl fun _ => ?_
      by_cases hs : q.status = .captured
      · exact Or.inl (hkept q _ hs fun hf => hf)
      · exact Or.inr ⟨hcollected q hs hrefunded, rfl, b, hb,
          Or.inr ⟨by simp [hconfirmed], hb, fun hne => absurd hconfirmed hne⟩⟩
  | captureLate q b paymentId hq hb horder hrefunded hpin hpending hconfirmed =>
      refine hput q _ hp' hq rfl rfl fun _ => ?_
      by_cases hs : q.status = .captured
      · exact Or.inl (hkept q _ hs fun _ => rfl)
      · exact Or.inr ⟨hcollected q hs hrefunded, rfl, b, hb, Or.inr ⟨hpending, hb, fun _ => rfl⟩⟩

/-- Only a cancellation takes a confirmed booking to `CANCELLED`. -/
theorem Move.cancelled_by {c : Cause} {L L' : Ledger} (h : Move L c L') {id : Uuid}
    {b b' : Booking} (hb : L.bookings id = some b) (hconfirmed : b.status = .confirmed)
    (hb' : L'.bookings id = some b') (hcancelled : b'.status = .cancelled) :
    c = .cancel id ∨ ∃ p r, c = .refund id p ∧ L'.refunds r.id = some r ∧ r.paymentId = p := by
  have hne : L.bookings id ≠ some b' := by
    rw [hb]
    rintro ⟨⟩
    rw [hconfirmed] at hcancelled
    cases hcancelled
  have hgrounds := h.grounds hb' hne
  have hid : b'.id = id := Register.key_eq hb'
  simpa only [Ledger.Grounds, hcancelled, hid] using hgrounds

/-- The booking of a captured payment, before and after the move. -/
theorem Move.booking_of {c : Cause} {L L' : Ledger} (h : Move L c L') (hL : L.PaymentsSound)
    {id : Uuid} {p : Payment} (hp : L.payments id = some p) :
    ∃ b b', L.bookings p.bookingId = some b ∧ L'.bookings p.bookingId = some b' ∧
      (b' = b ∨ b.Advances b') := by
  obtain ⟨b, hb, _⟩ := hL.charges id p hp
  obtain ⟨b', hb', hnext⟩ := h.booking_next hb
  exact ⟨b, b', hb, hb', hnext⟩

/-! ### Captures in time -/

/-- A booking that waits for its payment has captured none, a confirmed one no more than one. -/
structure Ledger.CapturesOnce (L : Ledger) : Prop where
  waiting : ∀ id p b, L.payments id = some p → p.status = .captured →
    L.bookings p.bookingId = some b → b.status ≠ .held ∧ b.status ≠ .paymentPending
  once : ∀ i j p q b, L.payments i = some p → L.payments j = some q → p.status = .captured →
    q.status = .captured → p.bookingId = q.bookingId → L.bookings p.bookingId = some b →
    b.status = .confirmed → i = j

/-- A first capture is for no booking that is back on hold or paid for already. -/
def Cause.CapturesInTime (L : Ledger) : Cause → Prop
  | .capture id => ∀ p b, L.payments id = some p → ¬p.Collected →
      L.bookings p.bookingId = some b → b.status ≠ .held ∧ b.status ≠ .confirmed
  | _ => True

/-- A booking that waits for its payment has waited before. -/
theorem Booking.Advances.waited {b b' : Booking} (h : b.Advances b')
    (hb : b.status ≠ .held ∧ b.status ≠ .paymentPending) :
    b'.status ≠ .held ∧ b'.status ≠ .paymentPending := by
  have hedge := h.edge
  obtain ⟨hheld, hpending⟩ := hb
  cases hs : b.status with
  | held => exact absurd hs hheld
  | paymentPending => exact absurd hs hpending
  | confirmed | active | completed | cancelled | expired =>
      rw [hs] at hedge
      constructor <;> intro hs' <;> simp [hs', BookingStatus.successors] at hedge

theorem Booking.Advances.confirmed {b b' : Booking} (h : b.Advances b')
    (hb' : b'.status = .confirmed) : b.status = .paymentPending := by
  have hedge := h.edge
  rw [hb'] at hedge
  cases hs : b.status with
  | paymentPending => rfl
  | held | confirmed | active | completed | cancelled | expired =>
      simp [hs, BookingStatus.successors] at hedge

theorem Move.capturesOnce {c : Cause} {L L' : Ledger} (h : Move L c L') (hL : L.Sound)
    (hO : L.CapturesOnce) (hc : c.CapturesInTime L) : L'.CapturesOnce where
  waiting := by
    intro id p' b' hp' hstatus hb'
    obtain ⟨p, hp, hbooking, hcase⟩ := h.captured_cases hp' hstatus
    obtain ⟨b, b₁, hb, hb₁, hnext⟩ := h.booking_of hL.payments hp
    rw [hbooking, hb₁] at hb'
    cases hb'
    rcases hcase with hkept | hmade
    · have hwaiting := hO.waiting id p b hp hkept.captured hb
      rcases hnext with rfl | hadv
      · exact hwaiting
      · exact hadv.waited hwaiting
    · obtain ⟨d, hd, ⟨_, hd'⟩ | ⟨hpending, hd', _⟩⟩ := hmade.booking
      · rw [hb₁] at hd'
        cases hd'
        simp [Booking.advance]
      · rw [hb₁] at hd'
        cases hd'
        have hid : p.id = id := Register.key_eq hp
        rw [hmade.cause, hid] at hc
        exact ⟨(hc p b' hp hmade.uncollected hd).1, hpending⟩
  once := by
    intro i j p' q' b' hp' hq' hps hqs hsame hb' hconfirmed
    -- either the booking was confirmed and the payment captured, or this move did both
    have hfrom : ∀ k r', L'.payments k = some r' → r'.status = .captured →
        r'.bookingId = p'.bookingId → ∃ r b, L.payments k = some r ∧ r.bookingId = p'.bookingId ∧
        L.bookings p'.bookingId = some b ∧ ((b.status = .confirmed ∧ r.status = .captured) ∨
          (b.status = .paymentPending ∧ c = .capture k)) := by
      intro k r' hr' hrs hrb
      obtain ⟨r, hr, hbooking, hcase⟩ := h.captured_cases hr' hrs
      have hrb₀ : r.bookingId = p'.bookingId := hbooking.symm.trans hrb
      obtain ⟨b, b₁, hb, hb₁, hnext⟩ := h.booking_of hL.payments hr
      rw [hrb₀] at hb hb₁
      rw [hb₁] at hb'
      cases hb'
      refine ⟨r, b, hr, hrb₀, hb, ?_⟩
      rcases hcase with hkept | hmade
      · rcases hnext with rfl | hadv
        · exact Or.inl ⟨hconfirmed, hkept.captured⟩
        · have hwaiting := hO.waiting k r b hr hkept.captured (by rw [hrb₀]; exact hb)
          exact absurd (hadv.confirmed hconfirmed) hwaiting.2
      · have hid : r.id = k := Register.key_eq hr
        have hcause : c = .capture k := by rw [hmade.cause, hid]
        obtain ⟨d, hd, ⟨hpending, _⟩ | ⟨_, hd', _⟩⟩ := hmade.booking <;>
          rw [hrb₀, hb] at hd <;> cases hd
        · exact Or.inr ⟨hpending, hcause⟩
        · rw [hrb₀, hb₁] at hd'
          cases hd'
          rw [hcause] at hc
          exact absurd hconfirmed (hc r b' hr hmade.uncollected (by rw [hrb₀]; exact hb)).2
    obtain ⟨p, b, hp, hpb, hb, hpcase⟩ := hfrom i p' hp' hps rfl
    obtain ⟨q, d, hq, hqb, hd, hqcase⟩ := hfrom j q' hq' hqs hsame.symm
    rw [hb] at hd
    cases hd
    rcases hpcase with ⟨hbs, hpcap⟩ | ⟨hbs, hpc⟩
    · rcases hqcase with ⟨_, hqcap⟩ | ⟨hbs', _⟩
      · exact hO.once i j p q b hp hq hpcap hqcap (hpb.trans hqb.symm) (by rw [hpb]; exact hb) hbs
      · rw [hbs] at hbs'
        cases hbs'
    · rcases hqcase with ⟨hbs', _⟩ | ⟨_, hqc⟩
      · rw [hbs] at hbs'
        cases hbs'
      · rw [hpc] at hqc
        exact Cause.capture.inj hqc

/-! ### Captures accounted for -/

/-- A captured payment that pays for its booking: it has no refund and no flag. -/
structure Ledger.Paying (L : Ledger) (p : Payment) : Prop where
  captured : p.status = .captured
  unflagged : ¬p.Flagged
  unrefunded : ∀ id r, L.refunds id = some r → r.paymentId ≠ p.id

/-- No payment pays for the booking. -/
def Ledger.Unpaid (L : Ledger) (bookingId : Uuid) : Prop :=
  ∀ id p, L.payments id = some p → L.Paying p → p.bookingId ≠ bookingId

structure Ledger.Accounted (L : Ledger) : Prop where
  once : ∀ i j p q, L.payments i = some p → L.payments j = some q → L.Paying p → L.Paying q →
    p.bookingId = q.bookingId → i = j
  paid : ∀ id p, L.payments id = some p → L.Paying p →
    ∃ b, L.bookings p.bookingId = some b ∧ b.Paid

/-- The conditions under which a move keeps the captures accounted for. -/
def Cause.KeepsAccount (L : Ledger) : Cause → Prop
  | .capture id => ∀ p b, L.payments id = some p → ¬p.Collected →
      L.bookings p.bookingId = some b → b.status = .confirmed → L.Unpaid p.bookingId
  | .mismatch id => ∀ p b, L.payments id = some p → p.status = .captured → p.Flagged →
      (∀ k r, L.refunds k = some r → r.paymentId ≠ p.id) → L.bookings p.bookingId = some b →
      b.Paid ∧ L.Unpaid p.bookingId
  | .cancel id => ∀ b, L.bookings id = some b → b.status = .confirmed → L.Unpaid id
  | .refund bookingId paymentId => ∀ id p, L.payments id = some p → L.Paying p →
      p.bookingId = bookingId → id = paymentId
  | _ => True

/-- A refund that is missing after a move was missing before it. -/
theorem Move.unrefunded {c : Cause} {L L' : Ledger} (h : Move L c L') {paymentId : Uuid}
    (hnone : ∀ id r, L'.refunds id = some r → r.paymentId ≠ paymentId) :
    ∀ id r, L.refunds id = some r → r.paymentId ≠ paymentId := by
  intro id r hr
  obtain ⟨r', hr', hcont⟩ := h.refund_next hr
  rw [← hcont.paymentId]
  exact hnone id r' hr'

/-- A booking that has been paid for stays so unless it is cancelled. -/
theorem Booking.Advances.paid {b b' : Booking} (h : b.Advances b') (hb : b.Paid) :
    b'.Paid ∨ (b.status = .confirmed ∧ b'.status = .cancelled) := by
  have hedge := h.edge
  rcases hb with hs | hs | hs <;> rw [hs] at hedge <;>
    simp only [BookingStatus.successors, List.mem_cons, List.not_mem_nil, or_false] at hedge
  · rcases hedge with hs' | hs'
    · exact Or.inl (Or.inr (Or.inl hs'))
    · exact Or.inr ⟨hs, hs'⟩
  · exact Or.inl (Or.inr (Or.inr hedge))

/-- Where a paying payment comes from: it paid before, or a mismatch has taken its flag, or it is
captured now; in the last two cases the booking was not paid for by another payment. -/
theorem Move.paying_cases {c : Cause} {L L' : Ledger} (h : Move L c L') (hL : L.Sound)
    (hA : L.Accounted) (hc : c.KeepsAccount L) {id : Uuid} {p' : Payment}
    (hp' : L'.payments id = some p') (hpaying : L'.Paying p') :
    ∃ p, L.payments id = some p ∧ p'.bookingId = p.bookingId ∧
      (L.Paying p ∨ ((c = .mismatch id ∨ c = .capture id) ∧ L.Unpaid p.bookingId ∧
        ∃ b', L'.bookings p.bookingId = some b' ∧ b'.Paid)) := by
  obtain ⟨p, hp, hbooking, hcase⟩ := h.captured_cases hp' hpaying.captured
  have hid : p.id = id := Register.key_eq hp
  have hid' : p'.id = id := Register.key_eq hp'
  have hnone : ∀ k r, L.refunds k = some r → r.paymentId ≠ p.id := by
    rw [hid, ← hid']
    exact h.unrefunded hpaying.unrefunded
  obtain ⟨b, hb, _⟩ := hL.payments.charges id p hp
  refine ⟨p, hp, hbooking, ?_⟩
  rcases hcase with hkept | hmade
  · by_cases hflag : p.Flagged
    · obtain ⟨hcause, hsame⟩ := hkept.flag hflag hpaying.unflagged
      rw [hid] at hcause
      rw [hcause] at hc
      obtain ⟨hpaid, hunpaid⟩ := hc p b hp hkept.captured hflag hnone hb
      exact Or.inr ⟨Or.inl hcause, hunpaid, b, by rw [hsame]; exact hb, hpaid⟩
    · exact Or.inl ⟨hkept.captured, hflag, hnone⟩
  · have hcause : c = .capture id := by rw [hmade.cause, hid]
    refine Or.inr ⟨Or.inr hcause, ?_⟩
    obtain ⟨d, hd, ⟨hpending, hd'⟩ | ⟨_, hd', hflag⟩⟩ := hmade.booking
    · refine ⟨fun k q hq hqp hqb => ?_, _, hd', Or.inl rfl⟩
      obtain ⟨e, he, hpaid⟩ := hA.paid k q hq hqp
      rw [hqb, hd] at he
      cases he
      rcases hpaid with hs | hs | hs <;> simp [hpending] at hs
    · by_cases hconfirmed : d.status = .confirmed
      · rw [hcause] at hc
        exact ⟨hc p d hp hmade.uncollected hd hconfirmed, d, hd', Or.inl hconfirmed⟩
      · exact absurd (hflag hconfirmed) hpaying.unflagged

theorem Move.accounted {c : Cause} {L L' : Ledger} (h : Move L c L') (hL : L.Sound)
    (hA : L.Accounted) (hc : c.KeepsAccount L) : L'.Accounted where
  once := by
    intro i j p' q' hp' hq' hpp hqp hsame
    obtain ⟨p, hp, hpb, hpcase⟩ := h.paying_cases hL hA hc hp' hpp
    obtain ⟨q, hq, hqb, hqcase⟩ := h.paying_cases hL hA hc hq' hqp
    have hpq : p.bookingId = q.bookingId := (hpb.symm.trans hsame).trans hqb
    rcases hpcase with hp₀ | ⟨hpc, hpu, _⟩
    · rcases hqcase with hq₀ | ⟨_, hqu, _⟩
      · exact hA.once i j p q hp hq hp₀ hq₀ hpq
      · exact absurd hpq (hqu i p hp hp₀)
    · rcases hqcase with hq₀ | ⟨hqc, _, _⟩
      · exact absurd hpq.symm (hpu j q hq hq₀)
      · -- one move is about one payment
        rcases hpc with hpc | hpc <;> rcases hqc with hqc | hqc <;> rw [hpc] at hqc
        · exact Cause.mismatch.inj hqc
        · cases hqc
        · cases hqc
        · exact Cause.capture.inj hqc
  paid := by
    intro id p' hp' hpaying
    obtain ⟨p, hp, hbooking, hcase⟩ := h.paying_cases hL hA hc hp' hpaying
    rw [hbooking]
    rcases hcase with hold | ⟨_, _, hnew⟩
    · obtain ⟨b, b', hb, hb', hnext⟩ := h.booking_of hL.payments hp
      obtain ⟨d, hd, hpaid⟩ := hA.paid id p hp hold
      rw [hb] at hd
      cases hd
      refine ⟨b', hb', ?_⟩
      rcases hnext with rfl | hadv
      · exact hpaid
      rcases hadv.paid hpaid with hpaid' | ⟨hconfirmed, hcancelled⟩
      · exact hpaid'
      exfalso
      rcases h.cancelled_by hb hconfirmed hb' hcancelled with hcause | ⟨k, r, hcause, hr, hrk⟩
      · rw [hcause] at hc
        exact hc b hb hconfirmed id p hp hold rfl
      · rw [hcause] at hc
        have hid : p'.id = id := Register.key_eq hp'
        have hk : id = k := hc id p hp hold rfl
        exact hpaying.unrefunded r.id r hr (by rw [hrk, ← hk, hid])
    · exact hnew

end ChargeMate
