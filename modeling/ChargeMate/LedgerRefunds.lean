import ChargeMate.LedgerPayments

/-! Refunds along moves: each stands for one captured payment of one cancelled booking, is settled
together with that payment, and never goes back. -/

namespace ChargeMate

open Relational

theorem Refund.Continues.refl (r : Refund) : r.Continues r :=
  ⟨rfl, rfl, rfl, rfl, rfl, rfl, rfl, Nat.le_refl _⟩

theorem Refund.Continues.trans {r s t : Refund} (hrs : r.Continues s) (hst : s.Continues t) :
    r.Continues t where
  id := hst.id.trans hrs.id
  paymentId := hst.paymentId.trans hrs.paymentId
  amount := hst.amount.trans hrs.amount
  amountSubunits := hst.amountSubunits.trans hrs.amountSubunits
  currency := hst.currency.trans hrs.currency
  receipt := hst.receipt.trans hrs.receipt
  createdAt := hst.createdAt.trans hrs.createdAt
  rank := hrs.rank.trans hst.rank

theorem Refund.Returns.next {r r' : Refund} {p p' : Payment} (h : r.Returns p)
    (hr : r.Continues r') (hp : p.Continues p') : r'.Returns p' where
  paymentId := by rw [hr.paymentId, hp.id, h.paymentId]
  amount := by rw [hr.amount, hp.amount, h.amount]
  amountSubunits := by rw [hr.amountSubunits, hp.amountSubunits, h.amountSubunits]
  currency := by rw [hr.currency, hp.currency, h.currency]

/-- The statuses in which a payment holds, or has held, the customer's money. -/
def Payment.Collected (p : Payment) : Prop := p.status = .captured ∨ p.status = .refunded

/-- What a move does to refunds: nothing to them nor to the status of a collected payment, a
first row for a captured payment of the booking it cancels, a change short of `PROCESSED`, or the
settlement of refund and payment. -/
theorem Move.refunds_cases {c : Cause} {L L' : Ledger} (h : Move L c L') :
    (L'.refunds = L.refunds ∧ ∀ id p, L.payments id = some p → p.Collected →
      ∃ p', L'.payments id = some p' ∧ p'.status = p.status) ∨
    (∃ b p r now, L.bookings b.id = some b ∧ b.status = .confirmed ∧ L.payments p.id = some p ∧
      p.bookingId = b.id ∧ p.status = .captured ∧ L.refunds r.id = none ∧ r.Opens p ∧
      (∀ id s, L.refunds id = some s → s.paymentId ≠ p.id) ∧
      L' = { L with bookings := L.bookings.put (b.cancel now), refunds := L.refunds.put r }) ∨
    (∃ r r', L.refunds r.id = some r ∧ r.Continues r' ∧
      (r'.status = .processed ↔ r.status = .processed) ∧ r'.processedAt = r.processedAt ∧
      L' = { L with refunds := L.refunds.put r' }) ∨
    (∃ r r' p, L.refunds r.id = some r ∧ L.payments p.id = some p ∧ r.paymentId = p.id ∧
      r.Continues r' ∧ r'.status = .processed ∧ r'.processedAt ≠ none ∧
      L' = { L with
        payments := L.payments.put { p with status := .refunded }
        refunds := L.refunds.put r' }) := by
  have hput : ∀ (q q' : Payment), L.payments q.id = some q → q'.id = q.id →
      (q.Collected → q'.status = q.status) → ∀ id p, L.payments id = some p → p.Collected →
      ∃ p', (L.payments.put q') id = some p' ∧ p'.status = p.status := by
    intro q q' hq hid hstatus id p hp hcol
    have hkey : L.payments (key q') = some q := by rw [Payment.key_eq, hid, hq]
    obtain ⟨p', hp', ⟨rfl, rfl⟩ | rfl⟩ := Register.put_next hkey hp
    · exact ⟨_, hp', hstatus hcol⟩
    · exact ⟨_, hp', rfl⟩
  have hcaptured : ∀ q : Payment, q.status ≠ .refunded → q.Collected → .captured = q.status := by
    intro q hq hcol
    rcases hcol with h | h
    · exact h.symm
    · exact absurd h hq
  cases h with
  | stay | expire | hold | cancel | start | complete =>
      exact Or.inl ⟨rfl, fun id p hp _ => ⟨p, hp, rfl⟩⟩
  | begin b p hb hheld hnew =>
      exact Or.inl ⟨rfl, fun id q hq _ => ⟨q, Register.put_of_new hnew hq, rfl⟩⟩
  | orderCreated p b orderId hp hb hinitiated =>
      refine Or.inl ⟨rfl, hput p _ hp rfl fun hcol => ?_⟩
      simp [Payment.Collected, hinitiated] at hcol
  | orderRefused p b orderId hp hb hinitiated =>
      refine Or.inl ⟨rfl, hput p _ hp rfl fun hcol => ?_⟩
      simp [Payment.Collected, hinitiated] at hcol
  | compensate p b now hp hb hinitiated =>
      refine Or.inl ⟨rfl, hput p _ hp rfl fun hcol => ?_⟩
      simp [Payment.Collected, hinitiated] at hcol
  | authorize p paymentId hp hcreated =>
      refine Or.inl ⟨rfl, hput p _ hp rfl fun hcol => ?_⟩
      simp [Payment.Collected, hcreated] at hcol
  | pin p paymentId hp => exact Or.inl ⟨rfl, hput p _ hp rfl fun _ => rfl⟩
  | mismatch p code hp => exact Or.inl ⟨rfl, hput p _ hp rfl fun _ => rfl⟩
  | confirm p b paymentId hp hb horder hrefunded =>
      exact Or.inl ⟨rfl, hput p _ hp rfl (hcaptured p hrefunded)⟩
  | captureAgain p b paymentId hp hb horder hrefunded =>
      exact Or.inl ⟨rfl, hput p _ hp rfl (hcaptured p hrefunded)⟩
  | captureLate p b paymentId hp hb horder hrefunded =>
      exact Or.inl ⟨rfl, hput p _ hp rfl (hcaptured p hrefunded)⟩
  | fail p b paymentId now hp hb horder hcap hrefunded =>
      refine Or.inl ⟨rfl, hput p _ hp rfl fun hcol => ?_⟩
      rcases hcol with h | h
      · exact absurd h hcap
      · exact absurd h hrefunded
  | cancelRefund b p r now hb hconfirmed hp hbooking hcap hnew hopens hfirst =>
      exact Or.inr (Or.inl ⟨b, p, r, now, hb, hconfirmed, hp, hbooking, hcap, hnew, hopens, hfirst,
        rfl⟩)
  | refundChange r r' hr hcont hprocessed hat =>
      exact Or.inr (Or.inr (Or.inl ⟨r, r', hr, hcont, hprocessed, hat, rfl⟩))
  | refundProcess r r' p hr hp hreturns hcont hprocessed hat =>
      exact Or.inr (Or.inr (Or.inr ⟨r, r', p, hr, hp, hreturns, hcont, hprocessed, hat, rfl⟩))

/-- A refund row after a move: a later version of the row that was there. -/
theorem Move.refund_next {c : Cause} {L L' : Ledger} (h : Move L c L') {id : Uuid}
    {r : Refund} (hr : L.refunds id = some r) : ∃ r', L'.refunds id = some r' ∧ r.Continues r' := by
  have hput : ∀ s s' : Refund, L.refunds s.id = some s → s.Continues s' →
      ∃ r', (L.refunds.put s') id = some r' ∧ r.Continues r' := by
    intro s s' hs hcont
    have hkey : L.refunds (key s') = some s := by rw [Refund.key_eq, hcont.id, hs]
    obtain ⟨r', hr', ⟨rfl, rfl⟩ | rfl⟩ := Register.put_next hkey hr
    · exact ⟨_, hr', hcont⟩
    · exact ⟨_, hr', Refund.Continues.refl _⟩
  rcases h.refunds_cases with ⟨heq, _⟩ | ⟨b, p, s, now, hb, _, hp, _, _, hnew, _, _, rfl⟩ |
    ⟨s, s', hs, hcont, _, _, rfl⟩ | ⟨s, s', p, hs, hp, _, hcont, _, _, rfl⟩
  · exact ⟨r, heq ▸ hr, Refund.Continues.refl r⟩
  · exact ⟨r, Register.put_of_new hnew hr, Refund.Continues.refl r⟩
  · exact hput s s' hs hcont
  · exact hput s s' hs hcont

/-- A cancelled booking is never written again. -/
theorem Move.cancelled_kept {c : Cause} {L L' : Ledger} (h : Move L c L') {id : Uuid}
    {b : Booking} (hb : L.bookings id = some b) (hfinal : b.status.Final) :
    L'.bookings id = some b := by
  obtain ⟨b', hb', rfl | hadv⟩ := h.booking_next hb
  · exact hb'
  · exact absurd hfinal hadv.not_final

/-- The settlement of a refund that a move neither opens nor settles. -/
theorem Refund.Settles.next {r r' : Refund} {p p' : Payment} {b : Booking} (h : r.Settles p b)
    (hr : r.Continues r') (hp : p.Continues p') (hpstatus : p'.status = p.status)
    (hprocessed : r'.status = .processed ↔ r.status = .processed)
    (hat : r'.processedAt = r.processedAt) : r'.Settles p' b where
  toReturns := h.toReturns.next hr hp
  captured := by rw [hpstatus]; exact h.captured
  refunded := by rw [hprocessed, hpstatus]; exact h.refunded
  processed := by rw [hprocessed, hat]; exact h.processed
  bookingId := by rw [hp.bookingId]; exact h.bookingId
  cancelled := h.cancelled

theorem Move.settles {c : Cause} {L L' : Ledger} (h : Move L c L') (hL : L.PaymentsSound)
    (hR : L.RefundsSound) {id : Uuid} {r' : Refund} (hr' : L'.refunds id = some r') :
    ∃ p b, L'.payments p.id = some p ∧ L'.bookings b.id = some b ∧ r'.Settles p b := by
  -- the booking of a settled refund stays as it is, the payment becomes a later version
  have hrest : ∀ {r : Refund} {p : Payment} {b : Booking}, L.payments p.id = some p →
      L.bookings b.id = some b → r.Settles p b → ∃ p', L'.payments p'.id = some p' ∧
      p.Continues p' ∧ L'.bookings b.id = some b := by
    intro r p b hp hb hsettles
    obtain ⟨p', hp', hcont⟩ := h.payment_next hL hR hp
    exact ⟨p', hcont.id ▸ hp', hcont, h.cancelled_kept hb (hsettles.cancelled ▸ rfl)⟩
  rcases h.refunds_cases with ⟨heq, hstatus⟩ |
    ⟨b, p, s, now, hb, _, hp, hbooking, hcap, hnew, hopens, _, heq⟩ |
    ⟨s, s', hs, hcont, hprocessed, hat, heq⟩ |
    ⟨s, s', p, hs, hp, hreturns, hcont, hprocessed, hat, heq⟩
  · rw [heq] at hr'
    obtain ⟨p, b, hp, hb, hsettles⟩ := hR.settles id r' hr'
    obtain ⟨p', hp', hpcont, hb'⟩ := hrest hp hb hsettles
    obtain ⟨q, hq, hqstatus⟩ := hstatus p.id p hp hsettles.captured
    rw [← hpcont.id, hp'] at hq
    cases hq
    exact ⟨p', b, hp', hb', hsettles.next (Refund.Continues.refl r') hpcont hqstatus Iff.rfl rfl⟩
  · rw [heq, Register.get_put] at hr'
    split at hr'
    · cases hr'
      refine ⟨p, b.cancel now, by rw [heq]; exact hp, by rw [heq]; simp, hopens.toReturns,
        Or.inl hcap, ?_, ?_, hbooking, rfl⟩
      · simp [hopens.status, hcap]
      · simp [hopens.status, hopens.processedAt]
    · obtain ⟨q, d, hq, hd, hsettles⟩ := hR.settles id r' hr'
      obtain ⟨q', hq', _, hd'⟩ := hrest hq hd hsettles
      exact ⟨q, d, by rw [heq]; exact hq, hd', hsettles⟩
  · rw [heq, Register.get_put] at hr'
    split at hr'
    · cases hr'
      obtain ⟨p, b, hp, hb, hsettles⟩ := hR.settles s.id s hs
      obtain ⟨p', hp', hpcont, hb'⟩ := hrest hp hb hsettles
      have hpp : p' = p := by
        rw [heq, hpcont.id, hp] at hp'
        exact (Option.some.inj hp').symm
      exact ⟨p', b, hp', hb', hsettles.next hcont hpcont (by rw [hpp]) hprocessed hat⟩
    · obtain ⟨p, b, hp, hb, hsettles⟩ := hR.settles id r' hr'
      exact ⟨p, b, by rw [heq]; exact hp, by rw [heq]; exact hb, hsettles⟩
  · rw [heq, Register.get_put] at hr'
    split at hr'
    · cases hr'
      obtain ⟨q, b, hq, hb, hsettles⟩ := hR.settles s.id s hs
      have hqp : q = p := by
        rw [← hsettles.paymentId, hreturns, hp] at hq
        exact (Option.some.inj hq).symm
      subst hqp
      refine ⟨{ q with status := .refunded }, b, by rw [heq]; simp, by rw [heq]; exact hb, ?_,
        Or.inr rfl, by simp [hprocessed], by simp [hprocessed, hat], hsettles.bookingId,
        hsettles.cancelled⟩
      exact ⟨hcont.paymentId.trans hsettles.paymentId, hcont.amount.trans hsettles.amount,
        hcont.amountSubunits.trans hsettles.amountSubunits,
        hcont.currency.trans hsettles.currency⟩
    · next hk =>
      obtain ⟨q, b, hq, hb, hsettles⟩ := hR.settles id r' hr'
      -- the payment that is settled has one refund only, and this is another one
      have hne : p.id ≠ q.id := by
        intro hpq
        have hids : s.id = id :=
          hR.single s.id id s r' p.id hs hr' (congrArg some hreturns)
            (congrArg some (hsettles.paymentId.trans hpq.symm))
        exact hk (by rw [Refund.key_eq, hcont.id, hids])
      refine ⟨q, b, ?_, by rw [heq]; exact hb, hsettles⟩
      rw [heq, Register.get_put, if_neg (by simpa using hne)]
      exact hq

theorem Move.refunds_single {c : Cause} {L L' : Ledger} (h : Move L c L')
    (hR : L.RefundsSound) : L'.refunds.Unique fun r => some r.paymentId := by
  rcases h.refunds_cases with ⟨heq, _⟩ | ⟨b, p, s, now, _, _, _, _, _, _, hopens, hfirst, heq⟩ |
    ⟨s, s', hs, hcont, _, _, heq⟩ | ⟨s, s', p, hs, _, _, hcont, _, _, heq⟩
  · rw [heq]
    exact hR.single
  · rw [heq]
    refine hR.single.put ?_
    intro v k q hv hq hqv
    simp only [hopens.paymentId, Option.some.injEq] at hv hqv
    exact absurd (hqv.trans hv.symm) (hfirst k q hq)
  all_goals
    rw [heq]
    refine hR.single.put ?_
    intro v k q hv hq hqv
    simp only [hcont.paymentId] at hv
    exact (hR.single k s.id q s v hq hs hqv hv).trans hcont.id.symm

/-- The booking of a refunded payment is cancelled. -/
theorem Ledger.RefundsSound.cancelled {L : Ledger} (hR : L.RefundsSound) {id : Uuid}
    {r : Refund} {p : Payment} {b : Booking} (hr : L.refunds id = some r)
    (hp : L.payments r.paymentId = some p) (hb : L.bookings b.id = some b)
    (hbooking : p.bookingId = b.id) : b.status = .cancelled := by
  obtain ⟨q, d, hq, hd, hsettles⟩ := hR.settles id r hr
  rw [hsettles.paymentId, hq] at hp
  cases hp
  rw [← hsettles.bookingId, hbooking, hb] at hd
  cases hd
  exact hsettles.cancelled

/-- Where a refund row comes from: an earlier version of it, or the cancellation of a confirmed
booking with a captured payment. -/
theorem Move.refund_cases {c : Cause} {L L' : Ledger} (h : Move L c L') {id : Uuid}
    {r' : Refund} (hr' : L'.refunds id = some r') :
    (∃ r, L.refunds id = some r ∧ r.Continues r') ∨
    (L.refunds id = none ∧ L'.payments = L.payments ∧ ∃ p b, L.payments p.id = some p ∧
      L.bookings b.id = some b ∧ p.bookingId = b.id ∧ b.status = .confirmed ∧
      p.status = .captured ∧ r'.Opens p) := by
  rcases h.refunds_cases with ⟨heq, _⟩ |
    ⟨b, p, s, now, hb, hconfirmed, hp, hbooking, hcap, hnew, hopens, _, heq⟩ |
    ⟨s, s', hs, hcont, _, _, heq⟩ | ⟨s, s', p, hs, _, _, hcont, _, _, heq⟩
  · exact Or.inl ⟨r', heq ▸ hr', Refund.Continues.refl r'⟩
  · rw [heq] at hr'
    rcases Register.of_put hr' with ⟨hk, rfl⟩ | hr'
    · exact Or.inr ⟨hk ▸ hnew, by rw [heq], p, b, hp, hb, hbooking, hconfirmed, hcap, hopens⟩
    · exact Or.inl ⟨r', hr', Refund.Continues.refl r'⟩
  all_goals
    rw [heq] at hr'
    rcases Register.of_put hr' with ⟨hk, rfl⟩ | hr'
    · exact Or.inl ⟨s, by rw [← hk, Refund.key_eq, hcont.id, hs], hcont⟩
    · exact Or.inl ⟨r', hr', Refund.Continues.refl r'⟩

/-- One booking has one refund: the first one cancels the booking, and the next would need it
confirmed. -/
theorem Move.refunds_singleBooking {c : Cause} {L L' : Ledger} (h : Move L c L')
    (hL : L.PaymentsSound) (hR : L.RefundsSound) {i j : Uuid} {r s : Refund} {p q : Payment}
    (hr : L'.refunds i = some r) (hs : L'.refunds j = some s)
    (hp : L'.payments r.paymentId = some p) (hq : L'.payments s.paymentId = some q)
    (hbooking : p.bookingId = q.bookingId) : i = j := by
  -- the payment of an old refund has had its booking before the move
  have hold : ∀ {r₀ r : Refund} {k : Uuid} {p : Payment}, L.refunds k = some r₀ → r₀.Continues r →
      L'.payments r.paymentId = some p →
      ∃ p₀, L.payments r₀.paymentId = some p₀ ∧ p₀.bookingId = p.bookingId := by
    intro r₀ r k p hr₀ hcont hp
    obtain ⟨p₀, b, hp₀, _, hsettles⟩ := hR.settles k r₀ hr₀
    obtain ⟨p₁, hp₁, hpcont⟩ := h.payment_next hL hR hp₀
    rw [hcont.paymentId, hsettles.paymentId, hp₁] at hp
    cases hp
    exact ⟨p₀, by rw [hsettles.paymentId]; exact hp₀, hpcont.bookingId.symm⟩
  have hnew : ∀ {r₀ r s : Refund} {k : Uuid} {p q : Payment}, L.refunds k = some r₀ →
      r₀.Continues r → L'.payments r.paymentId = some p → L'.payments s.paymentId = some q →
      p.bookingId = q.bookingId → (∃ u b, L.payments u.id = some u ∧ L.bookings b.id = some b ∧
        u.bookingId = b.id ∧ b.status = .confirmed ∧ u.status = .captured ∧ s.Opens u) →
      L'.payments = L.payments → False := by
    rintro r₀ r s k p q hr₀ hcont hp hq hpq ⟨u, b, hu, hb, hub, hconfirmed, _, hopens⟩ hsame
    obtain ⟨p₀, hp₀, hbp⟩ := hold hr₀ hcont hp
    rw [hsame, hopens.paymentId, hu] at hq
    cases hq
    have hcancelled := hR.cancelled hr₀ hp₀ hb (by rw [hbp, hpq, hub])
    rw [hconfirmed] at hcancelled
    cases hcancelled
  rcases h.refund_cases hr with ⟨r₀, hr₀, hrcont⟩ | ⟨hrnone, hrsame, hrnew⟩
  · rcases h.refund_cases hs with ⟨s₀, hs₀, hscont⟩ | ⟨_, hssame, hsnew⟩
    · obtain ⟨p₀, hp₀, hbp⟩ := hold hr₀ hrcont hp
      obtain ⟨q₀, hq₀, hbq⟩ := hold hs₀ hscont hq
      exact hR.singleBooking i j r₀ s₀ p₀ q₀ hr₀ hs₀ hp₀ hq₀ (by rw [hbp, hbq, hbooking])
    · exact (hnew hr₀ hrcont hp hq hbooking hsnew hssame).elim
  · rcases h.refund_cases hs with ⟨s₀, hs₀, hscont⟩ | ⟨hsnone, _, _⟩
    · exact (hnew hs₀ hscont hq hp hbooking.symm hrnew hrsame).elim
    · -- a move writes one refund only
      rcases h.refunds_cases with ⟨heq, _⟩ | ⟨_, _, u, _, _, _, _, _, _, _, _, _, heq⟩ |
        ⟨u, u', hu, hcont, _, _, heq⟩ | ⟨u, u', _, hu, _, _, hcont, _, _, heq⟩
      · rw [heq, hrnone] at hr
        cases hr
      all_goals
        rw [heq, Register.get_put] at hr hs
        split at hr
        · split at hs
          · next hi hj => exact hi.symm.trans hj
          · rw [hsnone] at hs
            cases hs
        · rw [hrnone] at hr
          cases hr

theorem Move.refundsSound {c : Cause} {L L' : Ledger} (h : Move L c L')
    (hL : L.PaymentsSound) (hR : L.RefundsSound) : L'.RefundsSound where
  settles _ _ := h.settles hL hR
  single := h.refunds_single hR
  singleBooking _ _ _ _ _ _ := h.refunds_singleBooking hL hR

end ChargeMate
