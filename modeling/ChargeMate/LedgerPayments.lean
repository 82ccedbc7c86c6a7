import ChargeMate.LedgerBookings

/-! Payments along moves: the terms of a payment, its provider identifiers, and the order of its
statuses. A move writes at most one payment, and `Move.payments_cases` says how. -/

namespace ChargeMate

open Relational

/-- The order in which the statuses of a payment can follow each other. -/
def PaymentStatus.rank : PaymentStatus → Nat
  | .initiated => 0
  | .orderCreated => 1
  | .authorized => 2
  | .failed => 3
  | .captured => 4
  | .refunded => 5

structure Ledger.PaymentsSound (L : Ledger) : Prop where
  charges : ∀ id p, L.payments id = some p → ∃ b, L.bookings p.bookingId = some b ∧ p.Charges b
  initiated : ∀ id p, L.payments id = some p → p.status = .initiated →
    p.providerOrderId = none ∧ p.providerPaymentId = none
  ordered : ∀ id p, L.payments id = some p → p.providerOrderId = none →
    p.status = .initiated ∨ p.status = .failed
  created : ∀ id p, L.payments id = some p → p.status = .orderCreated → p.providerPaymentId = none
  pinned : ∀ id p, L.payments id = some p → p.status = .authorized ∨ p.status = .captured →
    p.providerPaymentId ≠ none
  keys : L.payments.Unique fun p => some p.idempotencyKey
  orders : L.payments.Unique Payment.providerOrderId
  pins : L.payments.Unique Payment.providerPaymentId

/-- A refund stands for the captured payment of a cancelled booking, and for nothing else. -/
structure Refund.Settles (r : Refund) (p : Payment) (b : Booking) : Prop extends r.Returns p where
  captured : p.status = .captured ∨ p.status = .refunded
  refunded : r.status = .processed ↔ p.status = .refunded
  processed : r.status = .processed ↔ r.processedAt ≠ none
  bookingId : p.bookingId = b.id
  cancelled : b.status = .cancelled

structure Ledger.RefundsSound (L : Ledger) : Prop where
  settles : ∀ id r, L.refunds id = some r →
    ∃ p b, L.payments p.id = some p ∧ L.bookings b.id = some b ∧ r.Settles p b
  single : L.refunds.Unique fun r => some r.paymentId
  singleBooking : ∀ i j r s p q, L.refunds i = some r → L.refunds j = some s →
    L.payments r.paymentId = some p → L.payments s.paymentId = some q →
    p.bookingId = q.bookingId → i = j

/-- The payment of a refund is captured or refunded. -/
theorem Ledger.RefundsSound.captured {L : Ledger} (hR : L.RefundsSound) {r : Refund} {p : Payment}
    {id : Uuid} (hr : L.refunds id = some r) (hp : L.payments p.id = some p)
    (hreturns : r.paymentId = p.id) : p.status = .captured ∨ p.status = .refunded := by
  obtain ⟨q, b, hq, _, hsettles⟩ := hR.settles id r hr
  rw [← hsettles.paymentId, hreturns, hp] at hq
  cases hq
  exact hsettles.captured

/-- A later version of a payment row. -/
structure Payment.Continues (p p' : Payment) : Prop where
  id : p'.id = p.id
  bookingId : p'.bookingId = p.bookingId
  userId : p'.userId = p.userId
  amount : p'.amount = p.amount
  amountSubunits : p'.amountSubunits = p.amountSubunits
  currency : p'.currency = p.currency
  idempotencyKey : p'.idempotencyKey = p.idempotencyKey
  order : ∀ o, p.providerOrderId = some o → p'.providerOrderId = some o
  pinned : ∀ x, p.providerPaymentId = some x → p'.providerPaymentId = some x
  rank : p.status.rank ≤ p'.status.rank

/-- A write of a stored payment, with the identifiers it may bring. -/
structure Payment.Writes (L : Ledger) (p p' : Payment) : Prop extends p.Continues p' where
  takes : ∀ o, p'.providerOrderId = some o → p.providerOrderId = some o ∨ p.MayTakeOrder L o
  pins : ∀ x, p'.providerPaymentId = some x → p.providerPaymentId = some x ∨ p.MayPin L x
  notInitiated : p'.status ≠ .initiated
  ordered : p'.providerOrderId = none → p'.status = .failed
  created : p'.status = .orderCreated → p'.providerPaymentId = none
  kept : p'.status = .authorized ∨ p'.status = .captured → p'.providerPaymentId ≠ none

theorem Payment.Continues.refl (p : Payment) : p.Continues p :=
  ⟨rfl, rfl, rfl, rfl, rfl, rfl, rfl, fun _ h => h, fun _ h => h, Nat.le_refl _⟩

theorem Payment.Continues.trans {p q r : Payment} (hpq : p.Continues q) (hqr : q.Continues r) :
    p.Continues r where
  id := hqr.id.trans hpq.id
  bookingId := hqr.bookingId.trans hpq.bookingId
  userId := hqr.userId.trans hpq.userId
  amount := hqr.amount.trans hpq.amount
  amountSubunits := hqr.amountSubunits.trans hpq.amountSubunits
  currency := hqr.currency.trans hpq.currency
  idempotencyKey := hqr.idempotencyKey.trans hpq.idempotencyKey
  order o h := hqr.order o (hpq.order o h)
  pinned x h := hqr.pinned x (hpq.pinned x h)
  rank := hpq.rank.trans hqr.rank

/-- The status and the error code are all that a write without a new identifier changes. -/
theorem Payment.writes_of_status {L : Ledger} {p p' : Payment} (hterms : p' = { p with
      status := p'.status
      lastErrorCode := p'.lastErrorCode })
    (hrank : p.status.rank ≤ p'.status.rank) (hni : p'.status ≠ .initiated)
    (hordered : p.providerOrderId = none → p'.status = .failed)
    (hcreated : p'.status = .orderCreated → p.providerPaymentId = none)
    (hkept : p'.status = .authorized ∨ p'.status = .captured → p.providerPaymentId ≠ none) :
    p.Writes L p' := by
  rw [hterms]
  exact ⟨⟨rfl, rfl, rfl, rfl, rfl, rfl, rfl, fun _ h => h, fun _ h => h, hrank⟩,
    fun _ h => Or.inl h, fun _ h => Or.inl h, hni, hordered, hcreated, hkept⟩

/-- A write that pins a provider payment identifier. -/
theorem Payment.writes_of_pin {L : Ledger} {p p' : Payment} {x : String} (hpin : p.MayPin L x)
    (hterms : p' = { p with
      status := p'.status
      providerPaymentId := some x
      lastErrorCode := p'.lastErrorCode })
    (hrank : p.status.rank ≤ p'.status.rank) (hni : p'.status ≠ .initiated)
    (hordered : p.providerOrderId = none → p'.status = .failed)
    (hcreated : p'.status ≠ .orderCreated) : p.Writes L p' := by
  rw [hterms]
  refine ⟨⟨rfl, rfl, rfl, rfl, rfl, rfl, rfl, fun _ h => h, ?_, hrank⟩,
    fun _ h => Or.inl h, ?_, hni, hordered, fun h => absurd h hcreated, ?_⟩
  · intro y hy
    simp only [hpin.agrees y hy]
  · intro y hy
    cases hy
    exact Or.inr hpin
  · intro _
    exact Option.some_ne_none x

/-- What a move does to the payments: nothing, a first row, or one write of a stored row. -/
theorem Move.payments_cases {c : Cause} {L L' : Ledger} (h : Move L c L')
    (hL : L.PaymentsSound) (hR : L.RefundsSound) :
    L'.payments = L.payments ∨
    (∃ p b, L'.payments = L.payments.put p ∧ L.payments p.id = none ∧ L.bookings b.id = some b ∧
      p.Opens b ∧ ∀ id q, L.payments id = some q → q.idempotencyKey ≠ p.idempotencyKey) ∨
    ∃ p p', L'.payments = L.payments.put p' ∧ L.payments p.id = some p ∧ p.Writes L p' := by
  have hranked : ∀ {p : Payment}, p.status ≠ .refunded →
      p.status.rank ≤ PaymentStatus.captured.rank := by
    intro p hp
    cases hs : p.status <;> simp_all [PaymentStatus.rank]
  have hnot : ∀ p : Payment, L.payments p.id = some p → p.providerOrderId ≠ none →
      p.status ≠ .initiated := by
    intro p hp horder hs
    exact horder (hL.initiated p.id p hp hs).1
  cases h with
  | stay | expire | hold | cancel | cancelRefund | refundChange | start | complete => exact Or.inl rfl
  | begin b p hb hheld hnew hopens hkey =>
      exact Or.inr (Or.inl ⟨p, b, rfl, hnew, hb, hopens, hkey⟩)
  | orderCreated p b orderId hp hb hinitiated hpending horder =>
      obtain ⟨hno, hnp⟩ := hL.initiated p.id p hp hinitiated
      refine Or.inr (Or.inr ⟨p, _, rfl, hp, ⟨⟨rfl, rfl, rfl, rfl, rfl, rfl, rfl, ?_, fun _ h => h, ?_⟩,
        ?_, fun _ h => Or.inl h, by simp, by simp, fun _ => hnp, by simp⟩⟩)
      · simp [hno]
      · simp [hinitiated, PaymentStatus.rank]
      · intro o ho
        cases ho
        exact Or.inr horder
  | orderRefused p b orderId hp hb hinitiated hchanged horder =>
      obtain ⟨hno, hnp⟩ := hL.initiated p.id p hp hinitiated
      refine Or.inr (Or.inr ⟨p, _, rfl, hp, ⟨⟨rfl, rfl, rfl, rfl, rfl, rfl, rfl, ?_, fun _ h => h, ?_⟩,
        ?_, fun _ h => Or.inl h, by simp, by simp, by simp, by simp⟩⟩)
      · simp [hno]
      · simp [hinitiated, PaymentStatus.rank]
      · intro o ho
        cases ho
        exact Or.inr horder
  | compensate p b now hp hb hinitiated =>
      refine Or.inr (Or.inr ⟨p, _, rfl, hp, Payment.writes_of_status rfl ?_ ?_ ?_ ?_ ?_⟩) <;>
        simp [hinitiated, PaymentStatus.rank]
  | authorize p paymentId hp hcreated hpin =>
      refine Or.inr (Or.inr ⟨p, _, rfl, hp, Payment.writes_of_pin hpin rfl ?_ ?_ ?_ ?_⟩)
      · simp [hcreated, PaymentStatus.rank]
      · simp
      · intro hnone
        rcases hL.ordered p.id p hp hnone with hs | hs <;> simp [hcreated] at hs
      · simp
  | pin p paymentId hp horder hcreated hpin =>
      exact Or.inr (Or.inr ⟨p, _, rfl, hp, Payment.writes_of_pin hpin rfl (Nat.le_refl _)
        (hnot p hp horder) (fun hnone => absurd hnone horder) hcreated⟩)
  | mismatch p code hp horder =>
      exact Or.inr (Or.inr ⟨p, _, rfl, hp, Payment.writes_of_status rfl (Nat.le_refl _)
        (hnot p hp horder) (fun hnone => absurd hnone horder) (hL.created p.id p hp)
        (hL.pinned p.id p hp)⟩)
  | confirm p b paymentId hp hb horder hrefunded hpin =>
      exact Or.inr (Or.inr ⟨p, _, rfl, hp, Payment.writes_of_pin hpin rfl (hranked hrefunded)
        (by simp) (fun hnone => absurd hnone horder) (by simp)⟩)
  | captureAgain p b paymentId hp hb horder hrefunded hpin =>
      exact Or.inr (Or.inr ⟨p, _, rfl, hp, Payment.writes_of_pin hpin rfl (hranked hrefunded)
        (by simp) (fun hnone => absurd hnone horder) (by simp)⟩)
  | captureLate p b paymentId hp hb horder hrefunded hpin =>
      exact Or.inr (Or.inr ⟨p, _, rfl, hp, Payment.writes_of_pin hpin rfl (hranked hrefunded)
        (by simp) (fun hnone => absurd hnone horder) (by simp)⟩)
  | fail p b paymentId now hp hb horder hcaptured hrefunded hpin =>
      refine Or.inr (Or.inr ⟨p, _, rfl, hp, Payment.writes_of_pin hpin rfl ?_ ?_ ?_ ?_⟩)
      · cases hs : p.status <;> simp_all [PaymentStatus.rank]
      · simp
      · simp
      · simp
  | refundProcess r r' p hr hp hreturns =>
      have hstatus := hR.captured hr hp hreturns
      refine Or.inr (Or.inr ⟨p, _, rfl, hp, Payment.writes_of_status rfl ?_ ?_ ?_ ?_ ?_⟩)
      · rcases hstatus with h | h <;> simp [h, PaymentStatus.rank]
      · simp
      · intro hnone
        rcases hL.ordered p.id p hp hnone with h | h <;> simp [h] at hstatus
      · simp
      · simp

/-- A payment row after a move: a later version of the row that was there, or the first one of a
new payment. -/
theorem Move.payment_cases {c : Cause} {L L' : Ledger} (h : Move L c L')
    (hL : L.PaymentsSound) (hR : L.RefundsSound) {id : Uuid} {p' : Payment}
    (hp' : L'.payments id = some p') :
    (∃ p, L.payments id = some p ∧ (p' = p ∨ p.Writes L p')) ∨
    (L.payments id = none ∧ ∃ b, L.bookings b.id = some b ∧ p'.Opens b) := by
  rcases h.payments_cases hL hR with heq | ⟨p, b, heq, hnew, hb, hopens, _⟩ | ⟨p, q, heq, hp, hwrites⟩
  · rw [heq] at hp'
    exact Or.inl ⟨p', hp', Or.inl rfl⟩
  · rw [heq] at hp'
    rcases Register.of_put hp' with ⟨hk, rfl⟩ | hp'
    · exact Or.inr ⟨hk ▸ hnew, b, hb, hopens⟩
    · exact Or.inl ⟨p', hp', Or.inl rfl⟩
  · rw [heq] at hp'
    rcases Register.of_put hp' with ⟨hk, rfl⟩ | hp'
    · exact Or.inl ⟨p, by rw [← hk, Payment.key_eq, hwrites.id, hp], Or.inr hwrites⟩
    · exact Or.inl ⟨p', hp', Or.inl rfl⟩

theorem Move.payment_next {c : Cause} {L L' : Ledger} (h : Move L c L')
    (hL : L.PaymentsSound) (hR : L.RefundsSound) {id : Uuid} {p : Payment}
    (hp : L.payments id = some p) : ∃ p', L'.payments id = some p' ∧ p.Continues p' := by
  rcases h.payments_cases hL hR with heq | ⟨q, _, heq, hnew, _⟩ | ⟨q, q', heq, hq, hwrites⟩
  · exact ⟨p, heq ▸ hp, Payment.Continues.refl p⟩
  · exact ⟨p, heq ▸ Register.put_of_new hnew hp, Payment.Continues.refl p⟩
  · rw [heq]
    have hkey : L.payments (key q') = some q := by rw [Payment.key_eq, hwrites.id, hq]
    obtain ⟨p', hp', ⟨rfl, rfl⟩ | rfl⟩ := Register.put_next hkey hp
    · exact ⟨_, hp', hwrites.toContinues⟩
    · exact ⟨_, hp', Payment.Continues.refl _⟩

theorem Payment.Charges.next {p p' : Payment} {b b' : Booking} (h : p.Charges b)
    (hp : p.Continues p') (hb : b.SameTerms b') : p'.Charges b' where
  bookingId := by rw [hp.bookingId, hb.id, h.bookingId]
  userId := by rw [hp.userId, hb.userId, h.userId]
  amount := by rw [hb.totalAmount, hp.amount, h.amount]
  amountSubunits := by rw [hp.amountSubunits, hp.amount, h.amountSubunits]
  currency := by rw [hp.currency, hb.currency, h.currency]

/-- Every payment keeps charging its booking what it did. -/
theorem Move.charges {c : Cause} {L L' : Ledger} (h : Move L c L') (hL : L.PaymentsSound)
    (hR : L.RefundsSound) {id : Uuid} {p' : Payment} (hp' : L'.payments id = some p') :
    ∃ b', L'.bookings p'.bookingId = some b' ∧ p'.Charges b' := by
  rcases h.payment_cases hL hR hp' with ⟨p, hp, hcase⟩ | ⟨_, b, hb, hopens⟩
  · have hcont : p.Continues p' := by
      rcases hcase with rfl | hwrites
      · exact Payment.Continues.refl _
      · exact hwrites.toContinues
    obtain ⟨b, hb, hcharges⟩ := hL.charges id p hp
    obtain ⟨b', hb', hterms⟩ := h.sameTerms hb
    exact ⟨b', hcont.bookingId ▸ hb', hcharges.next hcont hterms⟩
  · obtain ⟨b', hb', hterms⟩ := h.sameTerms hb
    refine ⟨b', hopens.bookingId ▸ hb', ?_⟩
    exact hopens.toCharges.next (Payment.Continues.refl p') hterms

/-- The columns that the schema declares unique stay so. -/
theorem Move.unique {c : Cause} {L L' : Ledger} (h : Move L c L') (hL : L.PaymentsSound)
    (hR : L.RefundsSound) : (L'.payments.Unique fun p => some p.idempotencyKey) ∧
      L'.payments.Unique Payment.providerOrderId ∧ L'.payments.Unique Payment.providerPaymentId := by
  rcases h.payments_cases hL hR with heq | ⟨p, b, heq, hnew, hb, hopens, hkey⟩ |
    ⟨p, q, heq, hp, hwrites⟩
  · rw [heq]
    exact ⟨hL.keys, hL.orders, hL.pins⟩
  · rw [heq]
    refine ⟨hL.keys.put ?_, hL.orders.put ?_, hL.pins.put ?_⟩
    · intro v k s hv hs hsv
      simp only [Option.some.injEq] at hv hsv
      exact absurd (hsv.trans hv.symm) (hkey k s hs)
    · intro v k s hv
      rw [hopens.providerOrderId] at hv
      cases hv
    · intro v k s hv
      rw [hopens.providerPaymentId] at hv
      cases hv
  · rw [heq]
    have hid : key q = p.id := hwrites.id
    refine ⟨hL.keys.put ?_, hL.orders.put ?_, hL.pins.put ?_⟩
    · intro v k s hv hs hsv
      simp only [hwrites.idempotencyKey] at hv
      exact (hL.keys k p.id s p v hs hp hsv hv).trans hid.symm
    · intro v k s hv hs hsv
      rw [hid]
      rcases hwrites.takes v hv with hold | htake
      · exact hL.orders k p.id s p v hs hp hsv hold
      · exact htake k s hs hsv
    · intro v k s hv hs hsv
      rw [hid]
      rcases hwrites.pins v hv with hold | hpin
      · exact hL.pins k p.id s p v hs hp hsv hold
      · exact hpin.unique k s hs hsv

theorem Move.paymentsSound {c : Cause} {L L' : Ledger} (h : Move L c L')
    (hL : L.PaymentsSound) (hR : L.RefundsSound) : L'.PaymentsSound where
  charges _ _ := h.charges hL hR
  initiated := by
    intro id p' hp' hstatus
    rcases h.payment_cases hL hR hp' with ⟨p, hp, rfl | hwrites⟩ | ⟨_, b, hb, hopens⟩
    · exact hL.initiated id _ hp hstatus
    · exact absurd hstatus hwrites.notInitiated
    · exact ⟨hopens.providerOrderId, hopens.providerPaymentId⟩
  ordered := by
    intro id p' hp' hnone
    rcases h.payment_cases hL hR hp' with ⟨p, hp, rfl | hwrites⟩ | ⟨_, b, hb, hopens⟩
    · exact hL.ordered id _ hp hnone
    · exact Or.inr (hwrites.ordered hnone)
    · exact Or.inl hopens.status
  created := by
    intro id p' hp' hstatus
    rcases h.payment_cases hL hR hp' with ⟨p, hp, rfl | hwrites⟩ | ⟨_, b, hb, hopens⟩
    · exact hL.created id _ hp hstatus
    · exact hwrites.created hstatus
    · exact hopens.providerPaymentId
  pinned := by
    intro id p' hp' hstatus
    rcases h.payment_cases hL hR hp' with ⟨p, hp, rfl | hwrites⟩ | ⟨_, b, hb, hopens⟩
    · exact hL.pinned id _ hp hstatus
    · exact hwrites.kept hstatus
    · simp [hopens.status] at hstatus
  keys := (h.unique hL hR).1
  orders := (h.unique hL hR).2.1
  pins := (h.unique hL hR).2.2

end ChargeMate
