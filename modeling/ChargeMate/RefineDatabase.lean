import ChargeMate.LedgerStatuses

/-! The writes of the database on the ledger: each accepted statement is one `put`, and what its
constraints have checked is stated over the ledger. -/

namespace ChargeMate

open Relational

/-- The value that a row brings to a unique column is no other row's. -/
theorem uniqueColumn_find {R V : Type} [Keyed R Uuid] [DecidableEq V] {t : Table R}
    (column : R → Option V) {r : R} (h : uniqueColumn t column r = true) {v : V}
    (hv : column r = some v) {id : Uuid} {s : R} (hs : t.find id = some s)
    (hsv : column s = some v) : id = key r := by
  rw [← Table.key_of_find hs]
  exact uniqueColumn_eq_true.mp h v hv s (Table.mem_of_find hs) hsv

namespace Database

theorem ledger_updateBooking {db : Database} {b old : Booking}
    (hold : db.bookings.find b.id = some old) :
    (db.updateBooking b).ledger = { db.ledger with bookings := db.ledger.bookings.put b } := by
  simp only [ledger, updateBooking, Table.register_set (r := b) hold]

theorem insertBooking_eq_ok {db db' : Database} {b : Booking} :
    db.insertBooking b = .ok db' ↔ (∀ a ∈ b.totalAmount, 0 ≤ a) ∧
      ∃ t, db.bookings.insert b = some t ∧ db' = { db with bookings := t } := by
  simp only [insertBooking, bind_eq_ok, ensure_eq_ok, orRaise_eq_ok, pure_eq_ok]
  constructor
  · rintro ⟨_, hamount, t, hins, rfl⟩
    exact ⟨hamount, t, hins, rfl⟩
  · rintro ⟨hamount, t, hins, rfl⟩
    exact ⟨(), hamount, t, hins, rfl⟩

theorem ledger_insertBooking {db db' : Database} {b : Booking} (h : db.insertBooking b = .ok db') :
    db.bookings.find b.id = none ∧
      db'.ledger = { db.ledger with bookings := db.ledger.bookings.put b } := by
  obtain ⟨_, t, hins, rfl⟩ := insertBooking_eq_ok.mp h
  refine ⟨(Table.insert_eq_some.mp hins).1, ?_⟩
  simp only [ledger, Table.register_insert hins]

/-- The checks of an update of a payment. -/
structure AcceptsPayment (db : Database) (p : Payment) : Prop where
  orderFits : p.providerOrderId.all (varchar 100) = true
  paymentFits : p.providerPaymentId.all (varchar 100) = true
  order : uniqueColumn db.payments Payment.providerOrderId p = true
  payment : uniqueColumn db.payments Payment.providerPaymentId p = true

instance (db : Database) (p : Payment) : Decidable (db.AcceptsPayment p) :=
  decidable_of_iff (p.providerOrderId.all (varchar 100) = true ∧
      p.providerPaymentId.all (varchar 100) = true ∧
      uniqueColumn db.payments Payment.providerOrderId p = true ∧
      uniqueColumn db.payments Payment.providerPaymentId p = true)
    ⟨fun ⟨h₁, h₂, h₃, h₄⟩ => ⟨h₁, h₂, h₃, h₄⟩, fun ⟨h₁, h₂, h₃, h₄⟩ => ⟨h₁, h₂, h₃, h₄⟩⟩

theorem updatePayment_eq_ok {db db' : Database} {p : Payment} :
    db.updatePayment p = .ok db' ↔
      db.AcceptsPayment p ∧ db' = { db with payments := db.payments.set p } := by
  simp only [updatePayment, bind_eq_ok, ensure_eq_ok, pure_eq_ok]
  constructor
  · rintro ⟨_, horderFits, _, hpaymentFits, _, horder, _, hpayment, rfl⟩
    exact ⟨⟨horderFits, hpaymentFits, horder, hpayment⟩, rfl⟩
  · rintro ⟨h, rfl⟩
    exact ⟨(), h.orderFits, (), h.paymentFits, (), h.order, (), h.payment, rfl⟩

/-- The row that an update leaves under its identifier. -/
theorem find_updatePayment {db db' : Database} {p old : Payment} {id : Uuid}
    (h : db.updatePayment p = .ok db') (hid : p.id = id) (hold : db.payments.find id = some old) :
    db'.payments.find id = some p := by
  subst hid
  obtain ⟨_, rfl⟩ := updatePayment_eq_ok.mp h
  exact Table.find_set_self (r := p) hold

/-- The checks read nothing but the identifiers. -/
theorem AcceptsPayment.congr {db db' : Database} {p p' : Payment} (h : db.AcceptsPayment p)
    (hdb : db'.payments = db.payments) (hid : p'.id = p.id)
    (horder : p'.providerOrderId = p.providerOrderId)
    (hpayment : p'.providerPaymentId = p.providerPaymentId) : db'.AcceptsPayment p' where
  orderFits := horder ▸ h.orderFits
  paymentFits := hpayment ▸ h.paymentFits
  order := by
    rw [hdb, uniqueColumn_eq_true, Payment.key_eq, hid, horder]
    exact uniqueColumn_eq_true.mp h.order
  payment := by
    rw [hdb, uniqueColumn_eq_true, Payment.key_eq, hid, hpayment]
    exact uniqueColumn_eq_true.mp h.payment

/-- What a stored payment has been checked for. -/
structure PaymentStorable (db : Database) (p : Payment) : Prop where
  order : ∀ o, p.providerOrderId = some o → p.MayTakeOrder db.ledger o
  payment : ∀ x, p.providerPaymentId = some x → ∀ id q, db.ledger.payments id = some q →
    q.providerPaymentId = some x → id = p.id

theorem ledger_updatePayment {db db' : Database} {p old : Payment}
    (h : db.updatePayment p = .ok db') (hold : db.payments.find p.id = some old) :
    db.PaymentStorable p ∧
      db'.ledger = { db.ledger with payments := db.ledger.payments.put p } := by
  obtain ⟨haccepts, rfl⟩ := updatePayment_eq_ok.mp h
  refine ⟨⟨?_, ?_⟩, ?_⟩
  · intro o ho id q hq hqo
    exact uniqueColumn_find _ haccepts.order ho hq hqo
  · intro x hx id q hq hqx
    exact uniqueColumn_find _ haccepts.payment hx hq hqx
  · simp only [ledger, Table.register_set (r := p) hold]

theorem insertPayment_ok {db db' : Database} {p : Payment} (h : db.insertPayment p = .ok db') :
    uniqueColumn db.payments (fun p => some p.idempotencyKey) p = true ∧
      ∃ t, db.payments.insert p = some t ∧ db' = { db with payments := t } := by
  simp only [insertPayment, bind_eq_ok, ensure_eq_ok, orRaise_eq_ok, pure_eq_ok] at h
  obtain ⟨_, _, _, _, _, hkeys, _, _, _, _, t, hins, rfl⟩ := h
  exact ⟨hkeys, t, hins, rfl⟩

theorem ledger_insertPayment {db db' : Database} {p : Payment} (h : db.insertPayment p = .ok db') :
    db.payments.find p.id = none ∧
      (∀ id q, db.ledger.payments id = some q → q.idempotencyKey ≠ p.idempotencyKey) ∧
      db'.ledger = { db.ledger with payments := db.ledger.payments.put p } := by
  obtain ⟨hkeys, t, hins, rfl⟩ := insertPayment_ok h
  have hnew := (Table.insert_eq_some.mp hins).1
  refine ⟨hnew, ?_, ?_⟩
  · intro id q hq hkey
    have hid : id = p.id :=
      uniqueColumn_find (fun p => some p.idempotencyKey) hkeys rfl hq
        (congrArg some hkey)
    rw [hid, payments_ledger] at hq
    rw [show db.payments.find p.id = none from hnew] at hq
    cases hq
  · simp only [ledger, Table.register_insert hins]

/-- The checks of an update of a refund. -/
structure AcceptsRefund (db : Database) (r : Refund) : Prop where
  fits : r.providerRefundId.all (varchar 100) = true
  unique : uniqueColumn db.refunds Refund.providerRefundId r = true

theorem updateRefund_eq_ok {db db' : Database} {r : Refund} :
    db.updateRefund r = .ok db' ↔
      db.AcceptsRefund r ∧ db' = { db with refunds := db.refunds.set r } := by
  simp only [updateRefund, bind_eq_ok, ensure_eq_ok, pure_eq_ok]
  constructor
  · rintro ⟨_, hfits, _, hunique, rfl⟩
    exact ⟨⟨hfits, hunique⟩, rfl⟩
  · rintro ⟨h, rfl⟩
    exact ⟨(), h.fits, (), h.unique, rfl⟩

/-- The checks read nothing but the identifiers. -/
theorem AcceptsRefund.congr {db : Database} {r r' : Refund} (h : db.AcceptsRefund r)
    (hid : r'.id = r.id) (hprovider : r'.providerRefundId = r.providerRefundId) :
    db.AcceptsRefund r' where
  fits := hprovider ▸ h.fits
  unique := by
    rw [uniqueColumn_eq_true, Refund.key_eq, hid, hprovider]
    exact uniqueColumn_eq_true.mp h.unique

theorem ledger_updateRefund {db db' : Database} {r old : Refund} (h : db.updateRefund r = .ok db')
    (hold : db.refunds.find r.id = some old) :
    db'.ledger = { db.ledger with refunds := db.ledger.refunds.put r } := by
  obtain ⟨_, rfl⟩ := updateRefund_eq_ok.mp h
  simp only [ledger, Table.register_set (r := r) hold]

theorem insertRefund_ok {db db' : Database} {r : Refund} (h : db.insertRefund r = .ok db') :
    uniqueColumn db.refunds (fun r => some r.paymentId) r = true ∧
      ∃ t, db.refunds.insert r = some t ∧ db' = { db with refunds := t } := by
  simp only [insertRefund, bind_eq_ok, ensure_eq_ok, orRaise_eq_ok, pure_eq_ok] at h
  obtain ⟨_, _, _, _, _, hpayments, _, _, t, hins, rfl⟩ := h
  exact ⟨hpayments, t, hins, rfl⟩

theorem ledger_insertRefund {db db' : Database} {r : Refund} (h : db.insertRefund r = .ok db') :
    db.refunds.find r.id = none ∧
      (∀ id s, db.ledger.refunds id = some s → s.paymentId ≠ r.paymentId) ∧
      db'.ledger = { db.ledger with refunds := db.ledger.refunds.put r } := by
  obtain ⟨hpayments, t, hins, rfl⟩ := insertRefund_ok h
  have hnew := (Table.insert_eq_some.mp hins).1
  refine ⟨hnew, ?_, ?_⟩
  · intro id s hs hpayment
    have hid : id = r.id :=
      uniqueColumn_find (fun r => some r.paymentId) hpayments rfl hs
        (congrArg some hpayment)
    rw [hid, refunds_ledger] at hs
    rw [show db.refunds.find r.id = none from hnew] at hs
    cases hs
  · simp only [ledger, Table.register_insert hins]

theorem updateChargingSession_ok {db db' : Database} {s : ChargingSession}
    (h : db.updateChargingSession s = .ok db') :
    db' = { db with chargingSessions := db.chargingSessions.set s } := by
  simp only [updateChargingSession, bind_eq_ok, ensure_eq_ok, pure_eq_ok] at h
  obtain ⟨_, _, _, _, _, _, rfl⟩ := h
  rfl

theorem ledger_updateChargingSession {db db' : Database} {s old : ChargingSession}
    (h : db.updateChargingSession s = .ok db') (hold : db.chargingSessions.find s.id = some old) :
    db'.ledger = { db.ledger with sessions := db.ledger.sessions.put s } := by
  obtain rfl := updateChargingSession_ok h
  simp only [ledger, Table.register_set (r := s) hold]

theorem insertChargingSession_eq_ok {db db' : Database} {s : ChargingSession} :
    db.insertChargingSession s = .ok db' ↔ 0 ≤ s.meterStartKwh ∧
      uniqueColumn db.chargingSessions (fun s => some s.bookingId) s = true ∧
      ∃ t, db.chargingSessions.insert s = some t ∧ db' = { db with chargingSessions := t } := by
  simp only [insertChargingSession, bind_eq_ok, ensure_eq_ok, orRaise_eq_ok, pure_eq_ok]
  constructor
  · rintro ⟨_, hmeter, _, hbookings, t, hins, rfl⟩
    exact ⟨hmeter, hbookings, t, hins, rfl⟩
  · rintro ⟨hmeter, hbookings, t, hins, rfl⟩
    exact ⟨(), hmeter, (), hbookings, t, hins, rfl⟩

theorem ledger_insertChargingSession {db db' : Database} {s : ChargingSession}
    (h : db.insertChargingSession s = .ok db') :
    db.chargingSessions.find s.id = none ∧
      (∀ id s', db.ledger.sessions id = some s' → s'.bookingId ≠ s.bookingId) ∧
      db'.ledger = { db.ledger with sessions := db.ledger.sessions.put s } := by
  obtain ⟨_, hbookings, t, hins, rfl⟩ := insertChargingSession_eq_ok.mp h
  have hnew := (Table.insert_eq_some.mp hins).1
  refine ⟨hnew, ?_, ?_⟩
  · intro id s' hs' hbooking
    have hid : id = s.id :=
      uniqueColumn_find (fun s => some s.bookingId) hbookings rfl hs'
        (congrArg some hbooking)
    rw [hid, sessions_ledger] at hs'
    rw [show db.chargingSessions.find s.id = none from hnew] at hs'
    cases hs'
  · simp only [ledger, Table.register_insert hins]

theorem insertWebhookEvent_eq_ok {db db' : Database} {e : PaymentWebhookEvent} :
    db.insertWebhookEvent e = .ok db' ↔
      (varchar 100 e.providerEventId = true ∧ varchar 100 e.eventType = true) ∧
      uniqueColumn db.paymentWebhookEvents (fun e => some e.providerEventId) e = true ∧
      ∃ t, db.paymentWebhookEvents.insert e = some t ∧
        db' = { db with paymentWebhookEvents := t } := by
  simp only [insertWebhookEvent, bind_eq_ok, ensure_eq_ok, orRaise_eq_ok, pure_eq_ok]
  constructor
  · rintro ⟨_, hfits, _, hunique, t, hins, rfl⟩
    exact ⟨hfits, hunique, t, hins, rfl⟩
  · rintro ⟨hfits, hunique, t, hins, rfl⟩
    exact ⟨(), hfits, (), hunique, t, hins, rfl⟩

theorem ledger_insertWebhookEvent {db db' : Database} {e : PaymentWebhookEvent}
    (h : db.insertWebhookEvent e = .ok db') : db'.ledger = db.ledger := by
  obtain ⟨_, _, t, _, rfl⟩ := insertWebhookEvent_eq_ok.mp h
  rfl

@[simp] theorem ledger_updateWebhookEvent (db : Database) (e : PaymentWebhookEvent) :
    (db.updateWebhookEvent e).ledger = db.ledger := rfl

end Database

/-- A transaction is a move if its block is one whenever it commits. -/
theorem transaction_move {α : Type} {integrity : Raised}
    {block : Database → Except Raised (α × Database)} {db : Database}
    (h : ∀ a db', block db = .ok (a, db') → Move db.ledger .other db'.ledger) :
    Move db.ledger .other (transaction integrity block db).2.ledger := by
  rcases transaction_cases integrity block db with ⟨e, he⟩ | ⟨a, db', hb, ht⟩
  · rw [he]
    exact Move.stay
  · rw [ht]
    exact h a db' hb

end ChargeMate
