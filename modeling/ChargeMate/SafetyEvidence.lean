import ChargeMate.SafetyEvents
import ChargeMate.SafetyRefunds

/-! What stands behind the payments of every run: the provider's answer to the order that was
created, and messages signed by the provider for everything that was paid. -/

namespace ChargeMate

open Relational

/-! ### The actions that write payments -/

/-- The actions that write payments. -/
def Action.WritesPayments {Body : Type} : Action Body → Prop
  | .beginOrder .. | .closeOrder .. | .verifyCheckoutPayment .. | .storeDelivery ..
  | .closeCancellation .. | .reconcileNext .. => True
  | _ => False

theorem payments_prepareCancellation (userId bookingId : Uuid) (expectedVersion : Nat)
    (refundId : Uuid) (choice : Nat) (now createdAt : Timestamp) (db : Database) :
    (prepareCancellation userId bookingId expectedVersion refundId choice now createdAt
      db).2.payments = db.payments := by
  rcases prepareCancellation_cases userId bookingId expectedVersion refundId choice now createdAt db
    with ⟨e, heq⟩ | ⟨b, _, _, _, _, heq⟩ | ⟨b, _, _, _, _, heq⟩ | ⟨b, p, x, db', _, _, _, _, _, _,
      hins, heq⟩
  · rw [heq]
  · rw [heq]
  · rw [heq]
    rfl
  · rw [heq]
    obtain ⟨_, t, _, rfl⟩ := Database.insertRefund_ok hins
    rfl

theorem payments_recordRefundFailure (prepared : RefundRequestSnapshot) (errorCode : String)
    (db : Database) : (recordRefundFailure prepared errorCode db).2.payments = db.payments := by
  unfold recordRefundFailure
  rcases transaction_cases .integrityError _ db with ⟨e, he⟩ | ⟨a, db', h, ht⟩
  · rw [he]
  rw [ht]
  simp only [bind_eq_ok, orRaise_eq_ok] at h
  obtain ⟨r, _, h⟩ := h
  unfold failLockedRefund at h
  split at h
  · simp only [bind_eq_ok, pure_eq_ok, Prod.mk.injEq] at h
    obtain ⟨db₁, hupd, _, rfl⟩ := h
    obtain ⟨_, rfl⟩ := Database.updateRefund_eq_ok.mp hupd
    rfl
  · simp only [bind_eq_ok, pure_eq_ok, Prod.mk.injEq, Except.ok.injEq, exists_eq_left'] at h
    rw [← h.2]

section

variable {Body : Type} (env : Env Body)

theorem World.step_payments (w : World) {a : Action Body} (ha : ¬a.WritesPayments) :
    (w.step env a).db.payments = w.db.payments := by
  cases a with
  | beginOrder | closeOrder | verifyCheckoutPayment | storeDelivery | closeCancellation
  | reconcileNext => exact absurd trivial ha
  | createBookingHold user payload bookingId now =>
      rw [World.step]
      rcases createBookingHold_commits env.bookingHoldMinutes user payload bookingId now w.db
        with heq | ⟨b, hok⟩
      · rw [heq]
      · obtain ⟨_, _, _, _, _, _, hins⟩ := createBookingHold_eq_ok.mp hok
        obtain ⟨_, t, _, hdb⟩ := Database.insertBooking_eq_ok.mp hins
        rw [hdb]
        rfl
  | findUserBookings | getUserBooking | expireStaleBookingHolds => rfl
  | cancelUserBooking userId bookingId expectedVersion now =>
      rw [World.step]
      rcases cancelUserBooking_commits userId bookingId expectedVersion now w.db with
        heq | ⟨b, hok⟩
      · rw [heq]
      · obtain ⟨_, _, _, _, _, _, hdb, _⟩ := cancelUserBooking_eq_ok.mp hok
        rw [hdb]
        rfl
  | requestOrder requestId user payload =>
      simp only [World.step, World.requestOrder]
      split <;> rfl
  | callOrder requestId =>
      simp only [World.step, World.callOrder]
      split <;> rfl
  | receiveDelivery deliveryId request =>
      obtain ⟨deliveries, heq⟩ := w.receiveDelivery_eq env deliveryId request
      rw [World.step, heq]
  | requestCancellation requestId userId bookingId expectedVersion refundId choice now createdAt =>
      rw [World.step]
      rcases w.requestCancellation_cases requestId userId bookingId expectedVersion refundId choice
        now createdAt with heq | ⟨_, _, _, _, _, _, _, _, heq⟩
      · rw [heq]
      · rw [heq]
        exact payments_prepareCancellation userId bookingId expectedVersion refundId choice now
          createdAt w.db
  | callRefund requestId =>
      simp only [World.step, World.callRefund]
      split
      · split
        · exact payments_recordRefundFailure _ _ w.db
        · rfl
      · rfl
  | readCancellation requestId =>
      obtain ⟨cancellationRequests, heq⟩ := w.readCancellation_eq requestId
      rw [World.step, heq]
  | startReconciliation runId batchSize =>
      obtain ⟨reconciliations, heq⟩ := w.startReconciliation_eq env runId batchSize
      rw [World.step, heq]
  | createStation owner payload stationId pointIds =>
      rw [World.step]
      rcases createStation_kept owner payload stationId pointIds w.db with heq | ⟨_, _, heq, _⟩ <;>
        rw [heq]
  | startChargingSession operator payload sessionId now =>
      rw [World.step]
      rcases startChargingSession_commits operator payload sessionId now w.db with heq | ⟨s, hok⟩
      · rw [heq]
      · obtain ⟨_, _, _, _, _, _, _, _, _, _, hins⟩ := startChargingSession_eq_ok.mp hok
        obtain ⟨_, _, t, _, hdb⟩ := Database.insertChargingSession_eq_ok.mp hins
        rw [hdb]
        rfl
  | completeChargingSession operator sessionId payload now =>
      rw [World.step]
      rcases completeChargingSession_commits operator sessionId payload now w.db with
        heq | ⟨s, hok⟩
      · rw [heq]
      · obtain ⟨_, _, _, db₁, _, _, _, _, _, _, _, _, _, hupd, hdb⟩ :=
          completeChargingSession_eq_ok.mp hok
        have hdb₁ := Database.updateChargingSession_ok hupd
        rw [hdb, hdb₁]
        rfl
  | updateStation operator stationId payload =>
      obtain ⟨stations, heq⟩ := updateStation_kept operator stationId payload w.db
      rw [World.step, heq]
  | updateChargePoint operator stationId chargePointId payload =>
      obtain ⟨chargePoints, heq⟩ :=
        updateChargePoint_kept operator stationId chargePointId payload w.db
      rw [World.step, heq]

end

/-! ### What a step does to a stored payment -/

/-- After one write of a stored payment, a row is the written one or as it was. -/
theorem Database.payment_of_set {db db' : Database} {q q' p p' : Payment}
    (heq : db'.payments = db.payments.set q') (hid : q'.id = q.id)
    (hq : db.payments.find q.id = some q) (hp : db.payments.find p.id = some p)
    (hp' : db'.payments.find p.id = some p') : (q = p ∧ p' = q') ∨ p' = p := by
  rw [heq] at hp'
  exact Table.row_of_set hid hq hp hp'

section

variable {Body : Type} (env : Env Body)

/-- The writes of a stored payment, each with what the transaction has checked before. -/
inductive World.WritesPayment (w : World) : Action Body → Payment → Payment → Prop where
  | order {requestId : Uuid} {answer : ProviderAnswer} {now : Timestamp} {p p' : Payment}
      (providerOrder : RazorpayOrder) (orderId : String)
      (hanswer : createRazorpayOrder p.amountSubunits p.currency answer = .ok providerOrder)
      (hid : providerOrder.id = .text orderId)
      (hrow : p' = { p with
        providerOrderId := some orderId
        status := p'.status
        lastErrorCode := p'.lastErrorCode })
      (hstatus : p'.status = .orderCreated ∨ p'.status = .failed) :
      WritesPayment w (.closeOrder requestId answer now) p p'
  | noOrder {requestId : Uuid} {answer : ProviderAnswer} {now : Timestamp} {p : Payment} :
      WritesPayment w (.closeOrder requestId answer now) p { p with
        status := .failed
        lastErrorCode := some "provider_order_failed" }
  | checkout {user : User} {payload : VerifyCheckoutPaymentRequest} {p : Payment}
      (keySecret : String) (hsecret : truthy env.razorpayKeySecret = some keySecret)
      (huser : p.userId = user.id) (horder : p.providerOrderId = some payload.razorpayOrderId)
      (hsigned : verifyCheckoutSignature env payload.razorpayOrderId payload.razorpayPaymentId
        payload.razorpaySignature keySecret = true) :
      WritesPayment w (.verifyCheckoutPayment user payload) p { p with
        providerPaymentId := some payload.razorpayPaymentId
        status := .authorized }
  | notice {a : Action Body} {p p' : Payment} (d : Delivery) (n : PaymentNotice)
      (paymentId : String) (hstoring : w.storing a = some d) (hnotice : d.notice = some n)
      (hid : n.paymentId = .text paymentId) (horder : p.providerOrderId = some n.orderId)
      (hmatch : n.Matches p)
      (hrow : p' = { p.pinned paymentId with
        status := p'.status
        lastErrorCode := p'.lastErrorCode })
      (hcollected : p'.Collected → p.Collected ∨ n.event = .captured) : WritesPayment w a p p'
  | complaint {a : Action Body} {p : Payment} (code : String) :
      WritesPayment w a p { p with lastErrorCode := some code }
  | refund {a : Action Body} {p : Payment} (r : Refund) (hr : w.db.refunds.find r.id = some r)
      (hreturns : r.paymentId = p.id) (hcaptured : p.Collected) :
      WritesPayment w a p { p with status := .refunded }

variable {env}

/-- An accepted notice is one write of its payment. -/
theorem PaymentNotice.applied_write {n : PaymentNotice} {p : Payment} {now : Timestamp}
    {db db' : Database} (h : n.applied p now db = .ok db') :
    ∃ p' paymentId, n.paymentId = .text paymentId ∧ db'.payments = db.payments.set p' ∧
      p' = { p.pinned paymentId with
        status := p'.status
        lastErrorCode := p'.lastErrorCode } ∧
      (p'.Collected → p.Collected ∨ n.event = .captured) := by
  obtain ⟨paymentId, htext, h⟩ := applied_eq_ok.mp h
  have hwrite : ∀ {q : Payment} {db₁ : Database}, db.updatePayment q = .ok db₁ →
      db'.payments = db₁.payments →
      q = { p.pinned paymentId with status := q.status, lastErrorCode := q.lastErrorCode } →
      (q.Collected → p.Collected ∨ n.event = .captured) →
      ∃ p' paymentId, n.paymentId = .text paymentId ∧ db'.payments = db.payments.set p' ∧
        p' = { p.pinned paymentId with
          status := p'.status
          lastErrorCode := p'.lastErrorCode } ∧
        (p'.Collected → p.Collected ∨ n.event = .captured) := by
    intro q db₁ hupd hsame hrow hcollected
    obtain ⟨_, rfl⟩ := Database.updatePayment_eq_ok.mp hupd
    exact ⟨q, paymentId, htext, hsame, hrow, hcollected⟩
  have hopen : ∀ {q : Payment}, q.status = .authorized ∨ q.status = .failed → ¬q.Collected := by
    rintro q (hs | hs) (hcol | hcol) <;> rw [hs] at hcol <;> cases hcol
  unfold PaymentNotice.appliedTo at h
  split at h
  · split at h
    · exact hwrite h rfl rfl fun hcol => absurd hcol (hopen (Or.inl rfl))
    · exact hwrite h rfl rfl Or.inl
  · next hevent =>
    rcases applyCapturedPayment_cases h with ⟨_, hupd⟩ | ⟨_, b, _, ⟨_, db₁, hupd, rfl⟩ |
      ⟨_, hupd⟩ | ⟨_, _, hupd⟩⟩ <;> exact hwrite hupd rfl rfl fun _ => Or.inr hevent
  · rcases applyFailedPayment_cases h with ⟨_, hupd⟩ | ⟨_, b, db₁, _, hupd, rfl⟩
    · exact hwrite hupd rfl rfl Or.inl
    · exact hwrite hupd rfl rfl fun hcol => absurd hcol (hopen (Or.inr rfl))

/-- A refund event writes no payment, or that of a stored refund. -/
theorem applyRefundEvent_payments {event : RefundEvent} {entity : List (PyStr × Json)}
    {now : Timestamp} {db db' : Database} {status : WebhookEventStatus}
    (h : applyRefundEvent event entity now db = .ok (status, db')) :
    db'.payments = db.payments ∨ ∃ p r, db.payments.find p.id = some p ∧
      db.refunds.find r.id = some r ∧ r.paymentId = p.id ∧
      db'.payments = db.payments.set { p with status := .refunded } := by
  have hrefund : ∀ {r : Refund} {db₁ : Database}, db.updateRefund r = .ok db₁ →
      db₁.payments = db.payments := by
    intro r db₁ hupd
    obtain ⟨_, rfl⟩ := Database.updateRefund_eq_ok.mp hupd
    rfl
  simp only [applyRefundEvent, bind_eq_ok, orRaise_eq_ok] at h
  obtain ⟨refundId, _, sentId, _, paymentId, _, h⟩ := h
  split at h
  · simp only [pure_eq_ok, Prod.mk.injEq] at h
    exact Or.inl (by rw [← h.2])
  next p hp =>
  split at h
  · simp only [pure_eq_ok, Prod.mk.injEq] at h
    exact Or.inl (by rw [← h.2])
  next r hr =>
  have hpid : db.payments.find p.id = some p := Table.find_key (Table.mem_of_scalar hp)
  have hrid : db.refunds.find r.id = some r := Table.find_key (Table.mem_of_scalar hr)
  have hreturns : r.paymentId = p.id := by simpa using Table.prop_of_scalar hr
  split at h
  · simp only [bind_eq_ok, pure_eq_ok, Prod.mk.injEq] at h
    obtain ⟨db₁, hupd, _, rfl⟩ := h
    exact Or.inl (hrefund hupd)
  split at h
  · simp only [bind_eq_ok, pure_eq_ok, Prod.mk.injEq] at h
    obtain ⟨db₁, hupd, _, rfl⟩ := h
    exact Or.inl (hrefund hupd)
  cases event with
  | processed =>
      simp only [bind_eq_ok, pure_eq_ok, Prod.mk.injEq] at h
      obtain ⟨_, _, db₂, hupd, db₁, hpayment, _, rfl⟩ := h
      obtain ⟨_, rfl⟩ := Database.updatePayment_eq_ok.mp hpayment
      exact Or.inr ⟨p, r, hpid, hrid, hreturns, by simp only [hrefund hupd]⟩
  | failed =>
      simp only [bind_eq_ok, pure_eq_ok, Prod.mk.injEq] at h
      obtain ⟨_, _, db₁, hupd, _, rfl⟩ := h
      exact Or.inl (hrefund hupd)

/-- The transaction of a delivery writes no payment but the one its event is about. -/
theorem storeDelivery_written {d : Delivery} {rowId : Uuid} {now : Timestamp} {db : Database}
    (hdb : db.ledger.RefundsSound) {p p' : Payment} (hp : db.payments.find p.id = some p)
    (hp' : (storeDelivery d rowId now db).2.payments.find p.id = some p') :
    p' = p ∨ (∃ n paymentId, d.notice = some n ∧ n.paymentId = .text paymentId ∧
      p.providerOrderId = some n.orderId ∧ n.Matches p ∧
      p' = { p.pinned paymentId with
        status := p'.status
        lastErrorCode := p'.lastErrorCode } ∧
      (p'.Collected → p.Collected ∨ n.event = .captured)) ∨
    (∃ code, p' = { p with lastErrorCode := some code }) ∨
    ∃ r, db.refunds.find r.id = some r ∧ r.paymentId = p.id ∧ p.Collected ∧
      p' = { p with status := .refunded } := by
  have hsame : ∀ {db₁ : Database}, db₁.payments = db.payments →
      db₁.payments.find p.id = some p' → p' = p := by
    intro db₁ heq hfound
    rw [heq, hp] at hfound
    exact (Option.some.inj hfound).symm
  rcases storeDelivery_cases d rowId now db with
    ⟨_, hkept⟩ | ⟨_, flushed, db₁, status, hflush, hanswer, hcommit, hcases⟩
  · rw [hkept] at hp'
    exact Or.inl (hsame rfl hp')
  have hflushed := Delivery.payments_flush hflush
  have hfound : db₁.payments.find p.id = some p' := by
    rw [hcommit] at hp'
    exact hp'
  have hpf : flushed.payments.find p.id = some p := by rw [hflushed, hp]
  rcases hcases with ⟨_, _, rfl⟩ | ⟨event, entity, _, _, happly⟩ |
    ⟨event, entity, hsup, hentity, happly⟩
  · exact Or.inl (hsame hflushed hfound)
  · rcases applyRefundEvent_payments happly with heq | ⟨q, r, hq, hr, hreturns, heq⟩
    · exact Or.inl (hsame (heq.trans hflushed) hfound)
    · rcases Database.payment_of_set (q := q) heq rfl hq hpf hfound with ⟨rfl, rfl⟩ | rfl
      · rw [hflushed] at hq
        have hledger := Delivery.ledger_flush hflush
        rw [← Database.refunds_ledger, hledger] at hr
        exact Or.inr (Or.inr (Or.inr ⟨r, hr, hreturns, hdb.captured hr hq hreturns, rfl⟩))
      · exact Or.inl rfl
  · obtain ⟨n, hn, hcases⟩ := applyPaymentEvent_cases happly
    have hnotice : d.notice = some n := by
      simp only [Delivery.notice, hsup, hentity, Except.toOption, Option.bind_some, hn]
    rcases hcases with ⟨_, _, rfl⟩ | ⟨q, hq, hcases⟩
    · exact Or.inl (hsame hflushed hfound)
    obtain ⟨hqf, horder⟩ := PaymentNotice.find_subject hq
    rcases hcases with ⟨_, _, hupd⟩ | ⟨_, hmatch, _, happlied⟩
    · obtain ⟨_, hdb₁⟩ := Database.updatePayment_eq_ok.mp hupd
      have heq := congrArg Database.payments hdb₁
      rcases Database.payment_of_set (q := q) heq rfl hqf hpf hfound with ⟨rfl, rfl⟩ | rfl
      · exact Or.inr (Or.inr (Or.inl ⟨_, rfl⟩))
      · exact Or.inl rfl
    · obtain ⟨q', paymentId, htext, heq, hrow, hcollected⟩ := PaymentNotice.applied_write happlied
      rcases Database.payment_of_set (q := q) heq (by rw [hrow]; rfl) hqf hpf hfound with
        ⟨rfl, rfl⟩ | rfl
      · exact Or.inr (Or.inl ⟨n, paymentId, hnotice, htext, horder, hmatch, hrow, hcollected⟩)
      · exact Or.inl rfl

omit env in
theorem finalizeRefund_payments (prepared : RefundRequestSnapshot) (providerRefund : RazorpayRefund)
    (now : Timestamp) (db : Database) :
    (finalizeRefund prepared providerRefund now db).2.payments = db.payments ∨
      ∃ p r, db.payments.find prepared.paymentId = some p ∧
        db.refunds.find prepared.refundId = some r ∧
        (finalizeRefund prepared providerRefund now db).2.payments =
          db.payments.set { p with status := .refunded } := by
  unfold finalizeRefund
  rcases transaction_cases .bookingStateConflictError _ db with ⟨e, he⟩ | ⟨a, db', h, ht⟩
  · exact Or.inl (by rw [he])
  rw [ht]
  simp only [bind_eq_ok, orRaise_eq_ok] at h
  obtain ⟨r, hr, p, hp, h⟩ := h
  unfold finalizeLockedRefund at h
  split at h
  · simp only [pure_eq_ok, Prod.mk.injEq] at h
    exact Or.inl (by rw [← h.2])
  · obtain ⟨_, _, h⟩ := bind_eq_ok.mp h
    obtain ⟨db₁, hupd, h⟩ := bind_eq_ok.mp h
    obtain ⟨_, rfl⟩ := Database.updateRefund_eq_ok.mp hupd
    cases hs : providerRefund.status with
    | processed =>
        simp only [hs, bind_eq_ok, pure_eq_ok, Prod.mk.injEq] at h
        obtain ⟨db₂, hpayment, _, rfl⟩ := h
        obtain ⟨_, rfl⟩ := Database.updatePayment_eq_ok.mp hpayment
        exact Or.inr ⟨p, r, hp, hr, rfl⟩
    | pending | failed =>
        simp only [hs, bind_eq_ok, pure_eq_ok, Prod.mk.injEq, Except.ok.injEq, exists_eq_left'] at h
        exact Or.inl (by rw [← h.2])

omit env in
theorem settleRefund_payments (prepared : RefundRequestSnapshot) (answer : ProviderAnswer)
    (now : Timestamp) (db : Database) :
    (settleRefund prepared answer now db).2.payments = db.payments ∨
      ∃ p r, db.payments.find prepared.paymentId = some p ∧
        db.refunds.find prepared.refundId = some r ∧
        (settleRefund prepared answer now db).2.payments =
          db.payments.set { p with status := .refunded } := by
  unfold settleRefund
  split
  · exact Or.inl (payments_recordRefundFailure prepared _ db)
  · exact Or.inl rfl
  · exact finalizeRefund_payments prepared _ now db

omit env in
theorem reconcileSnapshot_payments (snapshot : RefundSnapshot) (answer : ProviderAnswer)
    (now : Timestamp) (db : Database) :
    (reconcileSnapshot snapshot answer now db).2.payments = db.payments ∨
      ∃ p r, db.payments.find p.id = some p ∧ db.refunds.find r.id = some r ∧
        r.paymentId = p.id ∧ (reconcileSnapshot snapshot answer now db).2.payments =
          db.payments.set { p with status := .refunded } := by
  unfold reconcileSnapshot
  split
  · exact Or.inl rfl
  · exact Or.inl rfl
  next providerRefund _ =>
  show (applyReconciledRefund snapshot.refundId providerRefund now db).2.payments = _ ∨ _
  unfold applyReconciledRefund
  rcases transaction_cases .integrityError _ db with ⟨e, he⟩ | ⟨a, db', h, ht⟩
  · exact Or.inl (by rw [he])
  rw [ht]
  split at h
  · simp only [pure_eq_ok, Prod.mk.injEq] at h
    exact Or.inl (by rw [← h.2])
  next r hr =>
  obtain ⟨hr, _⟩ := Option.filter_eq_some_iff.mp hr
  simp only [bind_eq_ok, orRaise_eq_ok] at h
  obtain ⟨p, hp, h⟩ := h
  unfold reconcileLockedRefund at h
  cases hs : providerRefund.status with
  | pending =>
      simp only [hs, bind_eq_ok, pure_eq_ok, Prod.mk.injEq, Except.ok.injEq, exists_eq_left'] at h
      exact Or.inl (by rw [← h.2])
  | failed =>
      simp only [hs, bind_eq_ok, pure_eq_ok, Prod.mk.injEq] at h
      obtain ⟨db₁, hupd, _, rfl⟩ := h
      obtain ⟨_, rfl⟩ := Database.updateRefund_eq_ok.mp hupd
      exact Or.inl rfl
  | processed =>
      simp only [hs, bind_eq_ok, pure_eq_ok, Prod.mk.injEq] at h
      obtain ⟨db₁, hupd, db₂, hpayment, _, rfl⟩ := h
      obtain ⟨_, rfl⟩ := Database.updateRefund_eq_ok.mp hupd
      obtain ⟨_, rfl⟩ := Database.updatePayment_eq_ok.mp hpayment
      exact Or.inr ⟨p, r, Database.find_payment_id hp, Database.find_refund_id hr,
        (Table.key_of_find hp).symm, rfl⟩

/-- What closing an attempt makes of its payment. -/
theorem closeAttempt_written (env : Env Body) {attempt : PaymentAttemptSnapshot}
    (answer : ProviderAnswer) (now : Timestamp) {db : Database} {p : Payment} {b : Booking}
    (hp : db.payments.find p.id = some p) (hb : db.bookings.find p.bookingId = some b)
    (hinitiated : p.status = .initiated) (hdesc : attempt.Describes p) :
    (closeAttempt env attempt answer now db).2.payments = db.payments ∨
    ∃ p', (closeAttempt env attempt answer now db).2.payments = db.payments.set p' ∧
      (p' = { p with status := .failed, lastErrorCode := some "provider_order_failed" } ∨
        ∃ providerOrder orderId,
          createRazorpayOrder p.amountSubunits p.currency answer = .ok providerOrder ∧
          providerOrder.id = .text orderId ∧
          (p'.status = .orderCreated ∨ p'.status = .failed) ∧
          p' = { p with
            providerOrderId := some orderId
            status := p'.status
            lastErrorCode := p'.lastErrorCode }) := by
  unfold closeAttempt
  rw [← hdesc.paymentId, ← hdesc.bookingId, ← hdesc.amountSubunits, ← hdesc.currency]
  cases hanswer : createRazorpayOrder p.amountSubunits p.currency answer with
  | error e =>
      split
      · unfold compensateProviderFailure
        rcases transaction_cases .integrityError _ db with ⟨e, he⟩ | ⟨a, db', h, ht⟩
        · exact Or.inl (by rw [he])
        rw [ht]
        simp only [bind_eq_ok, orRaise_eq_ok, hp, hb, Option.some.injEq, exists_eq_left',
          compensateLockedFailure, hinitiated, if_true, pure_eq_ok, Prod.mk.injEq, true_and] at h
        obtain ⟨db₁, hupd, rfl⟩ := h
        obtain ⟨_, rfl⟩ := Database.updatePayment_eq_ok.mp hupd
        exact Or.inr ⟨_, rfl, Or.inl rfl⟩
      · exact Or.inl rfl
      · next heq => cases heq
  | ok providerOrder =>
      simp only
      rcases finalizeProviderOrder_cases providerOrder hp hb hinitiated with
        ⟨e, heq⟩ | ⟨orderId, hid, ⟨_, db', hupd, heq⟩ | ⟨_, db', hupd, heq⟩⟩
      · exact Or.inl (by rw [heq])
      · obtain ⟨_, rfl⟩ := Database.updatePayment_eq_ok.mp hupd
        rw [heq]
        exact Or.inr ⟨_, rfl, Or.inr ⟨providerOrder, orderId, rfl, hid, Or.inr rfl, rfl⟩⟩
      · obtain ⟨_, rfl⟩ := Database.updatePayment_eq_ok.mp hupd
        rw [heq]
        exact Or.inr ⟨_, rfl, Or.inr ⟨providerOrder, orderId, rfl, hid, Or.inl rfl, rfl⟩⟩

/-- What a verification makes of the payment that it has found under the order. -/
theorem verifyCheckoutPayment_written (env : Env Body) (user : User)
    (payload : VerifyCheckoutPaymentRequest) (db : Database) :
    (verifyCheckoutPayment env user payload db).2 = db ∨
    ∃ p keySecret, db.payments.find p.id = some p ∧
      truthy env.razorpayKeySecret = some keySecret ∧ p.userId = user.id ∧
      p.providerOrderId = some payload.razorpayOrderId ∧
      verifyCheckoutSignature env payload.razorpayOrderId payload.razorpayPaymentId
        payload.razorpaySignature keySecret = true ∧
      (verifyCheckoutPayment env user payload db).2.payments = db.payments.set { p with
        providerPaymentId := some payload.razorpayPaymentId
        status := .authorized } := by
  unfold verifyCheckoutPayment
  split
  · exact Or.inl rfl
  next keySecret hsecret =>
  rcases transaction_cases .paymentVerificationError _ db with ⟨e, he⟩ | ⟨q, db', h, ht⟩
  · exact Or.inl (by rw [he])
  rw [ht]
  simp only [verifyLockedPayment, bind_eq_ok, orRaise_eq_ok, ensure_eq_ok] at h
  obtain ⟨_, _, p, hp, _, hsigned, _, _, h⟩ := h
  have hfound := Table.prop_of_scalar hp
  simp only [decide_eq_true_eq] at hfound
  split at h
  · simp only [pure_eq_ok, Prod.mk.injEq] at h
    exact Or.inl h.2.symm
  · simp only [bind_eq_ok, ensure_eq_ok, pure_eq_ok, Prod.mk.injEq] at h
    obtain ⟨_, _, db₁, hupd, _, rfl⟩ := h
    obtain ⟨_, rfl⟩ := Database.updatePayment_eq_ok.mp hupd
    exact Or.inr ⟨p, keySecret, Table.find_key (Table.mem_of_scalar hp), hsecret, hfound.2, hfound.1,
      hsigned, rfl⟩

omit env in
/-- A new attempt leaves the stored payments alone. -/
theorem World.beginOrder_kept (w : World) (requestId paymentId : Uuid) (now : Timestamp) {p : Payment}
    (hp : w.db.payments.find p.id = some p) :
    (w.beginOrder requestId paymentId now).db.payments.find p.id = some p := by
  unfold World.beginOrder
  split
  · next id user payload hr =>
    rcases beginPaymentAttempt_cases user payload paymentId now w.db with
      ⟨e, heq⟩ | ⟨b, q, db', _, _, _, _, _, _, _, hins, heq⟩
    · simpa only [heq] using hp
    · obtain ⟨_, t, ht, rfl⟩ := Database.insertPayment_ok hins
      simp only [heq]
      exact Table.find_insert_of_mem ht (Table.mem_of_find hp)
  · exact hp

theorem World.storing_cases (w : World) (deliveryId eventRowId : Uuid) (now : Timestamp) :
    (w.step env (.storeDelivery deliveryId eventRowId now)).db = w.db ∨
    ∃ d, w.storing (.storeDelivery deliveryId eventRowId now : Action Body) = some d ∧
      (w.step env (.storeDelivery deliveryId eventRowId now)).db =
        (ChargeMate.storeDelivery d eventRowId now w.db).2 := by
  rw [World.step, World.db_storeDelivery]
  cases hphase : (w.deliveries.find deliveryId).map DeliveryRequest.phase with
  | none => exact Or.inl rfl
  | some phase =>
      cases phase with
      | answered result => exact Or.inl rfl
      | accepted d => exact Or.inr ⟨d, by simp only [World.storing, hphase], rfl⟩

omit env in
theorem World.reconciling_cases (w : World) (runId : Uuid) (answer : ProviderAnswer)
    (now : Timestamp) : (w.reconcileNext runId answer now).db = w.db ∨
      ∃ snapshot, (w.reconcileNext runId answer now).db =
        (reconcileSnapshot snapshot answer now w.db).2 := by
  unfold World.reconcileNext
  split
  · exact Or.inl rfl
  · split
    · exact Or.inl rfl
    · next snapshot rest _ => exact Or.inr ⟨snapshot, rfl⟩

/-- A step leaves a stored payment as it is or writes it with something behind the write. -/
theorem World.Sound.payment_written {w : World} (h : w.Sound) (a : Action Body) {p p' : Payment}
    (hp : w.db.payments.find p.id = some p)
    (hp' : (w.step env a).db.payments.find p.id = some p') :
    p' = p ∨ w.WritesPayment env a p p' := by
  have hR := h.ledger.refunds
  have hsame : (w.step env a).db.payments = w.db.payments → p' = p := by
    intro heq
    rw [heq, hp] at hp'
    exact (Option.some.inj hp').symm
  -- a write that settles a stored refund
  have hrefund : ∀ {q : Payment} {r : Refund}, w.db.payments.find q.id = some q →
      w.db.refunds.find r.id = some r → r.paymentId = q.id →
      (w.step env a).db.payments = w.db.payments.set { q with status := .refunded } →
      p' = p ∨ w.WritesPayment env a p p' := by
    intro q r hq hr hreturns heq
    rcases Database.payment_of_set (q := q) heq rfl hq hp hp' with ⟨rfl, rfl⟩ | hkept
    · exact Or.inr (.refund r hr hreturns (hR.captured hr hq hreturns))
    · exact Or.inl hkept
  by_cases hwrites : a.WritesPayments
  · cases a with
    | beginOrder requestId paymentId now =>
        rw [World.step, w.beginOrder_kept requestId paymentId now hp] at hp'
        exact Or.inl (Option.some.inj hp').symm
    | closeOrder requestId answer now =>
        rcases w.closeOrder_cases env h.ledger h.orders requestId answer now with
          heq | ⟨r, attempt, q, b, _, _, hq, hinitiated, hdesc, _, hb, heq⟩
        · exact Or.inl (hsame (by rw [World.step, heq]))
        have hqid : w.db.payments.find q.id = some q := Database.find_payment_id hq
        have hstep : (w.step env (.closeOrder requestId answer now)).db.payments =
            (closeAttempt env attempt answer now w.db).2.payments := by rw [World.step, heq]
        rcases closeAttempt_written env answer now hqid hb hinitiated hdesc with hkept | ⟨q', hset, hrow⟩
        · exact Or.inl (hsame (hstep.trans hkept))
        have hid : q'.id = q.id := by
          rcases hrow with rfl | ⟨_, _, _, _, _, hrow⟩
          · rfl
          · rw [hrow]
        rcases Database.payment_of_set (q := q) (hstep.trans hset) hid hqid hp hp' with
          ⟨rfl, rfl⟩ | hkept
        · rcases hrow with rfl | ⟨providerOrder, orderId, hanswer, hid, hstatus, hrow⟩
          · exact Or.inr .noOrder
          · exact Or.inr (.order providerOrder orderId hanswer hid hrow hstatus)
        · exact Or.inl hkept
    | verifyCheckoutPayment user payload =>
        rcases verifyCheckoutPayment_written env user payload w.db with
          heq | ⟨q, keySecret, hq, hsecret, huser, horder, hsigned, heq⟩
        · exact Or.inl (hsame (by rw [World.step, heq]))
        · rcases Database.payment_of_set (q := q) heq rfl hq hp hp' with ⟨rfl, rfl⟩ | hkept
          · exact Or.inr (.checkout keySecret hsecret huser horder hsigned)
          · exact Or.inl hkept
    | storeDelivery deliveryId eventRowId now =>
        rcases w.storing_cases deliveryId eventRowId now with heq | ⟨d, hstoring, heq⟩
        · exact Or.inl (hsame (by rw [heq]))
        rw [heq] at hp'
        rcases storeDelivery_written hR hp hp' with
          hkept | ⟨n, paymentId, hnotice, htext, horder, hmatch, hrow, hcollected⟩ | ⟨code, rfl⟩ |
          ⟨r, hr, hreturns, hcaptured, rfl⟩
        · exact Or.inl hkept
        · exact Or.inr
            (.notice d n paymentId hstoring hnotice htext horder hmatch hrow hcollected)
        · exact Or.inr (.complaint code)
        · exact Or.inr (.refund r hr hreturns hcaptured)
    | closeCancellation requestId answer now =>
        cases hr : w.cancellationRequests.find requestId with
        | none => exact Or.inl (hsame (by simp only [World.step, World.closeCancellation, hr]))
        | some request =>
            obtain ⟨id, userId, bookingId, expectedVersion, phase⟩ := request
            cases phase with
            | prepared | committed | bookingRead | answered =>
                exact Or.inl (hsame (by simp only [World.step, World.closeCancellation, hr]))
            | called snapshot =>
                have hflight : CancellationRequest.InFlight
                    ⟨id, userId, bookingId, expectedVersion, .called snapshot⟩ snapshot := Or.inr rfl
                have hdb : (w.step env (.closeCancellation requestId answer now)).db =
                    (settleRefund snapshot answer now w.db).2 := by
                  simp only [World.step, World.closeCancellation, hr]
                rcases settleRefund_payments snapshot answer now w.db with
                  heq | ⟨q, r, hq, hrefund', heq⟩
                · exact Or.inl (hsame (by rw [hdb, heq]))
                · have hnames := (h.cancellations.requests requestId _ snapshot hr
                    hflight.carries).2.names
                  exact hrefund (Database.find_payment_id hq) (Database.find_refund_id hrefund')
                    ((hnames r hrefund').trans (Table.key_of_find hq).symm) (by rw [hdb, heq])
    | reconcileNext runId answer now =>
        rcases w.reconciling_cases runId answer now with heq | ⟨snapshot, heq⟩
        · exact Or.inl (hsame (by rw [World.step, heq]))
        · have hdb : (w.step env (.reconcileNext runId answer now)).db =
              (reconcileSnapshot snapshot answer now w.db).2 := by rw [World.step, heq]
          rcases reconcileSnapshot_payments snapshot answer now w.db with
            hkept | ⟨q, r, hq, hr, hreturns, hset⟩
          · exact Or.inl (hsame (by rw [hdb, hkept]))
          · exact hrefund hq hr hreturns (by rw [hdb, hset])
    | _ => exact hwrites.elim
  · exact Or.inl (hsame (w.step_payments env hwrites))

/-- Where a payment row comes from: it was there, was written, or is new. -/
theorem World.Reachable.payment_entered {w : World} (h : w.Reachable env) (a : Action Body)
    {id : Uuid} {p' : Payment} (hp' : (w.step env a).db.payments.find id = some p') :
    (∃ p, w.db.payments.find id = some p ∧ (p' = p ∨ w.WritesPayment env a p p')) ∨
      (p'.status = .initiated ∧ p'.providerOrderId = none ∧ p'.providerPaymentId = none) := by
  obtain ⟨c, _, hmove⟩ := h.move a
  rcases hmove.payment_cases h.sound.ledger.payments h.sound.ledger.refunds hp' with
    ⟨p, hp, _⟩ | ⟨_, b, _, hopens⟩
  · have hid : p.id = id := Register.key_eq hp
    subst hid
    exact Or.inl ⟨p, hp, h.sound.payment_written a hp hp'⟩
  · exact Or.inr ⟨hopens.status, hopens.providerOrderId, hopens.providerPaymentId⟩

/-- What becomes true of a payment in a run does so in a write of it. -/
theorem World.Initial.payment_written {w : World} (h : w.Initial) {actions : List (Action Body)}
    (P : Payment → Prop) (hnew : ∀ p, P p → p.status ≠ .initiated ∨ p.providerOrderId ≠ none ∨
      p.providerPaymentId ≠ none) {id : Uuid} {p : Payment}
    (hp : (w.run env actions).db.payments.find id = some p) (hP : P p) :
    ∃ before a after q q', actions = before ++ a :: after ∧ ¬P q ∧ P q' ∧
      (w.run env before).WritesPayment env a q q' ∧ q'.Continues p := by
  let Q : World → Prop := fun s => ∃ q, s.db.payments.find id = some q ∧ P q
  have hstart : ¬Q w := by
    rintro ⟨q, hq, _⟩
    rw [h.payments, Table.find_empty] at hq
    cases hq
  obtain ⟨before, a, after, rfl, hnot, q', hq', hPq'⟩ :=
    Transition.exists_entry (Q := Q) hstart ⟨p, hp, hP⟩
  have hreach : (w.run env before).Reachable env := (Transition.Reachable.initial h).run before
  have hrun : (w.run env (before ++ a :: after)) = ((w.run env before).step env a).run env after :=
    Transition.run_append (World.step env) w before (a :: after)
  rw [hrun] at hp
  obtain ⟨p', hfinal, hcont⟩ := World.Reachable.payment_run (hreach.next a) after hq'
  rw [hp] at hfinal
  cases hfinal
  rcases hreach.payment_entered a hq' with ⟨q, hq, rfl | hwrites⟩ | ⟨hs, ho, hx⟩
  · exact absurd ⟨q', hq, hPq'⟩ hnot
  · exact ⟨before, a, after, q, q', rfl, fun hPq => hnot ⟨q, hq, hPq⟩, hPq', hwrites, hcont⟩
  · rcases hnew q' hPq' with hne | hne | hne
    · exact absurd hs hne
    · exact absurd ho hne
    · exact absurd hx hne

end

/-! ### What the provider has signed -/

section

variable {Body : Type} (env : Env Body)

/-- The request is signed with the webhook secret, and its body is that of the delivery. -/
structure WebhookRequest.Carries (request : WebhookRequest Body) (d : Delivery) : Prop where
  signed : ∃ webhookSecret signature, truthy env.razorpayWebhookSecret = some webhookSecret ∧
    request.suppliedSignature = some signature ∧
    env.hmacSha256Hex webhookSecret request.rawBody = signature
  parsed : d.ParsedFrom env request.rawBody

/-- The request reports an event of the provider payment of `p`, under its order and with its amount
and currency. -/
def WebhookRequest.Reports (request : WebhookRequest Body) (event : PaymentEvent) (p : Payment) :
    Prop :=
  ∃ d n, request.Carries env d ∧ d.notice = some n ∧ n.event = event ∧
    p.providerOrderId = some n.orderId ∧
    (∃ paymentId, p.providerPaymentId = some paymentId ∧ n.paymentId = .text paymentId) ∧
    n.Matches p

/-- The owner of the payment has shown the provider's signature under its order and its provider
payment. -/
def VerifyCheckoutPaymentRequest.Proves (payload : VerifyCheckoutPaymentRequest) (p : Payment) :
    Prop :=
  ∃ keySecret, truthy env.razorpayKeySecret = some keySecret ∧
    p.providerOrderId = some payload.razorpayOrderId ∧
    p.providerPaymentId = some payload.razorpayPaymentId ∧
    env.hmacSha256Hex keySecret (env.encode (payload.razorpayOrderId ++ "|" ++
      payload.razorpayPaymentId)) = payload.razorpaySignature

variable {env}

/-- A request that is accepted is signed, and parsed into its delivery. -/
theorem carries_of_receiveWebhook {webhookSecret : String} {request : WebhookRequest Body}
    {db : Database} {d : Delivery} (hsecret : truthy env.razorpayWebhookSecret = some webhookSecret)
    (h : receiveWebhook env webhookSecret request db = .accepted d) : request.Carries env d := by
  rcases receiveWebhook_cases env webhookSecret request db with
    ⟨e, _, heq⟩ | ⟨eventId, hauth, ⟨e, _, heq⟩ | ⟨d', hparse, heq⟩⟩
  · rw [heq] at h
    cases h
  · rw [heq] at h
    cases h
  · have hd : d' = d := by
      rw [heq] at h
      split at h
      · cases h
      · cases h
      · exact Reception.accepted.inj h
    subst hd
    simp only [authenticate, bind_eq_ok, orRaise_eq_ok, ensure_eq_ok, pure_eq_ok] at hauth
    obtain ⟨signature, hsignature, eventId', _, _, hverify, rfl⟩ := hauth
    refine ⟨⟨webhookSecret, signature, hsecret, ?_, of_decide_eq_true hverify⟩, ?_⟩
    · exact (Option.filter_eq_some_iff.mp hsignature).1
    · rw [Delivery.ParsedFrom, (parseDelivery_eq_ok hparse).1]
      exact hparse

/-- A delivery that waits for its transaction has been received with a signature. -/
theorem World.Initial.accepted_received {w : World} (h : w.Initial) {actions : List (Action Body)}
    {id : Uuid} {r : DeliveryRequest} {d : Delivery}
    (hr : (w.run env actions).deliveries.find id = some r) (hphase : r.phase = .accepted d) :
    ∃ request, .receiveDelivery id request ∈ actions ∧ request.Carries env d := by
  let Q : World → Prop := fun s => ∃ r, s.deliveries.find id = some r ∧ r.phase = .accepted d
  have hstart : ¬Q w := by
    rintro ⟨r, hr, _⟩
    rw [h.deliveries, Table.find_empty] at hr
    cases hr
  obtain ⟨before, a, after, rfl, hnot, r', hr', hphase'⟩ :=
    Transition.exists_entry (Q := Q) hstart ⟨r, hr, hphase⟩
  cases hdelivery : a.delivery with
  | none =>
      rw [World.deliveries_step env _ hdelivery] at hr'
      exact absurd ⟨r', hr', hphase'⟩ hnot
  | some k =>
      cases a with
      | receiveDelivery k request =>
          rw [World.step, World.find_receiveDelivery, Option.or_eq_some_iff] at hr'
          rcases hr' with hold | ⟨_, hnew⟩
          · exact absurd ⟨r', hold, hphase'⟩ hnot
          split at hnew
          · next hk =>
            subst hk
            obtain ⟨webhookSecret, hsecret, rfl⟩ := Option.map_eq_some_iff.mp hnew
            exact ⟨request, List.mem_append_right before List.mem_cons_self,
              carries_of_receiveWebhook hsecret hphase'⟩
          · cases hnew
      | storeDelivery k eventRowId now =>
          -- a transaction answers its request and accepts none
          rw [World.step, World.find_storeDelivery] at hr'
          obtain ⟨r₀, hr₀, rfl⟩ := Option.map_eq_some_iff.mp hr'
          split at hphase'
          · unfold DeliveryRequest.store at hphase'
            split at hphase'
            · cases hphase'
            · exact absurd ⟨r₀, hr₀, hphase'⟩ hnot
          · exact absurd ⟨r₀, hr₀, hphase'⟩ hnot
      | _ => cases hdelivery

/-- What a later version of a payment keeps of a notice. -/
theorem PaymentNotice.Matches.continues {n : PaymentNotice} {p p' : Payment} (h : n.Matches p)
    (hcont : p.Continues p') : n.Matches p' := by
  unfold PaymentNotice.Matches providerAmountMatches at h ⊢
  rw [hcont.amountSubunits, hcont.currency]
  exact h

/-- A payment that a notice has been accepted for is reported by the request behind it. -/
theorem World.Initial.reported {w : World} (h : w.Initial) {before after : List (Action Body)}
    {a : Action Body} {d : Delivery} {n : PaymentNotice} {paymentId : String} {q q' p : Payment}
    (hstoring : (w.run env before).storing a = some d) (hnotice : d.notice = some n)
    (htext : n.paymentId = .text paymentId) (horder : q.providerOrderId = some n.orderId)
    (hmatch : n.Matches q)
    (hrow : q' = { q.pinned paymentId with
      status := q'.status
      lastErrorCode := q'.lastErrorCode })
    (hcont : q'.Continues p) : ∃ deliveryId request,
      .receiveDelivery deliveryId request ∈ before ++ a :: after ∧ request.Reports env n.event p := by
  obtain ⟨deliveryId, _, _, r, _, hr, hphase⟩ := World.storing_eq_some.mp hstoring
  obtain ⟨request, hmem, hcarries⟩ := h.accepted_received hr hphase
  refine ⟨deliveryId, request, List.mem_append_left _ hmem, d, n, hcarries, hnotice, rfl,
    hcont.order _ ?_, ⟨paymentId, hcont.pinned _ ?_, htext⟩,
    PaymentNotice.Matches.continues ?_ hcont⟩
  · rw [hrow]
    exact horder
  · rw [hrow]
    rfl
  · rw [hrow]
    exact hmatch

/-- The notice of a delivery is in its body. -/
theorem Delivery.ParsedFrom.notice_eq {d d' : Delivery} {rawBody : Body}
    (h : d.ParsedFrom env rawBody) (h' : d'.ParsedFrom env rawBody) : d.notice = d'.notice := by
  simp only [Delivery.ParsedFrom, parseDelivery, bind_eq_ok, orRaise_eq_ok, pure_eq_ok] at h h'
  obtain ⟨loaded, hloaded, payload, hpayload, eventType, htype, hd⟩ := h
  obtain ⟨loaded', hloaded', payload', hpayload', eventType', htype', hd'⟩ := h'
  rw [hloaded] at hloaded'
  cases hloaded'
  rw [hpayload] at hpayload'
  cases hpayload'
  rw [htype] at htype'
  cases htype'
  rw [← hd, ← hd']
  rfl

end

/-- No money without the provider's word for it. In every run from the start, a payment that is
captured or refunded has been reported as captured by a signed request that names its order, its
provider payment, its amount and its currency; so has one for the full price of every booking that
is confirmed, in use or completed; and no request reports two payments. -/
theorem captures_reported {Body : Type} (env : Env Body) {w : World} (h : w.Initial)
    (actions : List (Action Body)) :
    (∀ p ∈ (w.run env actions).db.payments, p.status = .captured ∨ p.status = .refunded →
      ∃ deliveryId request, .receiveDelivery deliveryId request ∈ actions ∧
        request.Reports env .captured p) ∧
    (∀ b ∈ (w.run env actions).db.bookings, b.Paid → ∃ p ∈ (w.run env actions).db.payments,
      p.bookingId = b.id ∧ b.totalAmount = some p.amount ∧
      (p.amountSubunits : Rat) = 100 * p.amount ∧
      ∃ deliveryId request, .receiveDelivery deliveryId request ∈ actions ∧
        request.Reports env .captured p) ∧
    ∀ p ∈ (w.run env actions).db.payments, ∀ q ∈ (w.run env actions).db.payments,
      ∀ (request : WebhookRequest Body) e f, request.Reports env e p → request.Reports env f q →
        p = q := by
  have hreported : ∀ p ∈ (w.run env actions).db.payments, p.Collected →
      ∃ deliveryId request, .receiveDelivery deliveryId request ∈ actions ∧
        request.Reports env .captured p := by
    intro p hp hcollected
    obtain ⟨before, a, after, q, q', rfl, hnot, hcol, hwrites, hcont⟩ :=
      h.payment_written Payment.Collected
        (fun p hp => Or.inl (by rcases hp with hs | hs <;> rw [hs] <;> exact PaymentStatus.noConfusion))
        (Table.find_key hp) hcollected
    cases hwrites with
    | order providerOrder orderId hanswer hid hrow hstatus =>
        rcases hcol with hs | hs <;> rw [hs] at hstatus <;> rcases hstatus with hs' | hs' <;> cases hs'
    | noOrder => rcases hcol with hs | hs <;> cases hs
    | checkout keySecret => rcases hcol with hs | hs <;> cases hs
    | complaint code => exact absurd hcol hnot
    | refund _ _ _ hcaptured => exact absurd hcaptured hnot
    | notice d n paymentId hstoring hnotice htext horder hmatch hrow hcaptured =>
        have hevent : n.event = .captured := (hcaptured hcol).resolve_left hnot
        rw [← hevent]
        exact h.reported hstoring hnotice htext horder hmatch hrow hcont
  have hreach : (w.run env actions).Reachable env := (Transition.Reachable.initial h).run actions
  have hsound := World.Reachable.sound hreach
  refine ⟨hreported, ?_, ?_⟩
  · intro b hb hpaid
    obtain ⟨p, hp, hbooking, hcaptured⟩ := hsound.ledger.backed.paid b.id b (Table.find_key hb) hpaid
    obtain ⟨c, hc, hcharges⟩ := hsound.ledger.payments.charges p.id p hp
    rw [hbooking, Database.bookings_ledger, show b.id = key b from rfl, Table.find_key hb] at hc
    cases hc
    exact ⟨p, Table.mem_of_find hp, hbooking, hcharges.amount, hcharges.amountSubunits,
      hreported p (Table.mem_of_find hp) (Or.inl hcaptured)⟩
  · rintro p hp q hq request e f ⟨d, n, hcarries, hn, _, horder, _⟩
      ⟨d', n', hcarries', hn', _, horder', _⟩
    have hsame := hcarries.parsed.notice_eq hcarries'.parsed
    rw [hn, hn'] at hsame
    cases hsame
    exact Table.eq_of_key_eq hp hq (hsound.ledger.payments.orders p.id q.id p q n.orderId
      (Table.find_key hp) (Table.find_key hq) horder horder')

/-- The confirmed booking of the sample has been paid for by a signed report of its payment. -/
theorem captures_reported_sample : ∃ b ∈ (sampleWorld.run sampleEnv sampleConfirmed).db.bookings,
    ∃ p deliveryId request, p.bookingId = b.id ∧
      .receiveDelivery deliveryId request ∈ sampleConfirmed ∧
      request.Reports sampleEnv .captured p := by
  have hb : ∃ b ∈ (sampleWorld.run sampleEnv sampleConfirmed).db.bookings, b.Paid := by
    decide +kernel
  obtain ⟨b, hb, hpaid⟩ := hb
  obtain ⟨p, _, hbooking, _, _, deliveryId, request, hmem, hreports⟩ :=
    (captures_reported sampleEnv sampleWorld_initial sampleConfirmed).2.1 b hb hpaid
  exact ⟨b, hb, p, deliveryId, request, hbooking, hmem, hreports⟩

/-- What a payment has of the provider was given to it. In every run from the start, its order is one
that the provider has answered a call with, for the payment's own amount and currency; and its
provider payment is named together with that order by a signature of the provider, which the owner
of the payment has shown at the checkout or a webhook request carries. -/
theorem provider_ids_attested {Body : Type} (env : Env Body) {w : World} (h : w.Initial)
    (actions : List (Action Body)) :
    ∀ p ∈ (w.run env actions).db.payments,
      (∀ orderId, p.providerOrderId = some orderId → ∃ requestId answer now providerOrder,
        .closeOrder requestId answer now ∈ actions ∧
        createRazorpayOrder p.amountSubunits p.currency answer = .ok providerOrder ∧
        providerOrder.id = .text orderId) ∧
      (p.providerPaymentId ≠ none →
        (∃ user payload, .verifyCheckoutPayment user payload ∈ actions ∧ user.id = p.userId ∧
          payload.Proves env p) ∨
        ∃ deliveryId request event, .receiveDelivery deliveryId request ∈ actions ∧
          request.Reports env event p) := by
  intro p hp
  constructor
  · intro orderId horder
    obtain ⟨before, a, after, q, q', rfl, hnot, hset, hwrites, hcont⟩ :=
      h.payment_written (fun p => p.providerOrderId ≠ none)
        (fun p hp => Or.inr (Or.inl hp)) (Table.find_key hp) (by simp [horder])
    have hnone : q.providerOrderId = none := not_not.mp hnot
    cases hwrites with
    | noOrder => exact absurd hnone hset
    | complaint code => exact absurd hnone hset
    | refund _ _ _ hcaptured => exact absurd hnone hset
    | checkout keySecret => exact absurd hnone hset
    | notice d n paymentId hstoring hnotice htext hnamed =>
        rw [hnone] at hnamed
        cases hnamed
    | @order requestId answer now _ _ providerOrder storedId hanswer hid hrow hstatus =>
        refine ⟨requestId, answer, now, providerOrder,
          List.mem_append_right before List.mem_cons_self, ?_, ?_⟩
        · rw [hcont.amountSubunits, hcont.currency, hrow]
          exact hanswer
        · have hkept := hcont.order storedId (by rw [hrow])
          rw [horder] at hkept
          rw [hid, Option.some.inj hkept]
  · intro hpinned
    obtain ⟨before, a, after, q, q', rfl, hnot, hset, hwrites, hcont⟩ :=
      h.payment_written (fun p => p.providerPaymentId ≠ none)
        (fun p hp => Or.inr (Or.inr hp)) (Table.find_key hp) hpinned
    have hnone : q.providerPaymentId = none := not_not.mp hnot
    cases hwrites with
    | noOrder => exact absurd hnone hset
    | complaint code => exact absurd hnone hset
    | refund _ _ _ hcaptured => exact absurd hnone hset
    | order providerOrder orderId hanswer hid hrow =>
        rw [hrow] at hset
        exact absurd hnone hset
    | @checkout user payload _ keySecret hsecret huser horder hsigned =>
        refine Or.inl ⟨user, payload, List.mem_append_right before List.mem_cons_self,
          huser.symm.trans hcont.userId.symm, keySecret, hsecret, hcont.order _ horder,
          hcont.pinned _ rfl, of_decide_eq_true hsigned⟩
    | notice d n paymentId hstoring hnotice htext horder hmatch hrow =>
        obtain ⟨deliveryId, request, hmem, hreports⟩ :=
          h.reported hstoring hnotice htext horder hmatch hrow hcont
        exact Or.inr ⟨deliveryId, request, n.event, hmem, hreports⟩

theorem provider_ids_attested_sample : ∃ requestId answer now providerOrder,
    .closeOrder requestId answer now ∈ sampleConfirmed ∧
    createRazorpayOrder 10000 "INR" answer = .ok providerOrder ∧
    providerOrder.id = .text "order_A" := by
  have hp : ∃ p ∈ (sampleWorld.run sampleEnv sampleConfirmed).db.payments,
      p.providerOrderId = some "order_A" ∧ p.amountSubunits = 10000 ∧ p.currency = "INR" := by
    decide +kernel
  obtain ⟨p, hp, horder, hamount, hcurrency⟩ := hp
  have hattested := (provider_ids_attested sampleEnv sampleWorld_initial sampleConfirmed p hp).1
    "order_A" horder
  rw [hamount, hcurrency] at hattested
  exact hattested

end ChargeMate
