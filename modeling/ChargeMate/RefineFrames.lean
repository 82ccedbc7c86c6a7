import ChargeMate.RefineSystem

/-! What every transaction does to the rest of the database. Most transactions are made of
statements on bookings, payments and refunds: a relation that these statements keep to relates the
database before such a transaction to the database after it. Equality of a view that the statements
do not change is one such relation, an invariant of the statements another. -/

namespace ChargeMate

open Relational

/-- A reflexive and transitive relation that every statement on bookings, payments and refunds
keeps to; a new payment or refund has no identifier of the provider yet. -/
structure Database.Respected (R : Database → Database → Prop) : Prop where
  refl : ∀ db, R db db
  trans : ∀ {db₁ db₂ db₃}, R db₁ db₂ → R db₂ db₃ → R db₁ db₃
  bookings : ∀ (db : Database) bookings, R db { db with bookings }
  insertPayment : ∀ {db db' : Database} {p}, p.providerOrderId = none →
    p.providerPaymentId = none → db.insertPayment p = .ok db' → R db db'
  updatePayment : ∀ {db db' : Database} {p}, db.updatePayment p = .ok db' → R db db'
  insertRefund : ∀ {db db' : Database} {r}, r.providerRefundId = none →
    db.insertRefund r = .ok db' → R db db'
  updateRefund : ∀ {db db' : Database} {r}, db.updateRefund r = .ok db' → R db db'

/-- A reflexive and transitive relation that every such statement keeps to, but for the insertion of
a booking. -/
structure Database.Preserved (R : Database → Database → Prop) : Prop where
  refl : ∀ db, R db db
  trans : ∀ {db₁ db₂ db₃}, R db₁ db₂ → R db₂ db₃ → R db₁ db₃
  updateBooking : ∀ (db : Database) b, R db (db.updateBooking b)
  expireHolds : ∀ among now (db : Database), R db (expireHolds among now db)
  insertPayment : ∀ {db db' : Database} {p}, p.providerOrderId = none →
    p.providerPaymentId = none → db.insertPayment p = .ok db' → R db db'
  updatePayment : ∀ {db db' : Database} {p}, db.updatePayment p = .ok db' → R db db'
  insertRefund : ∀ {db db' : Database} {r}, r.providerRefundId = none →
    db.insertRefund r = .ok db' → R db db'
  updateRefund : ∀ {db db' : Database} {r}, db.updateRefund r = .ok db' → R db db'

/-- The same for the statements on bookings and payments alone. -/
structure Database.Billed (R : Database → Database → Prop) : Prop where
  refl : ∀ db, R db db
  trans : ∀ {db₁ db₂ db₃}, R db₁ db₂ → R db₂ db₃ → R db₁ db₃
  updateBooking : ∀ (db : Database) b, R db (db.updateBooking b)
  expireHolds : ∀ among now (db : Database), R db (expireHolds among now db)
  insertPayment : ∀ {db db' : Database} {p}, p.providerOrderId = none →
    p.providerPaymentId = none → db.insertPayment p = .ok db' → R db db'
  updatePayment : ∀ {db db' : Database} {p}, db.updatePayment p = .ok db' → R db db'

theorem Database.Preserved.billed {R : Database → Database → Prop} (h : Database.Preserved R) :
    Database.Billed R :=
  { h with }

theorem Database.Respected.preserved {R : Database → Database → Prop} (h : Database.Respected R) :
    Database.Preserved R :=
  { h with
    updateBooking := fun db _ => h.bookings db _
    expireHolds := fun _ _ db => h.bookings db _ }

theorem Database.Respected.createBookingHold {R : Database → Database → Prop}
    (hR : Database.Respected R) (holdMinutes : Int) (user : User) (payload : BookingHoldRequest)
    (bookingId : Uuid) (now : Timestamp) (db : Database) :
    R db (createBookingHold holdMinutes user payload bookingId now db).2 := by
  rcases createBookingHold_commits holdMinutes user payload bookingId now db with hkept | ⟨b, hok⟩
  · rw [hkept]
    exact hR.refl db
  · obtain ⟨_, _, _, _, _, _, hins⟩ := createBookingHold_eq_ok.mp hok
    obtain ⟨_, t, _, hdb⟩ := Database.insertBooking_eq_ok.mp hins
    rw [hdb]
    exact hR.trans (hR.bookings db _) (hR.bookings _ t)

/-- A view of the database that no statement on bookings, payments or refunds changes. -/
structure Database.Apart {V : Type} (view : Database → V) : Prop where
  bookings : ∀ (db : Database) bookings, view { db with bookings } = view db
  payments : ∀ (db : Database) payments, view { db with payments } = view db
  refunds : ∀ (db : Database) refunds, view { db with refunds } = view db

theorem Database.Apart.respected {V : Type} {view : Database → V} (h : Database.Apart view) :
    Database.Respected fun db db' => view db' = view db where
  refl _ := rfl
  trans h₁ h₂ := h₂.trans h₁
  bookings := h.bookings
  insertPayment := by
    intro db db' p _ _ hins
    obtain ⟨_, t, _, rfl⟩ := Database.insertPayment_ok hins
    exact h.payments db t
  updatePayment := by
    intro db db' p hupd
    obtain ⟨_, rfl⟩ := Database.updatePayment_eq_ok.mp hupd
    exact h.payments db _
  insertRefund := by
    intro db db' r _ hins
    obtain ⟨_, t, _, rfl⟩ := Database.insertRefund_ok hins
    exact h.refunds db t
  updateRefund := by
    intro db db' r hupd
    obtain ⟨_, rfl⟩ := Database.updateRefund_eq_ok.mp hupd
    exact h.refunds db _

/-- Neither a charging session nor a webhook event has been written. -/
structure Database.Spares (db db' : Database) : Prop where
  chargingSessions : db'.chargingSessions = db.chargingSessions
  paymentWebhookEvents : db'.paymentWebhookEvents = db.paymentWebhookEvents

section

variable {R : Database → Database → Prop} (hR : Database.Billed R)

include hR

/-- A transaction keeps to what its block keeps to. -/
theorem Database.Billed.transaction {α : Type} {integrity : Raised}
    {block : Database → Except Raised (α × Database)} {db : Database}
    (h : ∀ a db', block db = .ok (a, db') → R db db') :
    R db (transaction integrity block db).2 := by
  rcases transaction_cases integrity block db with ⟨e, he⟩ | ⟨a, db', hb, ht⟩
  · rw [he]
    exact hR.refl db
  · rw [ht]
    exact h a db' hb

/-! ### Bookings and payments -/

theorem related_cancelUserBooking (userId bookingId : Uuid) (expectedVersion : Nat)
    (now : Timestamp) (db : Database) :
    R db (cancelUserBooking userId bookingId expectedVersion now db).2 := by
  rcases cancelUserBooking_commits userId bookingId expectedVersion now db with hkept | ⟨b', hok⟩
  · rw [hkept]
    exact hR.refl db
  · obtain ⟨b, _, _, _, _, _, hdb, _⟩ := cancelUserBooking_eq_ok.mp hok
    rw [hdb]
    exact hR.updateBooking db _

theorem related_beginPaymentAttempt (user : User) (payload : CreatePaymentOrderRequest)
    (paymentId : Uuid) (now : Timestamp) (db : Database) :
    R db (beginPaymentAttempt user payload paymentId now db).2 := by
  rcases beginPaymentAttempt_cases user payload paymentId now db with
    ⟨e, heq⟩ | ⟨b, p, db', _, _, _, _, hopens, _, _, hins, heq⟩
  · rw [heq]
    exact hR.refl db
  · rw [heq]
    exact hR.trans (hR.updateBooking db _)
      (hR.insertPayment hopens.providerOrderId hopens.providerPaymentId hins)

theorem related_finalizeProviderOrder (paymentId bookingId : Uuid) (providerOrder : RazorpayOrder)
    (db : Database) :
    R db (finalizeProviderOrder paymentId bookingId providerOrder db).2 := by
  unfold finalizeProviderOrder
  refine hR.transaction fun a db' h => ?_
  simp only [bind_eq_ok, finalizeLockedOrder] at h
  obtain ⟨p, _, b, _, _, _, h⟩ := h
  split at h <;>
    · simp only [bind_eq_ok, pure_eq_ok, Prod.mk.injEq] at h
      obtain ⟨db₁, hupd, _, rfl⟩ := h
      exact hR.updatePayment hupd

theorem related_compensateProviderFailure (paymentId bookingId : Uuid) (now : Timestamp)
    (db : Database) : R db (compensateProviderFailure paymentId bookingId now db).2 := by
  unfold compensateProviderFailure
  refine hR.transaction fun a db' h => ?_
  simp only [bind_eq_ok] at h
  obtain ⟨p, _, b, _, h⟩ := h
  unfold compensateLockedFailure at h
  split at h
  · simp only [bind_eq_ok, pure_eq_ok, Prod.mk.injEq] at h
    obtain ⟨db₁, hupd, _, rfl⟩ := h
    exact hR.trans (hR.updatePayment hupd) (hR.updateBooking db₁ _)
  · simp only [bind_eq_ok, pure_eq_ok, Prod.mk.injEq, Except.ok.injEq, exists_eq_left'] at h
    rw [← h.2]
    exact hR.updateBooking db _

theorem related_closeAttempt {Body : Type} (env : Env Body) (attempt : PaymentAttemptSnapshot)
    (answer : ProviderAnswer) (now : Timestamp) (db : Database) :
    R db (closeAttempt env attempt answer now db).2 := by
  unfold closeAttempt
  split
  · exact related_compensateProviderFailure hR _ _ now db
  · exact hR.refl db
  · exact related_finalizeProviderOrder hR _ _ _ db

theorem related_verifyCheckoutPayment {Body : Type} (env : Env Body) (user : User)
    (payload : VerifyCheckoutPaymentRequest) (db : Database) :
    R db (verifyCheckoutPayment env user payload db).2 := by
  rcases verifyCheckoutPayment_cases env user payload db with
    ⟨e, heq⟩ | ⟨p, _, _, _, heq | ⟨p', db', _, hupd, heq⟩⟩
  · rw [heq]
    exact hR.refl db
  · rw [heq]
    exact hR.refl db
  · rw [heq]
    exact hR.updatePayment hupd

theorem related_applyCapturedPayment {p : Payment} {db db' : Database}
    (h : applyCapturedPayment p db = .ok db') : R db db' := by
  rcases applyCapturedPayment_cases h with ⟨_, hupd⟩ | ⟨_, b, _, ⟨_, db₁, hupd, rfl⟩ | ⟨_, hupd⟩ |
    ⟨_, _, hupd⟩⟩
  · exact hR.updatePayment hupd
  · exact hR.trans (hR.updatePayment hupd) (hR.updateBooking db₁ _)
  · exact hR.updatePayment hupd
  · exact hR.updatePayment hupd

theorem related_applyFailedPayment {p : Payment} {now : Timestamp} {db db' : Database}
    (h : applyFailedPayment p now db = .ok db') : R db db' := by
  rcases applyFailedPayment_cases h with ⟨_, hupd⟩ | ⟨_, b, db₁, _, hupd, rfl⟩
  · exact hR.updatePayment hupd
  · exact hR.trans (hR.updatePayment hupd) (hR.updateBooking db₁ _)

/-- An applied event is processed or ignored. -/
theorem related_applyPaymentEvent {event : PaymentEvent} {entity : List (PyStr × Json)}
    {now : Timestamp} {db db' : Database} {status : WebhookEventStatus}
    (h : applyPaymentEvent event entity now db = .ok (status, db')) :
    R db db' ∧ status ≠ .received := by
  obtain ⟨n, _, ⟨_, rfl, rfl⟩ | ⟨p, _, ⟨rfl, _, hupd⟩ | ⟨rfl, _, _, happlied⟩⟩⟩ :=
    applyPaymentEvent_cases h
  · exact ⟨hR.refl db', by decide⟩
  · exact ⟨hR.updatePayment hupd, by decide⟩
  · refine ⟨?_, by decide⟩
    obtain ⟨paymentId, _, happlied⟩ := PaymentNotice.applied_eq_ok.mp happlied
    unfold PaymentNotice.appliedTo at happlied
    split at happlied
    · exact hR.updatePayment happlied
    · exact related_applyCapturedPayment hR happlied
    · exact related_applyFailedPayment hR happlied

/-! ### Charging sessions -/

variable (hsessions : ∀ (db : Database) chargingSessions, R db { db with chargingSessions })

include hsessions

theorem related_startChargingSession (operator : User) (payload : StartChargingSessionRequest)
    (sessionId : Uuid) (now : Timestamp) (db : Database) :
    R db (startChargingSession operator payload sessionId now db).2 := by
  rcases startChargingSession_commits operator payload sessionId now db with heq | ⟨s, hok⟩
  · rw [heq]
    exact hR.refl db
  · obtain ⟨b, _, _, _, _, _, _, _, _, _, hins⟩ := startChargingSession_eq_ok.mp hok
    obtain ⟨_, _, t, _, hdb⟩ := Database.insertChargingSession_eq_ok.mp hins
    rw [hdb]
    exact hR.trans (hR.updateBooking db _) (hsessions _ t)

theorem related_completeChargingSession (operator : User) (sessionId : Uuid)
    (payload : CompleteChargingSessionRequest) (now : Timestamp) (db : Database) :
    R db (completeChargingSession operator sessionId payload now db).2 := by
  rcases completeChargingSession_commits operator sessionId payload now db with heq | ⟨s', hok⟩
  · rw [heq]
    exact hR.refl db
  · obtain ⟨s, b, _, db₁, _, _, _, _, _, _, _, _, _, hupd, heq⟩ :=
      completeChargingSession_eq_ok.mp hok
    obtain rfl := Database.updateChargingSession_ok hupd
    rw [heq]
    exact hR.trans (hsessions db _) (hR.updateBooking _ _)

end

section

variable {R : Database → Database → Prop} (hR : Database.Preserved R)

include hR

/-! ### Cancellation and refunds -/

theorem related_prepareCancellation (userId bookingId : Uuid) (expectedVersion : Nat)
    (refundId : Uuid) (choice : Nat) (now createdAt : Timestamp) (db : Database) :
    R db (prepareCancellation userId bookingId expectedVersion refundId choice now createdAt
      db).2 := by
  rcases prepareCancellation_cases userId bookingId expectedVersion refundId choice now createdAt db
    with ⟨e, heq⟩ | ⟨b, _, _, _, _, heq⟩ | ⟨b, _, _, _, _, heq⟩ |
      ⟨b, p, _, db', _, _, _, _, _, _, hins, heq⟩
  · rw [heq]
    exact hR.refl db
  · rw [heq]
    exact hR.refl db
  · rw [heq]
    exact hR.updateBooking db _
  · rw [heq]
    exact hR.trans (hR.updateBooking db _) (hR.insertRefund rfl hins)

theorem related_recordRefundFailure (prepared : RefundRequestSnapshot) (errorCode : String)
    (db : Database) : R db (recordRefundFailure prepared errorCode db).2 := by
  unfold recordRefundFailure
  refine hR.billed.transaction fun a db' h => ?_
  simp only [bind_eq_ok] at h
  obtain ⟨r, _, h⟩ := h
  unfold failLockedRefund at h
  split at h
  · simp only [bind_eq_ok, pure_eq_ok, Prod.mk.injEq] at h
    obtain ⟨db₁, hupd, _, rfl⟩ := h
    exact hR.updateRefund hupd
  · simp only [bind_eq_ok, pure_eq_ok, Prod.mk.injEq, Except.ok.injEq, exists_eq_left'] at h
    rw [← h.2]
    exact hR.refl db

theorem related_finalizeRefund (prepared : RefundRequestSnapshot) (providerRefund : RazorpayRefund)
    (now : Timestamp) (db : Database) :
    R db (finalizeRefund prepared providerRefund now db).2 := by
  unfold finalizeRefund
  refine hR.billed.transaction fun a db' h => ?_
  simp only [bind_eq_ok] at h
  obtain ⟨r, _, p, _, h⟩ := h
  unfold finalizeLockedRefund at h
  split at h
  · simp only [pure_eq_ok, Prod.mk.injEq] at h
    rw [← h.2]
    exact hR.refl db
  · simp only [bind_eq_ok] at h
    obtain ⟨_, _, db₁, hrefund, h⟩ := h
    refine hR.trans (hR.updateRefund hrefund) ?_
    split at h
    · simp only [bind_eq_ok, pure_eq_ok, Prod.mk.injEq] at h
      obtain ⟨db₂, hpayment, _, rfl⟩ := h
      exact hR.updatePayment hpayment
    · simp only [bind_eq_ok, pure_eq_ok, Prod.mk.injEq, Except.ok.injEq, exists_eq_left'] at h
      rw [← h.2]
      exact hR.refl db₁

theorem related_settleRefund (snapshot : RefundRequestSnapshot) (answer : ProviderAnswer)
    (now : Timestamp) (db : Database) : R db (settleRefund snapshot answer now db).2 := by
  unfold settleRefund
  split
  · exact related_recordRefundFailure hR snapshot _ db
  · exact hR.refl db
  · exact related_finalizeRefund hR snapshot _ now db

theorem related_applyReconciledRefund (refundId : Uuid) (providerRefund : RazorpayRefund)
    (now : Timestamp) (db : Database) :
    R db (applyReconciledRefund refundId providerRefund now db).2 := by
  unfold applyReconciledRefund
  refine hR.billed.transaction fun a db' h => ?_
  split at h
  · simp only [pure_eq_ok, Prod.mk.injEq] at h
    rw [← h.2]
    exact hR.refl db
  · simp only [bind_eq_ok] at h
    obtain ⟨p, _, h⟩ := h
    unfold reconcileLockedRefund at h
    split at h <;>
      simp only [bind_eq_ok, pure_eq_ok, Prod.mk.injEq, Except.ok.injEq, exists_eq_left'] at h
    · obtain ⟨db₁, hrefund, db₂, hpayment, _, rfl⟩ := h
      exact hR.trans (hR.updateRefund hrefund) (hR.updatePayment hpayment)
    · obtain ⟨db₁, hrefund, _, rfl⟩ := h
      exact hR.updateRefund hrefund
    · rw [← h.2]
      exact hR.refl db

theorem related_reconcileSnapshot (snapshot : RefundSnapshot) (answer : ProviderAnswer)
    (now : Timestamp) (db : Database) : R db (reconcileSnapshot snapshot answer now db).2 := by
  unfold reconcileSnapshot
  split
  · exact hR.refl db
  · exact hR.refl db
  · exact related_applyReconciledRefund hR _ _ now db

/-! ### Webhook events -/

theorem related_applyRefundEvent {event : RefundEvent} {entity : List (PyStr × Json)}
    {now : Timestamp} {db db' : Database} {status : WebhookEventStatus}
    (h : applyRefundEvent event entity now db = .ok (status, db')) :
    R db db' ∧ status ≠ .received := by
  simp only [applyRefundEvent, bind_eq_ok] at h
  obtain ⟨refundId, _, _, _, paymentId, _, h⟩ := h
  split at h
  · cases h
    exact ⟨hR.refl db, by decide⟩
  split at h
  · cases h
    exact ⟨hR.refl db, by decide⟩
  split at h
  · simp only [bind_eq_ok, pure_eq_ok, Prod.mk.injEq] at h
    obtain ⟨db₁, hupd, rfl, rfl⟩ := h
    exact ⟨hR.updateRefund hupd, by decide⟩
  split at h
  · simp only [bind_eq_ok, pure_eq_ok, Prod.mk.injEq] at h
    obtain ⟨db₁, hupd, rfl, rfl⟩ := h
    exact ⟨hR.updateRefund hupd, by decide⟩
  simp only [bind_eq_ok] at h
  obtain ⟨_, _, h⟩ := h
  cases event with
  | processed =>
      simp only [bind_eq_ok, pure_eq_ok, Prod.mk.injEq] at h
      obtain ⟨db₂, hrefund, db₁, hpayment, rfl, rfl⟩ := h
      exact ⟨hR.trans (hR.updateRefund hrefund) (hR.updatePayment hpayment),
        by decide⟩
  | failed =>
      simp only [bind_eq_ok, pure_eq_ok, Prod.mk.injEq] at h
      obtain ⟨db₁, hupd, rfl, rfl⟩ := h
      exact ⟨hR.updateRefund hupd, by decide⟩

/-- What an accepted delivery applies, after its event row has been flushed. -/
theorem related_applied {d : Delivery} {now : Timestamp}
    {flushed db₁ : Database} {status : WebhookEventStatus}
    (h : (SupportedEvent.ofStr d.eventType = none ∧ status = .ignored ∧ db₁ = flushed) ∨
      (∃ event entity, SupportedEvent.ofStr d.eventType = some (.refund event) ∧
        nestedEntity d.payload "refund" = .ok entity ∧
        applyRefundEvent event entity now flushed = .ok (status, db₁)) ∨
      ∃ event entity, SupportedEvent.ofStr d.eventType = some (.payment event) ∧
        nestedEntity d.payload "payment" = .ok entity ∧
        applyPaymentEvent event entity now flushed = .ok (status, db₁)) :
    R flushed db₁ ∧ status ≠ .received := by
  rcases h with ⟨_, rfl, rfl⟩ | ⟨event, entity, _, _, h⟩ | ⟨event, entity, _, _, h⟩
  · exact ⟨hR.refl _, by decide⟩
  · exact related_applyRefundEvent hR h
  · exact related_applyPaymentEvent hR.billed h

/-- A delivery keeps to a relation that does not look at the events. -/
theorem related_storeDelivery
    (hevents : ∀ (db : Database) paymentWebhookEvents, R db { db with paymentWebhookEvents })
    (d : Delivery) (rowId : Uuid) (now : Timestamp) (db : Database) :
    R db (storeDelivery d rowId now db).2 := by
  rcases storeDelivery_cases d rowId now db with
    ⟨_, hsame⟩ | ⟨_, flushed, db₁, status, hflush, _, hdb, hcases⟩
  · rw [hsame]
    exact hR.refl db
  · obtain ⟨_, _, t, _, rfl⟩ := Database.insertWebhookEvent_eq_ok.mp (Delivery.flushed hflush)
    rw [hdb]
    exact hR.trans (hR.trans (hevents db t) (related_applied hR hcases).1) (hevents db₁ _)

end

/-- Sessions and events, as one view. -/
theorem apart_spared :
    Database.Apart fun db => (db.chargingSessions, db.paymentWebhookEvents) :=
  ⟨fun _ _ => rfl, fun _ _ => rfl, fun _ _ => rfl⟩

/-- The row that a committed delivery leaves. -/
def Delivery.storedRow (d : Delivery) (rowId : Uuid) (eventType : String)
    (status : WebhookEventStatus) (now : Timestamp) : PaymentWebhookEvent :=
  { d.eventRow rowId eventType with status, processedAt := some now }

/-- The identifier and the name of the event are stored. -/
def Delivery.Fits (d : Delivery) (eventType : String) : Prop :=
  d.eventType = .text eventType ∧ varchar 100 d.providerEventId = true ∧
    varchar 100 eventType = true

/-- A delivery leaves no trace unless it is answered as an event; then its row is the one that it
adds to the events, with the outcome and the time of processing on it. -/
theorem storeDelivery_events (d : Delivery) (rowId : Uuid) (now : Timestamp) (db : Database) :
    ((∀ status, (storeDelivery d rowId now db).1 ≠ .ok (.event status)) ∧
      (storeDelivery d rowId now db).2 = db) ∨
    ∃ eventType status, (storeDelivery d rowId now db).1 = .ok (.event status) ∧
      status ≠ .received ∧
      (storeDelivery d rowId now db).2.chargingSessions = db.chargingSessions ∧
      d.Fits eventType ∧
      (∀ e ∈ db.paymentWebhookEvents, e.providerEventId ≠ d.providerEventId) ∧
      ∀ e, e ∈ (storeDelivery d rowId now db).2.paymentWebhookEvents ↔
        e = d.storedRow rowId eventType status now ∨ e ∈ db.paymentWebhookEvents := by
  rcases storeDelivery_cases d rowId now db with
    hnone | ⟨_, flushed, db₁, status, hflush, hanswer, hdb, hcases⟩
  · exact Or.inl hnone
  obtain ⟨hkept, hreceived⟩ := related_applied apart_spared.respected.preserved hcases
  obtain ⟨hsessions, hevents⟩ := Prod.mk.inj hkept
  obtain ⟨eventType, htype, rfl, hflush⟩ := Delivery.flush_eq_ok.mp hflush
  obtain ⟨⟨hidFits, htypeFits⟩, hunique, t, hins, rfl⟩ :=
    Database.insertWebhookEvent_eq_ok.mp hflush
  have hnew : ∀ e ∈ db.paymentWebhookEvents, e.id ≠ rowId :=
    Table.find_eq_none.mp (Table.insert_eq_some.mp hins).1
  refine Or.inr ⟨eventType, status, hanswer, hreceived, ?_, ⟨htype, hidFits, htypeFits⟩, ?_, ?_⟩
  · rw [hdb]
    exact hsessions
  · intro e he hid
    exact hnew e he (uniqueColumn_eq_true.mp hunique _ rfl e he (congrArg some hid))
  · intro e
    have hfind : t.find rowId = some (d.eventRow rowId eventType) := Table.find_insert_self hins
    have hrows : db₁.paymentWebhookEvents = t := hevents
    have hset : (storeDelivery d rowId now db).2.paymentWebhookEvents =
        t.set (d.storedRow rowId eventType status now) := by
      rw [hdb, ← hrows]
      rfl
    rw [hset, Table.mem_set (r := d.storedRow rowId eventType status now) hfind,
      Table.mem_insert hins]
    refine or_congr_right ?_
    constructor
    · rintro ⟨he | rfl, hk⟩
      · exact he
      · exact absurd rfl hk
    · intro he
      exact ⟨Or.inl he, hnew e he⟩

/-! ### Actions -/

/-- The actions that write neither charging sessions nor webhook events. -/
def Action.Plain {Body : Type} : Action Body → Prop
  | .storeDelivery .. | .startChargingSession .. | .completeChargingSession .. => False
  | _ => True

/-- The actions that insert bookings. -/
def Action.Holds {Body : Type} : Action Body → Prop
  | .createBookingHold .. => True
  | _ => False

/-- The actions that write stations and charge points. -/
def Action.EditsStation {Body : Type} : Action Body → Prop
  | .createStation .. | .updateStation .. | .updateChargePoint .. => True
  | _ => False

/-- The actions that write refunds. -/
def Action.WritesRefunds {Body : Type} : Action Body → Prop
  | .storeDelivery .. | .requestCancellation .. | .callRefund .. | .closeCancellation ..
  | .reconcileNext .. => True
  | _ => False

section

variable {Body : Type} (env : Env Body) {R : Database → Database → Prop}

theorem World.step_billed (hR : Database.Billed R) (w : World) {a : Action Body}
    (hholds : ¬a.Holds) (ha : a.Plain) (hedits : ¬a.EditsStation) (hrefunds : ¬a.WritesRefunds) :
    R w.db (w.step env a).db := by
  cases a with
  | createBookingHold => exact absurd trivial hholds
  | findUserBookings userId query now => exact hR.expireHolds _ now w.db
  | getUserBooking userId bookingId now => exact hR.expireHolds _ now w.db
  | cancelUserBooking userId bookingId expectedVersion now =>
      exact related_cancelUserBooking hR userId bookingId expectedVersion now w.db
  | expireStaleBookingHolds now batchSize locked => exact hR.expireHolds _ now w.db
  | requestOrder requestId user payload =>
      simp only [World.step, World.requestOrder]
      split <;> exact hR.refl _
  | beginOrder requestId paymentId now =>
      simp only [World.step, World.beginOrder]
      split
      · exact related_beginPaymentAttempt hR _ _ paymentId now w.db
      · exact hR.refl _
  | callOrder requestId =>
      simp only [World.step, World.callOrder]
      split <;> exact hR.refl _
  | closeOrder requestId answer now =>
      simp only [World.step, World.closeOrder]
      split
      · exact related_closeAttempt hR env _ answer now w.db
      · exact hR.refl _
  | verifyCheckoutPayment user payload =>
      exact related_verifyCheckoutPayment hR env user payload w.db
  | receiveDelivery deliveryId request =>
      obtain ⟨deliveries, heq⟩ := w.receiveDelivery_eq env deliveryId request
      rw [World.step, heq]
      exact hR.refl _
  | readCancellation requestId =>
      obtain ⟨requests, heq⟩ := w.readCancellation_eq requestId
      rw [World.step, heq]
      exact hR.refl _
  | startReconciliation runId batchSize =>
      obtain ⟨reconciliations, heq⟩ := w.startReconciliation_eq env runId batchSize
      rw [World.step, heq]
      exact hR.refl _
  | createStation | updateStation | updateChargePoint => exact absurd trivial hedits
  | storeDelivery | startChargingSession | completeChargingSession => exact ha.elim
  | requestCancellation | callRefund | closeCancellation | reconcileNext =>
      exact absurd trivial hrefunds

theorem World.step_preserved (hR : Database.Preserved R) (w : World) {a : Action Body}
    (hholds : ¬a.Holds) (ha : a.Plain) (hedits : ¬a.EditsStation) : R w.db (w.step env a).db := by
  by_cases hrefunds : a.WritesRefunds
  · cases a with
    | storeDelivery => exact ha.elim
    | requestCancellation requestId userId bookingId expectedVersion refundId choice now
        createdAt =>
        rw [World.step]
        rcases w.requestCancellation_cases requestId userId bookingId expectedVersion refundId
          choice now createdAt with heq | ⟨_, _, _, _, _, _, _, _, heq⟩
        · rw [heq]
          exact hR.refl _
        · rw [heq]
          exact related_prepareCancellation hR _ _ _ refundId choice now createdAt w.db
    | callRefund requestId =>
        simp only [World.step, World.callRefund]
        split
        · split
          · exact related_recordRefundFailure hR _ _ w.db
          · exact hR.refl _
        · exact hR.refl _
    | closeCancellation requestId answer now =>
        simp only [World.step, World.closeCancellation]
        split
        · exact related_settleRefund hR _ answer now w.db
        · exact hR.refl _
    | reconcileNext runId answer now =>
        simp only [World.step, World.reconcileNext]
        split
        · exact hR.refl _
        · split
          · exact hR.refl _
          · exact related_reconcileSnapshot hR _ answer now w.db
    | _ => exact hrefunds.elim
  · exact w.step_billed env hR.billed hholds ha hedits hrefunds

theorem World.step_related (hR : Database.Respected R) (w : World) {a : Action Body}
    (ha : a.Plain) (hedits : ¬a.EditsStation) : R w.db (w.step env a).db := by
  by_cases hholds : a.Holds
  · cases a with
    | createBookingHold user payload bookingId now =>
        exact hR.createBookingHold _ user payload bookingId now w.db
    | _ => exact hholds.elim
  · exact w.step_preserved env hR.preserved hholds ha hedits

/-- If the relation does not look at sessions and webhook events either, it covers their
transactions too. -/
theorem World.step_preserved_unedited (hR : Database.Preserved R)
    (hrest : ∀ (db : Database) chargingSessions paymentWebhookEvents,
      R db { db with chargingSessions, paymentWebhookEvents }) (w : World) {a : Action Body}
    (hholds : ¬a.Holds) (hedits : ¬a.EditsStation) : R w.db (w.step env a).db := by
  by_cases hplain : a.Plain
  · exact w.step_preserved env hR hholds hplain hedits
  · cases a with
    | storeDelivery deliveryId eventRowId now =>
        simp only [World.step, World.storeDelivery]
        split
        · exact related_storeDelivery hR (fun db => hrest db _) _ eventRowId now w.db
        · exact hR.refl _
    | startChargingSession operator payload sessionId now =>
        exact related_startChargingSession hR.billed (fun db t => hrest db t _) operator payload
          sessionId now w.db
    | completeChargingSession operator sessionId payload now =>
        exact related_completeChargingSession hR.billed (fun db t => hrest db t _) operator
          sessionId payload now w.db
    | _ => exact absurd trivial hplain

/-- The edits of an operator change stations and charge points only. -/
theorem World.step_edits (w : World) {a : Action Body} (hedits : a.EditsStation) :
    ∃ stations chargePoints, (w.step env a).db = { w.db with stations, chargePoints } := by
  cases a with
  | createStation owner payload stationId pointIds =>
      rcases createStation_kept owner payload stationId pointIds w.db with
        heq | ⟨stations, chargePoints, heq, _⟩
      · exact ⟨_, _, heq⟩
      · exact ⟨stations, chargePoints, heq⟩
  | updateStation operator stationId payload =>
      obtain ⟨stations, heq⟩ := updateStation_kept operator stationId payload w.db
      exact ⟨stations, _, heq⟩
  | updateChargePoint operator stationId chargePointId payload =>
      obtain ⟨chargePoints, heq⟩ :=
        updateChargePoint_kept operator stationId chargePointId payload w.db
      exact ⟨_, chargePoints, heq⟩
  | _ => exact hedits.elim

/-- If it does not look at stations and charge points, every action but a hold keeps to it. -/
theorem World.step_preserved_all (hR : Database.Preserved R)
    (hrest : ∀ (db : Database) stations chargePoints chargingSessions paymentWebhookEvents,
      R db { db with stations, chargePoints, chargingSessions, paymentWebhookEvents }) (w : World)
    {a : Action Body} (hholds : ¬a.Holds) : R w.db (w.step env a).db := by
  by_cases hedits : a.EditsStation
  · obtain ⟨stations, chargePoints, heq⟩ := w.step_edits env hedits
    rw [heq]
    exact hrest w.db stations chargePoints _ _
  · exact w.step_preserved_unedited env hR (fun db => hrest db _ _) hholds hedits

theorem World.step_related_all (hR : Database.Respected R)
    (hrest : ∀ (db : Database) stations chargePoints chargingSessions paymentWebhookEvents,
      R db { db with stations, chargePoints, chargingSessions, paymentWebhookEvents }) (w : World)
    (a : Action Body) : R w.db (w.step env a).db := by
  by_cases hholds : a.Holds
  · cases a with
    | createBookingHold user payload bookingId now =>
        exact hR.createBookingHold _ user payload bookingId now w.db
    | _ => exact hholds.elim
  · exact w.step_preserved_all env hR.preserved hrest hholds

theorem billed_refunds : Database.Billed fun db db' => db'.refunds = db.refunds where
  refl _ := rfl
  trans h₁ h₂ := h₂.trans h₁
  updateBooking _ _ := rfl
  expireHolds _ _ _ := rfl
  insertPayment := by
    intro db db' p _ _ hins
    obtain ⟨_, t, _, rfl⟩ := Database.insertPayment_ok hins
    rfl
  updatePayment := by
    intro db db' p hupd
    obtain ⟨_, rfl⟩ := Database.updatePayment_eq_ok.mp hupd
    rfl

theorem World.step_refunds (w : World) {a : Action Body} (hrefunds : ¬a.WritesRefunds) :
    (w.step env a).db.refunds = w.db.refunds := by
  by_cases hedits : a.EditsStation
  · obtain ⟨stations, chargePoints, heq⟩ := w.step_edits env hedits
    rw [heq]
  · by_cases hplain : a.Plain ∧ ¬a.Holds
    · exact w.step_billed env billed_refunds hplain.2 hplain.1 hedits hrefunds
    · cases a with
      | createBookingHold user payload bookingId now =>
          rw [World.step]
          rcases createBookingHold_commits env.bookingHoldMinutes user payload bookingId now w.db
            with heq | ⟨b, hok⟩
          · rw [heq]
          · obtain ⟨_, _, _, _, _, _, hins⟩ := createBookingHold_eq_ok.mp hok
            obtain ⟨_, t, _, hdb⟩ := Database.insertBooking_eq_ok.mp hins
            rw [hdb]
            rfl
      | startChargingSession operator payload sessionId now =>
          exact related_startChargingSession billed_refunds (fun _ _ => rfl) operator payload
            sessionId now w.db
      | completeChargingSession operator sessionId payload now =>
          exact related_completeChargingSession billed_refunds (fun _ _ => rfl) operator sessionId
            payload now w.db
      | storeDelivery => exact absurd trivial hrefunds
      | _ => exact absurd ⟨trivial, id⟩ hplain

theorem World.step_view {V : Type} {view : Database → V} (hview : Database.Apart view) (w : World)
    {a : Action Body} (ha : a.Plain) (hedits : ¬a.EditsStation) :
    view (w.step env a).db = view w.db :=
  w.step_related env hview.respected ha hedits

theorem World.step_spares (w : World) {a : Action Body} (ha : a.Plain) :
    w.db.Spares (w.step env a).db := by
  by_cases hedits : a.EditsStation
  · obtain ⟨stations, chargePoints, heq⟩ := w.step_edits env hedits
    rw [heq]
    exact ⟨rfl, rfl⟩
  · have hkept := w.step_view env apart_spared ha hedits
    exact ⟨congrArg Prod.fst hkept, congrArg Prod.snd hkept⟩

end

end ChargeMate
