import ChargeMate.FoundationRun
import ChargeMate.ModelWebhooks
import ChargeMate.ModelCancellation
import ChargeMate.ModelOperations

/-! The running system: the database, every request that has been received, and the calls sent
to the provider. One action is one committed (or rolled back) transaction, one call sent, or one
answer taken together with the transaction it leads to; the actions of different requests
interleave freely, and a request may stop after any of its actions. Clocks, fresh identifiers,
provider answers and the rows that other transactions have locked are arguments of the actions. -/

namespace ChargeMate

open Relational

inductive OrderPhase where
  | lookedUp
  | begun (attempt : PaymentAttemptSnapshot)
  | called (attempt : PaymentAttemptSnapshot)
  | answered (result : Except Raised CheckoutOrder)

/-- One call of `create_payment_order`. -/
structure OrderRequest where
  id : Uuid
  user : User
  payload : CreatePaymentOrderRequest
  phase : OrderPhase

inductive CancellationPhase where
  | prepared (snapshot : RefundRequestSnapshot)
  | called (snapshot : RefundRequestSnapshot)
  | committed (snapshot : RefundRequestSnapshot) (reported : ReportedError)
  | bookingRead (snapshot : RefundRequestSnapshot) (reported : ReportedError)
      (booking : Option Booking)
  | answered (result : Except Raised CancellationOutcome)

/-- One call of `cancel_booking_with_refund`. -/
structure CancellationRequest where
  id : Uuid
  userId : Uuid
  bookingId : Uuid
  expectedVersion : Nat
  phase : CancellationPhase

/-- One call of `process_razorpay_webhook`. -/
structure DeliveryRequest where
  id : Uuid
  phase : Reception

/-- One call of `reconcile_pending_refunds`: the snapshots still to be checked and the counts. -/
structure ReconciliationRun where
  id : Uuid
  remaining : List RefundSnapshot
  checked : Nat
  processed : Nat
  failed : Nat
  errors : Nat
  raised : Option Raised

instance : Keyed OrderRequest Uuid := ⟨OrderRequest.id⟩
instance : Keyed CancellationRequest Uuid := ⟨CancellationRequest.id⟩
instance : Keyed DeliveryRequest Uuid := ⟨DeliveryRequest.id⟩
instance : Keyed ReconciliationRun Uuid := ⟨ReconciliationRun.id⟩

@[simp] theorem OrderRequest.key_eq (r : OrderRequest) : key r = r.id := rfl
@[simp] theorem CancellationRequest.key_eq (r : CancellationRequest) : key r = r.id := rfl

/-- A call of `create_razorpay_order`, with the request it was made for. -/
structure OrderCall where
  request : Uuid
  idempotencyKey : Uuid
  attempt : PaymentAttemptSnapshot
  receipt : String
  deriving DecidableEq

/-- A call of `create_razorpay_refund`, with the request it was made for. -/
structure RefundCall where
  request : Uuid
  snapshot : RefundRequestSnapshot
  deriving DecidableEq

structure World where
  db : Database
  orderRequests : Table OrderRequest
  cancellationRequests : Table CancellationRequest
  deliveries : Table DeliveryRequest
  reconciliations : Table ReconciliationRun
  orderCalls : List OrderCall
  refundCalls : List RefundCall

/-- Nothing has been booked or requested yet; the stations are arbitrary. -/
structure World.Initial (w : World) : Prop where
  bookings : w.db.bookings = ∅
  payments : w.db.payments = ∅
  refunds : w.db.refunds = ∅
  chargingSessions : w.db.chargingSessions = ∅
  paymentWebhookEvents : w.db.paymentWebhookEvents = ∅
  orderRequests : w.orderRequests = ∅
  cancellationRequests : w.cancellationRequests = ∅
  deliveries : w.deliveries = ∅
  reconciliations : w.reconciliations = ∅
  orderCalls : w.orderCalls = []
  refundCalls : w.refundCalls = []

inductive Action (Body : Type) where
  | createBookingHold (user : User) (payload : BookingHoldRequest) (bookingId : Uuid)
      (now : Timestamp)
  | findUserBookings (userId : Uuid) (query : BookingListQuery) (now : Timestamp)
  | getUserBooking (userId bookingId : Uuid) (now : Timestamp)
  | cancelUserBooking (userId bookingId : Uuid) (expectedVersion : Nat) (now : Timestamp)
  | expireStaleBookingHolds (now : Timestamp) (batchSize : Nat) (locked : List Uuid)
  | requestOrder (requestId : Uuid) (user : User) (payload : CreatePaymentOrderRequest)
  | beginOrder (requestId paymentId : Uuid) (now : Timestamp)
  | callOrder (requestId : Uuid)
  | closeOrder (requestId : Uuid) (answer : ProviderAnswer) (now : Timestamp)
  | verifyCheckoutPayment (user : User) (payload : VerifyCheckoutPaymentRequest)
  | receiveDelivery (deliveryId : Uuid) (request : WebhookRequest Body)
  | storeDelivery (deliveryId eventRowId : Uuid) (now : Timestamp)
  | requestCancellation (requestId userId bookingId : Uuid) (expectedVersion : Nat)
      (refundId : Uuid) (choice : Nat) (now createdAt : Timestamp)
  | callRefund (requestId : Uuid)
  | closeCancellation (requestId : Uuid) (answer : ProviderAnswer) (now : Timestamp)
  | readCancellation (requestId : Uuid)
  | startReconciliation (runId : Uuid) (batchSize : Nat)
  | reconcileNext (runId : Uuid) (answer : ProviderAnswer) (now : Timestamp)
  | startChargingSession (operator : User) (payload : StartChargingSessionRequest)
      (sessionId : Uuid) (now : Timestamp)
  | completeChargingSession (operator : User) (sessionId : Uuid)
      (payload : CompleteChargingSessionRequest) (now : Timestamp)
  | createStation (owner : User) (payload : StationCreateRequest) (stationId : Uuid)
      (pointIds : List Uuid)
  | updateStation (operator : User) (stationId : Uuid) (payload : StationUpdateRequest)
  | updateChargePoint (operator : User) (stationId chargePointId : Uuid)
      (payload : ChargePointUpdateRequest)

section

variable {Body : Type} (env : Env Body)

/-! ### `create_payment_order` -/

def World.requestOrder (w : World) (requestId : Uuid) (user : User)
    (payload : CreatePaymentOrderRequest) : World :=
  let phase := match lookUpOrder env user payload w.db with
    | some result => .answered result
    | none => .lookedUp
  match w.orderRequests.insert { id := requestId, user, payload, phase } with
  | none => w
  | some orderRequests => { w with orderRequests }

def World.beginOrder (w : World) (requestId paymentId : Uuid) (now : Timestamp) : World :=
  match w.orderRequests.find requestId with
  | some ⟨id, user, payload, .lookedUp⟩ =>
      let outcome := beginPaymentAttempt user payload paymentId now w.db
      let phase := match outcome.1 with
        | .ok attempt => .begun attempt
        | .error e => .answered (.error e)
      { w with
        db := outcome.2
        orderRequests := w.orderRequests.set ⟨id, user, payload, phase⟩ }
  | _ => w

def World.callOrder (w : World) (requestId : Uuid) : World :=
  match w.orderRequests.find requestId with
  | some ⟨id, user, payload, .begun attempt⟩ =>
      { w with
        orderRequests := w.orderRequests.set ⟨id, user, payload, .called attempt⟩
        orderCalls := w.orderCalls ++ [{
          request := id
          idempotencyKey := payload.idempotencyKey
          attempt
          receipt := orderReceipt attempt }] }
  | _ => w

/-- The provider's answer and the transaction that closes the attempt. An exception other than
`RazorpayOrderError` leaves the request without a transaction. -/
def closeAttempt (attempt : PaymentAttemptSnapshot) (answer : ProviderAnswer) (now : Timestamp)
    (db : Database) : Except Raised CheckoutOrder × Database :=
  match createRazorpayOrder attempt.amountSubunits attempt.currency answer with
  | .error .razorpayOrderError =>
      let outcome := compensateProviderFailure attempt.paymentId attempt.bookingId now db
      (outcome.1.bind fun _ => .error .paymentProviderError, outcome.2)
  | .error e => (.error e, db)
  | .ok providerOrder =>
      let outcome := finalizeProviderOrder attempt.paymentId attempt.bookingId providerOrder db
      (outcome.1.map fun rows => {
        payment := rows.1
        booking := some rows.2
        publicKeyId := env.razorpayKeyId.getD "" }, outcome.2)

def World.closeOrder (w : World) (requestId : Uuid) (answer : ProviderAnswer) (now : Timestamp) :
    World :=
  match w.orderRequests.find requestId with
  | some ⟨id, user, payload, .called attempt⟩ =>
      let outcome := closeAttempt env attempt answer now w.db
      { w with
        db := outcome.2
        orderRequests := w.orderRequests.set ⟨id, user, payload, .answered outcome.1⟩ }
  | _ => w

/-! ### `process_razorpay_webhook` -/

/-- Without a configured secret the route answers before the service is called. -/
def World.receiveDelivery (w : World) (deliveryId : Uuid) (request : WebhookRequest Body) : World :=
  match truthy env.razorpayWebhookSecret with
  | none => w
  | some webhookSecret =>
      match w.deliveries.insert ⟨deliveryId, receiveWebhook env webhookSecret request w.db⟩ with
      | none => w
      | some deliveries => { w with deliveries }

def World.storeDelivery (w : World) (deliveryId eventRowId : Uuid) (now : Timestamp) : World :=
  match w.deliveries.find deliveryId with
  | some ⟨id, .accepted delivery⟩ =>
      let outcome := ChargeMate.storeDelivery delivery eventRowId now w.db
      { w with
        db := outcome.2
        deliveries := w.deliveries.set ⟨id, .answered outcome.1⟩ }
  | _ => w

/-! ### `cancel_booking_with_refund` -/

def World.requestCancellation (w : World) (requestId userId bookingId : Uuid)
    (expectedVersion : Nat) (refundId : Uuid) (choice : Nat) (now createdAt : Timestamp) : World :=
  let outcome :=
    prepareCancellation userId bookingId expectedVersion refundId choice now createdAt w.db
  let phase := match outcome.1 with
    | .error e => .answered (.error e)
    | .ok (.inl result) => .answered (.ok result)
    | .ok (.inr snapshot) => .prepared snapshot
  match w.cancellationRequests.insert ⟨requestId, userId, bookingId, expectedVersion, phase⟩ with
  | none => w
  | some cancellationRequests => { w with db := outcome.2, cancellationRequests }

/-- The phase after the transaction that settles the refund. -/
def CancellationPhase.settled (snapshot : RefundRequestSnapshot) :
    Except Raised ReportedError → CancellationPhase
  | .ok reported => .committed snapshot reported
  | .error e => .answered (.error e)

/-- Without provider credentials the failure is recorded and nothing is sent. -/
def World.callRefund (w : World) (requestId : Uuid) : World :=
  match w.cancellationRequests.find requestId with
  | some ⟨id, userId, bookingId, expectedVersion, .prepared snapshot⟩ =>
      match env.providerKeys with
      | none =>
          let outcome := recordRefundFailure snapshot "provider_not_configured" w.db
          { w with
            db := outcome.2
            cancellationRequests := w.cancellationRequests.set
              ⟨id, userId, bookingId, expectedVersion, .settled snapshot outcome.1⟩ }
      | some _ =>
          { w with
            cancellationRequests := w.cancellationRequests.set
              ⟨id, userId, bookingId, expectedVersion, .called snapshot⟩
            refundCalls := w.refundCalls ++ [{ request := id, snapshot }] }
  | _ => w

/-- The provider's answer and the transaction that settles the refund. An exception other than
`RazorpayRefundError` leaves the request without a transaction. -/
def settleRefund (snapshot : RefundRequestSnapshot) (answer : ProviderAnswer) (now : Timestamp)
    (db : Database) : Except Raised ReportedError × Database :=
  match createRazorpayRefund snapshot.providerPaymentId snapshot.amountSubunits snapshot.currency
      answer with
  | .error .razorpayRefundError => recordRefundFailure snapshot "provider_refund_failed" db
  | .error e => (.error e, db)
  | .ok providerRefund => finalizeRefund snapshot providerRefund now db

def World.closeCancellation (w : World) (requestId : Uuid) (answer : ProviderAnswer)
    (now : Timestamp) : World :=
  match w.cancellationRequests.find requestId with
  | some ⟨id, userId, bookingId, expectedVersion, .called snapshot⟩ =>
      let outcome := settleRefund snapshot answer now w.db
      { w with
        db := outcome.2
        cancellationRequests := w.cancellationRequests.set
          ⟨id, userId, bookingId, expectedVersion, .settled snapshot outcome.1⟩ }
  | _ => w

/-- What a call returns is read after its commit: the booking first, then the refund. -/
def World.readCancellation (w : World) (requestId : Uuid) : World :=
  match w.cancellationRequests.find requestId with
  | some ⟨id, userId, bookingId, expectedVersion, .committed snapshot reported⟩ =>
      let booking := w.db.bookings.find snapshot.bookingId
      { w with
        cancellationRequests := w.cancellationRequests.set
          ⟨id, userId, bookingId, expectedVersion, .bookingRead snapshot reported booking⟩ }
  | some ⟨id, userId, bookingId, expectedVersion, .bookingRead snapshot reported booking⟩ =>
      let refund := w.db.refunds.find snapshot.refundId
      let outcome := { booking, refund, providerError := reported.providerError refund }
      { w with
        cancellationRequests := w.cancellationRequests.set
          ⟨id, userId, bookingId, expectedVersion, .answered (.ok outcome)⟩ }
  | _ => w

/-! ### `reconcile_pending_refunds` -/

/-- The job refuses to start without provider credentials. -/
def World.startReconciliation (w : World) (runId : Uuid) (batchSize : Nat) : World :=
  match env.providerKeys with
  | none => w
  | some _ =>
      match w.reconciliations.insert {
        id := runId
        remaining := pendingRefundSnapshots batchSize w.db
        checked := 0
        processed := 0
        failed := 0
        errors := 0
        raised := none } with
      | none => w
      | some reconciliations => { w with reconciliations }

/-- One iteration of the loop over the snapshots: fetch, and apply what was fetched. -/
def reconcileSnapshot (snapshot : RefundSnapshot) (answer : ProviderAnswer) (now : Timestamp)
    (db : Database) : Except Raised (Option ReconciliationOutcome) × Database :=
  match fetchRazorpayRefund snapshot.providerRefundId snapshot.providerPaymentId
      snapshot.amountSubunits snapshot.currency answer with
  | .error .razorpayRefundError => (.ok none, db)
  | .error e => (.error e, db)
  | .ok providerRefund =>
      let outcome := applyReconciledRefund snapshot.refundId providerRefund now db
      (outcome.1.map some, outcome.2)

/-- The run after one iteration: an exception ends the loop. -/
def ReconciliationRun.after (job : ReconciliationRun) (rest : List RefundSnapshot)
    (result : Except Raised (Option ReconciliationOutcome)) : ReconciliationRun :=
  let job := { job with checked := job.checked + 1, remaining := rest }
  match result with
  | .error e => { job with remaining := [], raised := some e }
  | .ok none => { job with errors := job.errors + 1 }
  | .ok (some (.provider .processed)) => { job with processed := job.processed + 1 }
  | .ok (some (.provider .failed)) => { job with failed := job.failed + 1 }
  | .ok (some _) => job

def World.reconcileNext (w : World) (runId : Uuid) (answer : ProviderAnswer) (now : Timestamp) :
    World :=
  match w.reconciliations.find runId with
  | none => w
  | some job =>
      match job.remaining with
      | [] => w
      | snapshot :: rest =>
          let outcome := reconcileSnapshot snapshot answer now w.db
          { w with
            db := outcome.2
            reconciliations := w.reconciliations.set (job.after rest outcome.1) }

/-! ### Steps -/

def World.step (w : World) : Action Body → World
  | .createBookingHold user payload bookingId now =>
      { w with db := (createBookingHold env.bookingHoldMinutes user payload bookingId now w.db).2 }
  | .findUserBookings userId query now => { w with db := (findUserBookings userId query now w.db).2 }
  | .getUserBooking userId bookingId now =>
      { w with db := (getUserBooking userId bookingId now w.db).2 }
  | .cancelUserBooking userId bookingId expectedVersion now =>
      { w with db := (cancelUserBooking userId bookingId expectedVersion now w.db).2 }
  | .expireStaleBookingHolds now batchSize locked =>
      { w with db := (expireStaleBookingHolds now batchSize locked w.db).2 }
  | .requestOrder requestId user payload => w.requestOrder env requestId user payload
  | .beginOrder requestId paymentId now => w.beginOrder requestId paymentId now
  | .callOrder requestId => w.callOrder requestId
  | .closeOrder requestId answer now => w.closeOrder env requestId answer now
  | .verifyCheckoutPayment user payload =>
      { w with db := (verifyCheckoutPayment env user payload w.db).2 }
  | .receiveDelivery deliveryId request => w.receiveDelivery env deliveryId request
  | .storeDelivery deliveryId eventRowId now => w.storeDelivery deliveryId eventRowId now
  | .requestCancellation requestId userId bookingId expectedVersion refundId choice now createdAt =>
      w.requestCancellation requestId userId bookingId expectedVersion refundId choice now createdAt
  | .callRefund requestId => w.callRefund env requestId
  | .closeCancellation requestId answer now => w.closeCancellation requestId answer now
  | .readCancellation requestId => w.readCancellation requestId
  | .startReconciliation runId batchSize => w.startReconciliation env runId batchSize
  | .reconcileNext runId answer now => w.reconcileNext runId answer now
  | .startChargingSession operator payload sessionId now =>
      { w with db := (startChargingSession operator payload sessionId now w.db).2 }
  | .completeChargingSession operator sessionId payload now =>
      { w with db := (completeChargingSession operator sessionId payload now w.db).2 }
  | .createStation owner payload stationId pointIds =>
      { w with db := (createStation owner payload stationId pointIds w.db).2 }
  | .updateStation operator stationId payload =>
      { w with db := (updateStation operator stationId payload w.db).2 }
  | .updateChargePoint operator stationId chargePointId payload =>
      { w with db := (updateChargePoint operator stationId chargePointId payload w.db).2 }

/-- The state after a list of actions. -/
abbrev World.run (w : World) (actions : List (Action Body)) : World :=
  Transition.run (World.step env) w actions

/-- The states that some interleaving of actions leads to. -/
abbrev World.Reachable (w : World) : Prop :=
  Transition.Reachable (World.step env) World.Initial w

end

end ChargeMate
