import ChargeMate.FoundationLocks
import ChargeMate.ModelSystem

/-! The rows that each transaction locks with `SELECT ... FOR UPDATE`, in its order. A statement
that selects no row locks none, and what a transaction locks next depends on the rows that it has
locked before, which no other transaction changes until it ends. -/

namespace ChargeMate

open Relational

inductive LockedRow where
  | booking (id : Uuid)
  | payment (id : Uuid)
  | refund (id : Uuid)
  | chargingSession (id : Uuid)
  | chargePoint (id : Uuid)
  | station (id : Uuid)
  deriving DecidableEq

inductive LockedTable where
  | bookings
  | payments
  | refunds
  | chargingSessions
  | chargePoints
  | stations
  deriving DecidableEq

@[simp] def LockedRow.table : LockedRow → LockedTable
  | .booking _ => .bookings
  | .payment _ => .payments
  | .refund _ => .refunds
  | .chargingSession _ => .chargingSessions
  | .chargePoint _ => .chargePoints
  | .station _ => .stations

/-- The transactions that lock rows, by what their selections and checks read of the arguments. An
event is applied when its row has been flushed. -/
inductive LockingCall where
  | createBookingHold (payload : BookingHoldRequest) (now : Timestamp)
  | prepareCancellation (userId bookingId : Uuid) (expectedVersion : Nat)
  | recordRefundFailure (prepared : RefundRequestSnapshot)
  | finalizeRefund (prepared : RefundRequestSnapshot)
  | applyReconciledRefund (refundId : Uuid)
  | beginPaymentAttempt (user : User) (payload : CreatePaymentOrderRequest)
  | finalizeProviderOrder (attempt : PaymentAttemptSnapshot)
  | compensateProviderFailure (attempt : PaymentAttemptSnapshot)
  | verifyCheckoutPayment (user : User) (payload : VerifyCheckoutPaymentRequest)
  | applyPaymentEvent (eventType : PaymentEvent) (entity : List (PyStr × Json))
  | applyRefundEvent (entity : List (PyStr × Json))
  | startChargingSession (payload : StartChargingSessionRequest) (now : Timestamp)
  | completeChargingSession (sessionId : Uuid) (payload : CompleteChargingSessionRequest)
  | updateStation (stationId : Uuid)
  | updateChargePoint (operator : User) (stationId chargePointId : Uuid)

/-- Whether an event about a payment in this status reads the booking. -/
def PaymentEvent.locksBooking : PaymentEvent → PaymentStatus → Bool
  | .authorized, _ => false
  | .captured, status => status ≠ .refunded
  | .failed, status => status ≠ .captured ∧ status ≠ .refunded

/-- `SELECT ... FOR UPDATE` by primary key. -/
def lockById {R : Type} [Keyed R Uuid] (table : Table R) (id : Uuid) (row : Uuid → LockedRow) :
    List LockedRow :=
  (table.find id).toList.map fun r => row (key r)

section

variable (db : Database)

def lockBooking (id : Uuid) : List LockedRow := lockById db.bookings id .booking

def lockPayment (id : Uuid) : List LockedRow := lockById db.payments id .payment

def lockRefund (id : Uuid) : List LockedRow := lockById db.refunds id .refund

def lockChargePoint (id : Uuid) : List LockedRow := lockById db.chargePoints id .chargePoint

def lockStation (id : Uuid) : List LockedRow := lockById db.stations id .station

/-- One statement locks both rows of the inner join, the charge point first. -/
def createBookingHoldLocks (payload : BookingHoldRequest) (now : Timestamp) : List LockedRow :=
  if payload.startsAt ≤ now then []
  else
    match db.chargePoints.find payload.chargePointId with
    | none => []
    | some chargePoint =>
        match db.stations.find chargePoint.stationId with
        | none => []
        | some station => [.chargePoint chargePoint.id, .station station.id]

/-- All captured payments of a confirmed booking are locked, in the order they are found. -/
def prepareCancellationLocks (userId bookingId : Uuid) (expectedVersion : Nat) : List LockedRow :=
  match (db.bookings.find bookingId).filter fun b => b.userId = userId with
  | none => []
  | some booking =>
      .booking booking.id ::
        if booking.version = expectedVersion ∧ booking.status = .confirmed then
          (capturedPayments db booking.id).map (.payment ·.id)
        else []

def applyReconciledRefundLocks (refundId : Uuid) : List LockedRow :=
  match db.refunds.find refundId with
  | none => []
  | some refund =>
      .refund refund.id :: if refund.status = .pending then lockPayment db refund.paymentId else []

def beginPaymentAttemptLocks (user : User) (payload : CreatePaymentOrderRequest) : List LockedRow :=
  ((db.bookings.find payload.bookingId).filter fun b => b.userId = user.id).toList.map
    (.booking ·.id)

def verifyCheckoutPaymentLocks (user : User) (payload : VerifyCheckoutPaymentRequest) :
    List LockedRow :=
  if nullFree payload.razorpayOrderId then
    (selectCheckoutPayment user payload db).toList.map (.payment ·.id)
  else []

/-- The flush of the payment under its provider identifier, which comes before the booking is
selected. -/
def flushesPayment (payment : Payment) (providerPaymentId : PyStr) : Bool :=
  (providerPaymentId.encoded.bind fun id =>
    db.updatePayment { payment with providerPaymentId := some id }).isOk

def applyPaymentEventLocks (eventType : PaymentEvent) (entity : List (PyStr × Json)) :
    List LockedRow :=
  match (getEntry entity "order_id").asStr, (getEntry entity "id").asStr with
  | some orderId, some paymentId =>
      match orderId.parameter with
      | .error _ => []
      | .ok orderId =>
          match db.payments.scalar fun p => p.providerOrderId = some orderId with
          | none => []
          | some payment =>
              .payment payment.id ::
                if providerAmountMatches payment entity ∧
                    (∀ pinned ∈ payment.providerPaymentId, .text pinned = paymentId) ∧
                    eventType.locksBooking payment.status ∧ flushesPayment db payment paymentId then
                  lockBooking db payment.bookingId
                else []
  | _, _ => []

def applyRefundEventLocks (entity : List (PyStr × Json)) : List LockedRow :=
  match (getEntry entity "id").asStr, (getEntry entity "payment_id").asStr with
  | some _, some providerPaymentId =>
      match providerPaymentId.parameter with
      | .error _ => []
      | .ok providerPaymentId =>
          match db.payments.scalar fun p => p.providerPaymentId = some providerPaymentId with
          | none => []
          | some payment =>
              .payment payment.id ::
                (db.refunds.scalar fun r => r.paymentId = payment.id).toList.map (.refund ·.id)
  | _, _ => []

def startChargingSessionLocks (payload : StartChargingSessionRequest) (now : Timestamp) :
    List LockedRow :=
  match db.bookings.find payload.bookingId with
  | none => []
  | some booking =>
      .booking booking.id ::
        if booking.status = .confirmed ∧ booking.version = payload.bookingVersion ∧
            insideStartWindow booking now then
          lockChargePoint db booking.chargePointId
        else []

def completeChargingSessionLocks (sessionId : Uuid) (payload : CompleteChargingSessionRequest) :
    List LockedRow :=
  match db.chargingSessions.find sessionId with
  | none => []
  | some chargingSession =>
      .chargingSession chargingSession.id ::
        if chargingSession.status = .active ∧ chargingSession.version = payload.version ∧
            chargingSession.meterStartKwh ≤ payload.meterEndKwh then
          match db.bookings.find chargingSession.bookingId with
          | none => []
          | some booking =>
              .booking booking.id ::
                if booking.status = .active then lockChargePoint db chargingSession.chargePointId
                else []
        else []

def updateChargePointLocks (operator : User) (stationId chargePointId : Uuid) : List LockedRow :=
  match db.stations.find stationId with
  | none => []
  | some station =>
      .station station.id ::
        if operatorControlsStation operator station then
          ((db.chargePoints.find chargePointId).filter fun p => p.stationId = stationId).toList.map
            (.chargePoint ·.id)
        else []

def LockingCall.locks : LockingCall → List LockedRow
  | .createBookingHold payload now => createBookingHoldLocks db payload now
  | .prepareCancellation userId bookingId expectedVersion =>
      prepareCancellationLocks db userId bookingId expectedVersion
  | .recordRefundFailure prepared => lockRefund db prepared.refundId
  | .finalizeRefund prepared =>
      lockRefund db prepared.refundId ++ lockPayment db prepared.paymentId
  | .applyReconciledRefund refundId => applyReconciledRefundLocks db refundId
  | .beginPaymentAttempt user payload => beginPaymentAttemptLocks db user payload
  | .finalizeProviderOrder attempt | .compensateProviderFailure attempt =>
      lockPayment db attempt.paymentId ++ lockBooking db attempt.bookingId
  | .verifyCheckoutPayment user payload => verifyCheckoutPaymentLocks db user payload
  | .applyPaymentEvent eventType entity => applyPaymentEventLocks db eventType entity
  | .applyRefundEvent entity => applyRefundEventLocks db entity
  | .startChargingSession payload now => startChargingSessionLocks db payload now
  | .completeChargingSession sessionId payload => completeChargingSessionLocks db sessionId payload
  | .updateStation stationId => lockStation db stationId
  | .updateChargePoint operator stationId chargePointId =>
      updateChargePointLocks db operator stationId chargePointId

end

/-- A transaction under way, with the rows as it finds them. -/
structure RowTransaction where
  call : LockingCall
  db : Database

def RowTransaction.locks (t : RowTransaction) : List LockedRow := t.call.locks t.db

/-- The rows are those of a state of the system, and a transaction that follows a provider call was
prepared by the request that made it. -/
def RowTransaction.FoundIn (t : RowTransaction) (w : World) : Prop :=
  t.db = w.db ∧
    match t.call with
    | .recordRefundFailure prepared => ∃ r ∈ w.cancellationRequests,
        r.phase = .prepared prepared ∨ r.phase = .called prepared
    | .finalizeRefund prepared => ∃ r ∈ w.cancellationRequests, r.phase = .called prepared
    | .finalizeProviderOrder attempt | .compensateProviderFailure attempt =>
        ∃ r ∈ w.orderRequests, r.phase = .called attempt
    | _ => True

/-- The states of the row locks while some transactions interleave, none of which has begun. -/
abbrev rowLocks (txs : List RowTransaction) :
    List (Locking.Action (Fin txs.length)) → Fin txs.length → Locking.Progress LockedRow :=
  Transition.run Locking.step (Locking.start fun t => (txs.get t).locks)

end ChargeMate
