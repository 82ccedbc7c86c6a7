import ChargeMate.FoundationAtomicity
import ChargeMate.ModelCancellation
import ChargeMate.ModelRowLocks

/-! The transactions that open, close, verify and refund a payment, statement by statement: each
selects its rows `FOR UPDATE`, holds them, and commits what it has computed from them. Its flush and
its commit are one step. -/

namespace ChargeMate

open Relational Atomicity

/-- The rows of a table. -/
def LockedTable.Row : LockedTable → Type
  | .bookings => Booking
  | .payments => Payment
  | .refunds => Refund
  | .chargingSessions => ChargingSession
  | .chargePoints => ChargePoint
  | .stations => ChargingStation

/-- A transaction of the payments, by its arguments. -/
inductive PaymentTransaction where
  | beginPaymentAttempt (user : User) (payload : CreatePaymentOrderRequest) (paymentId : Uuid)
      (now : Timestamp)
  | finalizeProviderOrder (paymentId bookingId : Uuid) (providerOrder : RazorpayOrder)
  | compensateProviderFailure (paymentId bookingId : Uuid) (now : Timestamp)
  | verifyCheckoutPayment (user : User) (payload : VerifyCheckoutPaymentRequest)
  | recordRefundFailure (prepared : RefundRequestSnapshot) (errorCode : String)
  | finalizeRefund (prepared : RefundRequestSnapshot) (providerRefund : RazorpayRefund)
      (now : Timestamp)
  | applyReconciledRefund (refundId : Uuid) (providerRefund : RazorpayRefund) (now : Timestamp)

/-- What a transaction has computed when it commits, or raises. What is read after the commit is not
part of it. -/
inductive PaymentReturn where
  | attempt (result : Except Raised PaymentAttemptSnapshot)
  | order (result : Except Raised (Payment × Booking))
  | compensated (result : Except Raised Unit)
  | verified (result : Except Raised Payment)
  | settled (result : Except Raised ReportedError)
  | reconciled (result : Except Raised ReconciliationOutcome)

abbrev PaymentProgram := Program LockedTable.Row Database LockedRow PaymentReturn

/-! ### Selections -/

def selectBooking (row : Database → Option Booking) (missing : PaymentReturn)
    (next : Booking → PaymentProgram) : PaymentProgram :=
  .select (i := LockedTable.bookings) row (fun b : Booking => .booking b.id) missing next

def selectPayment (row : Database → Option Payment) (missing : PaymentReturn)
    (next : Payment → PaymentProgram) : PaymentProgram :=
  .select (i := LockedTable.payments) row (fun p : Payment => .payment p.id) missing next

def selectRefund (row : Database → Option Refund) (missing : PaymentReturn)
    (next : Refund → PaymentProgram) : PaymentProgram :=
  .select (i := LockedTable.refunds) row (fun r : Refund => .refund r.id) missing next

/-! ### The programs -/

section

variable {Body : Type} (env : Env Body)

/-- The last step of a transaction, which flushes and commits what the block computes. -/
def commitBlock {α : Type} (integrity : Raised)
    (block : Database → Except Raised (α × Database)) (returned : Except Raised α → PaymentReturn) :
    PaymentProgram :=
  .commit fun db => (transaction integrity block db).map returned id

/-- The statements of a transaction. A row that is missing raises where it is first used, after the
other selections; nothing depends on that. -/
def PaymentTransaction.program : PaymentTransaction → PaymentProgram
  | .beginPaymentAttempt user payload paymentId now =>
      selectBooking (fun db => (db.bookings.find payload.bookingId).filter fun b => b.userId = user.id)
        (.attempt (.error .paymentStateConflictError)) fun booking =>
      commitBlock .paymentStateConflictError (beginLockedAttempt booking user payload paymentId now)
        .attempt
  | .finalizeProviderOrder paymentId bookingId providerOrder =>
      selectPayment (fun db => db.payments.find paymentId) (.order (.error .attributeError))
        fun payment =>
      selectBooking (fun db => db.bookings.find bookingId) (.order (.error .attributeError))
        fun booking =>
      commitBlock .integrityError (finalizeLockedOrder payment booking providerOrder)
        fun result => .order (result.bind id)
  | .compensateProviderFailure paymentId bookingId now =>
      selectPayment (fun db => db.payments.find paymentId) (.compensated (.error .attributeError))
        fun payment =>
      selectBooking (fun db => db.bookings.find bookingId) (.compensated (.error .attributeError))
        fun booking =>
      commitBlock .integrityError (compensateLockedFailure payment booking now) .compensated
  | .verifyCheckoutPayment user payload =>
      match truthy env.razorpayKeySecret with
      | none => .commit fun db => (.verified (.error .paymentConfigurationError), db)
      | some keySecret =>
          if nullFree payload.razorpayOrderId then
            selectPayment (selectCheckoutPayment user payload)
              (.verified (.error .paymentVerificationError)) fun payment =>
            commitBlock .paymentVerificationError (verifyLockedPayment env payment payload keySecret)
              .verified
          else .commit fun db => (.verified (.error .dataError), db)
  | .recordRefundFailure prepared errorCode =>
      selectRefund (fun db => db.refunds.find prepared.refundId)
        (.settled (.error .attributeError)) fun refund =>
      commitBlock .integrityError (failLockedRefund refund errorCode) .settled
  | .finalizeRefund prepared providerRefund now =>
      selectRefund (fun db => db.refunds.find prepared.refundId)
        (.settled (.error .attributeError)) fun refund =>
      selectPayment (fun db => db.payments.find prepared.paymentId)
        (.settled (.error .attributeError)) fun payment =>
      commitBlock .bookingStateConflictError (finalizeLockedRefund refund payment providerRefund now)
        .settled
  | .applyReconciledRefund refundId providerRefund now =>
      selectRefund (fun db => db.refunds.find refundId) (.reconciled (.ok .unchanged)) fun refund =>
      if refund.status ≠ .pending then .commit fun db => (.reconciled (.ok .unchanged), db)
      else
        selectPayment (fun db => db.payments.find refund.paymentId)
          (.reconciled (.error .attributeError)) fun payment =>
        commitBlock .integrityError (reconcileLockedRefund refund payment providerRefund.status now)
          .reconciled

/-- The transaction with nothing in between: an action of the system. -/
def PaymentTransaction.run (db : Database) : PaymentTransaction → PaymentReturn × Database
  | .beginPaymentAttempt user payload paymentId now =>
      (ChargeMate.beginPaymentAttempt user payload paymentId now db).map .attempt id
  | .finalizeProviderOrder paymentId bookingId providerOrder =>
      (ChargeMate.finalizeProviderOrder paymentId bookingId providerOrder db).map .order id
  | .compensateProviderFailure paymentId bookingId now =>
      (ChargeMate.compensateProviderFailure paymentId bookingId now db).map .compensated id
  | .verifyCheckoutPayment user payload =>
      (ChargeMate.verifyCheckoutPayment env user payload db).map .verified id
  | .recordRefundFailure prepared errorCode =>
      (ChargeMate.recordRefundFailure prepared errorCode db).map .settled id
  | .finalizeRefund prepared providerRefund now =>
      (ChargeMate.finalizeRefund prepared providerRefund now db).map .settled id
  | .applyReconciledRefund refundId providerRefund now =>
      (ChargeMate.applyReconciledRefund refundId providerRefund now db).map .reconciled id

variable {T : Type} (calls : T → PaymentTransaction)

/-- The database while the statements of some transactions interleave, none of which has begun. -/
abbrev interleaved [Fintype T] [DecidableEq T] (db : Database)
    (actions : List (Atomicity.Action Database T)) :
    Atomicity.State LockedTable.Row Database LockedRow PaymentReturn T :=
  Transition.run (Atomicity.step fun t => (calls t).program env)
    (Atomicity.start (fun t => (calls t).program env) db) actions

/-- A whole transaction, or the commit of another writer. What has been returned is history. -/
def serialTransaction (s : Database × List (T × PaymentReturn)) :
    Event Database T → Database × List (T × PaymentReturn)
  | .transaction t =>
      let outcome := (calls t).run env s.1
      (outcome.2, s.2 ++ [(t, outcome.1)])
  | .other write => (write s.1, s.2)

end

/-! ### What the locks protect -/

/-- The row under a lock is as it was. -/
def SameRow : LockedRow → Database → Database → Prop
  | .booking id, db, db' => ∀ b, db.bookings.find id = some b → db'.bookings.find id = some b
  | .payment id, db, db' => ∀ p, db.payments.find id = some p → db'.payments.find id = some p
  | .refund id, db, db' => ∀ r, db.refunds.find id = some r → db'.refunds.find id = some r
  | .chargingSession id, db, db' =>
      ∀ s, db.chargingSessions.find id = some s → db'.chargingSessions.find id = some s
  | .chargePoint id, db, db' =>
      ∀ p, db.chargePoints.find id = some p → db'.chargePoints.find id = some p
  | .station id, db, db' => ∀ s, db.stations.find id = some s → db'.stations.find id = some s

/-- The unique constraint on `provider_order_id`. -/
def Database.DistinctOrders (db : Database) : Prop :=
  ∀ i j p q o, db.payments.find i = some p → db.payments.find j = some q →
    p.providerOrderId = some o → q.providerOrderId = some o → i = j

end ChargeMate
