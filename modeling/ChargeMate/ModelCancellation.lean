import ChargeMate.ModelPayments

/-! Cancellation, refunds and their reconciliation: `bookings/cancellation.py` and the refund
part of `maintenance/service.py`. -/

namespace ChargeMate

open Relational

def directCancellationStatuses : List BookingStatus := [.held, .paymentPending]

/-- Final local state returned after cancellation and refund handling. -/
structure CancellationOutcome where
  booking : Option Booking
  refund : Option Refund
  providerError : Bool
  deriving DecidableEq

/-- Immutable provider inputs captured before releasing database locks. -/
structure RefundRequestSnapshot where
  refundId : Uuid
  bookingId : Uuid
  paymentId : Uuid
  providerPaymentId : String
  amountSubunits : Int
  currency : String
  receipt : String
  deriving DecidableEq

/-- The row an unordered `SELECT` returns first: any of the matching rows, as `choice` says. -/
def firstReturned {R : Type} (choice : Nat) (rows : List R) : Option R :=
  rows[choice % rows.length]?

/-- The booking as a cancellation leaves it. -/
def Booking.cancel (booking : Booking) (now : Timestamp) : Booking :=
  { booking with
    status := .cancelled
    cancelledAt := some now
    version := booking.version + 1 }

/-- Whether a refund is joined to a booking through its payment. -/
def refundOfBooking (db : Database) (bookingId : Uuid) (refund : Refund) : Bool :=
  (db.payments.find refund.paymentId).any fun p => p.bookingId = bookingId

def existingCancellation (booking : Booking) (db : Database) : CancellationOutcome where
  booking := some booking
  refund := db.refunds.scalar (refundOfBooking db booking.id)
  providerError := false

/-- The payments a confirmed booking is refunded from: the `SELECT` has no order. -/
def capturedPayments (db : Database) (bookingId : Uuid) : List Payment :=
  db.payments.rows.filter fun p => p.bookingId = bookingId ∧ p.status = .captured

def refundReceipt (refundId : Uuid) : String := "cmr_" ++ refundId.hex

/-- The refund row for a captured payment. -/
def newRefund (payment : Payment) (refundId : Uuid) (createdAt : Timestamp) : Refund where
  id := refundId
  paymentId := payment.id
  status := .requested
  amount := payment.amount
  amountSubunits := payment.amountSubunits
  currency := payment.currency
  receipt := refundReceipt refundId
  providerRefundId := none
  lastErrorCode := none
  processedAt := none
  createdAt := createdAt

/-- `createdAt` is the transaction time of the database, `now` the clock of the application. -/
def prepareCancellation (userId bookingId : Uuid) (expectedVersion : Nat) (refundId : Uuid)
    (choice : Nat) (now createdAt : Timestamp) (db : Database) :
    Except Raised (CancellationOutcome ⊕ RefundRequestSnapshot) × Database :=
  transaction .bookingStateConflictError (fun db => do
    let booking ← orRaise ((db.bookings.find bookingId).filter fun b => b.userId = userId)
      .bookingStateConflictError
    if booking.status = .cancelled then do
      let outcome := existingCancellation booking db
      ensure (outcome.refund ≠ none) .bookingStateConflictError
      return (.inl outcome, db)
    else do
      ensure (booking.version = expectedVersion) .bookingStateConflictError
      if booking.status ∈ directCancellationStatuses then do
        ensure (booking.status = .held → timestampIsAfter booking.holdExpiresAt now)
          .bookingStateConflictError
        let db := db.updateBooking (booking.cancel now)
        return (.inl { booking := db.bookings.find bookingId, refund := none, providerError := false },
          db)
      else do
        ensure (booking.status = .confirmed) .bookingStateConflictError
        let payment ← orRaise (firstReturned choice (capturedPayments db booking.id))
          .bookingStateConflictError
        let providerPaymentId ← orRaise payment.providerPaymentId .bookingStateConflictError
        let refund := newRefund payment refundId createdAt
        let db := db.updateBooking (booking.cancel now)
        let db ← db.insertRefund refund
        return (.inr {
          refundId
          bookingId
          paymentId := payment.id
          providerPaymentId
          amountSubunits := payment.amountSubunits
          currency := payment.currency
          receipt := refund.receipt }, db)) db

/-- How `provider_error` is set once the transaction of a refund has committed: to `True`, not at
all, or to what the status of the refund is then. -/
inductive ReportedError where
  | always
  | never
  | ofRefund
  deriving DecidableEq

/-- The refund is read after the commit, without a lock. -/
def ReportedError.providerError : ReportedError → Option Refund → Bool
  | .always, _ => true
  | .never, _ => false
  | .ofRefund, refund => refund.any fun r => r.status = .failed

/-- `_record_refund_failure` once it holds the refund. -/
def failLockedRefund (refund : Refund) (errorCode : String) (db : Database) :
    Except Raised (ReportedError × Database) := do
  let db ← if refund.status = .requested then
      db.updateRefund { refund with status := .failed, lastErrorCode := some errorCode }
    else .ok db
  return (.always, db)

def recordRefundFailure (prepared : RefundRequestSnapshot) (errorCode : String) (db : Database) :
    Except Raised ReportedError × Database :=
  transaction .integrityError (fun db => do
    let refund ← orRaise (db.refunds.find prepared.refundId) .attributeError
    failLockedRefund refund errorCode db) db

/-- The refund as the provider's first answer leaves it. -/
def Refund.answered (refund : Refund) (providerRefundId : String) (status : RazorpayRefundStatus)
    (now : Timestamp) : Refund :=
  let refund := { refund with providerRefundId := some providerRefundId }
  match status with
  | .processed => { refund with status := .processed, processedAt := some now }
  | .pending => { refund with status := .pending }
  | .failed => { refund with
      status := .failed
      lastErrorCode := some "provider_refund_failed" }

theorem Refund.id_answered (r : Refund) (providerRefundId : String) (status : RazorpayRefundStatus)
    (now : Timestamp) : (r.answered providerRefundId status now).id = r.id := by
  unfold Refund.answered
  split <;> rfl

/-- `_finalize_refund` once it holds both rows. -/
def finalizeLockedRefund (refund : Refund) (payment : Payment) (providerRefund : RazorpayRefund)
    (now : Timestamp) (db : Database) : Except Raised (ReportedError × Database) :=
  if refund.status ≠ .requested then return (.never, db)
  else do
    let providerRefundId ← providerRefund.id.encoded
    let db ← db.updateRefund (refund.answered providerRefundId providerRefund.status now)
    let db ← match providerRefund.status with
      | .processed => db.updatePayment { payment with status := .refunded }
      | _ => .ok db
    return (.ofRefund, db)

def finalizeRefund (prepared : RefundRequestSnapshot) (providerRefund : RazorpayRefund)
    (now : Timestamp) (db : Database) : Except Raised ReportedError × Database :=
  transaction .bookingStateConflictError (fun db => do
    let refund ← orRaise (db.refunds.find prepared.refundId) .attributeError
    let payment ← orRaise (db.payments.find prepared.paymentId) .attributeError
    finalizeLockedRefund refund payment providerRefund now db) db

/-! ### Reconciliation -/

/-- Provider inputs copied before the database transaction closes. -/
structure RefundSnapshot where
  refundId : Uuid
  providerRefundId : String
  providerPaymentId : String
  amountSubunits : Int
  currency : String
  deriving DecidableEq

/-- The join of a refund with its payment, as one snapshot. -/
def refundSnapshot (db : Database) (refund : Refund) : Option RefundSnapshot := do
  let payment ← db.payments.find refund.paymentId
  let providerRefundId ← refund.providerRefundId
  let providerPaymentId ← payment.providerPaymentId
  if refund.status = .pending then
    some {
      refundId := refund.id
      providerRefundId
      providerPaymentId
      amountSubunits := refund.amountSubunits
      currency := refund.currency }
  else none

/-- Oldest first, then by identifier. -/
def refundOrder (a b : Refund) : Bool :=
  a.createdAt < b.createdAt ∨ (a.createdAt = b.createdAt ∧ a.id ≤ b.id)

def pendingRefundSnapshots (batchSize : Nat) (db : Database) : List RefundSnapshot :=
  let ordered := db.refunds.rows.insertionSort fun a b => refundOrder a b
  (ordered.filterMap (refundSnapshot db)).take batchSize

/-- What a run of the job did with one snapshot. -/
inductive ReconciliationOutcome where
  | unchanged
  | provider (status : RazorpayRefundStatus)
  deriving DecidableEq

/-- `_apply_reconciled_refund` once it holds both rows. -/
def reconcileLockedRefund (refund : Refund) (payment : Payment) (status : RazorpayRefundStatus)
    (now : Timestamp) (db : Database) : Except Raised (ReconciliationOutcome × Database) := do
  let db ← match status with
    | .processed => do
        let db ← db.updateRefund { refund with
          status := .processed
          processedAt := some now
          lastErrorCode := none }
        db.updatePayment { payment with status := .refunded }
    | .failed => db.updateRefund { refund with
        status := .failed
        lastErrorCode := some "provider_refund_failed" }
    | .pending => .ok db
  return (.provider status, db)

def applyReconciledRefund (refundId : Uuid) (providerRefund : RazorpayRefund) (now : Timestamp)
    (db : Database) : Except Raised ReconciliationOutcome × Database :=
  transaction .integrityError (fun db =>
    match (db.refunds.find refundId).filter fun r => r.status = .pending with
    | none => return (.unchanged, db)
    | some refund => do
        let payment ← orRaise (db.payments.find refund.paymentId) .attributeError
        reconcileLockedRefund refund payment providerRefund.status now db) db

end ChargeMate
