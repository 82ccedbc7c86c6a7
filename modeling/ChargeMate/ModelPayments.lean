import ChargeMate.ModelBookings
import ChargeMate.ModelProvider

/-! Payment orders and checkout verification: the transactions of `payments/service.py`. An
order is created in two transactions with the provider call between them, so each part of
`create_payment_order` is a function of its own. -/

namespace ChargeMate

open Relational

/-- What the application reads from its configuration, and the cryptographic and parsing
functions of the standard library, over a type of byte strings. -/
structure Env (Body : Type) where
  razorpayKeyId : Option String
  razorpayKeySecret : Option String
  razorpayWebhookSecret : Option String
  bookingHoldMinutes : Int
  encode : String → Body
  hmacSha256Hex : String → Body → String
  sha256Hex : Body → String
  jsonLoads : Body → Except JsonError Json

/-- A configured value that is neither missing nor empty. -/
def truthy (value : Option String) : Option String := value.filter fun s => s ≠ ""

section

variable {Body : Type} (env : Env Body)

/-- The key identifier and secret, when both are configured. -/
def Env.providerKeys : Option (String × String) := do
  let keyId ← truthy env.razorpayKeyId
  let keySecret ← truthy env.razorpayKeySecret
  return (keyId, keySecret)

def verifyCheckoutSignature (orderId paymentId suppliedSignature keySecret : String) : Bool :=
  env.hmacSha256Hex keySecret (env.encode (orderId ++ "|" ++ paymentId)) = suppliedSignature

def verifyWebhookSignature (rawBody : Body) (suppliedSignature webhookSecret : String) : Bool :=
  env.hmacSha256Hex webhookSecret rawBody = suppliedSignature

end

structure CreatePaymentOrderRequest where
  bookingId : Uuid
  bookingVersion : Nat
  idempotencyKey : Uuid
  deriving DecidableEq

structure VerifyCheckoutPaymentRequest where
  razorpayOrderId : String
  razorpayPaymentId : String
  razorpaySignature : String
  deriving DecidableEq

/-- Safe order details required by the checkout widget. -/
structure CheckoutOrder where
  payment : Payment
  booking : Option Booking
  publicKeyId : String
  deriving DecidableEq

/-- Values needed for the provider call after the transaction closes. -/
structure PaymentAttemptSnapshot where
  paymentId : Uuid
  bookingId : Uuid
  amountSubunits : Int
  currency : String
  deriving DecidableEq

def currencySubunits : Rat := 100

/-- An amount that is not a whole number of subunits is refused. -/
def toCurrencySubunits (amount : Decimal) : Except Raised Int := do
  let subunits := amount * currencySubunits
  ensure (subunits.den = 1) .paymentStateConflictError
  return subunits.num

def bookingCanEnterPayment (booking : Booking) (expectedVersion : Nat) (now : Timestamp) : Bool :=
  booking.status = .held ∧ booking.version = expectedVersion ∧
    timestampIsAfter booking.holdExpiresAt now ∧ ∃ amount ∈ booking.totalAmount, 0 < amount

def existingCheckout (payment : Payment) (userId bookingId : Uuid) (keyId : String)
    (db : Database) : Except Raised CheckoutOrder := do
  ensure (payment.userId = userId ∧ payment.bookingId = bookingId ∧ payment.status = .orderCreated)
    .paymentStateConflictError
  return { payment, booking := db.bookings.find bookingId, publicKeyId := keyId }

/-- The start of `create_payment_order`, up to the unlocked lookup of the idempotency key:
`none` if the attempt is to begin. -/
def lookUpOrder {Body : Type} (env : Env Body) (user : User) (payload : CreatePaymentOrderRequest)
    (db : Database) : Option (Except Raised CheckoutOrder) :=
  match env.providerKeys with
  | none => some (.error .paymentConfigurationError)
  | some (keyId, _) =>
      match db.payments.scalar fun p => p.idempotencyKey = payload.idempotencyKey with
      | some existing => some (existingCheckout existing user.id payload.bookingId keyId db)
      | none => none

/-- `_begin_payment_attempt` once it holds the booking. -/
def beginLockedAttempt (booking : Booking) (user : User) (payload : CreatePaymentOrderRequest)
    (paymentId : Uuid) (now : Timestamp) (db : Database) :
    Except Raised (PaymentAttemptSnapshot × Database) := do
  ensure (bookingCanEnterPayment booking payload.bookingVersion now) .paymentStateConflictError
  let amount ← orRaise booking.totalAmount .paymentStateConflictError
  let amountSubunits ← toCurrencySubunits amount
  let payment : Payment := {
    id := paymentId
    bookingId := booking.id
    userId := user.id
    status := .initiated
    amount
    amountSubunits
    currency := booking.currency
    idempotencyKey := payload.idempotencyKey
    providerOrderId := none
    providerPaymentId := none
    lastErrorCode := none }
  let db := db.updateBooking { booking with
    status := .paymentPending
    version := booking.version + 1 }
  let db ← db.insertPayment payment
  return ({ paymentId := payment.id
            bookingId := booking.id
            amountSubunits := payment.amountSubunits
            currency := payment.currency }, db)

def beginPaymentAttempt (user : User) (payload : CreatePaymentOrderRequest) (paymentId : Uuid)
    (now : Timestamp) (db : Database) : Except Raised PaymentAttemptSnapshot × Database :=
  transaction .paymentStateConflictError (fun db => do
    let booking ← orRaise ((db.bookings.find payload.bookingId).filter fun b => b.userId = user.id)
      .paymentStateConflictError
    beginLockedAttempt booking user payload paymentId now db) db

/-- The receipt sent with the order. -/
def orderReceipt (attempt : PaymentAttemptSnapshot) : String := "cm_" ++ attempt.paymentId.str

/-- `_finalize_provider_order` once it holds both rows, which it returns: the branch for a changed
booking commits the failure and raises afterwards. -/
def finalizeLockedOrder (payment : Payment) (booking : Booking) (providerOrder : RazorpayOrder)
    (db : Database) : Except Raised (Except Raised (Payment × Booking) × Database) := do
  let providerOrderId ← providerOrder.id.encoded
  if payment.status ≠ .initiated ∨ booking.status ≠ .paymentPending then do
    let payment := { payment with
      providerOrderId := some providerOrderId
      status := .failed
      lastErrorCode := some "booking_state_changed" }
    let db ← db.updatePayment payment
    return (.error .paymentStateConflictError, db)
  else do
    let payment := { payment with
      providerOrderId := some providerOrderId
      status := .orderCreated }
    let db ← db.updatePayment payment
    return (.ok (payment, booking), db)

def finalizeProviderOrder (paymentId bookingId : Uuid) (providerOrder : RazorpayOrder)
    (db : Database) : Except Raised (Payment × Booking) × Database :=
  let outcome := transaction .integrityError (fun db => do
    let payment ← orRaise (db.payments.find paymentId) .attributeError
    let booking ← orRaise (db.bookings.find bookingId) .attributeError
    finalizeLockedOrder payment booking providerOrder db) db
  (outcome.1.bind id, outcome.2)

/-- `HELD` while the hold is live, `EXPIRED` afterwards: where a failed payment leaves its
booking. -/
def Booking.releasedStatus (booking : Booking) (now : Timestamp) : BookingStatus :=
  if timestampIsAfter booking.holdExpiresAt now then .held else .expired

/-- A booking that awaits the payment goes back to its hold, any other is left alone. -/
def Booking.release (booking : Booking) (now : Timestamp) : Booking :=
  if booking.status = .paymentPending then
    { booking with status := booking.releasedStatus now, version := booking.version + 1 }
  else booking

/-- `_compensate_provider_failure` once it holds both rows. -/
def compensateLockedFailure (payment : Payment) (booking : Booking) (now : Timestamp)
    (db : Database) : Except Raised (Unit × Database) := do
  let db ← if payment.status = .initiated then
      db.updatePayment { payment with
        status := .failed
        lastErrorCode := some "provider_order_failed" }
    else .ok db
  return ((), db.updateBooking (booking.release now))

def compensateProviderFailure (paymentId bookingId : Uuid) (now : Timestamp) (db : Database) :
    Except Raised Unit × Database :=
  transaction .integrityError (fun db => do
    let payment ← orRaise (db.payments.find paymentId) .attributeError
    let booking ← orRaise (db.bookings.find bookingId) .attributeError
    compensateLockedFailure payment booking now db) db

section

variable {Body : Type} (env : Env Body)

/-- The `SELECT ... FOR UPDATE` of `verify_checkout_payment`. -/
def selectCheckoutPayment (user : User) (payload : VerifyCheckoutPaymentRequest) (db : Database) :
    Option Payment :=
  db.payments.scalar fun p =>
    p.providerOrderId = some payload.razorpayOrderId ∧ p.userId = user.id

/-- `verify_checkout_payment` once it holds the payment. -/
def verifyLockedPayment (payment : Payment) (payload : VerifyCheckoutPaymentRequest)
    (keySecret : String) (db : Database) : Except Raised (Payment × Database) := do
  ensure (verifyCheckoutSignature env payload.razorpayOrderId payload.razorpayPaymentId
    payload.razorpaySignature keySecret) .paymentVerificationError
  ensure (∀ id ∈ payment.providerPaymentId, id = payload.razorpayPaymentId)
    .paymentVerificationError
  if payment.providerPaymentId ≠ none ∧
      (payment.status = .authorized ∨ payment.status = .captured) then
    return (payment, db)
  else do
    ensure (payment.status = .orderCreated) .paymentVerificationError
    let payment := { payment with
      providerPaymentId := some payload.razorpayPaymentId
      status := .authorized }
    let db ← db.updatePayment payment
    return (payment, db)

/-- Authenticate the checkout fields without treating them as captured funds. The driver refuses a
NUL character in the parameter of the `SELECT`. -/
def verifyCheckoutPayment (user : User) (payload : VerifyCheckoutPaymentRequest) (db : Database) :
    Except Raised Payment × Database :=
  match truthy env.razorpayKeySecret with
  | none => (.error .paymentConfigurationError, db)
  | some keySecret => transaction .paymentVerificationError (fun db => do
      ensure (nullFree payload.razorpayOrderId) .dataError
      let payment ← orRaise (selectCheckoutPayment user payload db) .paymentVerificationError
      verifyLockedPayment env payment payload keySecret db) db

end

end ChargeMate
