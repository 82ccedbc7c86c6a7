import ChargeMate.FoundationTable
import Mathlib.Algebra.Group.Nat.Defs
import Mathlib.Data.Rat.Defs

/-! The rows of the relational schema: one structure for each mapped class, with the columns
that the services read or write. -/

namespace ChargeMate

open Relational

/-- Ordered as PostgreSQL orders its `uuid` type. -/
abbrev Uuid := BitVec 128

instance : LawfulBEq Uuid := inferInstanceAs (LawfulBEq (BitVec 128))

/-- The hexadecimal digits, the most significant one first. -/
def Uuid.digits (u : Uuid) : List Char :=
  (List.range 32).reverse.map fun i => Nat.digitChar (u.toNat / 16 ^ i % 16)

/-- `UUID.hex`: thirty-two digits. -/
def Uuid.hex (u : Uuid) : String := String.ofList u.digits

/-- `str(UUID)`: the digits in groups of 8, 4, 4, 4 and 12. -/
def Uuid.str (u : Uuid) : String :=
  String.ofList (u.digits.take 8 ++ '-' :: (u.digits.drop 8).take 4 ++
    '-' :: (u.digits.drop 12).take 4 ++ '-' :: (u.digits.drop 16).take 4 ++ '-' :: u.digits.drop 20)

/-- Microseconds of UTC since the epoch. -/
abbrev Timestamp := Int

/-- `timedelta(minutes=n)`. -/
def minutes (n : Int) : Int := n * 60000000

/-- `decimal.Decimal`, on values within the precision of the `Numeric` columns. -/
abbrev Decimal := Rat

inductive UserRole where
  | user
  | stationAdmin
  | systemAdmin
  deriving DecidableEq

/-- The authenticated user a route passes to its service. -/
structure User where
  id : Uuid
  role : UserRole
  deriving DecidableEq

inductive StationStatus where
  | draft
  | active
  | inactive
  | maintenance
  deriving DecidableEq

structure ChargingStation where
  id : Uuid
  ownerId : Uuid
  name : String
  description : Option String
  addressLine1 : String
  addressLine2 : Option String
  city : String
  state : String
  postalCode : String
  countryCode : String
  latitude : Decimal
  longitude : Decimal
  timezone : String
  phone : Option String
  is24Hours : Bool
  status : StationStatus
  version : Nat
  deriving DecidableEq

inductive ChargePointStatus where
  | available
  | outOfService
  | maintenance
  | retired
  deriving DecidableEq

/-- The check constraint `non_negative_booking_fee` is a field, as that of the bookings is. -/
structure ChargePoint where
  id : Uuid
  stationId : Uuid
  code : String
  maxPowerKw : Decimal
  bookingFee : Decimal
  nonNegativeBookingFee : 0 ≤ bookingFee
  isBookable : Bool
  status : ChargePointStatus
  version : Nat
  deriving DecidableEq

/-- Lifecycle states for a charging-slot reservation. -/
inductive BookingStatus where
  | held
  | paymentPending
  | confirmed
  | active
  | completed
  | cancelled
  | expired
  deriving DecidableEq

/-- The check constraint `positive_duration` is a field: a booking without it is not a row. -/
structure Booking where
  id : Uuid
  userId : Uuid
  chargePointId : Uuid
  startsAt : Timestamp
  endsAt : Timestamp
  positiveDuration : startsAt < endsAt
  holdExpiresAt : Option Timestamp
  status : BookingStatus
  totalAmount : Option Decimal
  currency : String
  version : Nat
  cancelledAt : Option Timestamp
  deriving DecidableEq

/-- Lifecycle states of one payment attempt. -/
inductive PaymentStatus where
  | initiated
  | orderCreated
  | authorized
  | captured
  | failed
  | refunded
  deriving DecidableEq

structure Payment where
  id : Uuid
  bookingId : Uuid
  userId : Uuid
  status : PaymentStatus
  amount : Decimal
  amountSubunits : Int
  currency : String
  idempotencyKey : Uuid
  providerOrderId : Option String
  providerPaymentId : Option String
  lastErrorCode : Option String
  deriving DecidableEq

/-- Lifecycle states of one full-payment refund. -/
inductive RefundStatus where
  | requested
  | pending
  | processed
  | failed
  deriving DecidableEq

structure Refund where
  id : Uuid
  paymentId : Uuid
  status : RefundStatus
  amount : Decimal
  amountSubunits : Int
  currency : String
  receipt : String
  providerRefundId : Option String
  lastErrorCode : Option String
  processedAt : Option Timestamp
  createdAt : Timestamp
  deriving DecidableEq

inductive ChargingSessionStatus where
  | active
  | completed
  | interrupted
  deriving DecidableEq

structure ChargingSession where
  id : Uuid
  bookingId : Uuid
  userId : Uuid
  chargePointId : Uuid
  status : ChargingSessionStatus
  startedAt : Timestamp
  endedAt : Option Timestamp
  meterStartKwh : Decimal
  meterEndKwh : Option Decimal
  energyConsumedKwh : Option Decimal
  version : Nat
  deriving DecidableEq

inductive WebhookEventStatus where
  | received
  | processed
  | ignored
  deriving DecidableEq

structure PaymentWebhookEvent where
  id : Uuid
  providerEventId : String
  eventType : String
  payloadHash : String
  status : WebhookEventStatus
  processedAt : Option Timestamp
  deriving DecidableEq

instance : Keyed ChargingStation Uuid := ⟨ChargingStation.id⟩
instance : Keyed ChargePoint Uuid := ⟨ChargePoint.id⟩
instance : Keyed Booking Uuid := ⟨Booking.id⟩
instance : Keyed Payment Uuid := ⟨Payment.id⟩
instance : Keyed Refund Uuid := ⟨Refund.id⟩
instance : Keyed ChargingSession Uuid := ⟨ChargingSession.id⟩
instance : Keyed PaymentWebhookEvent Uuid := ⟨PaymentWebhookEvent.id⟩

@[simp] theorem ChargingStation.key_eq (s : ChargingStation) : key s = s.id := rfl
@[simp] theorem ChargePoint.key_eq (p : ChargePoint) : key p = p.id := rfl
@[simp] theorem Booking.key_eq (b : Booking) : key b = b.id := rfl
@[simp] theorem Payment.key_eq (p : Payment) : key p = p.id := rfl
@[simp] theorem Refund.key_eq (r : Refund) : key r = r.id := rfl
@[simp] theorem ChargingSession.key_eq (s : ChargingSession) : key s = s.id := rfl
@[simp] theorem PaymentWebhookEvent.key_eq (e : PaymentWebhookEvent) : key e = e.id := rfl

end ChargeMate
