import ChargeMate.ModelDatabase
import Mathlib.Data.List.Sort

/-! Booking holds: the transactions of `bookings/service.py` and the expiry batch of
`maintenance/service.py`. -/

namespace ChargeMate

open Relational

def blockingBookingStatuses : List BookingStatus := [.held, .paymentPending, .confirmed, .active]

def cancellableBookingStatuses : List BookingStatus := [.held, .paymentPending, .confirmed]

def maximumBookingDuration : Int := minutes 480

/-- A validated request: `validate_time_range` has accepted it. -/
structure BookingHoldRequest where
  chargePointId : Uuid
  startsAt : Timestamp
  endsAt : Timestamp
  endsLater : startsAt < endsAt
  notTooLong : endsAt - startsAt ≤ maximumBookingDuration

structure BookingListQuery where
  status : Option BookingStatus
  page : Nat
  perPage : Nat
  positivePage : 1 ≤ page
  perPageRange : 1 ≤ perPage ∧ perPage ≤ 100

/-- One page of a user's bookings plus pagination metadata. -/
structure BookingPage where
  items : List Booking
  total : Nat
  page : Nat
  perPage : Nat

/-- `timestamp_is_after`: a missing timestamp is after nothing. -/
def timestampIsAfter (timestamp : Option Timestamp) (reference : Timestamp) : Bool :=
  match timestamp with
  | none => false
  | some t => reference < t

/-- `status = HELD AND hold_expires_at <= now`, which is not true of a null timestamp. -/
def Booking.holdLapsed (b : Booking) (now : Timestamp) : Bool :=
  b.status = .held ∧ ∃ t ∈ b.holdExpiresAt, t ≤ now

/-- The `SET` clause of the three expiry statements. -/
def Booking.expire (b : Booking) : Booking := { b with status := .expired, version := b.version + 1 }

@[simp] theorem Booking.id_expire (b : Booking) : b.expire.id = b.id := rfl
@[simp] theorem Booking.status_expire (b : Booking) : b.expire.status = .expired := rfl

/-- The lapsed holds among some rows become `EXPIRED`. -/
def expireHolds (among : Booking → Bool) (now : Timestamp) (db : Database) : Database :=
  { db with bookings :=
      db.bookings.updateWhere (fun b => among b && b.holdLapsed now) Booking.expire fun _ => rfl }

def expireStaleHolds (chargePointId : Uuid) (now : Timestamp) (db : Database) : Database :=
  expireHolds (fun b => b.chargePointId = chargePointId) now db

def expireUserStaleHolds (userId : Uuid) (now : Timestamp) (db : Database) : Database :=
  expireHolds (fun b => b.userId = userId) now db

/-- The charge point is read with its station, by an inner join. -/
def chargePointAcceptsBookings (db : Database) (chargePoint : ChargePoint) : Bool :=
  match db.stations.find chargePoint.stationId with
  | none => false
  | some station =>
      chargePoint.isBookable ∧ chargePoint.status = .available ∧ station.status = .active

def hasOverlappingBooking (db : Database) (chargePointId : Uuid) (startsAt endsAt : Timestamp) :
    Bool :=
  db.bookings.rows.any fun b =>
    b.chargePointId = chargePointId ∧ b.status ∈ blockingBookingStatuses ∧
      b.startsAt < endsAt ∧ startsAt < b.endsAt

/-- Lock a charge point and atomically create a temporary booking hold. -/
def createBookingHold (holdMinutes : Int) (user : User) (payload : BookingHoldRequest)
    (bookingId : Uuid) (now : Timestamp) (db : Database) : Except Raised Booking × Database :=
  if payload.startsAt ≤ now then (.error .bookingTimeError, db)
  else transaction .bookingUnavailableError (fun db => do
    let chargePoint ← orRaise (db.chargePoints.find payload.chargePointId) .bookingUnavailableError
    ensure (chargePointAcceptsBookings db chargePoint) .bookingUnavailableError
    let db := expireStaleHolds chargePoint.id now db
    ensure (¬hasOverlappingBooking db chargePoint.id payload.startsAt payload.endsAt)
      .bookingUnavailableError
    let booking : Booking := {
      id := bookingId
      userId := user.id
      chargePointId := chargePoint.id
      startsAt := payload.startsAt
      endsAt := payload.endsAt
      positiveDuration := payload.endsLater
      holdExpiresAt := some (now + minutes holdMinutes)
      status := .held
      totalAmount := some chargePoint.bookingFee
      currency := "INR"
      version := 1
      cancelledAt := none }
    let db ← db.insertBooking booking
    return (booking, db)) db

/-- Newest start first, then by identifier. -/
def bookingListOrder (a b : Booking) : Bool :=
  b.startsAt < a.startsAt ∨ (a.startsAt = b.startsAt ∧ a.id ≤ b.id)

/-- Expire stale holds and return a filtered page owned by one user. -/
def findUserBookings (userId : Uuid) (query : BookingListQuery) (now : Timestamp)
    (db : Database) : Except Raised BookingPage × Database :=
  let db := expireUserStaleHolds userId now db
  let matching := db.bookings.rows.filter fun b =>
    b.userId = userId ∧ ∀ s ∈ query.status, b.status = s
  let ordered := matching.insertionSort (fun a b => bookingListOrder a b)
  ((pageOf query.page query.perPage ordered).map fun items => {
    items
    total := matching.length
    page := query.page
    perPage := query.perPage }, db)

/-- Return one user-owned booking after applying hold expiration. -/
def getUserBooking (userId bookingId : Uuid) (now : Timestamp) (db : Database) :
    Option Booking × Database :=
  let db := expireUserStaleHolds userId now db
  ((db.bookings.find bookingId).filter fun b => b.userId = userId, db)

/-- Cancel a booking only if its current state and version still match. -/
def cancelUserBooking (userId bookingId : Uuid) (expectedVersion : Nat) (now : Timestamp)
    (db : Database) : Except Raised (Option Booking) × Database :=
  transaction .integrityError (fun db => do
    let booking ← orRaise (db.bookings.find bookingId) .bookingStateConflictError
    ensure (booking.userId = userId ∧ booking.version = expectedVersion ∧
      booking.status ∈ cancellableBookingStatuses ∧
      (booking.status ≠ .held ∨ timestampIsAfter booking.holdExpiresAt now))
      .bookingStateConflictError
    let db := db.updateBooking { booking with
      status := .cancelled
      cancelledAt := some now
      version := booking.version + 1 }
    return (db.bookings.find bookingId, db)) db

/-- The identifiers of one batch of `expire_stale_booking_holds`: the lapsed holds that no other
transaction has locked, oldest expiry first. -/
def staleHoldBatch (now : Timestamp) (batchSize : Nat) (locked : List Uuid) (db : Database) :
    List Uuid :=
  let stale := db.bookings.rows.filter fun b => b.holdLapsed now ∧ b.id ∉ locked
  let ordered := stale.insertionSort fun a b =>
    a.holdExpiresAt.getD 0 < b.holdExpiresAt.getD 0 ∨
      (a.holdExpiresAt = b.holdExpiresAt ∧ a.id ≤ b.id)
  (ordered.take batchSize).map Booking.id

/-- Expire one locked batch of abandoned unpaid booking holds. -/
def expireStaleBookingHolds (now : Timestamp) (batchSize : Nat) (locked : List Uuid)
    (db : Database) : Nat × Database :=
  let bookingIds := staleHoldBatch now batchSize locked db
  let expired := db.bookings.rows.filter fun b => b.id ∈ bookingIds ∧ b.holdLapsed now
  (expired.length, expireHolds (fun b => b.id ∈ bookingIds) now db)

end ChargeMate
