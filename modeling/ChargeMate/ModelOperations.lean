import ChargeMate.ModelBookings

/-! What operators do: charging sessions (`charging_sessions/service.py`) and the creation and the
updates of stations and charge points (`stations/service.py`). -/

namespace ChargeMate

open Relational

def earlyStartMinutes : Int := 15

/-- A validated request: at most 12 digits, of which 3 decimal places, make the reading. -/
structure StartChargingSessionRequest where
  bookingId : Uuid
  bookingVersion : Nat
  meterStartKwh : Decimal
  nonNegativeMeterStart : 0 ≤ meterStartKwh
  meterStartFits : Numeric 12 3 meterStartKwh

structure CompleteChargingSessionRequest where
  version : Nat
  meterEndKwh : Decimal
  nonNegativeMeterEnd : 0 ≤ meterEndKwh
  meterEndFits : Numeric 12 3 meterEndKwh

/-- `_operator_controls_station`. -/
def operatorControlsStation (operator : User) (station : ChargingStation) : Bool :=
  operator.role = .systemAdmin ∨ station.ownerId = operator.id

def operatorControlsChargePoint (db : Database) (operator : User) (chargePoint : ChargePoint) :
    Bool :=
  operator.role = .systemAdmin ∨
    ∃ station ∈ db.stations.find chargePoint.stationId, station.ownerId = operator.id

def insideStartWindow (booking : Booking) (now : Timestamp) : Bool :=
  booking.startsAt - minutes earlyStartMinutes ≤ now ∧ now < booking.endsAt

/-- The `SELECT ... LIMIT 1` that looks for current usage of a charge point. -/
def hasActiveChargingSession (db : Database) (chargePointId : Uuid) : Bool :=
  db.chargingSessions.rows.any fun s => s.chargePointId = chargePointId ∧ s.status = .active

/-- `start_charging_session` up to its ownership check. -/
def checkStart (operator : User) (payload : StartChargingSessionRequest) (now : Timestamp)
    (db : Database) : Except Raised Booking := do
  let booking ← orRaise (db.bookings.find payload.bookingId) .chargingSessionStateConflictError
  ensure (booking.status = .confirmed ∧ booking.version = payload.bookingVersion)
    .chargingSessionStateConflictError
  ensure (insideStartWindow booking now) .chargingSessionTimeError
  let chargePoint ← orRaise (db.chargePoints.find booking.chargePointId)
    .chargingSessionForbiddenError
  ensure (operatorControlsChargePoint db operator chargePoint) .chargingSessionForbiddenError
  return booking

/-- Atomically turn one confirmed booking into active charger usage. -/
def startChargingSession (operator : User) (payload : StartChargingSessionRequest)
    (sessionId : Uuid) (now : Timestamp) (db : Database) :
    Except Raised ChargingSession × Database :=
  transaction .chargingSessionStateConflictError (fun db => do
    let booking ← checkStart operator payload now db
    ensure (¬hasActiveChargingSession db booking.chargePointId) .chargingSessionStateConflictError
    let chargingSession : ChargingSession := {
      id := sessionId
      bookingId := booking.id
      userId := booking.userId
      chargePointId := booking.chargePointId
      status := .active
      startedAt := now
      endedAt := none
      meterStartKwh := payload.meterStartKwh
      meterEndKwh := none
      energyConsumedKwh := none
      version := 1 }
    let db := db.updateBooking { booking with status := .active, version := booking.version + 1 }
    let db ← db.insertChargingSession chargingSession
    return (chargingSession, db)) db

/-- Finish an active session and calculate consumed energy atomically. -/
def completeChargingSession (operator : User) (sessionId : Uuid)
    (payload : CompleteChargingSessionRequest) (now : Timestamp) (db : Database) :
    Except Raised ChargingSession × Database :=
  transaction .integrityError (fun db => do
    let chargingSession ← orRaise (db.chargingSessions.find sessionId)
      .chargingSessionStateConflictError
    ensure (chargingSession.status = .active ∧ chargingSession.version = payload.version)
      .chargingSessionStateConflictError
    ensure (chargingSession.meterStartKwh ≤ payload.meterEndKwh) .chargingSessionMeterError
    let booking ← orRaise (db.bookings.find chargingSession.bookingId) .attributeError
    ensure (booking.status = .active) .chargingSessionStateConflictError
    let chargePoint ← orRaise (db.chargePoints.find chargingSession.chargePointId)
      .chargingSessionForbiddenError
    ensure (operatorControlsChargePoint db operator chargePoint) .chargingSessionForbiddenError
    let chargingSession := { chargingSession with
      status := .completed
      endedAt := some now
      meterEndKwh := some payload.meterEndKwh
      energyConsumedKwh := some (payload.meterEndKwh - chargingSession.meterStartKwh)
      version := chargingSession.version + 1 }
    let db ← db.updateChargingSession chargingSession
    let db := db.updateBooking { booking with
      status := .completed
      version := booking.version + 1 }
    return (chargingSession, db)) db

/-! ### The sessions of a user -/

structure ChargingSessionListQuery where
  status : Option ChargingSessionStatus
  page : Nat
  perPage : Nat
  positivePage : 1 ≤ page
  perPageRange : 1 ≤ perPage ∧ perPage ≤ 100

/-- One page of a user's charging sessions and pagination metadata. -/
structure ChargingSessionPage where
  items : List ChargingSession
  total : Nat
  page : Nat
  perPage : Nat

/-- Newest start first, then by identifier. -/
def chargingSessionListOrder (a b : ChargingSession) : Bool :=
  b.startedAt < a.startedAt ∨ (a.startedAt = b.startedAt ∧ a.id ≤ b.id)

/-- Return a filtered page of sessions owned by one user. -/
def findUserChargingSessions (userId : Uuid) (query : ChargingSessionListQuery) (db : Database) :
    Except Raised ChargingSessionPage :=
  let matching := db.chargingSessions.rows.filter fun s =>
    s.userId = userId ∧ ∀ status ∈ query.status, s.status = status
  let ordered := matching.insertionSort (fun a b => chargingSessionListOrder a b)
  (pageOf query.page query.perPage ordered).map fun items => {
    items
    total := matching.length
    page := query.page
    perPage := query.perPage }

/-- Return one charging session only when the user owns it. -/
def getUserChargingSession (userId sessionId : Uuid) (db : Database) : Option ChargingSession :=
  (db.chargingSessions.find sessionId).filter fun s => s.userId = userId

/-! ### Stations and charge points -/

/-- A field of a patch: `none` when it is not set in the request. -/
def patched {α : Type} (change : Option α) (stored : α) : α := change.getD stored

/-- What the request validates and the row has, the patched row has. -/
theorem patched_of {α : Type} {P : α → Prop} {change : Option α} {stored : α}
    (hchange : ∀ x ∈ change, P x) (hstored : P stored) : P (patched change stored) := by
  cases change with
  | none => exact hstored
  | some x => exact hchange x rfl

/-- Editable station fields plus the dashboard's expected version; the nullable ones can be
set to null. -/
structure StationUpdateRequest where
  version : Nat
  name : Option String
  description : Option (Option String)
  addressLine1 : Option String
  addressLine2 : Option (Option String)
  city : Option String
  state : Option String
  postalCode : Option String
  countryCode : Option String
  latitude : Option Decimal
  longitude : Option Decimal
  timezone : Option String
  phone : Option (Option String)
  is24Hours : Option Bool
  status : Option StationStatus

/-- Editable charge-point fields plus its expected version. -/
structure ChargePointUpdateRequest where
  version : Nat
  maxPowerKw : Option Decimal
  bookingFee : Option Decimal
  nonNegativeBookingFee : ∀ fee ∈ bookingFee, 0 ≤ fee
  isBookable : Option Bool
  status : Option ChargePointStatus

/-- The station as an accepted patch leaves it. -/
def ChargingStation.patch (station : ChargingStation) (payload : StationUpdateRequest) :
    ChargingStation :=
  { station with
    name := patched payload.name station.name
    description := patched payload.description station.description
    addressLine1 := patched payload.addressLine1 station.addressLine1
    addressLine2 := patched payload.addressLine2 station.addressLine2
    city := patched payload.city station.city
    state := patched payload.state station.state
    postalCode := patched payload.postalCode station.postalCode
    countryCode := patched payload.countryCode station.countryCode
    latitude := patched payload.latitude station.latitude
    longitude := patched payload.longitude station.longitude
    timezone := patched payload.timezone station.timezone
    phone := patched payload.phone station.phone
    is24Hours := patched payload.is24Hours station.is24Hours
    status := patched payload.status station.status
    version := station.version + 1 }

/-- The charge point as an accepted patch leaves it. -/
def ChargePoint.patch (point : ChargePoint) (payload : ChargePointUpdateRequest) : ChargePoint :=
  { point with
    maxPowerKw := patched payload.maxPowerKw point.maxPowerKw
    bookingFee := patched payload.bookingFee point.bookingFee
    nonNegativeBookingFee := patched_of payload.nonNegativeBookingFee point.nonNegativeBookingFee
    isBookable := patched payload.isBookable point.isBookable
    status := patched payload.status point.status
    version := point.version + 1 }

@[simp] theorem ChargingStation.id_patch (station : ChargingStation) (payload : StationUpdateRequest) :
    (station.patch payload).id = station.id := rfl
@[simp] theorem ChargePoint.id_patch (point : ChargePoint) (payload : ChargePointUpdateRequest) :
    (point.patch payload).id = point.id := rfl

/-- `disables_charger`. -/
def ChargePointUpdateRequest.Disables (payload : ChargePointUpdateRequest) : Prop :=
  payload.isBookable = some false ∨ ∃ status ∈ payload.status, status ≠ .available

instance (payload : ChargePointUpdateRequest) : Decidable payload.Disables := by
  unfold ChargePointUpdateRequest.Disables
  infer_instance

/-- Update an owned station only when the dashboard version is current. -/
def updateStation (operator : User) (stationId : Uuid) (payload : StationUpdateRequest)
    (db : Database) : Except Raised ChargingStation × Database :=
  transaction .stationConflictError (fun db => do
    let station ← orRaise (db.stations.find stationId) .stationNotFoundError
    ensure (operatorControlsStation operator station) .stationNotFoundError
    ensure (station.version = payload.version) .stationStateConflictError
    ensure (payload.status = some .active → ∃ point ∈ db.chargePoints.rows,
        point.stationId = station.id ∧ point.isBookable ∧ point.status = .available)
      .stationStateConflictError
    let station := station.patch payload
    return (station, { db with stations := db.stations.set station })) db

/-- Update one owned charger with locks and optimistic concurrency. -/
def updateChargePoint (operator : User) (stationId chargePointId : Uuid)
    (payload : ChargePointUpdateRequest) (db : Database) :
    Except Raised ChargePoint × Database :=
  transaction .stationConflictError (fun db => do
    let station ← orRaise (db.stations.find stationId) .stationNotFoundError
    ensure (operatorControlsStation operator station) .stationNotFoundError
    let chargePoint ← orRaise
      ((db.chargePoints.find chargePointId).filter fun point => point.stationId = stationId)
      .stationNotFoundError
    ensure (chargePoint.version = payload.version) .stationStateConflictError
    ensure (¬(payload.Disables ∧ hasActiveChargingSession db chargePoint.id))
      .stationStateConflictError
    let chargePoint := chargePoint.patch payload
    return (chargePoint, { db with chargePoints := db.chargePoints.set chargePoint })) db

/-! ### New stations -/

structure ChargePointCreateRequest where
  code : String
  maxPowerKw : Decimal
  bookingFee : Decimal
  nonNegativeBookingFee : 0 ≤ bookingFee
  isBookable : Bool

/-- Validated input for a station and its initial charge points. -/
structure StationCreateRequest where
  name : String
  description : Option String
  addressLine1 : String
  addressLine2 : Option String
  city : String
  state : String
  postalCode : String
  countryCode : String
  latitude : Decimal
  longitude : Decimal
  timezone : String
  phone : Option String
  is24Hours : Bool
  chargePoints : List ChargePointCreateRequest
  uniqueCodes : (chargePoints.map ChargePointCreateRequest.code).Nodup

def StationCreateRequest.station (payload : StationCreateRequest) (owner : User)
    (stationId : Uuid) : ChargingStation where
  id := stationId
  ownerId := owner.id
  name := payload.name
  description := payload.description
  addressLine1 := payload.addressLine1
  addressLine2 := payload.addressLine2
  city := payload.city
  state := payload.state
  postalCode := payload.postalCode
  countryCode := payload.countryCode
  latitude := payload.latitude
  longitude := payload.longitude
  timezone := payload.timezone
  phone := payload.phone
  is24Hours := payload.is24Hours
  status := .draft
  version := 1

def ChargePointCreateRequest.chargePoint (payload : ChargePointCreateRequest)
    (stationId id : Uuid) : ChargePoint where
  id
  stationId
  code := payload.code
  maxPowerKw := payload.maxPowerKw
  bookingFee := payload.bookingFee
  nonNegativeBookingFee := payload.nonNegativeBookingFee
  isBookable := payload.isBookable
  status := .available
  version := 1

def StationCreateRequest.points (payload : StationCreateRequest) (stationId : Uuid)
    (pointIds : List Uuid) : List ChargePoint :=
  (payload.chargePoints.zip pointIds).map fun (point, id) => point.chargePoint stationId id

def Database.insertStation (db : Database) (station : ChargingStation) :
    Except Raised Database := do
  let stations ← orRaise (db.stations.insert station) .integrityError
  return { db with stations }

def Database.insertChargePoint (db : Database) (point : ChargePoint) : Except Raised Database := do
  ensure (∀ p ∈ db.chargePoints, ¬(p.stationId = point.stationId ∧ p.code = point.code))
    .integrityError
  let chargePoints ← orRaise (db.chargePoints.insert point) .integrityError
  return { db with chargePoints }

/-- Create a station and all its initial charge points atomically. -/
def createStation (owner : User) (payload : StationCreateRequest) (stationId : Uuid)
    (pointIds : List Uuid) (db : Database) : Except Raised ChargingStation × Database :=
  transaction .stationConflictError (fun db => do
    let station := payload.station owner stationId
    let db ← db.insertStation station
    let db ← (payload.points stationId pointIds).foldlM Database.insertChargePoint db
    return (station, db)) db

end ChargeMate
