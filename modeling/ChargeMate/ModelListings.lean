import ChargeMate.ModelSearches

/-! The paginated listings: the queue of an operator (`charging_sessions/service.py`), the stations
of an owner and the public search (`stations/service.py`). Those of a user's bookings and sessions
stand with the other functions of their services. -/

namespace ChargeMate

open Relational

/-! ### The queue of an operator -/

structure ChargingOperationListQuery where
  stationId : Option Uuid
  page : Nat
  perPage : Nat
  positivePage : 1 ≤ page
  perPageRange : 1 ≤ perPage ∧ perPage ≤ 100

structure ChargingOperationPage where
  items : List Booking
  total : Nat
  page : Nat
  perPage : Nat

/-- The inner joins and the `WHERE` clause of `base_query`. -/
def isOperatorOperation (operator : User) (stationId : Option Uuid) (now : Timestamp)
    (db : Database) (booking : Booking) : Bool :=
  (booking.status = .active ∨ (booking.status = .confirmed ∧ now < booking.endsAt)) ∧
    ∃ chargePoint ∈ db.chargePoints.find booking.chargePointId,
      ∃ station ∈ db.stations.find chargePoint.stationId,
        (operator.role = .systemAdmin ∨ station.ownerId = operator.id) ∧
          ∀ id ∈ stationId, station.id = id

/-- Earliest start first, then by identifier. -/
def operationListOrder (a b : Booking) : Bool :=
  a.startsAt < b.startsAt ∨ (a.startsAt = b.startsAt ∧ a.id ≤ b.id)

/-- Return actionable bookings only for stations controlled by an operator. -/
def findOperatorChargingOperations (operator : User) (query : ChargingOperationListQuery)
    (now : Timestamp) (db : Database) : Except Raised ChargingOperationPage :=
  let matching := db.bookings.rows.filter (isOperatorOperation operator query.stationId now db)
  let ordered := matching.insertionSort fun a b => operationListOrder a b
  (pageOf query.page query.perPage ordered).map fun items => {
    items
    total := matching.length
    page := query.page
    perPage := query.perPage }

/-! ### Stations -/

variable (env : ListingEnv)

structure OwnedStationListQuery where
  page : Nat
  perPage : Nat
  positivePage : 1 ≤ page
  perPageRange : 1 ≤ perPage ∧ perPage ≤ 100

def PyDecimal.value (d : PyDecimal) : Decimal :=
  let magnitude : Decimal :=
    if 0 ≤ d.exponent then d.digits * 10 ^ d.exponent.toNat
    else d.digits / 10 ^ (-d.exponent).toNat
  if d.negative then -magnitude else magnitude

end ChargeMate
