import ChargeMate.FoundationRun
import ChargeMate.ModelOperations
import ChargeMate.ModelRowLocks

/-! Concurrent requests to `update_station` and `update_charge_point` (`stations/service.py`),
statement by statement. A transaction reads what has been committed when each statement runs, and
its `SELECT ... FOR UPDATE` waits while another one holds the row. What it changes is seen by the
others when it commits. -/

namespace ChargeMate

open Relational

inductive EditCall where
  | updateStation (operator : User) (stationId : Uuid) (payload : StationUpdateRequest)
  | updateChargePoint (operator : User) (stationId chargePointId : Uuid)
      (payload : ChargePointUpdateRequest)

/-- The station whose row is locked first. -/
def EditCall.stationId : EditCall → Uuid
  | .updateStation _ stationId _ => stationId
  | .updateChargePoint _ stationId _ _ => stationId

/-- The row that the request is about. -/
def EditCall.row : EditCall → LockedRow
  | .updateStation _ stationId _ => .station stationId
  | .updateChargePoint _ _ chargePointId _ => .chargePoint chargePointId

/-- The version of it that the dashboard has shown. -/
def EditCall.version : EditCall → Nat
  | .updateStation _ _ payload => payload.version
  | .updateChargePoint _ _ _ payload => payload.version

/-- Where a request stands, with the rows that it has read and the row that it is going to write. -/
inductive EditPhase where
  | received
  | stationLocked (station : ChargingStation)
  | pointsLoaded (station : ChargingStation) (points : List ChargePoint)
  | chargePointLocked (station : ChargingStation) (chargePoint : ChargePoint)
  | stationChanged (station : ChargingStation)
  | chargePointChanged (chargePoint : ChargePoint)
  | succeeded
  | refused (error : Raised)
  deriving DecidableEq

structure EditRequest where
  call : EditCall
  phase : EditPhase

/-- The charge point whose row a request has locked and not yet released. -/
def EditRequest.lockedChargePoint : EditRequest → Option Uuid
  | ⟨.updateChargePoint _ _ chargePointId _, .chargePointLocked _ _⟩
  | ⟨.updateChargePoint _ _ chargePointId _, .chargePointChanged _⟩ => some chargePointId
  | _ => none

/-- The rows that it has locked. The first one is that of the station. -/
def EditRequest.holds (request : EditRequest) : List LockedRow :=
  match request.phase with
  | .received | .succeeded | .refused _ => []
  | _ => .station request.call.stationId :: request.lockedChargePoint.toList.map .chargePoint

/-- A request that has committed. -/
structure AcceptedEdit where
  request : Nat
  call : EditCall

/-- The committed database, the requests in the order in which they came, and, as history, those
that have committed, in that order. -/
structure EditState where
  db : Database
  requests : List EditRequest
  accepted : List AcceptedEdit

inductive EditAction where
  | receive (call : EditCall)
  | lockStation (i : Nat)
  | loadPoints (i : Nat)
  | lockChargePoint (i : Nat)
  | check (i : Nat)
  | commit (i : Nat)
  /-- An exception of the driver, also one from the flush or the commit. -/
  | fail (i : Nat) (error : Raised)
  /-- A transaction of another service. Of them only `create_station` writes stations or charge points,
  and it adds rows that no request here is about; those that start or complete a charging session
  hold the row of its charge point. -/
  | other (db : Database)

/-- What `update_station` does with the locked row and the charge points that came with it. -/
def changeStation (operator : User) (payload : StationUpdateRequest) (station : ChargingStation)
    (points : List ChargePoint) : Except Raised ChargingStation := do
  ensure (operatorControlsStation operator station) .stationNotFoundError
  ensure (station.version = payload.version) .stationStateConflictError
  ensure (payload.status = some .active →
      ∃ point ∈ points, point.isBookable = true ∧ point.status = .available)
    .stationStateConflictError
  return station.patch payload

/-- What `update_charge_point` does with the locked row. -/
def changeChargePoint (payload : ChargePointUpdateRequest) (chargePoint : ChargePoint)
    (active : Bool) : Except Raised ChargePoint := do
  ensure (chargePoint.version = payload.version) .stationStateConflictError
  ensure (¬(payload.Disables ∧ active = true)) .stationStateConflictError
  return chargePoint.patch payload

/-- The phase after a check: the change, or the exception after a rollback. -/
def EditPhase.after {R : Type} (changed : R → EditPhase) : Except Raised R → EditPhase
  | .ok row => changed row
  | .error e => .refused e

namespace EditState

variable (s : EditState)

def put (i : Nat) (request : EditRequest) : EditState :=
  { s with requests := s.requests.set i request }

/-- No request holds the row. -/
def Free (row : LockedRow) : Prop := ∀ request ∈ s.requests, row ∉ request.holds

instance (row : LockedRow) : Decidable (s.Free row) := by
  unfold Free
  infer_instance

/-- `SELECT ... FOR UPDATE` on the station: it waits while another request holds the row. -/
def lockStation (i : Nat) (call : EditCall) : EditState :=
  match s.db.stations.find call.stationId with
  | none => s.put i ⟨call, .refused .stationNotFoundError⟩
  | some station =>
      if s.Free (.station call.stationId) then s.put i ⟨call, .stationLocked station⟩ else s

/-- The check of the operator and the `SELECT ... FOR UPDATE` on the charge point. -/
def lockChargePoint (i : Nat) (operator : User) (stationId chargePointId : Uuid)
    (payload : ChargePointUpdateRequest) (station : ChargingStation) : EditState :=
  let call := .updateChargePoint operator stationId chargePointId payload
  if operatorControlsStation operator station = true then
    match (s.db.chargePoints.find chargePointId).filter fun p => p.stationId = stationId with
    | none => s.put i ⟨call, .refused .stationNotFoundError⟩
    | some chargePoint =>
        if s.Free (.chargePoint chargePointId) then
          s.put i ⟨call, .chargePointLocked station chargePoint⟩
        else s
  else s.put i ⟨call, .refused .stationNotFoundError⟩

/-- `db.session.commit()`, with the transaction's writes as they are then. -/
def commit (i : Nat) (call : EditCall) (db : Database) : EditState :=
  { s.put i ⟨call, .succeeded⟩ with db, accepted := s.accepted ++ [⟨i, call⟩] }

/-- Roll back and raise. -/
def fail (i : Nat) (request : EditRequest) (error : Raised) : EditState :=
  match request.phase with
  | .succeeded | .refused _ => s
  | _ =>
      s.put i ⟨request.call,
        .refused (if error = .integrityError then .stationConflictError else error)⟩

/-- It waits while a request holds a charge point whose use it changes. -/
def other (db : Database) : EditState :=
  if ∀ request ∈ s.requests, ∀ id ∈ request.lockedChargePoint,
      hasActiveChargingSession db id = hasActiveChargingSession s.db id then
    { s with db := { db with stations := s.db.stations, chargePoints := s.db.chargePoints } }
  else s

def step : EditAction → EditState
  | .receive call => { s with requests := s.requests ++ [⟨call, .received⟩] }
  | .lockStation i =>
      match s.requests[i]? with
      | some ⟨call, .received⟩ => s.lockStation i call
      | _ => s
  | .loadPoints i =>
      match s.requests[i]? with
      | some ⟨.updateStation operator stationId payload, .stationLocked station⟩ =>
          s.put i ⟨.updateStation operator stationId payload, .pointsLoaded station
            (s.db.chargePoints.rows.filter fun p => p.stationId = station.id)⟩
      | _ => s
  | .lockChargePoint i =>
      match s.requests[i]? with
      | some ⟨.updateChargePoint operator stationId chargePointId payload, .stationLocked station⟩ =>
          s.lockChargePoint i operator stationId chargePointId payload station
      | _ => s
  | .check i =>
      match s.requests[i]? with
      | some ⟨.updateStation operator stationId payload, .pointsLoaded station points⟩ =>
          s.put i ⟨.updateStation operator stationId payload,
            .after .stationChanged (changeStation operator payload station points)⟩
      | some ⟨.updateChargePoint operator stationId chargePointId payload,
            .chargePointLocked _ chargePoint⟩ =>
          s.put i ⟨.updateChargePoint operator stationId chargePointId payload,
            .after .chargePointChanged (changeChargePoint payload chargePoint
              (hasActiveChargingSession s.db chargePoint.id))⟩
      | _ => s
  | .commit i =>
      match s.requests[i]? with
      | some ⟨call, .stationChanged station⟩ =>
          s.commit i call { s.db with stations := s.db.stations.set station }
      | some ⟨call, .chargePointChanged chargePoint⟩ =>
          s.commit i call { s.db with chargePoints := s.db.chargePoints.set chargePoint }
      | _ => s
  | .fail i error =>
      match s.requests[i]? with
      | some request => s.fail i request error
      | none => s
  | .other db => s.other db

/-- No request has come yet; the database is arbitrary. -/
structure Initial : Prop where
  requests : s.requests = []
  accepted : s.accepted = []

end EditState

end ChargeMate
