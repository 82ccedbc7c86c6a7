import ChargeMate.ModelStationEdits
import ChargeMate.RefineOperations

/-! What a request that edits a station or a charge point has read is still so while it holds its
locks, and its commit is the whole of `update_station` or `update_charge_point` at once. -/

namespace ChargeMate

open Relational

def Database.pointsOf (db : Database) (stationId : Uuid) : List ChargePoint :=
  db.chargePoints.rows.filter fun p => p.stationId = stationId

theorem Database.mem_pointsOf {db : Database} {stationId : Uuid} {point : ChargePoint} :
    point ∈ db.pointsOf stationId ↔ point ∈ db.chargePoints ∧ point.stationId = stationId := by
  rw [Database.pointsOf, List.mem_filter, decide_eq_true_eq]
  exact Iff.rfl

theorem Database.canActivate_iff {db : Database} {stationId : Uuid} :
    db.CanActivate stationId ↔
      ∃ point ∈ db.pointsOf stationId, point.isBookable = true ∧ point.status = .available := by
  constructor
  · rintro ⟨point, hmem, hof, hfree⟩
    exact ⟨point, Database.mem_pointsOf.mpr ⟨hmem, hof⟩, hfree⟩
  · rintro ⟨point, hmem, hfree⟩
    obtain ⟨hmem, hof⟩ := Database.mem_pointsOf.mp hmem
    exact ⟨point, hmem, hof, hfree⟩

theorem changeStation_eq_ok {operator : User} {payload : StationUpdateRequest}
    {station station' : ChargingStation} {points : List ChargePoint} :
    changeStation operator payload station points = .ok station' ↔
      operatorControlsStation operator station = true ∧ station.version = payload.version ∧
        (payload.status = some .active →
          ∃ point ∈ points, point.isBookable = true ∧ point.status = .available) ∧
        station' = station.patch payload := by
  simp only [changeStation, bind_eq_ok, ensure_eq_ok, pure_eq_ok]
  constructor
  · rintro ⟨_, hcontrols, _, hversion, _, hactive, rfl⟩
    exact ⟨hcontrols, hversion, hactive, rfl⟩
  · rintro ⟨hcontrols, hversion, hactive, rfl⟩
    exact ⟨(), hcontrols, (), hversion, (), hactive, rfl⟩

theorem changeChargePoint_eq_ok {payload : ChargePointUpdateRequest} {point point' : ChargePoint}
    {active : Bool} :
    changeChargePoint payload point active = .ok point' ↔
      point.version = payload.version ∧ ¬(payload.Disables ∧ active = true) ∧
        point' = point.patch payload := by
  simp only [changeChargePoint, bind_eq_ok, ensure_eq_ok, pure_eq_ok]
  constructor
  · rintro ⟨_, hversion, _, hfree, rfl⟩
    exact ⟨hversion, hfree, rfl⟩
  · rintro ⟨hversion, hfree, rfl⟩
    exact ⟨(), hversion, (), hfree, rfl⟩

/-- What a request has read or computed is what it would read or compute now. -/
def EditRequest.Fits (db : Database) : EditRequest → Prop
  | ⟨_, .received⟩ | ⟨_, .succeeded⟩ | ⟨_, .refused _⟩ => True
  | ⟨call, .stationLocked station⟩ => db.stations.find call.stationId = some station
  | ⟨.updateStation _ stationId _, .pointsLoaded station points⟩ =>
      db.stations.find stationId = some station ∧ points = db.pointsOf stationId
  | ⟨.updateStation operator stationId payload, .stationChanged station'⟩ =>
      ∃ station, db.stations.find stationId = some station ∧
        changeStation operator payload station (db.pointsOf stationId) = .ok station'
  | ⟨.updateChargePoint operator stationId chargePointId _, .chargePointLocked station point⟩ =>
      db.stations.find stationId = some station ∧ operatorControlsStation operator station = true ∧
        point ∈ db.pointsOf stationId ∧ point.id = chargePointId
  | ⟨.updateChargePoint operator stationId chargePointId payload, .chargePointChanged point'⟩ =>
      ∃ station point, db.stations.find stationId = some station ∧
        operatorControlsStation operator station = true ∧ point ∈ db.pointsOf stationId ∧
        point.id = chargePointId ∧
        changeChargePoint payload point (hasActiveChargingSession db chargePointId) = .ok point'
  | _ => False

/-- What a request reads under its locks is the same in two databases. -/
structure EditRequest.Unaffected (request : EditRequest) (db db' : Database) : Prop where
  station : db'.stations.find request.call.stationId = db.stations.find request.call.stationId
  points : db'.pointsOf request.call.stationId = db.pointsOf request.call.stationId
  active : ∀ id ∈ request.lockedChargePoint,
    hasActiveChargingSession db' id = hasActiveChargingSession db id

theorem EditRequest.Fits.unaffected {request : EditRequest} {db db' : Database}
    (hfits : request.Fits db) (h : request.Unaffected db db') : request.Fits db' := by
  obtain ⟨call, phase⟩ := request
  obtain ⟨hstation, hpoints, hactive⟩ := h
  cases phase with
  | received => trivial
  | succeeded => trivial
  | refused e => trivial
  | stationLocked station => exact hstation.trans hfits
  | pointsLoaded station points =>
      cases call with
      | updateStation operator stationId payload =>
          exact ⟨hstation.trans hfits.1, hfits.2.trans hpoints.symm⟩
      | updateChargePoint operator stationId chargePointId payload => exact hfits
  | stationChanged station' =>
      cases call with
      | updateStation operator stationId payload =>
          obtain ⟨station, hfind, hchange⟩ := hfits
          exact ⟨station, hstation.trans hfind, hpoints.symm ▸ hchange⟩
      | updateChargePoint operator stationId chargePointId payload => exact hfits
  | chargePointLocked station point =>
      cases call with
      | updateStation operator stationId payload => exact hfits
      | updateChargePoint operator stationId chargePointId payload =>
          obtain ⟨hfind, hcontrols, hpoint, hid⟩ := hfits
          exact ⟨hstation.trans hfind, hcontrols, hpoints.symm ▸ hpoint, hid⟩
  | chargePointChanged point' =>
      cases call with
      | updateStation operator stationId payload => exact hfits
      | updateChargePoint operator stationId chargePointId payload =>
          obtain ⟨station, point, hfind, hcontrols, hpoint, hid, hchange⟩ := hfits
          refine ⟨station, point, hstation.trans hfind, hcontrols, hpoints.symm ▸ hpoint, hid, ?_⟩
          rw [hactive chargePointId rfl]
          exact hchange

/-! ### Commits -/

theorem EditRequest.Fits.updateStation {db : Database} {operator : User} {stationId : Uuid}
    {payload : StationUpdateRequest} {station' : ChargingStation}
    (h : EditRequest.Fits db ⟨.updateStation operator stationId payload, .stationChanged station'⟩) :
    updateStation operator stationId payload db =
      (.ok station', { db with stations := db.stations.set station' }) := by
  obtain ⟨station, hfind, hchange⟩ := h
  obtain ⟨hcontrols, hversion, hactive, rfl⟩ := changeStation_eq_ok.mp hchange
  have hid : station.id = stationId := Table.key_of_find hfind
  refine updateStation_eq_ok.mpr ⟨station, hfind, hcontrols, hversion, ?_, rfl, rfl⟩
  intro hstatus
  exact hid ▸ Database.canActivate_iff.mpr (hactive hstatus)

theorem EditRequest.Fits.updateChargePoint {db : Database} {operator : User}
    {stationId chargePointId : Uuid} {payload : ChargePointUpdateRequest} {point' : ChargePoint}
    (h : EditRequest.Fits db ⟨.updateChargePoint operator stationId chargePointId payload,
      .chargePointChanged point'⟩) :
    updateChargePoint operator stationId chargePointId payload db =
      (.ok point', { db with chargePoints := db.chargePoints.set point' }) := by
  obtain ⟨station, point, hfind, hcontrols, hpoint, rfl, hchange⟩ := h
  obtain ⟨hversion, hfree, rfl⟩ := changeChargePoint_eq_ok.mp hchange
  obtain ⟨hmem, hof⟩ := Database.mem_pointsOf.mp hpoint
  exact updateChargePoint_eq_ok.mpr
    ⟨station, point, hfind, hcontrols, Table.find_key hmem, hof, hversion, hfree, rfl, rfl⟩

/-- The write of a station does not affect the requests on other stations. -/
theorem EditRequest.unaffected_setStation {request : EditRequest} {db : Database}
    {station station' : ChargingStation} (hfind : db.stations.find station'.id = some station)
    (hother : request.call.stationId ≠ station'.id) :
    request.Unaffected db { db with stations := db.stations.set station' } where
  station := (Table.find_set (r := station') hfind _).trans (if_neg (Ne.symm hother))
  points := rfl
  active _ _ := rfl

/-- Nor does the write of a charge point those on other stations than its own. -/
theorem EditRequest.unaffected_setChargePoint {request : EditRequest} {db : Database}
    {point point' : ChargePoint} (hfind : db.chargePoints.find point'.id = some point)
    (hof : point'.stationId = point.stationId)
    (hother : request.call.stationId ≠ point.stationId) :
    request.Unaffected db { db with chargePoints := db.chargePoints.set point' } where
  station := rfl
  points := by
    refine Table.filter_set (r := point') hfind ?_ ?_
    · exact decide_eq_false (Ne.symm hother)
    · exact decide_eq_false (hof ▸ Ne.symm hother)
  active _ _ := rfl

end ChargeMate
