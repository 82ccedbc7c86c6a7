import ChargeMate.FoundationVersions
import ChargeMate.RefineStationEdits
import ChargeMate.SafetyBookings

/-! No edit of a station or a charge point is lost. All requests about a station and its charge
points lock the row of the station first, so that what one has read there does not change until it
ends, and its commit patches the row that has the version it expects. -/

namespace ChargeMate

open Relational

def stationEdits : Versioning ChargingStation StationUpdateRequest where
  version := ChargingStation.version
  expects := StationUpdateRequest.version
  patch := ChargingStation.patch
  key_patch _ _ := rfl
  version_patch _ _ := rfl

def chargePointEdits : Versioning ChargePoint ChargePointUpdateRequest where
  version := ChargePoint.version
  expects := ChargePointUpdateRequest.version
  patch := ChargePoint.patch
  key_patch _ _ := rfl
  version_patch _ _ := rfl

def EditCall.stationPatch (id : Uuid) : EditCall → Option StationUpdateRequest
  | .updateStation _ stationId payload => if stationId = id then some payload else none
  | .updateChargePoint _ _ _ _ => none

def EditCall.chargePointPatch (id : Uuid) : EditCall → Option ChargePointUpdateRequest
  | .updateStation _ _ _ => none
  | .updateChargePoint _ _ chargePointId payload =>
      if chargePointId = id then some payload else none

/-- The patches of a station that have been accepted, in the order of their commits. -/
def EditState.stationPatches (s : EditState) (id : Uuid) : List StationUpdateRequest :=
  s.accepted.filterMap fun a => a.call.stationPatch id

def EditState.chargePointPatches (s : EditState) (id : Uuid) : List ChargePointUpdateRequest :=
  s.accepted.filterMap fun a => a.call.chargePointPatch id

/-- What a request does to the database when it commits. -/
def EditCall.Commits (db db' : Database) : EditCall → Prop
  | .updateStation operator stationId payload =>
      ∃ station, db.stations.find stationId = some station ∧
        operatorControlsStation operator station = true ∧ station.version = payload.version ∧
        (payload.status = some .active → db.CanActivate stationId) ∧
        db' = { db with stations := db.stations.set (station.patch payload) }
  | .updateChargePoint operator stationId chargePointId payload =>
      ∃ station point, db.stations.find stationId = some station ∧
        operatorControlsStation operator station = true ∧
        db.chargePoints.find chargePointId = some point ∧ point.stationId = stationId ∧
        point.version = payload.version ∧
        ¬(payload.Disables ∧ hasActiveChargingSession db chargePointId = true) ∧
        db' = { db with chargePoints := db.chargePoints.set (point.patch payload) }

/-- The same stations and charge points, and the same requests accepted. -/
structure EditState.Same (s s' : EditState) : Prop where
  stations : s'.db.stations = s.db.stations
  chargePoints : s'.db.chargePoints = s.db.chargePoints
  accepted : s'.accepted = s.accepted

structure EditState.Sound (s : EditState) : Prop where
  fits : ∀ (i : Nat), ∀ request ∈ s.requests[i]?, request.Fits s.db
  exclusive : ∀ (i j : Nat), ∀ x ∈ s.requests[i]?, ∀ y ∈ s.requests[j]?, ∀ row ∈ x.holds,
    row ∈ y.holds → i = j
  accepted : ∀ i call, s.requests[i]? = some ⟨call, .succeeded⟩ ↔ ⟨i, call⟩ ∈ s.accepted

/-- Every row is what the accepted patches have made of the row in an earlier state. -/
structure EditState.Records (s₀ s : EditState) : Prop where
  stations : stationEdits.Tracks s₀.db.stations s.db.stations s.stationPatches
  chargePoints : chargePointEdits.Tracks s₀.db.chargePoints s.db.chargePoints s.chargePointPatches

/-! ### Steps -/

/-- What a request does before it commits. -/
inductive EditMove (s : EditState) : EditRequest → EditRequest → Prop
  | lockStation {call : EditCall} {station : ChargingStation}
      (hfind : s.db.stations.find call.stationId = some station)
      (hfree : s.Free (.station call.stationId)) :
      EditMove s ⟨call, .received⟩ ⟨call, .stationLocked station⟩
  | loadPoints {operator : User} {stationId : Uuid} {payload : StationUpdateRequest}
      {station : ChargingStation} :
      EditMove s ⟨.updateStation operator stationId payload, .stationLocked station⟩
        ⟨.updateStation operator stationId payload,
          .pointsLoaded station (s.db.pointsOf station.id)⟩
  | lockChargePoint {operator : User} {stationId chargePointId : Uuid}
      {payload : ChargePointUpdateRequest} {station : ChargingStation} {point : ChargePoint}
      (hcontrols : operatorControlsStation operator station = true)
      (hpoint : point ∈ s.db.pointsOf stationId) (hid : point.id = chargePointId)
      (hfree : s.Free (.chargePoint chargePointId)) :
      EditMove s ⟨.updateChargePoint operator stationId chargePointId payload, .stationLocked station⟩
        ⟨.updateChargePoint operator stationId chargePointId payload,
          .chargePointLocked station point⟩
  | changeStation {operator : User} {stationId : Uuid} {payload : StationUpdateRequest}
      {station station' : ChargingStation} {points : List ChargePoint}
      (h : changeStation operator payload station points = .ok station') :
      EditMove s ⟨.updateStation operator stationId payload, .pointsLoaded station points⟩
        ⟨.updateStation operator stationId payload, .stationChanged station'⟩
  | changeChargePoint {operator : User} {stationId chargePointId : Uuid}
      {payload : ChargePointUpdateRequest} {station : ChargingStation} {point point' : ChargePoint}
      (h : changeChargePoint payload point (hasActiveChargingSession s.db point.id) = .ok point') :
      EditMove s
        ⟨.updateChargePoint operator stationId chargePointId payload, .chargePointLocked station point⟩
        ⟨.updateChargePoint operator stationId chargePointId payload, .chargePointChanged point'⟩
  | refuse {call : EditCall} {phase : EditPhase} (e : Raised) (hphase : phase ≠ .succeeded) :
      EditMove s ⟨call, phase⟩ ⟨call, .refused e⟩

inductive EditStep (s : EditState) : EditState → Prop
  | idle : EditStep s s
  | receive (call : EditCall) : EditStep s { s with requests := s.requests ++ [⟨call, .received⟩] }
  | move {i : Nat} {request request' : EditRequest} (hi : s.requests[i]? = some request)
      (hmove : EditMove s request request') : EditStep s (s.put i request')
  | commit {i : Nat} {call : EditCall} {phase : EditPhase} {db : Database}
      (hi : s.requests[i]? = some ⟨call, phase⟩) (hholds : .station call.stationId ∈
        (⟨call, phase⟩ : EditRequest).holds) (hcommits : call.Commits s.db db) :
      EditStep s (s.commit i call db)
  | other {db : Database} (hstations : db.stations = s.db.stations)
      (hpoints : db.chargePoints = s.db.chargePoints)
      (hactive : ∀ request ∈ s.requests, ∀ id ∈ request.lockedChargePoint,
        hasActiveChargingSession db id = hasActiveChargingSession s.db id) :
      EditStep s { s with db }

section

variable {s s' s₀ : EditState}

theorem EditState.lockStation_step {i : Nat} {call : EditCall}
    (hi : s.requests[i]? = some ⟨call, .received⟩) : EditStep s (s.lockStation i call) := by
  unfold EditState.lockStation
  split
  · exact .move hi (.refuse _ (by simp))
  · next station hfind =>
    split
    · next hfree => exact .move hi (.lockStation hfind hfree)
    · exact .idle

theorem EditState.lockChargePoint_step {i : Nat} {operator : User} {stationId chargePointId : Uuid}
    {payload : ChargePointUpdateRequest} {station : ChargingStation}
    (hi : s.requests[i]? = some
      ⟨.updateChargePoint operator stationId chargePointId payload, .stationLocked station⟩) :
    EditStep s (s.lockChargePoint i operator stationId chargePointId payload station) := by
  unfold EditState.lockChargePoint
  simp only
  split
  · next hcontrols =>
    split
    · exact .move hi (.refuse _ (by simp))
    · next point hpoint =>
      obtain ⟨hfind, hof⟩ := Option.filter_eq_some_iff.mp hpoint
      have hmem : point ∈ s.db.pointsOf stationId :=
        Database.mem_pointsOf.mpr ⟨Table.mem_of_find hfind, of_decide_eq_true hof⟩
      split
      · next hfree => exact .move hi (.lockChargePoint hcontrols hmem (Table.key_of_find hfind) hfree)
      · exact .idle
  · exact .move hi (.refuse _ (by simp))

theorem EditState.fail_step {i : Nat} {request : EditRequest} (hi : s.requests[i]? = some request)
    (e : Raised) : EditStep s (s.fail i request e) := by
  unfold EditState.fail
  split
  · exact .idle
  · exact .idle
  · next hsucceeded _ => exact .move hi (.refuse _ hsucceeded)

theorem EditRequest.Fits.commits_station {db : Database} {call : EditCall}
    {station' : ChargingStation} (h : EditRequest.Fits db ⟨call, .stationChanged station'⟩) :
    call.Commits db { db with stations := db.stations.set station' } := by
  cases call with
  | updateStation operator stationId payload =>
      obtain ⟨station, hfind, hcontrols, hversion, hactive, rfl, hdb⟩ :=
        updateStation_eq_ok.mp h.updateStation
      have hid : station.id = stationId := Table.key_of_find hfind
      exact ⟨station, hfind, hcontrols, hversion, hid ▸ hactive, hdb⟩
  | updateChargePoint operator stationId chargePointId payload => exact h.elim

theorem EditRequest.Fits.commits_chargePoint {db : Database} {call : EditCall}
    {point' : ChargePoint} (h : EditRequest.Fits db ⟨call, .chargePointChanged point'⟩) :
    call.Commits db { db with chargePoints := db.chargePoints.set point' } := by
  cases call with
  | updateStation operator stationId payload => exact h.elim
  | updateChargePoint operator stationId chargePointId payload =>
      obtain ⟨station, point, hfind, hcontrols, hpoint, hof, hversion, hfree, rfl, hdb⟩ :=
        updateChargePoint_eq_ok.mp h.updateChargePoint
      have hid : point.id = chargePointId := Table.key_of_find hpoint
      exact ⟨station, point, hfind, hcontrols, hpoint, hof, hversion, hid ▸ hfree, hdb⟩

theorem EditState.Sound.step (h : s.Sound) (a : EditAction) : EditStep s (s.step a) := by
  cases a with
  | receive call => exact .receive call
  | lockStation i =>
      simp only [EditState.step]
      split
      · next hi => exact EditState.lockStation_step hi
      · exact .idle
  | loadPoints i =>
      simp only [EditState.step]
      split
      · next hi => exact .move hi .loadPoints
      · exact .idle
  | lockChargePoint i =>
      simp only [EditState.step]
      split
      · next hi => exact EditState.lockChargePoint_step hi
      · exact .idle
  | check i =>
      simp only [EditState.step]
      split
      · next operator stationId payload station points hi =>
        cases hchange : changeStation operator payload station points with
        | ok station' => exact .move hi (.changeStation hchange)
        | error e => exact .move hi (.refuse e (by simp))
      · next operator stationId chargePointId payload station point hi =>
        cases hchange : changeChargePoint payload point
            (hasActiveChargingSession s.db point.id) with
        | ok point' => exact .move hi (.changeChargePoint hchange)
        | error e => exact .move hi (.refuse e (by simp))
      · exact .idle
  | commit i =>
      simp only [EditState.step]
      split
      · next call station hi => exact .commit hi (by simp [EditRequest.holds]) (h.fits i _ hi).commits_station
      · next call point hi => exact .commit hi (by simp [EditRequest.holds]) (h.fits i _ hi).commits_chargePoint
      · exact .idle
  | fail i e =>
      simp only [EditState.step]
      split
      · next request hi => exact EditState.fail_step hi e
      · exact .idle
  | other db =>
      simp only [EditState.step, EditState.other]
      split
      · next hactive => exact .other rfl rfl hactive
      · exact .idle

/-! ### What stays true -/

theorem EditState.put_cases {i j : Nat} {request x : EditRequest}
    (h : (s.put i request).requests[j]? = some x) :
    (i ≠ j ∧ s.requests[j]? = some x) ∨ (i = j ∧ x = request) := by
  rw [EditState.put, List.getElem?_set] at h
  by_cases hij : i = j
  · rw [if_pos hij] at h
    split at h
    · exact Or.inr ⟨hij, (Option.some.inj h).symm⟩
    · cases h
  · rw [if_neg hij] at h
    exact Or.inl ⟨hij, h⟩

theorem EditState.put_self {i : Nat} {request : EditRequest} (hi : s.requests[i]? = some request)
    (request' : EditRequest) : (s.put i request').requests[i]? = some request' := by
  have hlt := (List.getElem?_eq_some_iff.mp hi).1
  rw [EditState.put, List.getElem?_set_self hlt]

theorem EditState.put_of_ne {i j : Nat} (hij : i ≠ j) (request : EditRequest) :
    (s.put i request).requests[j]? = s.requests[j]? := by
  rw [EditState.put, List.getElem?_set_ne hij]

theorem EditMove.unsucceeded {r r' : EditRequest} (h : EditMove s r r') :
    r.phase ≠ .succeeded ∧ r'.phase ≠ .succeeded := by
  cases h with
  | refuse e hphase => exact ⟨hphase, by simp⟩
  | _ => simp

/-- A request takes only rows that no request holds. -/
theorem EditMove.holds {r r' : EditRequest} (h : EditMove s r r') :
    ∀ row ∈ r'.holds, row ∈ r.holds ∨ s.Free row := by
  cases h with
  | @lockStation call station hfind hfree =>
      intro row hrow
      cases call <;>
        · obtain rfl := List.mem_singleton.mp hrow
          exact Or.inr hfree
  | loadPoints => exact fun row hrow => Or.inl hrow
  | lockChargePoint hcontrols hpoint hid hfree =>
      intro row hrow
      rcases List.mem_cons.mp hrow with rfl | hrow
      · exact Or.inl (List.mem_cons_self ..)
      · obtain rfl := List.mem_singleton.mp hrow
        exact Or.inr hfree
  | changeStation _ => exact fun row hrow => Or.inl hrow
  | changeChargePoint _ => exact fun row hrow => Or.inl hrow
  | refuse e hphase => exact fun row hrow => absurd hrow List.not_mem_nil

theorem EditMove.fits {r r' : EditRequest} (h : EditMove s r r') (hfits : r.Fits s.db) :
    r'.Fits s.db := by
  cases h with
  | lockStation hfind hfree => exact hfind
  | @loadPoints operator stationId payload station =>
      have hid : station.id = stationId := Table.key_of_find hfits
      exact ⟨hfits, by rw [hid]⟩
  | lockChargePoint hcontrols hpoint hid hfree => exact ⟨hfits, hcontrols, hpoint, hid⟩
  | changeStation h =>
      obtain ⟨hfind, rfl⟩ := hfits
      exact ⟨_, hfind, h⟩
  | changeChargePoint h =>
      obtain ⟨hfind, hcontrols, hpoint, rfl⟩ := hfits
      exact ⟨_, _, hfind, hcontrols, hpoint, rfl, h⟩
  | refuse e hphase => trivial

/-- A request that is not under way reads nothing; one that is holds the row of its station. -/
theorem EditRequest.holds_station (x : EditRequest) :
    (∀ db, x.Fits db) ∨ .station x.call.stationId ∈ x.holds := by
  obtain ⟨call, phase⟩ := x
  cases phase with
  | received => exact Or.inl fun _ => trivial
  | succeeded => exact Or.inl fun _ => trivial
  | refused e => exact Or.inl fun _ => trivial
  | _ => exact Or.inr (List.mem_cons_self ..)

/-- A request that holds what another one held, or what no one did, does not share a row. -/
theorem EditState.Sound.exclusive_put (h : s.Sound) {i : Nat} {r r' : EditRequest}
    (hi : s.requests[i]? = some r) (hnew : ∀ row ∈ r'.holds, row ∈ r.holds ∨ s.Free row)
    (j k : Nat) : ∀ x ∈ (s.put i r').requests[j]?, ∀ y ∈ (s.put i r').requests[k]?,
      ∀ row ∈ x.holds, row ∈ y.holds → j = k := by
  have halone : ∀ (j : Nat) (y : EditRequest), i ≠ j → s.requests[j]? = some y →
      ∀ row ∈ r'.holds, row ∉ y.holds := by
    intro j y hij hj row hrow hy
    rcases hnew row hrow with hold | hfree
    · exact hij (h.exclusive i j r hi y hj row hold hy)
    · exact hfree y (List.mem_of_getElem? hj) hy
  intro x hx y hy row hrowx hrowy
  rcases EditState.put_cases hx with ⟨hij, hx⟩ | ⟨rfl, rfl⟩ <;>
    rcases EditState.put_cases hy with ⟨hik, hy⟩ | ⟨hik, hyr⟩
  · exact h.exclusive j k x hx y hy row hrowx hrowy
  · exact absurd hrowx (halone j x hij hx row (hyr ▸ hrowy))
  · exact absurd hrowy (halone k y hik hy row hrowx)
  · exact hik

theorem EditState.Sound.move (h : s.Sound) {i : Nat} {r r' : EditRequest}
    (hi : s.requests[i]? = some r) (hmove : EditMove s r r') : (s.put i r').Sound where
  fits j x hx := by
    rcases EditState.put_cases hx with ⟨_, hx⟩ | ⟨rfl, rfl⟩
    · exact h.fits j x hx
    · exact hmove.fits (h.fits i r hi)
  exclusive := h.exclusive_put hi hmove.holds
  accepted j call := by
    by_cases hij : i = j
    · subst hij
      rw [EditState.put_self hi]
      refine iff_of_false ?_ ?_
      · rintro ⟨rfl⟩
        exact hmove.unsucceeded.2 rfl
      · intro hmem
        have hr := (h.accepted i call).mpr hmem
        rw [hi] at hr
        cases hr
        exact hmove.unsucceeded.1 rfl
    · rw [EditState.put_of_ne hij]
      exact h.accepted j call

/-- While a request holds the row of its station, its commit does not affect another one. -/
theorem EditCall.Commits.unaffected {call : EditCall} {db db' : Database}
    (h : call.Commits db db') {x : EditRequest} (hx : x.call.stationId ≠ call.stationId) :
    x.Unaffected db db' := by
  cases call with
  | updateStation operator stationId payload =>
      obtain ⟨station, hfind, _, _, _, rfl⟩ := h
      obtain rfl : station.id = stationId := Table.key_of_find hfind
      have hkey : db.stations.find (station.patch payload).id = some station := hfind
      exact EditRequest.unaffected_setStation hkey hx
  | updateChargePoint operator stationId chargePointId payload =>
      obtain ⟨station, point, _, _, hfind, rfl, _, _, rfl⟩ := h
      obtain rfl : point.id = chargePointId := Table.key_of_find hfind
      have hkey : db.chargePoints.find (point.patch payload).id = some point := hfind
      exact EditRequest.unaffected_setChargePoint hkey rfl hx

theorem EditState.Sound.commit (h : s.Sound) {i : Nat} {call : EditCall} {phase : EditPhase}
    {db : Database} (hi : s.requests[i]? = some ⟨call, phase⟩)
    (hholds : .station call.stationId ∈ (⟨call, phase⟩ : EditRequest).holds)
    (hcommits : call.Commits s.db db) : (s.commit i call db).Sound where
  fits j x hx := by
    rcases EditState.put_cases hx with ⟨hij, hx⟩ | ⟨rfl, rfl⟩
    · rcases x.holds_station with hall | hstation
      · exact hall db
      · have hother : x.call.stationId ≠ call.stationId := by
          intro heq
          exact hij (h.exclusive i j _ hi x hx _ hholds (heq ▸ hstation))
        exact (h.fits j x hx).unaffected (hcommits.unaffected hother)
    · trivial
  exclusive := h.exclusive_put hi fun row hrow => absurd hrow List.not_mem_nil
  accepted j other := by
    rw [EditState.commit, List.mem_append, List.mem_singleton, AcceptedEdit.mk.injEq]
    by_cases hij : i = j
    · subst hij
      rw [EditState.put_self hi]
      constructor
      · rintro ⟨rfl⟩
        exact Or.inr ⟨rfl, rfl⟩
      · rintro (hmem | ⟨_, rfl⟩)
        · have hr := (h.accepted i other).mpr hmem
          rw [hi] at hr
          cases hr
          rfl
        · rfl
    · rw [EditState.put_of_ne hij, h.accepted j other]
      exact ⟨Or.inl, fun h => h.resolve_right fun heq => hij heq.1.symm⟩

theorem EditState.Sound.receive (h : s.Sound) (call : EditCall) :
    EditState.Sound { s with requests := s.requests ++ [⟨call, .received⟩] } := by
  have hnew : ∀ (j : Nat) (x : EditRequest), (s.requests ++ [⟨call, .received⟩])[j]? = some x →
      s.requests[j]? = some x ∨ x = ⟨call, .received⟩ := by
    intro j x hx
    rw [List.getElem?_append] at hx
    split at hx
    · exact Or.inl hx
    · exact Or.inr (List.mem_singleton.mp (List.mem_of_getElem? hx))
  constructor
  · intro j x hx
    rcases hnew j x hx with hold | rfl
    · exact h.fits j x hold
    · trivial
  · intro j k x hx y hy row hrowx hrowy
    rcases hnew j x hx with holdx | rfl
    · rcases hnew k y hy with holdy | rfl
      · exact h.exclusive j k x holdx y holdy row hrowx hrowy
      · exact absurd hrowy List.not_mem_nil
    · exact absurd hrowx List.not_mem_nil
  · intro j other
    rw [← h.accepted j other]
    constructor
    · intro hj
      rcases hnew j _ hj with hold | heq
      · exact hold
      · cases heq
    · intro hj
      exact List.getElem?_append_left (List.getElem?_eq_some_iff.mp hj).1 ▸ hj

theorem EditState.Sound.other (h : s.Sound) {db : Database} (hstations : db.stations = s.db.stations)
    (hpoints : db.chargePoints = s.db.chargePoints)
    (hactive : ∀ request ∈ s.requests, ∀ id ∈ request.lockedChargePoint,
      hasActiveChargingSession db id = hasActiveChargingSession s.db id) :
    EditState.Sound { s with db } where
  fits j x hx := by
    refine (h.fits j x hx).unaffected ⟨?_, ?_, hactive x (List.mem_of_getElem? hx)⟩
    · rw [hstations]
    · rw [Database.pointsOf, hpoints, Database.pointsOf]
  exclusive := h.exclusive
  accepted := h.accepted

theorem EditState.Sound.next (h : s.Sound) (hstep : EditStep s s') : s'.Sound := by
  cases hstep with
  | idle => exact h
  | receive call => exact h.receive call
  | move hi hmove => exact h.move hi hmove
  | commit hi hholds hcommits => exact h.commit hi hholds hcommits
  | other hstations hpoints hactive => exact h.other hstations hpoints hactive

theorem EditState.Initial.sound (h : s.Initial) : s.Sound where
  fits i x hx := by
    rw [h.requests] at hx
    cases hx
  exclusive i j x hx := by
    rw [h.requests] at hx
    cases hx
  accepted i call := by
    rw [h.requests, h.accepted]
    exact iff_of_false (by simp) List.not_mem_nil

/-! ### The accepted patches -/

theorem EditState.Records.same (h : EditState.Records s₀ s) (hsame : s.Same s') :
    EditState.Records s₀ s' := by
  obtain ⟨hstations, hpoints⟩ := h
  constructor
  · rw [hsame.stations]
    unfold EditState.stationPatches
    rw [hsame.accepted]
    exact hstations
  · rw [hsame.chargePoints]
    unfold EditState.chargePointPatches
    rw [hsame.accepted]
    exact hpoints

theorem EditState.stationPatches_commit (i : Nat) (call : EditCall) (db : Database) (id : Uuid) :
    (s.commit i call db).stationPatches id =
      s.stationPatches id ++ (call.stationPatch id).toList := by
  rw [EditState.stationPatches, EditState.commit, List.filterMap_append]
  cases h : call.stationPatch id <;> simp [h, EditState.stationPatches]

theorem EditState.chargePointPatches_commit (i : Nat) (call : EditCall) (db : Database) (id : Uuid) :
    (s.commit i call db).chargePointPatches id =
      s.chargePointPatches id ++ (call.chargePointPatch id).toList := by
  rw [EditState.chargePointPatches, EditState.commit, List.filterMap_append]
  cases h : call.chargePointPatch id <;> simp [h, EditState.chargePointPatches]

theorem EditState.Records.commit (h : EditState.Records s₀ s) (i : Nat) {call : EditCall}
    {db : Database} (hcommits : call.Commits s.db db) :
    EditState.Records s₀ (s.commit i call db) := by
  cases call with
  | updateStation operator stationId payload =>
      obtain ⟨station, hfind, _, hversion, _, rfl⟩ := hcommits
      constructor
      · refine h.stations.set hfind hversion.symm ?_ ?_
        · rw [EditState.stationPatches_commit, EditCall.stationPatch, if_pos rfl]
          rfl
        · intro id hid
          rw [EditState.stationPatches_commit, EditCall.stationPatch, if_neg (Ne.symm hid)]
          exact List.append_nil _
      · have hsame : (s.commit i (.updateStation operator stationId payload)
            { s.db with stations := s.db.stations.set (station.patch payload) }).chargePointPatches =
            s.chargePointPatches := by
          funext id
          rw [EditState.chargePointPatches_commit]
          exact List.append_nil _
        rw [hsame]
        exact h.chargePoints
  | updateChargePoint operator stationId chargePointId payload =>
      obtain ⟨station, point, _, _, hfind, _, hversion, _, rfl⟩ := hcommits
      constructor
      · have hsame : (s.commit i (.updateChargePoint operator stationId chargePointId payload)
            { s.db with chargePoints := s.db.chargePoints.set (point.patch payload) }).stationPatches =
            s.stationPatches := by
          funext id
          rw [EditState.stationPatches_commit]
          exact List.append_nil _
        rw [hsame]
        exact h.stations
      · refine h.chargePoints.set hfind hversion.symm ?_ ?_
        · rw [EditState.chargePointPatches_commit, EditCall.chargePointPatch, if_pos rfl]
          rfl
        · intro id hid
          rw [EditState.chargePointPatches_commit, EditCall.chargePointPatch,
            if_neg (Ne.symm hid)]
          exact List.append_nil _

/-- A step changes no station and no charge point, unless it is a commit. -/
theorem EditStep.cases (h : EditStep s s') :
    s.Same s' ∨ ∃ i call db, call.Commits s.db db ∧ s' = s.commit i call db ∧
      s'.requests[i]? = some ⟨call, .succeeded⟩ := by
  cases h with
  | idle => exact Or.inl ⟨rfl, rfl, rfl⟩
  | receive call => exact Or.inl ⟨rfl, rfl, rfl⟩
  | move hi hmove => exact Or.inl ⟨rfl, rfl, rfl⟩
  | commit hi hholds hcommits =>
      exact Or.inr ⟨_, _, _, hcommits, rfl, EditState.put_self hi _⟩
  | other hstations hpoints hactive => exact Or.inl ⟨hstations, hpoints, rfl⟩

theorem EditState.Records.next (h : EditState.Records s₀ s) (hstep : EditStep s s') :
    EditState.Records s₀ s' := by
  rcases hstep.cases with hsame | ⟨i, call, db, hcommits, rfl, _⟩
  · exact h.same hsame
  · exact h.commit i hcommits

theorem EditState.Initial.records (h : s.Initial) : EditState.Records s s where
  stations := Versioning.Tracks.refl _ fun id => by
    rw [EditState.stationPatches, h.accepted]
    rfl
  chargePoints := Versioning.Tracks.refl _ fun id => by
    rw [EditState.chargePointPatches, h.accepted]
    rfl

/-- Accepted requests about one row have expected different versions of it. -/
theorem EditState.Records.distinct (h : EditState.Records s₀ s) {a b : AcceptedEdit}
    (ha : a ∈ s.accepted) (hb : b ∈ s.accepted) (hrow : a.call.row = b.call.row)
    (hversion : a.call.version = b.call.version) : a = b := by
  obtain ⟨i, x⟩ := a
  obtain ⟨j, y⟩ := b
  cases x with
  | updateStation operator stationId payload =>
      cases y with
      | updateStation operator' stationId' payload' =>
          obtain rfl := LockedRow.station.inj hrow
          exact Versioning.eq_of_expects (h.stations.nodup stationId) ha hb
            (if_pos rfl) (if_pos rfl) hversion
      | updateChargePoint _ _ _ _ => cases hrow
  | updateChargePoint operator stationId chargePointId payload =>
      cases y with
      | updateStation _ _ _ => cases hrow
      | updateChargePoint operator' stationId' chargePointId' payload' =>
          obtain rfl := LockedRow.chargePoint.inj hrow
          exact Versioning.eq_of_expects (h.chargePoints.nodup chargePointId) ha hb
            (if_pos rfl) (if_pos rfl) hversion

/-- What holds throughout a run. -/
theorem EditState.Initial.run (hinit : s₀.Initial) (actions : List EditAction) :
    (Transition.run EditState.step s₀ actions).Sound ∧
      EditState.Records s₀ (Transition.run EditState.step s₀ actions) := by
  have hreach : Transition.Reachable EditState.step (fun s => s = s₀)
      (Transition.run EditState.step s₀ actions) := ⟨s₀, actions, rfl, rfl⟩
  refine hreach.invariant (P := fun s => s.Sound ∧ EditState.Records s₀ s) ?_ ?_
  · rintro s rfl
    exact ⟨hinit.sound, hinit.records⟩
  · rintro s a _ ⟨hsound, hrecords⟩
    exact ⟨hsound.next (hsound.step a), hrecords.next (hsound.step a)⟩

end

end ChargeMate
