import Mathlib.Algebra.Group.Int.Defs
import Mathlib.Data.List.Forall2
import Mathlib.Data.List.ReduceOption
import ChargeMate.ModelExternal

/-! Malformed records of Open Charge Map: which records of an answer cost only themselves, and
which cost the whole search or the validity of the response. -/

namespace ChargeMate

mutual

/-- JSON has no text for an infinity or a NaN. -/
def Json.valid : Json → Bool
  | .float x => x.isFinite
  | .arr items => validItems items
  | .obj fields => validFields fields
  | _ => true

def validItems : List Json → Bool
  | [] => true
  | value :: items => value.valid && validItems items

def validFields : List (PyStr × Json) → Bool
  | [] => true
  | (_, value) :: fields => value.valid && validFields fields

end

theorem valid_arr (items : List Json) :
    (Json.arr items).valid = true ↔ ∀ v ∈ items, v.valid = true := by
  rw [Json.valid]
  induction items with
  | nil => simp [validItems]
  | cons v items ih => simp [validItems, ih]

/-- A value that is false is a number zero, a truth value, empty or `None`. -/
theorem Json.valid_of_not_truthy {v : Json} (h : v.truthy = false) : v.valid = true := by
  cases v with
  | float x =>
      cases x with
      | finite => rfl
      | infinity | nan => cases h
  | arr items =>
      cases items with
      | nil => rfl
      | cons => cases h
  | obj fields =>
      cases fields with
      | nil => rfl
      | cons => cases h
  | null | bool | int | str => rfl

theorem Json.valid_ofFloat (x : Option PyFloat) :
    (Json.ofFloat x).valid = true ↔ ∀ y ∈ x, y.isFinite = true := by
  cases x <;> simp [Json.ofFloat, Json.valid]

/-! ### Conversions -/

/-- An integer that `float` cannot convert. -/
def Json.Overflows (v : Json) : Prop := ∃ n : Int, v = .int n ∧ doubleLimit ≤ n.natAbs

section

variable {env : ExternalEnv}

theorem Json.not_overflows {v : Json} (h : ∀ n, v ≠ .int n) : ¬v.Overflows :=
  fun ⟨n, hn, _⟩ => h n hn

/-- A conversion overflows, succeeds, or raises an error that the handlers name. -/
theorem pyFloat_cases (env : ExternalEnv) (v : Json) :
    (v.Overflows ∧ pyFloat env v = .error .overflowError) ∨
    (¬v.Overflows ∧ ((∃ x, pyFloat env v = .ok x) ∨ pyFloat env v = .error .typeError ∨
      pyFloat env v = .error .valueError)) := by
  cases v with
  | int n =>
      by_cases hlimit : doubleLimit ≤ n.natAbs
      · exact Or.inl ⟨⟨n, rfl, hlimit⟩, by rw [pyFloat, if_pos hlimit]⟩
      · refine Or.inr ⟨?_, Or.inl ⟨_, by rw [pyFloat, if_neg hlimit]⟩⟩
        rintro ⟨m, hm, hover⟩
        cases hm
        exact hlimit hover
  | str s =>
      refine Or.inr ⟨Json.not_overflows nofun, ?_⟩
      cases h : env.floatOfStr s with
      | none => exact Or.inr (Or.inr (by rw [pyFloat, h]))
      | some x => exact Or.inl ⟨x, by rw [pyFloat, h]⟩
  | bool b => exact Or.inr ⟨Json.not_overflows nofun, Or.inl ⟨_, rfl⟩⟩
  | float x => exact Or.inr ⟨Json.not_overflows nofun, Or.inl ⟨x, rfl⟩⟩
  | null | arr | obj => exact Or.inr ⟨Json.not_overflows nofun, Or.inr (Or.inl rfl)⟩

/-- `None` has a conversion that the handler catches. -/
theorem optionalFloat_eq (env : ExternalEnv) (v : Json) :
    optionalFloat env v = exceptTypeOrValue none ((pyFloat env v).map some) := by
  cases v <;> rfl

theorem optionalFloat_cases (env : ExternalEnv) (v : Json) :
    (v.Overflows ∧ optionalFloat env v = .error .overflowError) ∨
    (¬v.Overflows ∧ ∃ x, optionalFloat env v = .ok x ∧
      ∀ y, x = some y ↔ pyFloat env v = .ok y) := by
  rw [optionalFloat_eq]
  rcases pyFloat_cases env v with ⟨hover, h⟩ | ⟨hfits, ⟨x, h⟩ | h | h⟩
  · exact Or.inl ⟨hover, by rw [h]; rfl⟩
  · exact Or.inr ⟨hfits, some x, by rw [h]; rfl, fun y => by simp [h]⟩
  · exact Or.inr ⟨hfits, none, by rw [h]; rfl, fun y => by simp [h]⟩
  · exact Or.inr ⟨hfits, none, by rw [h]; rfl, fun y => by simp [h]⟩

/-- The coordinates convert to numbers in range. -/
def inRange (env : ExternalEnv) (latitude longitude : Json) : Bool :=
  match pyFloat env latitude, pyFloat env longitude with
  | .ok a, .ok b => a.between (-90) 90 && b.between (-180) 180
  | _, _ => false

/-- The longitude is only converted if the latitude was. -/
def CoordinatesOverflow (env : ExternalEnv) (latitude longitude : Json) : Prop :=
  latitude.Overflows ∨ (∃ a, pyFloat env latitude = .ok a) ∧ longitude.Overflows

theorem validCoordinates_cases (env : ExternalEnv) (latitude longitude : Json) :
    (CoordinatesOverflow env latitude longitude ∧
      validCoordinates env latitude longitude = .error .overflowError) ∨
    (¬CoordinatesOverflow env latitude longitude ∧
      validCoordinates env latitude longitude = .ok (inRange env latitude longitude)) := by
  unfold validCoordinates inRange CoordinatesOverflow
  rcases pyFloat_cases env latitude with ⟨hover, hlat⟩ | ⟨hfits, ⟨a, hlat⟩ | hlat | hlat⟩
  · exact Or.inl ⟨Or.inl hover, by rw [hlat]; rfl⟩
  · rcases pyFloat_cases env longitude with ⟨hover, hlon⟩ | ⟨hfits', ⟨b, hlon⟩ | hlon | hlon⟩
    · exact Or.inl ⟨Or.inr ⟨⟨a, hlat⟩, hover⟩, by rw [hlat, hlon]; rfl⟩
    all_goals exact Or.inr ⟨fun h => h.elim hfits fun h => hfits' h.2, by rw [hlat, hlon]; rfl⟩
  all_goals
    refine Or.inr ⟨?_, by rw [hlat]; rfl⟩
    rintro (hover | ⟨⟨a, ha⟩, _⟩)
    · exact hfits hover
    · cases hlat.symm.trans ha

theorem inRange_eq_true {latitude longitude : Json} (h : inRange env latitude longitude = true) :
    ∃ a b, pyFloat env latitude = .ok a ∧ pyFloat env longitude = .ok b ∧
      a.isFinite = true ∧ b.isFinite = true := by
  unfold inRange at h
  split at h
  · next a b ha hb =>
    rw [Bool.and_eq_true] at h
    refine ⟨a, b, ha, hb, ?_, ?_⟩
    · cases a with
      | finite => rfl
      | infinity | nan => cases h.1
    · cases b with
      | finite => rfl
      | infinity | nan => cases h.2
  · cases h

end

theorem mapM_eq_ok {ε α β : Type} {f : α → Except ε β} {as : List α} {bs : List β} :
    as.mapM f = .ok bs ↔ List.Forall₂ (fun a b => f a = .ok b) as bs := by
  induction as generalizing bs with
  | nil =>
      rw [List.mapM_nil, pure_eq_ok, List.forall₂_nil_left_iff]
      exact eq_comm
  | cons a as ih =>
      rw [List.mapM_cons, List.forall₂_cons_left_iff]
      simp only [bind_eq_ok, pure_eq_ok, ih]
      constructor
      · rintro ⟨b, hb, bs', hbs', rfl⟩
        exact ⟨b, bs', hb, hbs', rfl⟩
      · rintro ⟨b, bs', hb, hbs', rfl⟩
        exact ⟨b, hb, bs', hbs', rfl⟩

/-- All succeed with a property exactly when the whole does. -/
theorem forall_ok_iff {ε α β : Type} {f : α → Except ε β} {P : β → Prop} {as : List α} :
    (∀ a ∈ as, ∃ b, f a = .ok b ∧ P b) ↔ ∃ bs, as.mapM f = .ok bs ∧ ∀ b ∈ bs, P b := by
  simp only [mapM_eq_ok]
  induction as with
  | nil => exact ⟨fun _ => ⟨[], List.Forall₂.nil, nofun⟩, fun _ => nofun⟩
  | cons a as ih =>
      constructor
      · intro h
        obtain ⟨b, hb, hP⟩ := h a List.mem_cons_self
        obtain ⟨bs, hbs, hPs⟩ := ih.mp fun a' ha' => h a' (List.mem_cons_of_mem a ha')
        exact ⟨b :: bs, List.Forall₂.cons hb hbs, List.forall_mem_cons.mpr ⟨hP, hPs⟩⟩
      · rintro ⟨_, hbs, hPs⟩
        cases hbs with
        | cons hb hbs =>
          obtain ⟨hP, hPs⟩ := List.forall_mem_cons.mp hPs
          exact List.forall_mem_cons.mpr ⟨⟨_, hb, hP⟩, ih.mpr ⟨_, hbs, hPs⟩⟩

/-- It converts to no number or to a finite one. -/
def Json.Tame (env : ExternalEnv) (v : Json) : Prop :=
  ¬v.Overflows ∧ ∀ x, pyFloat env v = .ok x → x.isFinite = true

/-- What `_normalize_connections` passes through of a connection. -/
def connectionValues (connection : List (PyStr × Json)) : List Json :=
  [getEntry (getEntry connection "ConnectionType").mapping "Title",
    getEntry (getEntry connection "CurrentType").mapping "Title", getEntry connection "Quantity"]

structure BenignConnection (env : ExternalEnv) (connection : List (PyStr × Json)) : Prop where
  power : (getEntry connection "PowerKW").Tame env
  values : ∀ v ∈ connectionValues connection, v.valid = true

/-- The connections that are objects. -/
def connectionsOf : Json → List (List (PyStr × Json))
  | .arr connections => connections.filterMap Json.asDict
  | _ => []

section

variable (env : ExternalEnv)

theorem tame_iff (v : Json) :
    v.Tame env ↔ ∃ x, optionalFloat env v = .ok x ∧ (Json.ofFloat x).valid = true := by
  rcases optionalFloat_cases env v with ⟨hover, h⟩ | ⟨hfits, x, h, hx⟩
  · simp [Json.Tame, hover, h]
  · simp only [Json.Tame, hfits, not_false_eq_true, true_and, h, Except.ok.injEq, exists_eq_left',
      Json.valid_ofFloat, ← hx, Option.mem_def]

theorem normalizeConnection_iff (connection : List (PyStr × Json)) :
    BenignConnection env connection ↔
      ∃ c, normalizeConnection env connection = .ok c ∧ c.serialize.valid = true := by
  have hvalid : ∀ x, (ExternalConnection.serialize
      { type := getEntry (getEntry connection "ConnectionType").mapping "Title"
        powerKw := x
        currentType := getEntry (getEntry connection "CurrentType").mapping "Title"
        quantity := getEntry connection "Quantity" }).valid = true ↔
      (Json.ofFloat x).valid = true ∧ ∀ v ∈ connectionValues connection, v.valid = true := by
    intro x
    simp only [ExternalConnection.serialize, Json.valid, validFields, connectionValues,
      Bool.and_eq_true, List.forall_mem_cons, List.not_mem_nil, false_implies, implies_true,
      and_true]
    exact and_left_comm
  simp only [normalizeConnection, bind_eq_ok, pure_eq_ok]
  constructor
  · rintro ⟨hpower, hvalues⟩
    obtain ⟨x, hx, hfinite⟩ := (tame_iff env _).mp hpower
    exact ⟨_, ⟨x, hx, rfl⟩, (hvalid x).mpr ⟨hfinite, hvalues⟩⟩
  · rintro ⟨_, ⟨x, hx, rfl⟩, h⟩
    obtain ⟨hfinite, hvalues⟩ := (hvalid x).mp h
    exact ⟨(tame_iff env _).mpr ⟨x, hx, hfinite⟩, hvalues⟩

theorem normalizeConnections_iff (v : Json) :
    (∀ c ∈ connectionsOf v, BenignConnection env c) ↔
      ∃ cs, normalizeConnections env v = .ok cs ∧ ∀ c ∈ cs, c.serialize.valid = true := by
  have hmapM : normalizeConnections env v = (connectionsOf v).mapM (normalizeConnection env) := by
    cases v <;> rfl
  simp only [hmapM, normalizeConnection_iff, forall_ok_iff]

end

/-! ### Stations -/

/-- What `_normalize_station` passes through of a record. -/
def stationValues (fields : List (PyStr × Json)) : List Json :=
  let address := (getEntry fields "AddressInfo").mapping
  [getEntry address "Title", getEntry address "AddressLine1", getEntry address "Town",
    getEntry address "StateOrProvince", getEntry address "Postcode",
    getEntry (getEntry address "Country").mapping "ISOCode",
    getEntry (getEntry fields "OperatorInfo").mapping "Title", getEntry fields "UsageCost",
    getEntry (getEntry fields "StatusType").mapping "IsOperational",
    getEntry (getEntry fields "StatusType").mapping "Title",
    getEntry (getEntry fields "DataProvider").mapping "Title"]

def latitudeOf (fields : List (PyStr × Json)) : Json :=
  getEntry (getEntry fields "AddressInfo").mapping "Latitude"

def longitudeOf (fields : List (PyStr × Json)) : Json :=
  getEntry (getEntry fields "AddressInfo").mapping "Longitude"

def distanceOf (fields : List (PyStr × Json)) : Json :=
  getEntry (getEntry fields "AddressInfo").mapping "Distance"

/-- An object with an ID and coordinates that convert to numbers in range. -/
def located (env : ExternalEnv) : Json → Bool
  | .obj fields =>
      !(getEntry fields "ID").isNone && inRange env (latitudeOf fields) (longitudeOf fields)
  | _ => false

/-- An object with an ID costs nothing if neither of its coordinates overflows and, should it be
located, its distance and the powers of its connections are numbers only if finite ones, and what
is passed through of it is valid. -/
structure BenignStation (env : ExternalEnv) (fields : List (PyStr × Json)) : Prop where
  coordinates : ¬CoordinatesOverflow env (latitudeOf fields) (longitudeOf fields)
  distance : inRange env (latitudeOf fields) (longitudeOf fields) = true →
    (distanceOf fields).Tame env
  connections : inRange env (latitudeOf fields) (longitudeOf fields) = true →
    ∀ c ∈ connectionsOf (getEntry fields "Connections"), BenignConnection env c
  values : inRange env (latitudeOf fields) (longitudeOf fields) = true →
    ∀ v ∈ stationValues fields, v.valid = true

/-- Any other value is dropped, whatever it holds. -/
def BenignRecord (env : ExternalEnv) (record : Json) : Prop :=
  ∀ fields, record = .obj fields → (getEntry fields "ID").isNone = false →
    BenignStation env fields

section

variable {env : ExternalEnv}

theorem valid_externalStation (fields : List (PyStr × Json)) (latitude longitude : PyFloat)
    (distanceKm : Option PyFloat) (connections : List ExternalConnection) :
    (externalStation env fields latitude longitude distanceKm connections).serialize.valid = true ↔
      (latitude.isFinite = true ∧ longitude.isFinite = true ∧
        (Json.ofFloat distanceKm).valid = true ∧ (∀ c ∈ connections, c.serialize.valid = true)) ∧
      ∀ v ∈ stationValues fields, v.valid = true := by
  have hname : ∀ title fallback : Json, fallback.valid = true →
      ((if title.truthy = true then title else fallback).valid = true ↔ title.valid = true) := by
    intro title fallback hfallback
    split
    · rfl
    · next hfalse =>
      simp only [hfallback, Json.valid_of_not_truthy (Bool.eq_false_iff.mpr hfalse)]
  have hconnections : (Json.arr (connections.map ExternalConnection.serialize)).valid = true ↔
      ∀ c ∈ connections, c.serialize.valid = true := by
    rw [valid_arr, List.forall_mem_map]
  rw [Json.valid] at hconnections
  simp only [ExternalStation.serialize, externalStation, Json.valid, validFields, stationValues,
    Bool.and_eq_true, List.forall_mem_cons, List.not_mem_nil, false_implies, implies_true,
    and_true, true_and]
  rw [hname _ _ rfl, hconnections]
  constructor
  · rintro ⟨h₁, ⟨h₂, h₃, h₄, h₅, h₆⟩, hlat, hlon, hdistance, h₇, h₈, h₉, h₁₀, hcs, h₁₁⟩
    exact ⟨⟨hlat, hlon, hdistance, hcs⟩, h₁, h₂, h₃, h₄, h₅, h₆, h₇, h₈, h₉, h₁₀, h₁₁⟩
  · rintro ⟨⟨hlat, hlon, hdistance, hcs⟩, h₁, h₂, h₃, h₄, h₅, h₆, h₇, h₈, h₉, h₁₀, h₁₁⟩
    exact ⟨h₁, ⟨h₂, h₃, h₄, h₅, h₆⟩, hlat, hlon, hdistance, h₇, h₈, h₉, h₁₀, hcs, h₁₁⟩

theorem normalizeStation_obj {fields : List (PyStr × Json)}
    (hid : (getEntry fields "ID").isNone = false) :
    normalizeStation env (.obj fields) = do
      if !(← validCoordinates env (latitudeOf fields) (longitudeOf fields)) then return none
      let latitudeValue ← pyFloat env (latitudeOf fields)
      let longitudeValue ← pyFloat env (longitudeOf fields)
      let distanceKm ← optionalFloat env (distanceOf fields)
      let connections ← normalizeConnections env (getEntry fields "Connections")
      return some
        (externalStation env fields latitudeValue longitudeValue distanceKm connections) := by
  rw [normalizeStation]
  simp only [hid, Bool.false_eq_true, if_false]
  rfl

/-- What becomes of an object: without an ID it is dropped; with one, coordinates that overflow
raise, and coordinates out of range drop it. -/
theorem normalizeStation_cases (env : ExternalEnv) (fields : List (PyStr × Json)) :
    ((getEntry fields "ID").isNone = true ∧ normalizeStation env (.obj fields) = .ok none) ∨
    ((getEntry fields "ID").isNone = false ∧
      ((CoordinatesOverflow env (latitudeOf fields) (longitudeOf fields) ∧
          normalizeStation env (.obj fields) = .error .overflowError) ∨
        (¬CoordinatesOverflow env (latitudeOf fields) (longitudeOf fields) ∧
          ((inRange env (latitudeOf fields) (longitudeOf fields) = false ∧
              normalizeStation env (.obj fields) = .ok none) ∨
            inRange env (latitudeOf fields) (longitudeOf fields) = true)))) := by
  cases hid : (getEntry fields "ID").isNone with
  | true =>
      refine Or.inl ⟨rfl, ?_⟩
      rw [normalizeStation]
      simp only [hid, if_true]
      rfl
  | false =>
      refine Or.inr ⟨rfl, ?_⟩
      rcases validCoordinates_cases env (latitudeOf fields) (longitudeOf fields) with
        ⟨hover, herror⟩ | ⟨hfits, hok⟩
      · refine Or.inl ⟨hover, ?_⟩
        rw [normalizeStation_obj hid, herror]
        rfl
      · refine Or.inr ⟨hfits, ?_⟩
        cases hrange : inRange env (latitudeOf fields) (longitudeOf fields) with
        | true => exact Or.inr rfl
        | false =>
            refine Or.inl ⟨rfl, ?_⟩
            rw [normalizeStation_obj hid, hok, hrange]
            rfl

/-- A located record whose coordinates do not overflow. -/
theorem normalizeStation_located {fields : List (PyStr × Json)}
    (hid : (getEntry fields "ID").isNone = false)
    (hfits : ¬CoordinatesOverflow env (latitudeOf fields) (longitudeOf fields))
    (hrange : inRange env (latitudeOf fields) (longitudeOf fields) = true)
    {o : Option ExternalStation} :
    normalizeStation env (.obj fields) = .ok o ↔ ∃ a b d cs,
      pyFloat env (latitudeOf fields) = .ok a ∧ pyFloat env (longitudeOf fields) = .ok b ∧
      optionalFloat env (distanceOf fields) = .ok d ∧
      normalizeConnections env (getEntry fields "Connections") = .ok cs ∧
      o = some (externalStation env fields a b d cs) := by
  rcases validCoordinates_cases env (latitudeOf fields) (longitudeOf fields) with ⟨hover, _⟩ | ⟨_, hok⟩
  · exact absurd hover hfits
  rw [normalizeStation_obj hid, hok, hrange]
  simp only [bind_eq_ok, pure_eq_ok, Except.ok.injEq, exists_eq_left', Bool.not_true,
    Bool.false_eq_true, if_false]
  constructor
  · rintro ⟨a, ha, b, hb, d, hd, cs, hcs, rfl⟩
    exact ⟨a, b, d, cs, ha, hb, hd, hcs, rfl⟩
  · rintro ⟨a, b, d, cs, ha, hb, hd, hcs, rfl⟩
    exact ⟨a, ha, b, hb, d, hd, cs, hcs, rfl⟩

theorem normalizeStation_located_iff {fields : List (PyStr × Json)}
    (hid : (getEntry fields "ID").isNone = false)
    (hfits : ¬CoordinatesOverflow env (latitudeOf fields) (longitudeOf fields))
    (hrange : inRange env (latitudeOf fields) (longitudeOf fields) = true) :
    BenignStation env fields ↔
      ∃ o, normalizeStation env (.obj fields) = .ok o ∧ ∀ s ∈ o, s.serialize.valid = true := by
  simp only [normalizeStation_located hid hfits hrange]
  obtain ⟨a, b, ha, hb, hafinite, hbfinite⟩ := inRange_eq_true hrange
  constructor
  · intro h
    obtain ⟨d, hd, hdvalid⟩ := (tame_iff env _).mp (h.distance hrange)
    obtain ⟨cs, hcs, hcsvalid⟩ := (normalizeConnections_iff env _).mp (h.connections hrange)
    refine ⟨_, ⟨a, b, d, cs, ha, hb, hd, hcs, rfl⟩, ?_⟩
    intro s hs
    cases hs
    exact (valid_externalStation fields a b d cs).mpr
      ⟨⟨hafinite, hbfinite, hdvalid, hcsvalid⟩, h.values hrange⟩
  · rintro ⟨_, ⟨a, b, d, cs, _, _, hd, hcs, rfl⟩, hvalid⟩
    obtain ⟨⟨_, _, hdvalid, hcsvalid⟩, hvalues⟩ :=
      (valid_externalStation fields a b d cs).mp (hvalid _ rfl)
    exact ⟨hfits, fun _ => (tame_iff env _).mpr ⟨d, hd, hdvalid⟩,
      fun _ => (normalizeConnections_iff env _).mpr ⟨cs, hcs, hcsvalid⟩, fun _ => hvalues⟩

/-- A record costs nothing exactly when it does not raise and what it gives is valid. -/
theorem normalizeStation_iff (record : Json) :
    BenignRecord env record ↔
      ∃ o, normalizeStation env record = .ok o ∧ ∀ s ∈ o, s.serialize.valid = true := by
  have hvoid : ∀ s ∈ (none : Option ExternalStation), s.serialize.valid = true :=
    fun s hs => absurd hs (Option.not_mem_none s)
  cases record with
  | obj fields =>
      have hbenign (hid : (getEntry fields "ID").isNone = false) :
          BenignRecord env (.obj fields) ↔ BenignStation env fields := by
        refine ⟨fun h => h fields rfl hid, fun h fields' hobj _ => ?_⟩
        cases hobj
        exact h
      rcases normalizeStation_cases env fields with
        ⟨hid, hdropped⟩ | ⟨hid, ⟨hover, herror⟩ | ⟨hfits, ⟨hrange, hdropped⟩ | hrange⟩⟩
      · refine ⟨fun _ => ⟨none, hdropped, hvoid⟩, fun _ fields' hobj hid' => ?_⟩
        cases hobj
        cases hid.symm.trans hid'
      · rw [hbenign hid, herror]
        refine ⟨fun h => absurd hover h.coordinates, ?_⟩
        rintro ⟨o, ho, _⟩
        cases ho
      · rw [hbenign hid]
        refine ⟨fun _ => ⟨none, hdropped, hvoid⟩, fun _ => ⟨hfits, ?_, ?_, ?_⟩⟩
        all_goals
          intro htrue
          cases hrange.symm.trans htrue
      · rw [hbenign hid]
        exact normalizeStation_located_iff hid hfits hrange
  | null | bool | int | float | str | arr =>
      exact ⟨fun _ => ⟨none, rfl, hvoid⟩, fun _ _ hobj => Json.noConfusion hobj⟩

/-- A record that does not raise is normalized exactly when it is located. -/
theorem isSome_normalizeStation {record : Json} {o : Option ExternalStation}
    (h : normalizeStation env record = .ok o) : o.isSome = located env record := by
  cases record with
  | obj fields =>
      rw [located]
      rcases normalizeStation_cases env fields with
        ⟨hid, hdropped⟩ | ⟨hid, ⟨_, herror⟩ | ⟨hfits, ⟨hrange, hdropped⟩ | hrange⟩⟩
      · cases hdropped.symm.trans h
        rw [hid]
        rfl
      · cases herror.symm.trans h
      · cases hdropped.symm.trans h
        rw [hid, hrange]
        rfl
      · obtain ⟨a, b, d, cs, _, _, _, _, rfl⟩ := (normalizeStation_located hid hfits hrange).mp h
        rw [hid, hrange]
        rfl
  | null | bool | int | float | str | arr =>
      cases h
      rfl

/-- The normalized stations are those of the located records, in their order. -/
theorem forall₂_located {records : List Json} {os : List (Option ExternalStation)}
    (h : List.Forall₂ (fun record o => normalizeStation env record = .ok o) records os) :
    List.Forall₂ (fun record station => normalizeStation env record = .ok (some station))
      (records.filter (located env)) os.reduceOption := by
  induction h with
  | nil => exact List.Forall₂.nil
  | @cons record o records os ho _ ih =>
      have hsome := isSome_normalizeStation ho
      cases o with
      | none =>
          rw [List.filter_cons_of_neg (by simp [← hsome]), List.reduceOption_cons_of_none]
          exact ih
      | some station =>
          rw [List.filter_cons_of_pos (by simp [← hsome]), List.reduceOption_cons_of_some]
          exact List.Forall₂.cons ho ih

theorem valid_externalResponse (stations : List ExternalStation) :
    (externalResponse stations).valid = true ↔ ∀ s ∈ stations, s.serialize.valid = true := by
  have hstations : (Json.arr (stations.map ExternalStation.serialize)).valid = true ↔
      ∀ s ∈ stations, s.serialize.valid = true := by
    rw [valid_arr, List.forall_mem_map]
  simp only [externalResponse, Json.valid, validFields, Bool.and_true] at hstations ⊢
  exact hstations

end

/-- The numbers that the service emits are finite. -/
structure ExternalStation.NumbersFinite (s : ExternalStation) : Prop where
  latitude : s.latitude.isFinite = true
  longitude : s.longitude.isFinite = true
  distanceKm : ∀ x ∈ s.distanceKm, x.isFinite = true
  powerKw : ∀ c ∈ s.connections, ∀ x ∈ c.powerKw, x.isFinite = true

theorem ExternalStation.numbersFinite_of_valid {s : ExternalStation}
    (h : s.serialize.valid = true) : s.NumbersFinite := by
  simp only [serialize, Json.valid, validFields, Bool.and_eq_true, Bool.true_and] at h
  obtain ⟨_, _, hlat, hlon, hdistance, _, _, _, _, hconnections, _⟩ := h
  refine ⟨hlat, hlon, (Json.valid_ofFloat s.distanceKm).mp hdistance, fun c hc => ?_⟩
  have hall := (valid_arr _).mp (show (Json.arr _).valid = true from hconnections)
  have hcvalid := hall _ (List.mem_map_of_mem hc)
  simp only [ExternalConnection.serialize, Json.valid, validFields, Bool.and_eq_true] at hcvalid
  exact (Json.valid_ofFloat c.powerKw).mp hcvalid.2.1

mutual

/-- How many lists and objects are open around its deepest value, at most. -/
def Json.nesting : Json → Nat
  | .arr items => itemsNesting items + 1
  | .obj fields => fieldsNesting fields + 1
  | .null | .bool _ | .int _ | .float _ | .str _ => 0

def itemsNesting : List Json → Nat
  | [] => 0
  | value :: items => max value.nesting (itemsNesting items)

def fieldsNesting : List (PyStr × Json) → Nat
  | [] => 0
  | (_, value) :: fields => max value.nesting (fieldsNesting fields)

end

mutual

/-- No integer in it is too long to be read. -/
def Json.integersFit : Json → Bool
  | .int value => value.natAbs < 10 ^ maxStrDigits
  | .arr items => itemsFit items
  | .obj fields => fieldsFit fields
  | .null | .bool _ | .float _ | .str _ => true

def itemsFit : List Json → Bool
  | [] => true
  | value :: items => value.integersFit && itemsFit items

def fieldsFit : List (PyStr × Json) → Bool
  | [] => true
  | (_, value) :: fields => value.integersFit && fieldsFit fields

end

-- along the tree: an item or an entry is scanned with the depth that its list or object leaves
mutual

theorem Json.scanOnce_eq_ok (depth : Nat) : ∀ value : Json,
    value.scanOnce depth = .ok () ↔ value.integersFit = true ∧ value.nesting ≤ depth
  | .int value => by
      simp only [Json.scanOnce, Json.integersFit, Json.nesting, decide_eq_true_eq]
      split <;> simp <;> omega
  | .arr items => by
      simp only [Json.scanOnce, Json.integersFit, Json.nesting]
      cases depth with
      | zero => simp
      | succ depth => simpa using scanItems_eq_ok depth items
  | .obj fields => by
      simp only [Json.scanOnce, Json.integersFit, Json.nesting]
      cases depth with
      | zero => simp
      | succ depth => simpa using scanFields_eq_ok depth fields
  | .null | .bool _ | .float _ | .str _ => by
      simp [Json.scanOnce, Json.integersFit, Json.nesting]

theorem scanItems_eq_ok (depth : Nat) : ∀ items : List Json,
    scanItems depth items = .ok () ↔ itemsFit items = true ∧ itemsNesting items ≤ depth
  | [] => by simp [scanItems, itemsFit, itemsNesting]
  | value :: items => by
      have hvalue := Json.scanOnce_eq_ok depth value
      have hitems := scanItems_eq_ok depth items
      simp only [scanItems, itemsFit, itemsNesting, bind_eq_ok, Bool.and_eq_true, Nat.max_le]
      grind

theorem scanFields_eq_ok (depth : Nat) : ∀ fields : List (PyStr × Json),
    scanFields depth fields = .ok () ↔ fieldsFit fields = true ∧ fieldsNesting fields ≤ depth
  | [] => by simp [scanFields, fieldsFit, fieldsNesting]
  | (_, value) :: fields => by
      have hvalue := Json.scanOnce_eq_ok depth value
      have hfields := scanFields_eq_ok depth fields
      simp only [scanFields, fieldsFit, fieldsNesting, bind_eq_ok, Bool.and_eq_true, Nat.max_le]
      grind

end

/-- The decoder reads it. -/
structure Json.Readable (env : ExternalEnv) (sent : Json) : Prop where
  integers : sent.integersFit = true
  nesting : sent.nesting ≤ env.nestingLimit

/-- The answer raises `ExternalStationProviderError` if it is no list; from a list come, in its
order, the stations of its located records, with finite numbers, and the response is valid. -/
structure MalformedContained (env : ExternalEnv) (sent : Json) : Prop where
  list : ∀ records, sent.loaded = .arr records →
    ∃ stations, fetchOpenChargeMapStations env (.json sent) = .ok stations ∧
      List.Forall₂ (fun record station => normalizeStation env record = .ok (some station))
        (records.filter (located env)) stations ∧
      (∀ s ∈ stations, s.NumbersFinite) ∧ (externalResponse stations).valid = true
  other : (∀ records, sent.loaded ≠ .arr records) →
    fetchOpenChargeMapStations env (.json sent) = .error .externalStationProviderError

section

variable {env : ExternalEnv} {sent : Json}

theorem fetchOpenChargeMapStations_list {records : List Json} (hlist : sent.loaded = .arr records)
    (hread : sent.scanOnce env.nestingLimit = .ok ()) :
    fetchOpenChargeMapStations env (.json sent) = do
      let stations ← records.mapM (normalizeStation env)
      return stations.reduceOption := by
  rw [fetchOpenChargeMapStations, responseJson, hread]
  dsimp only
  rw [hlist]
  rfl

/-- The stations of an answer are those of a list that the decoder reads. -/
theorem fetchOpenChargeMapStations_eq_ok {records : List Json} (hlist : sent.loaded = .arr records)
    {stations : List ExternalStation} :
    fetchOpenChargeMapStations env (.json sent) = .ok stations ↔ sent.Readable env ∧
      ∃ os, records.mapM (normalizeStation env) = .ok os ∧ os.reduceOption = stations := by
  have hreadable : sent.Readable env ↔ sent.scanOnce env.nestingLimit = .ok () := by
    rw [Json.scanOnce_eq_ok]
    exact ⟨fun h => ⟨h.integers, h.nesting⟩, fun h => ⟨h.1, h.2⟩⟩
  rw [hreadable]
  cases hscan : sent.scanOnce env.nestingLimit with
  | ok =>
      rw [fetchOpenChargeMapStations_list hlist hscan]
      simp only [bind_eq_ok, pure_eq_ok, true_and]
  | error e =>
      rw [fetchOpenChargeMapStations, responseJson, hscan]
      cases e <;> simp [exceptProvider]

/-- An answer that is no list is at fault, whether the decoder reads it or finds an integer too
long in it; nesting that it cannot follow is not blamed on the answer. -/
theorem fetchOpenChargeMapStations_other (hother : ∀ records, sent.loaded ≠ .arr records) :
    fetchOpenChargeMapStations env (.json sent) = .error .externalStationProviderError ↔
      sent.scanOnce env.nestingLimit ≠ .error .recursion := by
  rw [fetchOpenChargeMapStations, responseJson]
  cases hscan : sent.scanOnce env.nestingLimit with
  | ok =>
      cases hloaded : sent.loaded with
      | arr records => exact absurd hloaded (hother records)
      | null | bool | int | float | str | obj => simp [exceptProvider]
  | error e => cases e <;> simp [exceptProvider]

theorem forall_reduceOption {os : List (Option ExternalStation)}
    {P : ExternalStation → Prop} : (∀ s ∈ os.reduceOption, P s) ↔ ∀ o ∈ os, ∀ s ∈ o, P s := by
  simp only [List.reduceOption_mem_iff, Option.mem_def]
  constructor
  · rintro h o ho s rfl
    exact h s ho
  · intro h s hs
    exact h (some s) hs s rfl

theorem MalformedContained.benign (h : MalformedContained env sent) {records : List Json}
    (hlist : sent.loaded = .arr records) :
    sent.Readable env ∧ ∀ record ∈ records, BenignRecord env record := by
  obtain ⟨stations, hok, _, _, hvalid⟩ := h.list records hlist
  obtain ⟨hreadable, os, hos, rfl⟩ := (fetchOpenChargeMapStations_eq_ok hlist).mp hok
  refine ⟨hreadable, ?_⟩
  simp only [normalizeStation_iff, forall_ok_iff]
  exact ⟨os, hos, forall_reduceOption.mp ((valid_externalResponse _).mp hvalid)⟩

end

/-- Malformed records cost only themselves exactly when the decoder reads the list and every object
with an ID in it is benign; what is no list is blamed on the provider unless it is nested beyond
what the decoder can follow. -/
theorem malformed_records_contained (env : ExternalEnv) (sent : Json) :
    MalformedContained env sent ↔
      (∀ records, sent.loaded = .arr records →
        sent.Readable env ∧ ∀ record ∈ records, BenignRecord env record) ∧
      ((∀ records, sent.loaded ≠ .arr records) →
        sent.scanOnce env.nestingLimit ≠ .error .recursion) := by
  constructor
  · intro h
    exact ⟨fun records hlist => h.benign hlist,
      fun hother => (fetchOpenChargeMapStations_other hother).mp (h.other hother)⟩
  · rintro ⟨hbenign, hfollowed⟩
    refine ⟨?_, fun hother => (fetchOpenChargeMapStations_other hother).mpr (hfollowed hother)⟩
    intro records hlist
    obtain ⟨hreadable, hrecords⟩ := hbenign records hlist
    simp only [normalizeStation_iff, forall_ok_iff] at hrecords
    obtain ⟨os, hos, hvalid⟩ := hrecords
    have hstations := forall_reduceOption.mpr hvalid
    exact ⟨os.reduceOption, (fetchOpenChargeMapStations_eq_ok hlist).mpr ⟨hreadable, os, hos, rfl⟩,
      forall₂_located (mapM_eq_ok.mp hos),
      fun s hs => ExternalStation.numbersFinite_of_valid (hstations s hs),
      (valid_externalResponse _).mpr hstations⟩

/-- Of texts, only those of the infinities are read as numbers here. -/
def sampleExternalEnv : ExternalEnv where
  floatOfStr text :=
    if text = .text "inf" then some (.infinity false)
    else if text = .text "-inf" then some (.infinity true) else none
  str
    | .int n => toString n
    | _ => ""
  nestingLimit := 10000

/-- An ID and an address. -/
def sampleFields (latitude distance : Json) : List (PyStr × Json) :=
  [("ID", .int 12345), ("AddressInfo", .obj [("Latitude", latitude), ("Longitude", .int 75),
    ("Distance", distance)])]

def sampleRecord (latitude distance : Json) : Json := .obj (sampleFields latitude distance)

/-- Lists one in another. -/
def sampleNested : Nat → Json
  | 0 => .null
  | n + 1 => .arr [sampleNested n]

theorem scanOnce_sampleNested {depth n : Nat} (h : depth < n) :
    (sampleNested n).scanOnce depth = .error .recursion := by
  induction n generalizing depth with
  | zero => exact absurd h (Nat.not_lt_zero depth)
  | succ n ih =>
      cases depth with
      | zero => rfl
      | succ depth =>
          rw [sampleNested, Json.scanOnce, scanItems, ih (Nat.lt_of_succ_lt_succ h)]
          rfl

/-- A latitude of 401 digits loses the whole search, with the well-formed record that follows it; a
distance that is the text of infinity is emitted as a number; an integer of 4301 digits is blamed
on the provider although a well-formed record precedes it; and nesting beyond what the decoder can
follow raises what the service does not catch. -/
theorem malformed_records_contained_counterexample :
    (fetchOpenChargeMapStations sampleExternalEnv
        (.json (.arr [sampleRecord (.int (10 ^ 400)) .null, sampleRecord (.int 22) .null])) =
        .error .overflowError ∧
      ¬MalformedContained sampleExternalEnv
        (.arr [sampleRecord (.int (10 ^ 400)) .null, sampleRecord (.int 22) .null])) ∧
    ¬MalformedContained sampleExternalEnv (.arr [sampleRecord (.int 22) (.str "inf")]) ∧
    (fetchOpenChargeMapStations sampleExternalEnv
        (.json (.arr [sampleRecord (.int 22) .null, .int (10 ^ 4300)])) =
        .error .externalStationProviderError ∧
      ¬MalformedContained sampleExternalEnv
        (.arr [sampleRecord (.int 22) .null, .int (10 ^ 4300)])) ∧
    fetchOpenChargeMapStations sampleExternalEnv (.json (sampleNested 20000)) =
        .error .recursionError ∧
      ¬MalformedContained sampleExternalEnv (sampleNested 20000) := by
  have hover : (Json.int (10 ^ 400)).Overflows := ⟨10 ^ 400, rfl, by decide +kernel⟩
  have hfirst : normalizeStation sampleExternalEnv (sampleRecord (.int (10 ^ 400)) .null) =
      .error .overflowError := by
    rcases normalizeStation_cases sampleExternalEnv (sampleFields (.int (10 ^ 400)) .null) with
      ⟨hid, _⟩ | ⟨_, ⟨_, herror⟩ | ⟨hfits, _⟩⟩
    · cases hid
    · exact herror
    · exact absurd (Or.inl hover) hfits
  have hread : Json.scanOnce sampleExternalEnv.nestingLimit
      (.arr [sampleRecord (.int (10 ^ 400)) .null, sampleRecord (.int 22) .null]) = .ok () := by
    decide +kernel
  have hlist : Json.loaded
      (.arr [sampleRecord (.int (10 ^ 400)) .null, sampleRecord (.int 22) .null]) =
      .arr [sampleRecord (.int (10 ^ 400)) .null, sampleRecord (.int 22) .null] := rfl
  have hlong : Json.scanOnce sampleExternalEnv.nestingLimit
      (.arr [sampleRecord (.int 22) .null, .int (10 ^ 4300)]) = .error .value := by
    decide +kernel
  refine ⟨⟨?_, fun h => ?_⟩, fun h => ?_, ⟨?_, fun h => ?_⟩, ?_, fun h => ?_⟩
  · rw [fetchOpenChargeMapStations_list hlist hread, List.mapM_cons, hfirst]
    rfl
  · have hrecord := (h.benign hlist).2 (sampleRecord (.int (10 ^ 400)) .null) List.mem_cons_self
    exact (hrecord _ rfl rfl).coordinates (Or.inl hover)
  · have hrecord := (h.benign rfl).2 (sampleRecord (.int 22) (.str "inf")) List.mem_cons_self
    have hfinite := ((hrecord _ rfl rfl).distance (by decide +kernel)).2 (.infinity false) rfl
    cases hfinite
  · rw [fetchOpenChargeMapStations, responseJson, hlong]
    rfl
  · exact absurd (h.benign rfl).1.integers (by decide +kernel)
  · rw [fetchOpenChargeMapStations, responseJson, scanOnce_sampleNested (by decide)]
    rfl
  · obtain ⟨stations, hok, _⟩ := h.list [(sampleNested 19999).loaded] rfl
    obtain ⟨hreadable, _⟩ := (fetchOpenChargeMapStations_eq_ok rfl).mp hok
    have hscan := (Json.scanOnce_eq_ok _ _).mpr ⟨hreadable.integers, hreadable.nesting⟩
    rw [scanOnce_sampleNested (by decide)] at hscan
    cases hscan

end ChargeMate
