import ChargeMate.ModelProvider

/-! Open Charge Map (`stations/providers/open_charge_map.py`): how its answer is read and
normalized. The answer is a tree of JSON values of any type and size; reading a text as a number
and writing a value as a text are parameters. -/

namespace ChargeMate

/-! ### `float()` -/

/-- What the decoder and a conversion raise, and what the service raises. -/
inductive ExternalRaised where
  | typeError
  | valueError
  | overflowError
  | recursionError
  | externalStationProviderError
  deriving DecidableEq

/-- From here on an integer is rounded to `2 ** 1024`, which is not a double. -/
def doubleLimit : Nat := 2 ^ 1024 - 2 ^ 970

/-- The nearest number of 53 binary digits, of two the even one. -/
def nearestDouble (n : Nat) : Nat :=
  let shift := n.log2 - 52
  let quotient := n / 2 ^ shift
  let remainder := n % 2 ^ shift
  if 2 ^ shift < 2 * remainder ∨ (2 ^ shift = 2 * remainder ∧ quotient % 2 = 1) then
    (quotient + 1) * 2 ^ shift
  else quotient * 2 ^ shift

/-- What the module leaves to the standard library: `float` of a text, `none` when it raises a
`ValueError`, `str`, and how many lists and dictionaries the decoder enters one inside another
before it raises a `RecursionError`. -/
structure ExternalEnv where
  floatOfStr : PyStr → Option PyFloat
  str : Json → PyStr
  nestingLimit : Nat

/-- `p + s`. -/
def PyStr.prepend (p : String) : PyStr → PyStr
  | text value => text (p ++ value)
  | lone start surrogate rest => lone (p ++ start) surrogate rest

namespace PyFloat

def isFinite : PyFloat → Bool
  | .finite _ => true
  | _ => false

/-- `low <= x <= high`, which is false of a NaN. -/
def between (low high : Rat) : PyFloat → Bool
  | .finite value => low ≤ value ∧ value ≤ high
  | _ => false

end PyFloat

namespace Json

/-- `value or ...` takes the value. -/
def truthy : Json → Bool
  | .null => false
  | .bool value => value
  | .int value => value ≠ 0
  | .float (.finite value) => value ≠ 0
  | .float _ => true
  | .str value => value ≠ .text ""
  | .arr items => !items.isEmpty
  | .obj fields => !fields.isEmpty

/-- `value is None`. -/
def isNone : Json → Bool
  | .null => true
  | _ => false

/-- `_mapping`. -/
def mapping (value : Json) : List (PyStr × Json) := value.asDict.getD []

end Json

/-! ### `response.json()` -/

/-- A longer decimal text is not read as an integer. -/
def maxStrDigits : Nat := 4300

mutual

/-- The decoder goes through a value from left to right. Here `depth` more lists and dictionaries
can be entered. -/
def Json.scanOnce (depth : Nat) : Json → Except JsonError Unit
  | .int value => if 10 ^ maxStrDigits ≤ value.natAbs then .error .value else .ok ()
  | .arr items =>
      match depth with
      | 0 => .error .recursion
      | depth + 1 => scanItems depth items
  | .obj fields =>
      match depth with
      | 0 => .error .recursion
      | depth + 1 => scanFields depth fields
  | .null | .bool _ | .float _ | .str _ => .ok ()

def scanItems (depth : Nat) : List Json → Except JsonError Unit
  | [] => .ok ()
  | value :: items => do
      value.scanOnce depth
      scanItems depth items

def scanFields (depth : Nat) : List (PyStr × Json) → Except JsonError Unit
  | [] => .ok ()
  | (_, value) :: fields => do
      value.scanOnce depth
      scanFields depth fields

end

/-- `fields[key] = value`, which leaves an existing key where it is. -/
def setEntry (key : PyStr) (value : Json) : List (PyStr × Json) → List (PyStr × Json)
  | [] => [(key, value)]
  | (other, old) :: fields =>
      if other = key then (key, value) :: fields else (other, old) :: setEntry key value fields

mutual

/-- What is made of a text whose objects may repeat a key: the last value of a key counts. -/
def Json.loaded : Json → Json
  | .arr items => .arr (loadedItems items)
  | .obj fields => .obj (loadedFields [] fields)
  | .null => .null
  | .bool value => .bool value
  | .int value => .int value
  | .float value => .float value
  | .str value => .str value

def loadedItems : List Json → List Json
  | [] => []
  | value :: items => value.loaded :: loadedItems items

def loadedFields (done : List (PyStr × Json)) : List (PyStr × Json) → List (PyStr × Json)
  | [] => done
  | (key, value) :: fields => loadedFields (setEntry key value.loaded done) fields

end

/-- What the HTTP call ends with: an `httpx.HTTPError` or a text that is no JSON, such a text nested
too deeply for the decoder to find that out, or a JSON text. Its objects may repeat a key. -/
inductive ExternalAnswer where
  | failure
  | failureTooDeep
  | json (sent : Json)

section

variable (env : ExternalEnv)

/-- `float(value)`. -/
def pyFloat : Json → Except ExternalRaised PyFloat
  | .bool value => .ok (.finite (if value then 1 else 0))
  | .int value =>
      if doubleLimit ≤ value.natAbs then .error .overflowError
      else .ok (.finite (value.sign * nearestDouble value.natAbs))
  | .float value => .ok value
  | .str value =>
      match env.floatOfStr value with
      | some x => .ok x
      | none => .error .valueError
  | .null | .arr _ | .obj _ => .error .typeError

/-- `except (TypeError, ValueError): return default`. -/
def exceptTypeOrValue {α : Type} (default : α) :
    Except ExternalRaised α → Except ExternalRaised α
  | .error .typeError | .error .valueError => .ok default
  | result => result

def validCoordinates (latitude longitude : Json) : Except ExternalRaised Bool :=
  exceptTypeOrValue false do
    let latitudeValue ← pyFloat env latitude
    let longitudeValue ← pyFloat env longitude
    return latitudeValue.between (-90) 90 && longitudeValue.between (-180) 180

def optionalFloat (value : Json) : Except ExternalRaised (Option PyFloat) :=
  exceptTypeOrValue none
    (if value.isNone then .ok none else (pyFloat env value).map some)

/-! ### Stations -/

structure ExternalConnection where
  type : Json
  powerKw : Option PyFloat
  currentType : Json
  quantity : Json

/-- A normalized station: what is passed through is a value of any type. -/
structure ExternalStation where
  externalId : PyStr
  name : Json
  line1 : Json
  town : Json
  state : Json
  postalCode : Json
  countryCode : Json
  latitude : PyFloat
  longitude : PyFloat
  distanceKm : Option PyFloat
  operator : Json
  usageCost : Json
  isOperational : Json
  status : Json
  connections : List ExternalConnection
  dataProvider : Json
  detailsUrl : PyStr

def openChargeMapDetailsUrl : String := "https://openchargemap.org/site/poi/details"

/-- One iteration of the loop of `_normalize_connections`. -/
def normalizeConnection (connection : List (PyStr × Json)) :
    Except ExternalRaised ExternalConnection := do
  let connectionType := (getEntry connection "ConnectionType").mapping
  let currentType := (getEntry connection "CurrentType").mapping
  let powerKw ← optionalFloat env (getEntry connection "PowerKW")
  return {
    type := getEntry connectionType "Title"
    powerKw
    currentType := getEntry currentType "Title"
    quantity := getEntry connection "Quantity" }

def normalizeConnections : Json → Except ExternalRaised (List ExternalConnection)
  | .arr connections => (connections.filterMap Json.asDict).mapM (normalizeConnection env)
  | _ => .ok []

/-- The dictionary that `_normalize_station` returns, once the fields that may raise are known. -/
def externalStation (fields : List (PyStr × Json)) (latitude longitude : PyFloat)
    (distanceKm : Option PyFloat) (connections : List ExternalConnection) : ExternalStation :=
  let address := (getEntry fields "AddressInfo").mapping
  let externalId := getEntry fields "ID"
  let status := (getEntry fields "StatusType").mapping
  let operator := (getEntry fields "OperatorInfo").mapping
  let dataProvider := (getEntry fields "DataProvider").mapping
  let country := (getEntry address "Country").mapping
  let title := getEntry address "Title"
  { externalId := env.str externalId
    name := if title.truthy then title
      else .str ((env.str externalId).prepend "Charging station ")
    line1 := getEntry address "AddressLine1"
    town := getEntry address "Town"
    state := getEntry address "StateOrProvince"
    postalCode := getEntry address "Postcode"
    countryCode := getEntry country "ISOCode"
    latitude
    longitude
    distanceKm
    operator := getEntry operator "Title"
    usageCost := getEntry fields "UsageCost"
    isOperational := getEntry status "IsOperational"
    status := getEntry status "Title"
    connections
    dataProvider := getEntry dataProvider "Title"
    detailsUrl := (env.str externalId).prepend (openChargeMapDetailsUrl ++ "/") }

def normalizeStation (pointOfInterest : Json) :
    Except ExternalRaised (Option ExternalStation) :=
  match pointOfInterest with
  | .obj fields => do
      let address := (getEntry fields "AddressInfo").mapping
      let latitude := getEntry address "Latitude"
      let longitude := getEntry address "Longitude"
      if (getEntry fields "ID").isNone then return none
      if !(← validCoordinates env latitude longitude) then return none
      let latitudeValue ← pyFloat env latitude
      let longitudeValue ← pyFloat env longitude
      let distanceKm ← optionalFloat env (getEntry address "Distance")
      let connections ← normalizeConnections env (getEntry fields "Connections")
      return some (externalStation env fields latitudeValue longitudeValue distanceKm connections)
  | _ => return none

def responseJson : ExternalAnswer → Except ExternalRaised Json
  | .failure => .error .valueError
  | .failureTooDeep => .error .recursionError
  | .json sent =>
      match sent.scanOnce env.nestingLimit with
      | .ok () => .ok sent.loaded
      | .error .recursion => .error .recursionError
      | .error _ => .error .valueError

/-- `except (httpx.HTTPError, ValueError, TypeError) as error`. -/
def exceptProvider {α : Type} : Except ExternalRaised α → Except ExternalRaised α
  | .error .typeError | .error .valueError => .error .externalStationProviderError
  | result => result

/-- Fetch and normalize nearby open-data charging locations. -/
def fetchOpenChargeMapStations (answer : ExternalAnswer) :
    Except ExternalRaised (List ExternalStation) := do
  match ← exceptProvider (responseJson env answer) with
  | .arr payload =>
      let stations ← payload.mapM (normalizeStation env)
      return stations.reduceOption
  | _ => .error .externalStationProviderError

end

/-! ### The response -/

/-- `None` is written as `null`. -/
def Json.ofFloat (value : Option PyFloat) : Json := value.elim .null .float

def ExternalConnection.serialize (connection : ExternalConnection) : Json :=
  .obj [("type", connection.type), ("power_kw", .ofFloat connection.powerKw),
    ("current_type", connection.currentType), ("quantity", connection.quantity)]

def ExternalStation.serialize (station : ExternalStation) : Json :=
  .obj [("source", .str "open_charge_map"), ("external_id", .str station.externalId),
    ("name", station.name),
    ("address", .obj [("line_1", station.line1), ("town", station.town), ("state", station.state),
      ("postal_code", station.postalCode), ("country_code", station.countryCode)]),
    ("latitude", .float station.latitude), ("longitude", .float station.longitude),
    ("distance_km", .ofFloat station.distanceKm), ("operator", station.operator),
    ("usage_cost", station.usageCost), ("is_operational", station.isOperational),
    ("status", station.status),
    ("connections", .arr (station.connections.map ExternalConnection.serialize)),
    ("data_provider", station.dataProvider), ("details_url", .str station.detailsUrl),
    ("bookable", .bool false)]

/-- The body of `list_external_charging_stations`. -/
def externalResponse (stations : List ExternalStation) : Json :=
  .obj [("stations", .arr (stations.map ExternalStation.serialize)),
    ("source", .str "open_charge_map"), ("bookable", .bool false)]

end ChargeMate
