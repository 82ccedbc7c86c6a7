import ChargeMate.FoundationRun
import ChargeMate.ModelOperations
import ChargeMate.ModelPayments

/-! Station searches behind their cache (`stations/cache.py`, `list_charging_stations`) and the
writes that invalidate it (`stations/service.py`), statement by statement. The SQL of the search is
a parameter, as are the serialization of a station and the functions of the standard library.
Redis is available: no call of it raises. -/

namespace ChargeMate

open Relational

/-! ### Queries and their cache keys -/

inductive ConnectorType where
  | ccs2
  | type2
  | chademo
  | gbT
  | bharatDc001
  deriving DecidableEq

def ConnectorType.value : ConnectorType → String
  | .ccs2 => "ccs_2"
  | .type2 => "type_2"
  | .chademo => "chademo"
  | .gbT => "gb_t"
  | .bharatDc001 => "bharat_dc_001"

/-- `decimal.Decimal` as its tuple: 11.5 and 11.50 are equal numbers with two texts. -/
structure PyDecimal where
  negative : Bool
  digits : Nat
  exponent : Int
  deriving DecidableEq

/-- Validated filters and pagination for public station discovery. -/
structure StationSearchQuery where
  city : Option String
  connectorType : Option ConnectorType
  minPowerKw : Option PyDecimal
  latitude : Option PyDecimal
  longitude : Option PyDecimal
  radiusKm : Option PyDecimal
  page : Nat
  perPage : Nat
  positivePage : 1 ≤ page
  perPageRange : 1 ≤ perPage ∧ perPage ≤ 100
  spatialComplete : (latitude.isSome ↔ longitude.isSome) ∧ (latitude.isSome ↔ radiusKm.isSome)
  deriving DecidableEq

/-- A public station and its optional distance from the search point. -/
structure StationSearchResult where
  station : ChargingStation
  chargePoints : List ChargePoint
  distanceKm : Option PyFloat

/-- The configuration, the statements of `find_public_stations` that filter, order and page, the
serialization of a result, and the functions of the standard library. -/
structure SearchEnv where
  cacheEnabled : Bool
  countStations : StationSearchQuery → Database → Nat
  selectStations : StationSearchQuery → Database → List (ChargingStation × Option PyFloat)
  serializeStation : StationSearchResult → Json
  decimalStr : PyDecimal → String
  jsonDumps : Json → String
  jsonLoads : String → Option Json
  sha256Hex : String → String

/-- The escape sequences of `json.dumps` with a letter. -/
def shortEscape : Char → Option Char
  | '"' => some '"'
  | '\\' => some '\\'
  | '\n' => some 'n'
  | '\r' => some 'r'
  | '\t' => some 't'
  | '\x08' => some 'b'
  | '\x0c' => some 'f'
  | _ => none

/-- `'\\u{0:04x}'.format(n)`. -/
def unicodeEscape (n : Nat) : List Char :=
  ['\\', 'u', Nat.digitChar (n / 4096 % 16), Nat.digitChar (n / 256 % 16),
    Nat.digitChar (n / 16 % 16), Nat.digitChar (n % 16)]

/-- A character in a string literal of `json.dumps`, which is ASCII. A character outside the basic
plane is written as two surrogates. -/
def jsonChar (c : Char) : List Char :=
  match shortEscape c with
  | some letter => ['\\', letter]
  | none =>
      if ' ' ≤ c ∧ c ≤ '~' then [c]
      else if c.toNat < 0x10000 then unicodeEscape c.toNat
      else
        unicodeEscape (0xd800 + (c.toNat - 0x10000) / 1024) ++
          unicodeEscape (0xdc00 + (c.toNat - 0x10000) % 1024)

def jsonString (s : String) : List Char := '"' :: (s.toList.flatMap jsonChar ++ ['"'])

/-- `null` for `None`. -/
def nullable {α : Type} (text : α → List Char) (value : Option α) : List Char :=
  value.elim ['n', 'u', 'l', 'l'] text

section

variable (env : SearchEnv)

/-- `json.dumps(query.model_dump(mode="json"), separators=(",", ":"), sort_keys=True)`. -/
def canonicalQuery (query : StationSearchQuery) : String :=
  let decimal := nullable fun d => jsonString (env.decimalStr d)
  String.ofList
    ("\x7b\"city\":".toList ++ nullable jsonString query.city ++
    ",\"connector_type\":".toList ++ nullable (fun c => jsonString c.value) query.connectorType ++
    ",\"latitude\":".toList ++ decimal query.latitude ++
    ",\"longitude\":".toList ++ decimal query.longitude ++
    ",\"min_power_kw\":".toList ++ decimal query.minPowerKw ++
    ",\"page\":".toList ++ Nat.toDigits 10 query.page ++
    ",\"per_page\":".toList ++ Nat.toDigits 10 query.perPage ++
    ",\"radius_km\":".toList ++ decimal query.radiusKm ++ "\x7d".toList)

def cacheVersionKey : String := "chargemate:stations:search:version"

def cacheKeyPrefix : String := "chargemate:stations:search"

def buildCacheKey (query : StationSearchQuery) (version : String) : String :=
  cacheKeyPrefix ++ ":v" ++ version ++ ":" ++ env.sha256Hex (canonicalQuery env query)

/-- The body of `list_charging_stations` for one page. -/
def listResponse (query : StationSearchQuery) (total : Nat) (items : List StationSearchResult) :
    Json :=
  .obj [("stations", .arr (items.map env.serializeStation)),
    ("pagination", .obj [("page", .int query.page), ("per_page", .int query.perPage),
      ("total", .int total), ("pages", .int ((total + query.perPage - 1) / query.perPage : Nat))])]

/-- `selectinload(ChargingStation.charge_points)`. -/
def loadChargePoints (rows : List (ChargingStation × Option PyFloat)) (db : Database) :
    List StationSearchResult :=
  rows.map fun (station, distanceKm) => {
    station
    chargePoints := db.chargePoints.rows.filter fun p => p.stationId = station.id
    distanceKm }

end

/-! ### Writes -/

inductive StationWrite where
  | createStation (owner : User) (payload : StationCreateRequest) (stationId : Uuid)
      (pointIds : List Uuid)
  | updateStation (operator : User) (stationId : Uuid) (payload : StationUpdateRequest)
  | updateChargePoint (operator : User) (stationId chargePointId : Uuid)
      (payload : ChargePointUpdateRequest)

/-- The transaction of a write. -/
def StationWrite.run (write : StationWrite) (db : Database) : Except Raised Unit × Database :=
  match write with
  | .createStation owner payload stationId pointIds =>
      let outcome := ChargeMate.createStation owner payload stationId pointIds db
      (outcome.1.map fun _ => (), outcome.2)
  | .updateStation operator stationId payload =>
      let outcome := ChargeMate.updateStation operator stationId payload db
      (outcome.1.map fun _ => (), outcome.2)
  | .updateChargePoint operator stationId chargePointId payload =>
      let outcome := ChargeMate.updateChargePoint operator stationId chargePointId payload db
      (outcome.1.map fun _ => (), outcome.2)

/-! ### The system -/

/-- The query a page was computed for and how many transactions had committed when each of its
three statements ran. -/
structure Origin where
  query : StationSearchQuery
  countedAt : Nat
  selectedAt : Nat
  loadedAt : Nat
  deriving DecidableEq

/-- A value in Redis. The origin of a stored page is history. -/
structure RedisValue where
  text : String
  origin : Option Origin

/-- Where one call of `list_charging_stations` stands. -/
inductive SearchPhase where
  | received
  | versioned (version : String)
  | missed (cacheKey : Option String)
  | counted (cacheKey : Option String) (total countedAt : Nat)
  | selected (cacheKey : Option String) (total : Nat)
      (rows : List (ChargingStation × Option PyFloat)) (countedAt selectedAt : Nat)
  | listed (cacheKey : Option String) (body : Json) (origin : Origin)
  | answered (body : Json) (origin : Option Origin)

structure Search where
  query : StationSearchQuery
  phase : SearchPhase

/-- Where a write stands. `index` is history: how many transactions had committed before its own. -/
inductive WriterPhase where
  | received
  | committed (index : Nat)
  | returned (index : Nat)
  | refused (error : Raised)
  deriving DecidableEq

structure Writer where
  write : StationWrite
  phase : WriterPhase

/-- The committed database and, as history, those before it; the keys of Redis; the commits whose
invalidation has returned, in order, as history; and the calls in the order in which they began. -/
structure SearchState where
  db : Database
  past : List Database
  redis : String → Option RedisValue
  invalidations : List Nat
  searches : List Search
  writers : List Writer

inductive SearchAction where
  | receive (query : StationSearchQuery)
  | readVersion (j : Nat)
  | readEntry (j : Nat)
  | count (j : Nat)
  | select (j : Nat)
  | load (j : Nat)
  | store (j : Nat)
  | receiveWrite (write : StationWrite)
  | commit (k : Nat)
  | invalidate (k : Nat)
  /-- A transaction of another service. -/
  | commitOther (db : Database)
  /-- The end of an entry's lifetime, or its eviction. The version key is never lost. -/
  | expire (key : String)

/-- `INCR`: the decimal text of the next number, an error for any other text. -/
def incremented : Option String → Option String
  | none => some "1"
  | some text =>
      if text ≠ "" ∧ text.toList.all Char.isDigit then
        some (Nat.ofDigitChars 10 text.toList 0 + 1).repr
      else none

namespace SearchState

variable (env : SearchEnv) (s : SearchState)

def get (key : String) : Option String := (s.redis key).map RedisValue.text

def putSearch (j : Nat) (search : Search) : SearchState :=
  { s with searches := s.searches.set j search }

def putWriter (k : Nat) (writer : Writer) : SearchState :=
  { s with writers := s.writers.set k writer }

def readVersion : SearchPhase :=
  if env.cacheEnabled then .versioned ((truthy (s.get cacheVersionKey)).getD "0")
  else .missed none

/-- The rest of `get_cached_station_search`. -/
def readEntry (query : StationSearchQuery) (version : String) : SearchPhase :=
  let cacheKey := buildCacheKey env query version
  match s.redis cacheKey with
  | none => .missed (some cacheKey)
  | some cached =>
      match env.jsonLoads cached.text with
      | some body => .answered body cached.origin
      | none => .missed none

/-- `store_station_search`, and the answer. -/
def store (j : Nat) (query : StationSearchQuery) (cacheKey : Option String) (body : Json)
    (origin : Origin) : SearchState :=
  let s := s.putSearch j ⟨query, .answered body (some origin)⟩
  match cacheKey with
  | none => s
  | some cacheKey =>
      { s with
        redis := Function.update s.redis cacheKey (some ⟨env.jsonDumps body, some origin⟩) }

def commit (k : Nat) (write : StationWrite) : SearchState :=
  match write.run s.db with
  | (.error e, _) => s.putWriter k ⟨write, .refused e⟩
  | (.ok _, db) =>
      { s.putWriter k ⟨write, .committed s.past.length⟩ with db, past := s.past ++ [s.db] }

/-- `invalidate_station_searches`. -/
def invalidate (k : Nat) (write : StationWrite) (index : Nat) : SearchState :=
  let s := { s.putWriter k ⟨write, .returned index⟩ with
    invalidations := s.invalidations ++ [index] }
  if env.cacheEnabled then
    match incremented (s.get cacheVersionKey) with
    | none => s
    | some text =>
        { s with redis := Function.update s.redis cacheVersionKey (some ⟨text, none⟩) }
  else s

def step : SearchAction → SearchState
  | .receive query => { s with searches := s.searches ++ [⟨query, .received⟩] }
  | .readVersion j =>
      match s.searches[j]? with
      | some ⟨query, .received⟩ => s.putSearch j ⟨query, s.readVersion env⟩
      | _ => s
  | .readEntry j =>
      match s.searches[j]? with
      | some ⟨query, .versioned version⟩ => s.putSearch j ⟨query, s.readEntry env query version⟩
      | _ => s
  | .count j =>
      match s.searches[j]? with
      | some ⟨query, .missed cacheKey⟩ =>
          s.putSearch j ⟨query, .counted cacheKey (env.countStations query s.db) s.past.length⟩
      | _ => s
  | .select j =>
      match s.searches[j]? with
      | some ⟨query, .counted cacheKey total countedAt⟩ =>
          s.putSearch j ⟨query, .selected cacheKey total (env.selectStations query s.db) countedAt
            s.past.length⟩
      | _ => s
  | .load j =>
      match s.searches[j]? with
      | some ⟨query, .selected cacheKey total rows countedAt selectedAt⟩ =>
          s.putSearch j ⟨query, .listed cacheKey
            (listResponse env query total (loadChargePoints rows s.db))
            ⟨query, countedAt, selectedAt, s.past.length⟩⟩
      | _ => s
  | .store j =>
      match s.searches[j]? with
      | some ⟨query, .listed cacheKey body origin⟩ => s.store env j query cacheKey body origin
      | _ => s
  | .receiveWrite write => { s with writers := s.writers ++ [⟨write, .received⟩] }
  | .commit k =>
      match s.writers[k]? with
      | some ⟨write, .received⟩ => s.commit k write
      | _ => s
  | .invalidate k =>
      match s.writers[k]? with
      | some ⟨write, .committed index⟩ => s.invalidate env k write index
      | _ => s
  | .commitOther db => { s with db, past := s.past ++ [s.db] }
  | .expire key =>
      if key = cacheVersionKey then s
      else { s with redis := Function.update s.redis key none }

/-- Nothing has been cached or asked for yet; the database is arbitrary. -/
structure Initial : Prop where
  past : s.past = []
  redis : ∀ key, s.redis key = none
  invalidations : s.invalidations = []
  searches : s.searches = []
  writers : s.writers = []

/-- The database when a number of transactions had committed. -/
def dbAt (n : Nat) : Option Database := (s.past ++ [s.db])[n]?

end SearchState

end ChargeMate
