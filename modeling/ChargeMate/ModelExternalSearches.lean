import ChargeMate.FoundationCaches
import ChargeMate.FoundationRun
import ChargeMate.ModelExternal
import ChargeMate.ModelListings
import ChargeMate.ModelRateLimit

/-! Searches of external stations behind their cache: `stations/external_service.py`, statement by
statement, over the Redis that the whole application shares. Any call of Redis may fail, and the
provider may answer anything. -/

namespace ChargeMate

open Expiring

def seconds (n : Int) : Int := n * 1000000

/-- Bounded nearby search accepted by the external-station endpoint. The default radius is the
number `25`, which is not validated and so stays no `Decimal`: it is `none` here. -/
structure ExternalStationSearchQuery where
  latitude : PyDecimal
  longitude : PyDecimal
  radiusKm : Option PyDecimal
  maxResults : Nat
  latitudeRange : -90 ≤ latitude.value ∧ latitude.value ≤ 90
  longitudeRange : -180 ≤ longitude.value ∧ longitude.value ≤ 180
  radiusRange : ∀ radius ∈ radiusKm, 0 < radius.value ∧ radius.value ≤ 100
  maxResultsRange : 1 ≤ maxResults ∧ maxResults ≤ 100

/-- The configuration and the functions of the standard library. -/
structure ExternalSearchEnv extends ExternalEnv where
  testing : Bool
  openChargeMapApiKey : Option String
  decimalStr : PyDecimal → String
  jsonDumps : Json → String
  jsonLoads : String → Option Json
  sha256Hex : String → String

def externalCachePrefix : String := "chargemate:stations:external"

def externalCacheTtlSeconds : Int := 300

section

variable (env : ExternalSearchEnv)

/-- `json.dumps(query.model_dump(mode="json"), separators=(",", ":"), sort_keys=True)`. -/
def canonicalExternalQuery (query : ExternalStationSearchQuery) : String :=
  let decimal := fun d => jsonString (env.decimalStr d)
  String.ofList
    ("\x7b\"latitude\":".toList ++ decimal query.latitude ++
    ",\"longitude\":".toList ++ decimal query.longitude ++
    ",\"max_results\":".toList ++ Nat.toDigits 10 query.maxResults ++
    ",\"radius_km\":".toList ++ query.radiusKm.elim "25".toList decimal ++ "\x7d".toList)

/-- `_cache_key`. -/
def externalCacheKey (query : ExternalStationSearchQuery) : String :=
  externalCachePrefix ++ ":" ++ env.sha256Hex (canonicalExternalQuery env query)

/-- The parameters of the request to the provider. -/
def openChargeMapParams (query : ExternalStationSearchQuery) (apiKey : String) :
    List (String × String) :=
  [("key", apiKey), ("output", "json"), ("latitude", env.decimalStr query.latitude),
    ("longitude", env.decimalStr query.longitude),
    ("distance", query.radiusKm.elim "25" env.decimalStr),
    ("distanceunit", "KM"), ("maxresults", query.maxResults.repr), ("compact", "false"),
    ("verbose", "false"), ("opendata", "true")]

end

/-- The keys that the other parts of the application write: the rate limiter, the cache of the
station searches and the job queue. -/
inductive OtherRedisKey where
  | rateLimit (config : RateLimitConfig) (scope clientAddress : String)
  | searchVersion
  | searchPage (env : SearchEnv) (query : StationSearchQuery) (version : String)
  | jobQueue (name : String)

def OtherRedisKey.text : OtherRedisKey → String
  | .rateLimit config scope clientAddress => rateLimitKey config scope clientAddress
  | .searchVersion => cacheVersionKey
  | .searchPage env query version => buildCacheKey env query version
  | .jobQueue name => "rq:" ++ name

/-! ### The system -/

/-- An answer of the provider, what it was asked, and when it came. -/
structure ProviderReport where
  params : List (String × String)
  answer : ExternalAnswer
  answeredAt : Timestamp

/-- Where one call of `find_external_stations` stands. `asked` is history: what the provider
answered to this very call, if it was asked. -/
inductive ExternalPhase where
  | received
  | missed
  | fetched (stations : List ExternalStation) (asked : ProviderReport)
  | answered (result : Except ExternalRaised (List Json)) (asked : Option ProviderReport)
      (answeredAt : Timestamp)

structure ExternalSearch where
  query : ExternalStationSearchQuery
  phase : ExternalPhase

/-- The clock, the texts in Redis, the answers of the provider so far, as history, and the calls in
the order in which they began. -/
structure ExternalState where
  now : Timestamp
  redis : Store String String Timestamp
  reports : List ProviderReport
  searches : List ExternalSearch

/-- `available` says whether the call of Redis succeeds. -/
inductive ExternalAction where
  | receive (query : ExternalStationSearchQuery)
  | readCache (j : Nat) (available : Bool)
  | fetch (j : Nat) (answer : ExternalAnswer)
  | writeCache (j : Nat) (available : Bool)
  | writeOther (key : OtherRedisKey) (text : String) (expiresAt : Option Timestamp)
  | evict (key : String)
  | wait (duration : Nat)

namespace ExternalState

variable (env : ExternalSearchEnv) (s : ExternalState)

def putSearch (j : Nat) (search : ExternalSearch) : ExternalState :=
  { s with searches := s.searches.set j search }

/-- `_read_cache`: a value that is no JSON list counts as missing. -/
def readCache (query : ExternalStationSearchQuery) (available : Bool) : Option (List Json) :=
  if env.testing ∨ ¬available then none
  else
    match (s.redis.get s.now (externalCacheKey env query)).bind env.jsonLoads with
    | some (.arr items) => some items
    | _ => none

/-- Without an API key the provider is not asked. -/
def fetch (j : Nat) (query : ExternalStationSearchQuery) (answer : ExternalAnswer) :
    ExternalState :=
  match truthy env.openChargeMapApiKey with
  | none => s.putSearch j ⟨query, .answered (.error .externalStationProviderError) none s.now⟩
  | some apiKey =>
      let report : ProviderReport := ⟨openChargeMapParams env query apiKey, answer, s.now⟩
      let s := { s with reports := s.reports ++ [report] }
      match fetchOpenChargeMapStations env.toExternalEnv answer with
      | .error e => s.putSearch j ⟨query, .answered (.error e) (some report) s.now⟩
      | .ok stations => s.putSearch j ⟨query, .fetched stations report⟩

/-- `_write_cache`, and the answer. -/
def writeCache (j : Nat) (query : ExternalStationSearchQuery) (stations : List ExternalStation)
    (asked : ProviderReport) (available : Bool) : ExternalState :=
  let items := stations.map ExternalStation.serialize
  let s := s.putSearch j ⟨query, .answered (.ok items) (some asked) s.now⟩
  let entry : Entry String Timestamp :=
    ⟨env.jsonDumps (.arr items), some (s.now + seconds externalCacheTtlSeconds)⟩
  if env.testing ∨ ¬available then s
  else { s with redis := s.redis.put (externalCacheKey env query) entry }

def step : ExternalAction → ExternalState
  | .receive query => { s with searches := s.searches ++ [⟨query, .received⟩] }
  | .readCache j available =>
      match s.searches[j]? with
      | some ⟨query, .received⟩ =>
          match s.readCache env query available with
          | some items => s.putSearch j ⟨query, .answered (.ok items) none s.now⟩
          | none => s.putSearch j ⟨query, .missed⟩
      | _ => s
  | .fetch j answer =>
      match s.searches[j]? with
      | some ⟨query, .missed⟩ => s.fetch env j query answer
      | _ => s
  | .writeCache j available =>
      match s.searches[j]? with
      | some ⟨query, .fetched stations asked⟩ => s.writeCache env j query stations asked available
      | _ => s
  | .writeOther key text expiresAt => { s with redis := s.redis.put key.text ⟨text, expiresAt⟩ }
  | .evict key => { s with redis := s.redis.evict key }
  | .wait duration => { s with now := s.now + duration }

/-- Nothing has been cached or asked for yet. -/
structure Initial : Prop where
  redis : ∀ key, s.redis key = none
  reports : s.reports = []
  searches : s.searches = []

abbrev Reachable : Prop := Transition.Reachable (step env) Initial s

end ExternalState

end ChargeMate
