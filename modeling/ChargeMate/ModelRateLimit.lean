import ChargeMate.FoundationRun
import ChargeMate.ModelText
import Mathlib.Logic.Function.Basic

/-! The rate limiter of the routes: `security/rate_limit.py`, with the commands of Redis that its
script runs. Redis counts time in milliseconds. -/

namespace ChargeMate

/-! ### Counter keys of Redis -/

/-- The counter under a key, and when the key vanishes. -/
structure Counter where
  value : Nat
  expiresAt : Option Int
  deriving DecidableEq

abbrev Counters := String → Option Counter

namespace Counters

variable (counters : Counters) (now : Int) (key : String)

/-- A key whose time has come is not there any more. -/
def read : Option Counter := (counters key).filter fun c => ∀ t ∈ c.expiresAt, now < t

/-- `INCR`: a key that is missing counts from 0. -/
def incr : Nat × Counters :=
  let counter := (counters.read now key).getD ⟨0, none⟩
  (counter.value + 1,
    Function.update counters key (some { counter with value := counter.value + 1 }))

/-- `EXPIRE`: a time that is not positive deletes the key. -/
def expire (seconds : Int) : Counters :=
  match counters.read now key with
  | none => counters
  | some counter => Function.update counters key
      (if 0 < seconds then some { counter with expiresAt := some (now + seconds * 1000) } else none)

/-- `TTL`, rounded to seconds. -/
def ttl : Int :=
  match counters.read now key with
  | none => -2
  | some ⟨_, none⟩ => -1
  | some ⟨_, some t⟩ => (t - now + 500) / 1000

end Counters

/-- `RATE_LIMIT_SCRIPT`: its commands run at one time, with nothing between them. -/
def rateLimitScript (now : Int) (key : String) (windowSeconds : Int) (counters : Counters) :
    (Nat × Int) × Counters :=
  let (current, counters) := counters.incr now key
  let counters := if current = 1 then counters.expire now key windowSeconds else counters
  ((current, counters.ttl now key), counters)

/-! ### The decorator -/

/-- What `rate_limit` reads from the configuration: the limit is that of the decorated route's
scope. `sha256Hex` is the digest of the text in UTF-8. -/
structure RateLimitConfig where
  rateLimitingEnabled : Bool
  trustProxyHeaders : Bool
  limit : String → Int
  windowSeconds : Int
  sha256Hex : String → String

/-- A request of a decorated route. `redisAvailable` says whether the call of Redis succeeds. -/
structure LimitedRequest where
  scope : String
  forwardedFor : Option String
  remoteAddr : Option String
  receivedAt : Int
  redisAvailable : Bool
  deriving DecidableEq

/-- `g.rate_limit`, from which the headers are made. -/
structure RateLimitState where
  limit : Int
  remaining : Int
  retryAfter : Int
  deriving DecidableEq

/-- Whether the view is called; a request that is not is answered with 429 and `Retry-After`. -/
structure RateLimitAnswer where
  admitted : Bool
  state : Option RateLimitState
  deriving DecidableEq

def clientAddress (config : RateLimitConfig) (request : LimitedRequest) : String :=
  let firstAddress := strip (firstPart ',' (request.forwardedFor.getD ""))
  if config.trustProxyHeaders ∧ firstAddress ≠ "" then firstAddress
  else (request.remoteAddr.filter fun address => address ≠ "").getD "unknown"

def rateLimitKey (config : RateLimitConfig) (scope clientAddress : String) : String :=
  "chargemate:rate-limit:" ++ scope ++ ":" ++ config.sha256Hex clientAddress

/-- The key that a request is counted under. -/
def LimitedRequest.key (config : RateLimitConfig) (request : LimitedRequest) : String :=
  rateLimitKey config request.scope (clientAddress config request)

/-- A call of Redis that fails lets the request pass. -/
def rateLimit (config : RateLimitConfig) (request : LimitedRequest) (counters : Counters) :
    RateLimitAnswer × Counters :=
  if ¬config.rateLimitingEnabled then (⟨true, none⟩, counters)
  else if ¬request.redisAvailable then (⟨true, none⟩, counters)
  else
    let limit := config.limit request.scope
    let ((count, ttl), counters) :=
      rateLimitScript request.receivedAt (request.key config) config.windowSeconds counters
    (⟨count ≤ limit, some ⟨limit, max (limit - count) 0, max ttl 0⟩⟩, counters)

/-! ### Requests one after the other -/

/-- The counters, and the requests answered so far. -/
structure Limiter where
  counters : Counters
  answers : List (LimitedRequest × RateLimitAnswer)

def Limiter.initial : Limiter := ⟨fun _ => none, []⟩

def Limiter.step (config : RateLimitConfig) (s : Limiter) (request : LimitedRequest) : Limiter :=
  let outcome := rateLimit config request s.counters
  ⟨outcome.2, s.answers ++ [(request, outcome.1)]⟩

abbrev Limiter.run (config : RateLimitConfig) (s : Limiter) (requests : List LimitedRequest) :
    Limiter :=
  Transition.run (Limiter.step config) s requests

end ChargeMate
