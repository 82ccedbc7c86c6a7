import ChargeMate.ModelRoutes

/-! One browser tab and the server: `frontend/src/api/client.ts` and `auth.ts`. The tab keeps its
access token in memory and the refresh token in the cookie. Each request is sent, served and
answered in steps of their own, in any order between requests; a refresh is in flight at most once,
and the calls that meet a 401 meanwhile wait for it. A login is one step. -/

namespace ChargeMate.Auth

open Relational

/-- `refreshPromise`. The cookie is attached when the request is sent. -/
inductive RefreshPhase where
  | idle
  | sent (cookie : Option String)
  | answered (reply : Reply)
  deriving DecidableEq

/-- A call of `requestJson` with `authenticated: true`. -/
inductive CallPhase where
  | sent (token : Option Jwt) (retry : Bool)
  | answered (status : Nat) (retry : Bool)
  | waiting
  | returned
  /-- The call ends with an `ApiError` of this status. -/
  | failed (status : Nat)
  deriving DecidableEq

/-- The refresh resolves with its token, or rejects, for every call that waits for it. -/
def CallPhase.resume (reply : Reply) : CallPhase → CallPhase
  | .waiting => if reply.status = 200 then .sent reply.accessToken true else .failed reply.status
  | phase => phase

/-- A call of `logout` or `logoutAllDevices`, with the server's answer once there is one. -/
structure LogoutCall where
  kind : LogoutKind
  token : Option Jwt
  reply : Option Reply
  settled : Bool
  deriving DecidableEq

/-- The server's database and clock, and the tab. `signedInAt` is history: how many logouts had been
called when the tab last logged in. -/
structure Joint where
  db : AuthDatabase
  clock : Timestamp
  accessToken : Option Jwt
  cookie : Option String
  refresh : RefreshPhase
  calls : List CallPhase
  logouts : List LogoutCall
  signedInAt : Nat

inductive TabAction where
  | tick (now : Timestamp)
  | login (data : LoginRequest) (draws : Draws)
  | restore
  | call
  | serveCall (i : Nat)
  | deliverCall (i : Nat)
  | serveRefresh (draws : Draws)
  | deliverRefresh
  | logout (kind : LogoutKind)
  | serveLogout (i : Nat)
  | deliverLogout (i : Nat)
  | dropLogout (i : Nat)

/-- `Authorization: Bearer ...`, if there is a token. -/
def bearer (token : Option Jwt) : Option Authorization := token.map fun t => ⟨"Bearer", t⟩

namespace Joint

variable (env : Environment) (s : Joint)

/-- `refreshAccessToken`: start a refresh unless one is in flight. -/
def refreshAccessToken : Joint :=
  match s.refresh with
  | .idle => { s with refresh := .sent s.cookie }
  | _ => s

def login (data : LoginRequest) (draws : Draws) : Joint :=
  let (reply, db) := loginRoute env data draws s.clock s.db
  if reply.status = 200 then
    { s with
      db
      cookie := reply.cookie.apply s.cookie
      accessToken := reply.accessToken
      signedInAt := s.logouts.length }
  else { s with db }

def serveCall (i : Nat) : Joint :=
  match s.calls[i]? with
  | some (.sent token retry) =>
      let status := if (accessTokenRequired env (bearer token) s.clock s.db).isSome then 200 else 401
      { s with calls := s.calls.set i (.answered status retry) }
  | _ => s

/-- A first 401 waits for the refresh, a second one is the call's result. -/
def deliverCall (i : Nat) : Joint :=
  match s.calls[i]? with
  | some (.answered status retry) =>
      if status = 401 ∧ !retry then
        { s.refreshAccessToken with calls := s.calls.set i .waiting }
      else if 200 ≤ status ∧ status < 300 then { s with calls := s.calls.set i .returned }
      else { s with calls := s.calls.set i (.failed status) }
  | _ => s

def serveRefresh (draws : Draws) : Joint :=
  match s.refresh with
  | .sent cookie =>
      let (reply, db) := refreshRoute env cookie draws s.clock s.db
      { s with db, refresh := .answered reply }
  | _ => s

def deliverRefresh : Joint :=
  match s.refresh with
  | .answered reply =>
      { s with
        refresh := .idle
        cookie := reply.cookie.apply s.cookie
        accessToken := if reply.status = 200 then reply.accessToken else s.accessToken
        calls := s.calls.map (CallPhase.resume reply) }
  | _ => s

def serveLogout (i : Nat) : Joint :=
  match s.logouts[i]? with
  | some call =>
      if call.reply = none then
        let (reply, db) := logoutRoute env call.kind (bearer call.token) s.clock s.db
        { s with db, logouts := s.logouts.set i { call with reply := some reply } }
      else s
  | none => s

/-- The `finally` clause: `clearAuthentication`. -/
def settleLogout (i : Nat) (call : LogoutCall) : Joint :=
  { s with accessToken := none, logouts := s.logouts.set i { call with settled := true } }

def deliverLogout (i : Nat) : Joint :=
  match s.logouts[i]? with
  | some call =>
      match call.reply, call.settled with
      | some reply, false => { s.settleLogout i call with cookie := reply.cookie.apply s.cookie }
      | _, _ => s
  | none => s

/-- The tab loses the connection: its request or the answer to it. -/
def dropLogout (i : Nat) : Joint :=
  match s.logouts[i]? with
  | some call => if call.settled then s else s.settleLogout i call
  | none => s

def step : TabAction → Joint
  | .tick now => { s with clock := max s.clock now }
  | .login data draws => s.login env data draws
  | .restore => s.refreshAccessToken
  | .call => { s with calls := s.calls ++ [.sent s.accessToken false] }
  | .serveCall i => s.serveCall env i
  | .deliverCall i => s.deliverCall i
  | .serveRefresh draws => s.serveRefresh env draws
  | .deliverRefresh => s.deliverRefresh
  | .logout kind => { s with logouts := s.logouts ++ [⟨kind, s.accessToken, none, false⟩] }
  | .serveLogout i => s.serveLogout env i
  | .deliverLogout i => s.deliverLogout i
  | .dropLogout i => s.dropLogout i

/-- A tab that has just loaded the page. -/
def start (db : AuthDatabase) (clock : Timestamp) (cookie : Option String) : Joint where
  db := db
  clock := clock
  accessToken := none
  cookie := cookie
  refresh := .idle
  calls := []
  logouts := []
  signedInAt := 0

end Joint

end ChargeMate.Auth
