import ChargeMate.ModelListings
import ChargeMate.ModelRegistration
import ChargeMate.ModelRoutes
import ChargeMate.ModelSystem

/-! The whole backend: the accounts, the system behind the routes, and the requests that the
decorators of `auth/decorators.py` have let through. A request is admitted in one step and served in
a later one, with the user and the claims that its decorator has loaded; its payload is one that the
schemas accept. -/

namespace ChargeMate

open Relational

/-- A call of a route behind `access_token_required` or `roles_required`. -/
inductive RouteCall where
  | currentUser
  | logout
  | logoutAll
  | changePassword (payload : Auth.ChangePasswordRequest)
  | createBooking (payload : BookingHoldRequest)
  | listMyBookings (query : BookingListQuery)
  | getMyBooking (bookingId : Uuid)
  | cancelMyBooking (bookingId : Uuid) (version : Nat)
  | createCheckoutOrder (payload : CreatePaymentOrderRequest)
  | verifyCheckout (payload : VerifyCheckoutPaymentRequest)
  | startSession (payload : StartChargingSessionRequest)
  | completeSession (sessionId : Uuid) (payload : CompleteChargingSessionRequest)
  | listOperatorOperations (query : ChargingOperationListQuery)
  | listMySessions (query : ChargingSessionListQuery)
  | getMySession (sessionId : Uuid)
  | listMyStations (query : OwnedStationListQuery)
  | createChargingStation (payload : StationCreateRequest)
  | updateMyStation (stationId : Uuid) (payload : StationUpdateRequest)
  | updateMyChargePoint (stationId chargePointId : Uuid) (payload : ChargePointUpdateRequest)

/-- What serving a call draws: the clocks, fresh identifiers, the salt of a new password hash and
the row that a query without an order returns first. -/
structure ServiceDraws where
  requestId : Uuid
  rowId : Uuid
  pointIds : List Uuid
  salt : String
  choice : Nat
  now : Timestamp
  createdAt : Timestamp

/-- The user as the services see it. -/
def Auth.User.principal (user : Auth.User) : ChargeMate.User := ⟨user.id, user.role⟩

/-- The roles that `roles_required` asks for. -/
def RouteCall.allowedRoles : RouteCall → Option (List UserRole)
  | .startSession .. | .completeSession .. | .listOperatorOperations .. | .listMyStations ..
  | .createChargingStation .. | .updateMyStation .. | .updateMyChargePoint .. =>
      some [.stationAdmin, .systemAdmin]
  | _ => none

def RouteCall.allows (call : RouteCall) (role : UserRole) : Prop :=
  ∀ roles ∈ call.allowedRoles, role ∈ roles

instance (call : RouteCall) (role : UserRole) : Decidable (call.allows role) := by
  unfold RouteCall.allows
  infer_instance

/-- What a call does to the accounts. A password change goes on with the user that its decorator has
loaded. -/
def RouteCall.serveAccounts (auth : Auth.Environment) (user : Auth.User)
    (claims : Auth.AccessClaims) (draws : ServiceDraws) (accounts : Auth.AuthDatabase) :
    RouteCall → Auth.AuthDatabase
  | .logout => (Auth.revokeAuthSession claims.sid user.id draws.now accounts).2
  | .logoutAll => (Auth.revokeAllAuthSessions user.id draws.now accounts).2
  | .changePassword payload =>
      (Auth.changeLoadedPassword auth user payload draws.salt draws.now accounts).2
  | _ => accounts

/-- The action of the system that a call begins with. The routes that only read have none. -/
def RouteCall.action {Body : Type} (user : User) (draws : ServiceDraws) :
    RouteCall → Option (Action Body)
  | .createBooking payload => some (.createBookingHold user payload draws.rowId draws.now)
  | .listMyBookings query => some (.findUserBookings user.id query draws.now)
  | .getMyBooking bookingId => some (.getUserBooking user.id bookingId draws.now)
  | .cancelMyBooking bookingId version =>
      some (.requestCancellation draws.requestId user.id bookingId version draws.rowId draws.choice
        draws.now draws.createdAt)
  | .createCheckoutOrder payload => some (.requestOrder draws.requestId user payload)
  | .verifyCheckout payload => some (.verifyCheckoutPayment user payload)
  | .startSession payload => some (.startChargingSession user payload draws.rowId draws.now)
  | .completeSession sessionId payload =>
      some (.completeChargingSession user sessionId payload draws.now)
  | .createChargingStation payload =>
      some (.createStation user payload draws.rowId draws.pointIds)
  | .updateMyStation stationId payload => some (.updateStation user stationId payload)
  | .updateMyChargePoint stationId chargePointId payload =>
      some (.updateChargePoint user stationId chargePointId payload)
  | .currentUser | .logout | .logoutAll | .changePassword _ | .listOperatorOperations _
  | .listMySessions _ | .getMySession _ | .listMyStations _ => none

/-- The actions that no request with an access token begins with: the later steps of such a request,
the webhook route and the maintenance jobs. -/
def Action.Background {Body : Type} : Action Body → Prop
  | .expireStaleBookingHolds .. | .beginOrder .. | .callOrder .. | .closeOrder ..
  | .receiveDelivery .. | .storeDelivery .. | .callRefund .. | .closeCancellation ..
  | .readCancellation .. | .startReconciliation .. | .reconcileNext .. => True
  | _ => False

instance {Body : Type} (a : Action Body) : Decidable a.Background :=
  match a with
  | .expireStaleBookingHolds .. | .beginOrder .. | .callOrder .. | .closeOrder ..
  | .receiveDelivery .. | .storeDelivery .. | .callRefund .. | .closeCancellation ..
  | .readCancellation .. | .startReconciliation .. | .reconcileNext .. => .isTrue trivial
  | .createBookingHold .. | .findUserBookings .. | .getUserBooking .. | .cancelUserBooking ..
  | .requestOrder .. | .verifyCheckoutPayment .. | .requestCancellation ..
  | .startChargingSession .. | .completeChargingSession .. | .createStation ..
  | .updateStation .. | .updateChargePoint .. => .isFalse id

/-- A login whose credentials have been accepted: the user that matched, and what was presented. -/
structure AcceptedLogin where
  user : Auth.User
  data : Auth.LoginRequest

inductive Credential where
  | password (login : AcceptedLogin)
  | refreshToken (raw : String)

/-- A pair of tokens that was handed out, and for what. -/
structure Grant where
  userId : Uuid
  credential : Credential
  tokens : Auth.IssuedSessionTokens
  grantedAt : Timestamp

/-- A request that its decorator has let through. -/
structure Admission where
  token : Auth.Jwt
  user : Auth.User
  claims : Auth.AccessClaims
  call : RouteCall
  admittedAt : Timestamp
  served : Bool

/-- The backend. `grants` and `admissions` are history, the oldest first. -/
structure Site where
  accounts : Auth.AuthDatabase
  profiles : Table Auth.Profile
  world : World
  logins : List AcceptedLogin
  grants : List Grant
  admissions : List Admission

/-- Nobody has logged in and nothing has been requested yet; the accounts are arbitrary. -/
structure Site.Initial (s : Site) : Prop where
  authSessions : s.accounts.authSessions = ∅
  world : s.world.Initial
  logins : s.logins = []
  grants : s.grants = []
  admissions : s.admissions = []

/-- `register` takes what its `SELECT` has read: other registrations may have committed since. -/
inductive SiteAction (Body : Type) where
  | register (payload : Auth.RegistrationPayload) (draws : Auth.RegistrationDraws)
      (seen : Auth.Directory)
  | authenticate (data : Auth.LoginRequest) (now : Timestamp)
  | createSession (login : Nat) (draws : Auth.Draws) (now issuedAt : Timestamp)
  | refresh (raw : String) (draws : Auth.Draws) (now : Timestamp)
  | setActive (userId : Uuid) (isActive : Bool)
  | letIn (authorization : Option Auth.Authorization) (call : RouteCall) (now : Timestamp)
  | serve (admission : Nat) (draws : ServiceDraws)
  | background (a : Action Body)

section

variable {Body : Type} (env : Env Body) (auth : Auth.Environment) (text : Auth.TextEnv)

/-- `POST /auth/register`. -/
def Site.register (s : Site) (payload : Auth.RegistrationPayload) (draws : Auth.RegistrationDraws)
    (seen : Auth.Directory) : Site :=
  match Auth.RegisterUserRequest.modelValidate text payload with
  | none => s
  | some data =>
      let directory :=
        (Auth.registerUser text auth data draws seen ⟨s.accounts, s.profiles⟩).2
      { s with accounts := directory.db, profiles := directory.profiles }

/-- The first transaction of `POST /auth/login`. -/
def Site.authenticate (s : Site) (data : Auth.LoginRequest) (now : Timestamp) : Site :=
  match Auth.authenticateUser auth data now s.accounts with
  | (.ok user, accounts) => { s with accounts, logins := s.logins ++ [⟨user, data⟩] }
  | (.error _, accounts) => { s with accounts }

/-- Its second transaction and its answer. -/
def Site.createSession (s : Site) (i : Nat) (draws : Auth.Draws) (now issuedAt : Timestamp) :
    Site :=
  match s.logins[i]? with
  | none => s
  | some login =>
      let s := { s with logins := s.logins.eraseIdx i }
      match Auth.createAuthSession auth login.user.id draws now issuedAt s.accounts with
      | (.ok tokens, accounts) =>
          { s with
            accounts
            grants := s.grants ++ [⟨login.user.id, .password login, tokens, now⟩] }
      | (.error _, accounts) => { s with accounts }

/-- `POST /auth/refresh`. -/
def Site.refresh (s : Site) (raw : String) (draws : Auth.Draws) (now : Timestamp) : Site :=
  match Auth.rotateAuthSession auth raw draws now s.accounts with
  | (.ok tokens, accounts) =>
      { s with
        accounts
        grants := s.grants ++ [⟨tokens.session.userId, .refreshToken raw, tokens, now⟩] }
  | (.error _, accounts) => { s with accounts }

/-- `access_token_required`, and `roles_required` where the route has it. -/
def Site.letIn (s : Site) (authorization : Option Auth.Authorization) (call : RouteCall)
    (now : Timestamp) : Site :=
  match authorization, Auth.accessTokenRequired auth authorization now s.accounts with
  | some header, some (user, claims) =>
      if call.allows user.role then
        { s with
          admissions := s.admissions ++ [{
            token := header.token
            user
            claims
            call
            admittedAt := now
            served := false }] }
      else s
  | _, _ => s

/-- The service behind a route, once for each request. -/
def Site.serve (s : Site) (i : Nat) (draws : ServiceDraws) : Site :=
  match s.admissions[i]? with
  | none => s
  | some a =>
      if a.served then s
      else { s with
        accounts := a.call.serveAccounts auth a.user a.claims draws s.accounts
        world := match a.call.action a.user.principal draws with
          | none => s.world
          | some action => s.world.step env action
        admissions := s.admissions.set i { a with served := true } }

def Site.step (s : Site) : SiteAction Body → Site
  | .register payload draws seen => s.register auth text payload draws seen
  | .authenticate data now => s.authenticate auth data now
  | .createSession login draws now issuedAt => s.createSession auth login draws now issuedAt
  | .refresh raw draws now => s.refresh auth raw draws now
  | .setActive userId isActive =>
      { s with accounts := s.accounts.step auth (.setActive userId isActive) }
  | .letIn authorization call now => s.letIn auth authorization call now
  | .serve admission draws => s.serve env auth admission draws
  | .background a => if a.Background then { s with world := s.world.step env a } else s

abbrev Site.run (s : Site) (actions : List (SiteAction Body)) : Site :=
  Transition.run (Site.step env auth text) s actions

omit env text in
/-- Nobody can sign an access token but the backend: a token that decodes was handed out. -/
def Site.Unforged (s : Site) : SiteAction Body → Prop
  | .letIn (some header) _ now => (auth.jwtDecode header.token now).isSome →
      ∃ g ∈ s.grants, g.tokens.accessToken.value = header.token
  | _ => True

end

end ChargeMate
