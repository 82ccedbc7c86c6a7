import ChargeMate.ModelClient
import ChargeMate.ModelLogins
import ChargeMate.RefineAccounts

/-! What the routes answer. A bearer token is accepted when its claims name a live session of an
active user; a refresh answers with tokens when the cookie is that of such a session, and the
session it opens is the next of the same family. -/

namespace ChargeMate.Auth

open Relational

/-- What the package `jwt` documents of the tokens it has signed itself: the payload can be read,
and decoding returns it between `iat` and `exp`, for the right issuer and audience. -/
structure Environment.SoundJwt (env : Environment) : Prop where
  payload_encode : ∀ claims, (env.jwtEncode claims).payload = claims
  decode_encode : ∀ claims now, env.jwtDecode (env.jwtEncode claims) now =
    if claims.iss = env.jwtIssuer ∧ claims.aud = env.jwtAudience ∧
        claims.iat * 1000000 ≤ now ∧ now < claims.exp * 1000000 then some claims else none

variable {env : Environment} {db : AuthDatabase} {now : Timestamp}

theorem Environment.SoundJwt.eq_of_decode (h : env.SoundJwt) {claims claims' : AccessClaims}
    (hdecode : env.jwtDecode (env.jwtEncode claims) now = some claims') : claims' = claims := by
  rw [h.decode_encode] at hdecode
  split at hdecode
  · exact (Option.some.inj hdecode).symm
  · cases hdecode

/-! ### The decorator -/

/-- What the decorator has checked of the user and the claims it passes on. -/
structure Authorized (env : Environment) (token : Jwt) (now : Timestamp) (db : AuthDatabase)
    (user : User) (claims : AccessClaims) (session : AuthSession) : Prop where
  decoded : env.jwtDecode token now = some claims
  type_eq : claims.type = "access"
  user_eq : db.users.find claims.sub = some user
  active : user.isActive = true
  mem : session ∈ db.authSessions
  id_eq : session.id = claims.sid
  userId_eq : session.userId = claims.sub
  live : session.isRevoked = false
  current : now < session.expiresAt

theorem authorized_of_required {token : Jwt} {user : User} {claims : AccessClaims}
    (h : accessTokenRequired env (bearer (some token)) now db = some (user, claims)) :
    ∃ session, Authorized env token now db user claims session := by
  unfold accessTokenRequired bearer decodeAccessToken at h
  simp only [Option.map_some] at h
  split at h
  · cases h
  cases hdecode : env.jwtDecode token now with
  | none =>
      rw [hdecode] at h
      cases h
  | some payload =>
      rw [hdecode] at h
      simp only at h
      split at h
      · cases h
      next payload' hpayload =>
      split at hpayload
      · cases hpayload
      next htype =>
      cases hpayload
      split at h
      · next user' session huser hsession =>
        split at h
        · next hactive =>
          rw [Option.some.injEq, Prod.mk.injEq] at h
          obtain ⟨rfl, rfl⟩ := h
          have hp := Table.prop_of_scalar hsession
          simp only [decide_eq_true_eq, Bool.not_eq_true'] at hp
          exact ⟨session, hdecode, by simpa using htype, huser, hactive,
            Table.mem_of_scalar hsession, hp.1, hp.2.1, hp.2.2.1, hp.2.2.2⟩
        · cases h
      · cases h

theorem required_of_authorized {token : Jwt} {user : User} {claims : AccessClaims}
    {session : AuthSession} (h : Authorized env token now db user claims session) :
    accessTokenRequired env (bearer (some token)) now db = some (user, claims) := by
  have hsession : (db.authSessions.scalar fun s => decide (s.id = claims.sid ∧
      s.userId = claims.sub ∧ !s.isRevoked ∧ now < s.expiresAt)) = some session := by
    apply Table.scalar_eq_some_of_unique h.mem
    · simp [h.id_eq, h.userId_eq, h.live, h.current]
    · intro s hs hp
      exact Table.eq_of_key_eq hs h.mem ((of_decide_eq_true hp).1.trans h.id_eq.symm)
  unfold accessTokenRequired bearer decodeAccessToken
  simp only [Option.map_some, h.decoded, h.type_eq, ne_eq, not_true_eq_false, if_false]
  rw [if_neg (by decide +kernel)]
  simp only [h.user_eq, hsession, h.active, if_true]

/-! ### Refreshing -/

/-- The raw token is one that a rotation would replace: its session is live and its user active. -/
def AuthDatabase.accepts (env : Environment) (db : AuthDatabase) (now : Timestamp) (raw : String) :
    Bool :=
  match db.sessionOf env raw with
  | none => false
  | some session =>
      !session.isRevoked && decide (now < session.expiresAt) &&
        (db.users.find session.userId).any User.isActive

/-- How `POST /auth/refresh` ends: with tokens for a session of the presented one's family, or with
an error and perhaps a revocation. -/
inductive RefreshOutcome (env : Environment) (cookie : Option String) (draws : Draws)
    (now : Timestamp) (db : AuthDatabase) : Reply × AuthDatabase → Prop
  | refused {reply : Reply} (hstatus : reply.status ≠ 200) (htoken : reply.accessToken = none)
      (hcookie : ∀ token, reply.cookie ≠ .set token) :
      RefreshOutcome env cookie draws now db (reply, db)
  | revoked {reply : Reply} (p : AuthSession → Bool) (hstatus : reply.status ≠ 200)
      (htoken : reply.accessToken = none) (hcookie : ∀ token, reply.cookie ≠ .set token) :
      RefreshOutcome env cookie draws now db (reply, db.revokeWhere p now)
  | issued {raw : String} {session replacement : AuthSession} {user : User} {db' : AuthDatabase}
      (hcookie : cookie = some raw) (hsession : db.sessionOf env raw = some session)
      (haccepts : db.accepts env now raw = true) (huser : db.users.find session.userId = some user)
      (hactive : user.isActive = true)
      (hopen : Opened db draws session.userId session.familyId
        (issueRefreshToken env draws.tokenUrlsafe now) replacement db') :
      RefreshOutcome env cookie draws now db
        (tokenResponse ⟨replacement, issueAccessToken env user replacement.id draws.tokenId now,
            issueRefreshToken env draws.tokenUrlsafe now⟩,
          { db' with authSessions := db'.authSessions.set (session.replaceBy replacement now) })

theorem refreshRoute_outcome (env : Environment) (cookie : Option String) (draws : Draws)
    (now : Timestamp) (db : AuthDatabase) :
    RefreshOutcome env cookie draws now db (refreshRoute env cookie draws now db) := by
  have hunauthorized : RefreshOutcome env cookie draws now db (unauthorizedResponse, db) :=
    .refused (by decide) rfl (fun _ h => by cases h)
  unfold refreshRoute
  cases cookie with
  | none => exact hunauthorized
  | some raw =>
      simp only
      split
      · exact hunauthorized
      have hout := rotateAuthSession_outcome env raw draws now db
      generalize rotateAuthSession env raw draws now db = result at hout ⊢
      cases hout with
      | unknown => exact .refused (by decide) rfl (fun _ h => by cases h)
      | reused | expired | inactive =>
          exact .revoked _ (by decide) rfl (fun _ h => by cases h)
      | @refused e =>
          cases e <;> exact .refused (by decide) rfl (fun _ h => by cases h)
      | @replaced session user replacement db' hsession hlive hcurrent huser hactive hopen =>
          have haccepts : db.accepts env now raw = true := by
            simp only [AuthDatabase.accepts, hsession, hlive, huser, Option.any_some, hactive,
              Bool.not_false, Bool.true_and, Bool.and_true]
            exact decide_eq_true hcurrent
          exact .issued rfl hsession haccepts huser hactive hopen

/-- A refresh answers with tokens only for a token that is accepted. -/
theorem accepts_of_refresh {cookie : Option String} {draws : Draws}
    (h : (refreshRoute env cookie draws now db).1.status = 200) :
    ∃ raw, cookie = some raw ∧ db.accepts env now raw = true := by
  have hout := refreshRoute_outcome env cookie draws now db
  generalize refreshRoute env cookie draws now db = result at hout h
  cases hout with
  | refused hstatus => exact absurd h hstatus
  | revoked p hstatus => exact absurd h hstatus
  | issued hcookie hsession haccepts => exact ⟨_, hcookie, haccepts⟩

theorem AuthDatabase.accepts_eq_true {raw : String} :
    db.accepts env now raw = true ↔ ∃ session user, db.sessionOf env raw = some session ∧
      session.isRevoked = false ∧ now < session.expiresAt ∧
      db.users.find session.userId = some user ∧ user.isActive = true := by
  unfold AuthDatabase.accepts
  cases hsession : db.sessionOf env raw with
  | none => simp
  | some session =>
      cases huser : db.users.find session.userId with
      | none => simp [huser]
      | some user => simp [huser, and_assoc]

theorem AuthDatabase.live_of_accepts {raw : String} {session : AuthSession}
    (hsession : db.sessionOf env raw = some session) (h : db.accepts env now raw = true) :
    session.isRevoked = false := by
  obtain ⟨session', -, hsession', hlive, -⟩ := AuthDatabase.accepts_eq_true.mp h
  rw [hsession, Option.some.injEq] at hsession'
  rw [hsession', hlive]

/-- With unused draws a session can be opened. -/
theorem AuthDatabase.exists_openSession {draws : Draws} {userId : Uuid} {user : User}
    (familyId : Uuid) (hunused : draws.Unused env now db)
    (huser : db.users.find userId = some user) :
    ∃ session db', db.openSession draws userId familyId
      (issueRefreshToken env draws.tokenUrlsafe now) = some (session, db') := by
  have hinserted (r : AuthSession) (hr : r.id = draws.sessionId) :
      ∃ session db', (db.authSessions.insert r).map (fun authSessions =>
        (r, { db with authSessions })) = some (session, db') := by
    have hfree : db.authSessions.find (key r) = none := by
      rw [key_authSession, hr]
      exact Table.find_eq_none.mpr hunused.newId
    obtain ⟨t', hinsert⟩ := Table.exists_insert hfree
    exact ⟨r, _, by rw [hinsert, Option.map_some]⟩
  have horder : draws.createdAt < (issueRefreshToken env draws.tokenUrlsafe now).expiresAt :=
    hunused.inOrder
  unfold AuthDatabase.openSession
  rw [dif_pos horder]
  simp only
  rw [if_pos]
  · exact hinserted _ rfl
  · refine ⟨by rw [huser, Option.isSome_some], uniqueColumn_eq_true.mpr ?_⟩
    intro hash hnew s hs hold
    exact absurd (Option.some.inj (hold.trans hnew.symm)) (hunused.newHash s hs)

/-- With unused draws a refresh of a live session of an active user answers with tokens. -/
theorem refreshRoute_issued {raw : String} {draws : Draws} {session : AuthSession} {user : User}
    (hraw : raw ≠ "") (hsession : db.sessionOf env raw = some session)
    (hlive : session.isRevoked = false) (hcurrent : now < session.expiresAt)
    (huser : db.users.find session.userId = some user) (hactive : user.isActive = true)
    (hunused : draws.Unused env now db) :
    ∃ replacement db', Opened db draws session.userId session.familyId
        (issueRefreshToken env draws.tokenUrlsafe now) replacement db' ∧
      refreshRoute env (some raw) draws now db =
        (tokenResponse ⟨replacement, issueAccessToken env user replacement.id draws.tokenId now,
            issueRefreshToken env draws.tokenUrlsafe now⟩,
          { db' with authSessions := db'.authSessions.set (session.replaceBy replacement now) }) := by
  obtain ⟨replacement, db', hsome⟩ :=
    AuthDatabase.exists_openSession session.familyId hunused huser
  have hopen := AuthDatabase.openSession_eq_some hsome
  have hunique : uniqueColumn db'.authSessions AuthSession.replacedById
      (session.replaceBy replacement now) = true := by
    refine uniqueColumn_eq_true.mpr ?_
    intro id hid s hs hnames
    have hreplacement : s.replacedById = some replacement.id := hnames.trans hid.symm
    rcases (Table.mem_insert hopen.inserted).mp hs with hold | rfl
    · rw [hopen.id_eq] at hreplacement
      exact absurd hreplacement (hunused.unnamed s hold)
    · rw [hopen.ends] at hreplacement
      cases hreplacement
  have hexpired : isExpired session.expiresAt now = false :=
    decide_eq_false (Int.not_le.mpr hcurrent)
  refine ⟨replacement, db', hopen, ?_⟩
  simp only [refreshRoute, hraw, if_false, rotateAuthSession, hsession, hlive, hexpired, huser,
    hactive, replaceAuthSession, hsome, hunique, Bool.not_true, Bool.false_eq_true, if_true]

/-! ### Logging in and out -/

theorem authenticateUser_isActive (env : Environment) (data : LoginRequest) (now : Timestamp)
    (db : AuthDatabase) (id : Uuid) :
    ((authenticateUser env data now db).2.users.find id).any User.isActive =
      (db.users.find id).any User.isActive := by
  unfold authenticateUser
  split
  · rfl
  next user huser =>
  have hcolumns := attemptLogin_columns env user data.password now
  generalize attemptLogin env user data.password now = result at hcolumns ⊢
  obtain ⟨user', authenticated⟩ := result
  simp only at hcolumns ⊢
  have hid : user'.id = user.id := by rw [hcolumns]
  have hactive : user'.isActive = user.isActive := by rw [hcolumns]
  have hfind : db.users.find user.id = some user := Table.find_key (Table.mem_of_scalar huser)
  have hfind' : db.users.find (key user') = some user := by rw [key_user, hid, hfind]
  rw [Table.find_set hfind']
  split
  · next hk =>
    rw [← hk, hfind', Option.any_some, Option.any_some, hactive]
  · rfl

/-- How `POST /auth/login` ends: without tokens and with the sessions as they were, or with the
tokens of the first session of a new family. -/
inductive LoginOutcome (env : Environment) (draws : Draws) (now : Timestamp) (db : AuthDatabase) :
    Reply × AuthDatabase → Prop
  | refused {reply : Reply} {db' : AuthDatabase} (hstatus : reply.status ≠ 200)
      (hsessions : db'.authSessions = db.authSessions)
      (husers : ∀ id, (db'.users.find id).any User.isActive =
        (db.users.find id).any User.isActive) : LoginOutcome env draws now db (reply, db')
  | signedIn {userId : Uuid} {user : User} {session : AuthSession} {db₁ db' : AuthDatabase}
      (hsessions : db₁.authSessions = db.authSessions)
      (hopen : Opened db₁ draws userId draws.familyId
        (issueRefreshToken env draws.tokenUrlsafe now) session db') :
      LoginOutcome env draws now db
        (tokenResponse ⟨session, issueAccessToken env user session.id draws.tokenId now,
          issueRefreshToken env draws.tokenUrlsafe now⟩, db')

theorem loginRoute_outcome (env : Environment) (data : LoginRequest) (draws : Draws)
    (now : Timestamp) (db : AuthDatabase) :
    LoginOutcome env draws now db (loginRoute env data draws now db) := by
  have hsessions := authenticateUser_authSessions env data now db
  have husers := authenticateUser_isActive env data now db
  unfold loginRoute
  generalize authenticateUser env data now db = result at hsessions husers ⊢
  obtain ⟨outcome, db₁⟩ := result
  cases outcome with
  | error e => exact .refused (by decide) hsessions husers
  | ok user =>
      have hout := createAuthSession_outcome env user.id draws now now db₁
      simp only
      generalize createAuthSession env user.id draws now now db₁ = result at hout ⊢
      cases hout with
      | refused => exact .refused (by decide) hsessions husers
      | created huser hopen => exact .signedIn hsessions hopen

/-- How the logout routes end: without effect, or by revoking the session the access token names,
with others perhaps. -/
inductive LogoutOutcome (env : Environment) (token : Option Jwt) (now : Timestamp)
    (db : AuthDatabase) : Reply × AuthDatabase → Prop
  | refused (hnone : accessTokenRequired env (bearer token) now db = none) :
      LogoutOutcome env token now db (unauthorizedResponse, db)
  | served {jwt : Jwt} {user : User} {claims : AccessClaims} {session : AuthSession}
      (p : AuthSession → Bool) (htoken : token = some jwt)
      (hauthorized : Authorized env jwt now db user claims session) (hp : p session = true) :
      LogoutOutcome env token now db (⟨204, .clear, none⟩, db.revokeWhere p now)

theorem logoutRoute_outcome (env : Environment) (kind : LogoutKind) (token : Option Jwt)
    (now : Timestamp) (db : AuthDatabase) :
    LogoutOutcome env token now db (logoutRoute env kind (bearer token) now db) := by
  unfold logoutRoute
  cases hrequired : accessTokenRequired env (bearer token) now db with
  | none => exact .refused hrequired
  | some result =>
      obtain ⟨user, claims⟩ := result
      cases token with
      | none => cases hrequired
      | some jwt =>
          obtain ⟨session, hauthorized⟩ := authorized_of_required hrequired
          have huserId : session.userId = user.id :=
            hauthorized.userId_eq.trans (Table.key_of_find hauthorized.user_eq).symm
          cases kind with
          | logout =>
              have hscalar : (db.authSessions.scalar fun s =>
                  decide (s.id = claims.sid ∧ s.userId = user.id)) = some session := by
                apply Table.scalar_eq_some_of_unique hauthorized.mem
                · exact decide_eq_true ⟨hauthorized.id_eq, huserId⟩
                · intro s hs hp
                  exact Table.eq_of_key_eq hs hauthorized.mem
                    ((of_decide_eq_true hp).1.trans hauthorized.id_eq.symm)
              simp only [revokeAuthSession, hscalar, hauthorized.live, Bool.false_eq_true, if_false]
              exact .served _ rfl hauthorized (decide_eq_true rfl)
          | logoutAll => exact .served _ rfl hauthorized (decide_eq_true huserId)

end ChargeMate.Auth
