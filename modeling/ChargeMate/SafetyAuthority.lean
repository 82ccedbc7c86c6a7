import ChargeMate.ModelSite
import ChargeMate.SafetyHolds
import ChargeMate.SafetyLogout
import ChargeMate.SafetyRegistration

/-! Whose requests get past the decorators. Every token pair that was handed out goes back to a
password, link by link of refresh tokens, and a request is admitted on an access token of such a
pair. -/

namespace ChargeMate

open Relational

namespace Auth

variable {env : Environment} {now : Timestamp} {db : AuthDatabase}

/-- The case of the scheme does not matter. -/
theorem required_bearer {header : Authorization} {x : User × AccessClaims}
    (h : accessTokenRequired env (some header) now db = some x) :
    accessTokenRequired env (bearer (some header.token)) now db = some x := by
  unfold accessTokenRequired at h ⊢
  simp only [bearer, Option.map_some] at h ⊢
  split at h
  · cases h
  · rw [if_neg (by decide +kernel)]
    exact h

theorem Environment.SoundJwt.lt_expiresAt (h : env.SoundJwt) {user : User}
    {sessionId tokenId : Uuid} {issuedAt : Timestamp} {claims : AccessClaims}
    (hdecode : env.jwtDecode (env.jwtEncode (accessClaims env user sessionId tokenId issuedAt)) now
      = some claims) :
    now < (issueAccessToken env user sessionId tokenId issuedAt).expiresAt := by
  rw [h.decode_encode] at hdecode
  split at hdecode
  · next hcurrent =>
    have hexp : now < numericDate (issuedAt + minutes env.jwtAccessTokenMinutes) * 1000000 :=
      hcurrent.2.2.2
    exact Int.lt_of_lt_of_le hexp (Int.ediv_mul_le _ (by decide))
  · cases hdecode

theorem attemptLogin_accepts {user : User} {password : String}
    (h : (attemptLogin env user password now).2 = true) :
    user.isActive = true ∧ user.checkPassword env password = true := by
  unfold attemptLogin at h
  split at h
  · cases h
  next hopen =>
  have hactive : user.isActive = true := by
    simp only [Bool.or_eq_true, Bool.not_eq_true', not_or, Bool.not_eq_false] at hopen
    exact hopen.2
  simp only at h
  split at h
  · next hpassword => exact ⟨hactive, hpassword⟩
  · cases h

/-- A registration adds one user, or nothing. -/
theorem registerUser_writes (text : TextEnv) (env : Environment) (data : RegisterUserRequest)
    (draws : RegistrationDraws) (seen directory : Directory) :
    (registerUser text env data draws seen directory).2 = directory ∨
      ∃ users profiles, directory.db.users.insert (newUser env data draws) = some users ∧
        (registerUser text env data draws seen directory).2 =
          ⟨{ directory.db with users }, profiles⟩ := by
  rcases registerUser_cases text env data draws seen directory with
    ⟨e, he⟩ | ⟨user, directory', hok⟩
  · exact Or.inl (by rw [he])
  obtain ⟨rfl, hinsert⟩ := registerUser_eq_ok hok
  refine Or.inr ?_
  rw [hok]
  rw [Directory.insertUser] at hinsert
  split at hinsert
  · cases hinsert
  split at hinsert
  · cases hinsert
  split at hinsert
  · next users profiles husers _ =>
    split at hinsert
    · cases hinsert
      exact ⟨users, profiles, husers, rfl⟩
    · cases hinsert
  · cases hinsert

end Auth

/-- The presented password is that of the presented identifier, whose account is active. -/
structure AcceptedLogin.Checked (auth : Auth.Environment) (login : AcceptedLogin) : Prop where
  identifier : login.user.email = login.data.identifier ∨
    login.user.username = login.data.identifier
  active : login.user.isActive = true
  password : login.user.checkPassword auth login.data.password = true

/-- A grant to a user that goes back to the user's password: it was made for it, or for the refresh
token of an earlier such grant before that token expired. -/
inductive Earned (auth : Auth.Environment) (grants : List Grant) (userId : Uuid) : Grant → Prop
  | password {g : Grant} {login : AcceptedLogin} (hmem : g ∈ grants)
      (hcredential : g.credential = .password login) (huser : login.user.id = userId)
      (hchecked : login.Checked auth) : Earned auth grants userId g
  | refreshToken {earlier g : Grant} {raw : String} (hearned : Earned auth grants userId earlier)
      (hmem : g ∈ grants) (hcredential : g.credential = .refreshToken raw)
      (hraw : Auth.hashRefreshToken auth raw =
        Auth.hashRefreshToken auth earlier.tokens.refreshToken.value)
      (hcurrent : g.grantedAt < earlier.tokens.refreshToken.expiresAt) :
      Earned auth grants userId g

theorem Earned.mono {auth : Auth.Environment} {grants grants' : List Grant} {userId : Uuid}
    {g : Grant} (h : Earned auth grants userId g) (hsub : grants ⊆ grants') :
    Earned auth grants' userId g := by
  induction h with
  | password hmem hcredential huser hchecked =>
      exact .password (hsub hmem) hcredential huser hchecked
  | refreshToken _ hmem hcredential hraw hcurrent ih =>
      exact .refreshToken ih (hsub hmem) hcredential hraw hcurrent

/-- What a request was admitted on: an access token of an earned grant to its user, in its time, and
a role that the route allows. -/
structure Admission.Backed (auth : Auth.Environment) (grants : List Grant) (a : Admission) :
    Prop where
  token : ∃ g, Earned auth grants a.user.id g ∧ g.tokens.accessToken.value = a.token ∧
    g.tokens.session.id = a.claims.sid ∧ a.admittedAt < g.tokens.accessToken.expiresAt
  active : a.user.isActive = true
  allowed : a.call.allows a.user.role

theorem AcceptedLogin.checked_of_authenticateUser {auth : Auth.Environment}
    {data : Auth.LoginRequest} {now : Timestamp} {db db' : Auth.AuthDatabase} {user : Auth.User}
    (h : Auth.authenticateUser auth data now db = (.ok user, db')) :
    AcceptedLogin.Checked auth ⟨user, data⟩ := by
  unfold Auth.authenticateUser at h
  split at h
  · cases h
  next stored hstored =>
  have hidentifier := Table.prop_of_scalar hstored
  have hcolumns := Auth.attemptLogin_columns auth stored data.password now
  have haccepted : (Auth.attemptLogin auth stored data.password now).2 = true → _ :=
    Auth.attemptLogin_accepts
  generalize Auth.attemptLogin auth stored data.password now = result at h hcolumns haccepted
  obtain ⟨user', authenticated⟩ := result
  simp only at h hcolumns haccepted
  split at h
  · next hauthenticated =>
    obtain ⟨hactive, hpassword⟩ := haccepted hauthenticated
    cases h
    rw [hcolumns]
    exact ⟨of_decide_eq_true hidentifier, hactive, hpassword⟩
  · cases h

/-! ### The invariant -/

/-- The tokens of a grant are those that the token functions make for its user and session. -/
structure Grant.Issued (auth : Auth.Environment) (g : Grant) : Prop where
  access : ∃ (user : Auth.User) (tokenId : Uuid) (issuedAt : Timestamp), user.id = g.userId ∧
    g.tokens.accessToken =
      Auth.issueAccessToken auth user g.tokens.session.id tokenId issuedAt
  digest : g.tokens.refreshToken.digest =
    Auth.hashRefreshToken auth g.tokens.refreshToken.value

/-- The grant that came with a stored session. -/
structure Grant.Opened (g : Grant) (session : Auth.AuthSession) : Prop where
  id : session.id = g.tokens.session.id
  userId : session.userId = g.userId
  tokenHash : session.tokenHash = g.tokens.refreshToken.digest
  expiresAt : session.expiresAt = g.tokens.refreshToken.expiresAt

theorem Grant.Opened.revokeIf {g : Grant} {session : Auth.AuthSession} (h : g.Opened session)
    (p : Auth.AuthSession → Bool) (now : Timestamp) : g.Opened (session.revokeIf p now) where
  id := (Auth.AuthSession.id_revokeIf p now session).trans h.id
  userId := (Auth.AuthSession.userId_revokeIf p now session).trans h.userId
  tokenHash := (Auth.AuthSession.tokenHash_revokeIf p now session).trans h.tokenHash
  expiresAt := by
    rw [← h.expiresAt, Auth.AuthSession.revokeIf]
    split <;> rfl

/-- Every stored session came with a grant. -/
def Granted (grants : List Grant) (t : Table Auth.AuthSession) : Prop :=
  ∀ session ∈ t, ∃ g ∈ grants, g.Opened session

theorem Granted.mono {grants grants' : List Grant} {t : Table Auth.AuthSession}
    (h : Granted grants t) (hsub : grants ⊆ grants') : Granted grants' t := by
  intro session hmem
  obtain ⟨g, hg, hopened⟩ := h session hmem
  exact ⟨g, hsub hg, hopened⟩

theorem Granted.revokeWhere {grants : List Grant} {db : Auth.AuthDatabase}
    (h : Granted grants db.authSessions) (p : Auth.AuthSession → Bool) (now : Timestamp) :
    Granted grants (db.revokeWhere p now).authSessions := by
  intro session hmem
  obtain ⟨r, hr, rfl⟩ := Auth.mem_revoked.mp hmem
  obtain ⟨g, hg, hopened⟩ := h r hr
  exact ⟨g, hg, hopened.revokeIf p now⟩

/-- A new session comes with the grant that is made for it. -/
theorem Granted.insert {grants : List Grant} {t t' : Table Auth.AuthSession}
    {session : Auth.AuthSession} {g : Grant} (h : Granted grants t)
    (hinsert : t.insert session = some t') (hopened : g.Opened session) :
    Granted (grants ++ [g]) t' := by
  intro s hs
  rcases (Table.mem_insert hinsert).mp hs with hold | rfl
  · exact h.mono (List.subset_append_left _ _) s hold
  · exact ⟨g, List.mem_append_right _ List.mem_cons_self, hopened⟩

structure Site.Traced (auth : Auth.Environment) (s : Site) : Prop where
  logins : ∀ login ∈ s.logins, login.Checked auth
  grants : ∀ g ∈ s.grants, Earned auth s.grants g.userId g ∧ g.Issued auth
  sessions : Granted s.grants s.accounts.authSessions
  admissions : ∀ a ∈ s.admissions, a.Backed auth s.grants

namespace Site.Traced

variable {auth : Auth.Environment} {s : Site}

theorem start (h : s.Initial) : s.Traced auth where
  logins := by simp [h.logins]
  grants := by simp [h.grants]
  sessions := by
    intro session hmem
    rw [h.authSessions] at hmem
    exact absurd hmem (Table.notMem_empty session)
  admissions := by simp [h.admissions]

/-- A grant with what it brings. -/
theorem grant (h : s.Traced auth) {g : Grant} {t : Table Auth.AuthSession}
    (hearned : Earned auth (s.grants ++ [g]) g.userId g) (hissued : g.Issued auth)
    (hsessions : Granted (s.grants ++ [g]) t) {users : Table Auth.User}
    {logins : List AcceptedLogin} (hlogins : logins ⊆ s.logins) :
    Site.Traced auth { s with
      accounts := ⟨users, t⟩
      logins
      grants := s.grants ++ [g] } where
  logins login hmem := h.logins login (hlogins hmem)
  grants := by
    intro g' hmem
    rcases List.mem_append.mp hmem with hold | hnew
    · exact ⟨(h.grants g' hold).1.mono (List.subset_append_left _ _), (h.grants g' hold).2⟩
    · rw [List.mem_singleton.mp hnew]
      exact ⟨hearned, hissued⟩
  sessions := hsessions
  admissions := by
    intro a hmem
    obtain ⟨⟨g', hg', htoken⟩, hactive, hallowed⟩ := h.admissions a hmem
    exact ⟨⟨g', hg'.mono (List.subset_append_left _ _), htoken⟩, hactive, hallowed⟩

/-- Nothing new has been granted. -/
theorem keep (h : s.Traced auth) {accounts : Auth.AuthDatabase} {logins : List AcceptedLogin}
    (hsessions : Granted s.grants accounts.authSessions) (hlogins : logins ⊆ s.logins) :
    Site.Traced auth { s with accounts, logins } where
  logins login hmem := h.logins login (hlogins hmem)
  grants := h.grants
  sessions := hsessions
  admissions := h.admissions

theorem register (h : s.Traced auth) (text : Auth.TextEnv) (payload : Auth.RegistrationPayload)
    (draws : Auth.RegistrationDraws) (seen : Auth.Directory) :
    (s.register auth text payload draws seen).Traced auth := by
  unfold Site.register
  split
  · exact h
  next data _ =>
  rcases Auth.registerUser_writes text auth data draws seen ⟨s.accounts, s.profiles⟩ with
    hkept | ⟨users, profiles, _, hwritten⟩
  · rw [hkept]
    exact h
  · rw [hwritten]
    exact ⟨h.logins, h.grants, h.sessions, h.admissions⟩

theorem authenticate (h : s.Traced auth) (data : Auth.LoginRequest) (now : Timestamp) :
    (s.authenticate auth data now).Traced auth := by
  have hsessions := Auth.authenticateUser_authSessions auth data now s.accounts
  unfold Site.authenticate
  split
  · next user accounts hresult =>
    rw [hresult] at hsessions
    have hgranted : Granted s.grants accounts.authSessions := by
      rw [hsessions]
      exact h.sessions
    refine { h.keep hgranted (List.Subset.refl s.logins) with logins := ?_ }
    intro login hmem
    rcases List.mem_append.mp hmem with hold | hnew
    · exact h.logins login hold
    · rw [List.mem_singleton.mp hnew]
      exact AcceptedLogin.checked_of_authenticateUser hresult
  · next accounts hresult =>
    rw [hresult] at hsessions
    refine h.keep ?_ (List.Subset.refl s.logins)
    rw [hsessions]
    exact h.sessions

theorem createSession (h : s.Traced auth) (i : Nat) (draws : Auth.Draws)
    (now issuedAt : Timestamp) : (s.createSession auth i draws now issuedAt).Traced auth := by
  unfold Site.createSession
  split
  · exact h
  next login hlogin =>
  have hrest : s.logins.eraseIdx i ⊆ s.logins := List.eraseIdx_subset
  have hout := Auth.createAuthSession_outcome auth login.user.id draws now issuedAt s.accounts
  simp only
  generalize Auth.createAuthSession auth login.user.id draws now issuedAt s.accounts = result
    at hout ⊢
  cases hout with
  | refused => exact h.keep h.sessions hrest
  | @created user session accounts huser hopen =>
      refine h.grant ?_ ⟨⟨user, draws.tokenId, issuedAt, Table.key_of_find huser, rfl⟩, rfl⟩
        (h.sessions.insert hopen.inserted ⟨rfl, hopen.userId_eq, hopen.tokenHash_eq,
          hopen.expiresAt_eq⟩) hrest
      exact .password (List.mem_append_right _ List.mem_cons_self) rfl rfl
        (h.logins login (List.mem_of_getElem? hlogin))

theorem refresh (h : s.Traced auth) (raw : String) (draws : Auth.Draws) (now : Timestamp) :
    (s.refresh auth raw draws now).Traced auth := by
  have hout := Auth.rotateAuthSession_outcome auth raw draws now s.accounts
  unfold Site.refresh
  generalize Auth.rotateAuthSession auth raw draws now s.accounts = result at hout ⊢
  cases hout with
  | unknown | refused => exact h.keep h.sessions (List.Subset.refl s.logins)
  | reused | expired | inactive =>
      exact h.keep (h.sessions.revokeWhere _ now) (List.Subset.refl s.logins)
  | @replaced session user replacement accounts hsession hlive hcurrent huser hactive hopen =>
      have hmem := Auth.AuthDatabase.mem_of_sessionOf hsession
      obtain ⟨earlier, hearlier, hopened⟩ := h.sessions session hmem
      have huserId : replacement.userId = earlier.userId := hopen.userId_eq.trans hopened.userId
      refine h.grant ?_ ⟨⟨user, draws.tokenId, now, ?_, rfl⟩, rfl⟩ ?_ (List.Subset.refl s.logins)
      · have hearned := (h.grants earlier hearlier).1
        rw [← huserId] at hearned
        refine .refreshToken (hearned.mono (List.subset_append_left s.grants _))
          (List.mem_append_right _ List.mem_cons_self) rfl ?_ ?_
        · rw [← (h.grants earlier hearlier).2.digest, ← hopened.tokenHash]
          exact (Auth.AuthDatabase.tokenHash_of_sessionOf hsession).symm
        · rw [← hopened.expiresAt]
          exact hcurrent
      · rw [hopen.userId_eq]
        exact Table.key_of_find huser
      · intro r hr
        rcases Auth.SessionMove.mem_replace hmem hopen.inserted hr with rfl | rfl | hold
        · refine ⟨earlier, List.mem_append_left _ hearlier, ?_⟩
          exact ⟨hopened.id, hopened.userId, hopened.tokenHash, hopened.expiresAt⟩
        · refine ⟨_, List.mem_append_right _ List.mem_cons_self, ?_⟩
          exact ⟨rfl, rfl, hopen.tokenHash_eq, hopen.expiresAt_eq⟩
        · exact h.sessions.mono (List.subset_append_left _ _) r hold

theorem serveAccounts (h : s.Traced auth) (user : Auth.User) (claims : Auth.AccessClaims)
    (draws : ServiceDraws) (call : RouteCall) :
    Granted s.grants (call.serveAccounts auth user claims draws s.accounts).authSessions := by
  cases call with
  | logout =>
      simp only [RouteCall.serveAccounts, Auth.revokeAuthSession]
      split
      · exact h.sessions
      · split
        · exact h.sessions
        · exact h.sessions.revokeWhere _ draws.now
  | logoutAll => exact h.sessions.revokeWhere _ draws.now
  | changePassword payload =>
      simp only [RouteCall.serveAccounts]
      rcases Auth.changeLoadedPassword_cases auth user payload draws.salt draws.now s.accounts with
        ⟨e, he⟩ | ⟨_, _, hok⟩
      · rw [he]
        exact h.sessions
      · rw [hok]
        have hwritten : Granted s.grants (s.accounts.writePassword user.id
            (auth.generatePasswordHash draws.salt payload.newPassword)).authSessions := h.sessions
        exact hwritten.revokeWhere _ draws.now
  | _ => exact h.sessions

theorem serve {Body : Type} (env : Env Body) (h : s.Traced auth) (i : Nat) (draws : ServiceDraws) :
    (s.serve env auth i draws).Traced auth := by
  unfold Site.serve
  split
  · exact h
  next a ha =>
  split
  · exact h
  have hserved := h.serveAccounts a.user a.claims draws a.call
  refine { h.keep hserved (List.Subset.refl s.logins) with admissions := ?_ }
  intro a' hmem
  rcases List.mem_or_eq_of_mem_set hmem with hold | rfl
  · exact h.admissions a' hold
  · obtain ⟨htoken, hactive, hallowed⟩ := h.admissions a (List.mem_of_getElem? ha)
    exact ⟨htoken, hactive, hallowed⟩

theorem letIn (h : s.Traced auth) (hjwt : auth.SoundJwt)
    {authorization : Option Auth.Authorization} {call : RouteCall} {now : Timestamp}
    (hunforged : ∀ header ∈ authorization, (auth.jwtDecode header.token now).isSome →
      ∃ g ∈ s.grants, g.tokens.accessToken.value = header.token) :
    (s.letIn auth authorization call now).Traced auth := by
  unfold Site.letIn
  split
  · next header user claims hrequired =>
    split
    · next hallowed =>
      refine { h with admissions := ?_ }
      intro a hmem
      rcases List.mem_append.mp hmem with hold | hnew
      · exact h.admissions a hold
      rw [List.mem_singleton.mp hnew]
      obtain ⟨session, hauthorized⟩ :=
        Auth.authorized_of_required (Auth.required_bearer hrequired)
      obtain ⟨g, hg, hvalue⟩ := hunforged header rfl (by rw [hauthorized.decoded]; rfl)
      obtain ⟨hearned, ⟨holder, tokenId, issuedAt, hholder, haccess⟩, _⟩ := h.grants g hg
      -- The claims are those that were signed for the grant.
      have hdecoded := hauthorized.decoded
      rw [← hvalue, haccess, Auth.issueAccessToken] at hdecoded
      have hclaims := hjwt.eq_of_decode hdecoded
      have hsub : user.id = claims.sub := Table.key_of_find hauthorized.user_eq
      have huser : user.id = g.userId := by rw [hsub, hclaims, Auth.accessClaims, hholder]
      refine ⟨⟨g, ?_, hvalue, ?_, ?_⟩, hauthorized.active, hallowed⟩
      · rw [huser]
        exact hearned
      · rw [hclaims, Auth.accessClaims]
      · rw [haccess]
        exact hjwt.lt_expiresAt hdecoded
    · exact h
  · exact h

theorem step {Body : Type} (env : Env Body) (text : Auth.TextEnv) (h : s.Traced auth)
    (hjwt : auth.SoundJwt) {a : SiteAction Body} (ha : s.Unforged auth a) : (s.step env auth text a).Traced auth := by
  cases a with
  | register payload draws seen => exact h.register text payload draws seen
  | authenticate data now => exact h.authenticate data now
  | createSession login draws now issuedAt => exact h.createSession login draws now issuedAt
  | refresh raw draws now => exact h.refresh raw draws now
  | setActive userId isActive => exact h.keep h.sessions (List.Subset.refl s.logins)
  | letIn authorization call now =>
      refine h.letIn hjwt ?_
      rintro header rfl
      exact ha
  | serve i draws => exact h.serve env i draws
  | background a =>
      rw [Site.step]
      split
      · exact { h with }
      · exact h

end Site.Traced

/-- Only who has proved to know a user's password acts as the user. In every run from the start in
which no access token is forged, each request that its decorator has let through carried an access
token of a grant to its user that had not expired, the user was active, and the user's role is one
that the route asks for; and each grant goes back to the user's password, presented while the user
was active, by refresh tokens each of which has the digest of the one handed out with the grant
before it and was presented before that expired. -/
theorem admissions_earned {Body : Type} (env : Env Body) {auth : Auth.Environment}
    (hjwt : auth.SoundJwt) (text : Auth.TextEnv) {s : Site} (hinit : s.Initial) {actions : List (SiteAction Body)}
    (hunforged : Transition.Along (Site.step env auth text) (Site.Unforged auth) s actions) :
    let site := s.run env auth text actions
    (∀ a ∈ site.admissions, a.Backed auth site.grants) ∧
    (∀ g ∈ site.grants, Earned auth site.grants g.userId g) ∧
    ∀ session ∈ site.accounts.authSessions,
      ∃ g, Earned auth site.grants session.userId g ∧ g.tokens.session.id = session.id := by
  have htraced : (s.run env auth text actions).Traced auth :=
    Transition.Along.kept (fun _ _ hs ha => hs.step env text hjwt ha) (Site.Traced.start hinit) hunforged
  refine ⟨htraced.admissions, fun g hg => (htraced.grants g hg).1, ?_⟩
  intro session hmem
  obtain ⟨g, hg, hopened⟩ := htraced.sessions session hmem
  refine ⟨g, ?_, hopened.id.symm⟩
  rw [hopened.userId]
  exact (htraced.grants g hg).1

/-! ### A sample run -/

def sampleSite : Site where
  accounts := { Auth.sampleAccounts with users := ⟨[{ Auth.sampleUser with id := 10 }], by decide⟩ }
  profiles := ∅
  world := sampleWorld
  logins := []
  grants := []
  admissions := []

theorem sampleSite_initial : sampleSite.Initial := ⟨rfl, sampleWorld_initial, rfl, rfl, rfl⟩

/-- The second access token of the sample user. -/
def sampleToken : Auth.Jwt :=
  Auth.sampleEnvironment.jwtEncode
    (Auth.accessClaims Auth.sampleEnvironment { Auth.sampleUser with id := 10 } 12 2012 60000000)

/-- A login, a refresh, and a booking with the refreshed token. -/
def sampleVisit : List (SiteAction Json) :=
  [.authenticate ⟨"driver@example.com", "a-long-test-password"⟩ 0,
    .createSession 0 (Auth.sampleDraws 11 "first") 0 0,
    .refresh "first" (Auth.sampleDraws 12 "second") 60000000,
    .letIn (some ⟨"bearer", sampleToken⟩) (.createBooking (sampleHoldRequest 1)) 120000000,
    .serve 0 ⟨50, 20, [], "", 0, 120000000, 120000000⟩]

theorem sampleVisit_unforged : Transition.Along (Site.step sampleEnv Auth.sampleEnvironment Auth.asciiText)
    (Site.Unforged Auth.sampleEnvironment) sampleSite sampleVisit := by
  refine ⟨trivial, trivial, trivial, ?_, trivial, trivial⟩
  exact fun _ => by decide +kernel

/-- The booking was admitted on the tokens of the refresh, which go back to the password. -/
theorem admissions_earned_sample :
    let site := sampleSite.run sampleEnv Auth.sampleEnvironment Auth.asciiText sampleVisit
    site.grants.map (fun g => g.tokens.refreshToken.value) = ["first", "second"] ∧
    ∃ a ∈ site.admissions, a.user.id = 10 ∧ a.Backed Auth.sampleEnvironment site.grants := by
  have hadmission : ∃ a ∈ (sampleSite.run sampleEnv Auth.sampleEnvironment Auth.asciiText sampleVisit).admissions,
      a.user.id = 10 := by decide +kernel
  obtain ⟨a, hmem, hid⟩ := hadmission
  refine ⟨by decide +kernel, a, hmem, hid, ?_⟩
  exact (admissions_earned sampleEnv Auth.sampleEnvironment_soundJwt Auth.asciiText sampleSite_initial
    sampleVisit_unforged).1 a hmem

end ChargeMate
