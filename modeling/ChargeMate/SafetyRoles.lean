import ChargeMate.SafetyOrigins

/-! Who operates stations. No route writes a role, and whoever registers is a plain user; so that
an operator's request comes from someone who was one from the start. -/

namespace ChargeMate

open Relational

namespace Auth

/-- The columns that say what a user may do. -/
def User.standing (user : User) : Uuid × UserRole := (user.id, user.role)

def AuthDatabase.standings (db : AuthDatabase) : List (Uuid × UserRole) :=
  db.users.rows.map User.standing

section

variable (env : Environment) (db : AuthDatabase)

theorem standings_authenticateUser (data : LoginRequest) (now : Timestamp) :
    (authenticateUser env data now db).2.standings = db.standings := by
  cases haccount : db.account data.identifier with
  | none =>
      rw [AuthDatabase.account] at haccount
      rw [authenticateUser, haccount]
  | some user =>
      have hmem : user ∈ db.users := Table.mem_of_scalar haccount
      rw [authenticateUser_of_account env now haccount]
      apply db.users.map_set User.standing
      intro stored hstored hkey
      have hsame : stored = user := Table.eq_of_key_eq hstored hmem
        (hkey.trans (attemptLogin_id env user data.password now))
      rw [hsame, attemptLogin_columns]
      rfl

theorem standings_createAuthSession (userId : Uuid) (draws : Draws) (now issuedAt : Timestamp) :
    (createAuthSession env userId draws now issuedAt db).2.standings = db.standings := by
  have hout := createAuthSession_outcome env userId draws now issuedAt db
  generalize createAuthSession env userId draws now issuedAt db = result at hout ⊢
  cases hout with
  | refused => rfl
  | created _ hopen => exact congrArg (fun t => t.rows.map User.standing) hopen.users_eq

theorem standings_rotateAuthSession (raw : String) (draws : Draws) (now : Timestamp) :
    (rotateAuthSession env raw draws now db).2.standings = db.standings := by
  have hout := rotateAuthSession_outcome env raw draws now db
  generalize rotateAuthSession env raw draws now db = result at hout ⊢
  cases hout with
  | unknown | reused | expired | inactive | refused => rfl
  | replaced _ _ _ _ _ hopen => exact congrArg (fun t => t.rows.map User.standing) hopen.users_eq

theorem standings_changeLoadedPassword (user : User) (data : ChangePasswordRequest)
    (salt : String) (now : Timestamp) :
    (changeLoadedPassword env user data salt now db).2.standings = db.standings := by
  rcases changeLoadedPassword_cases env user data salt now db with ⟨e, he⟩ | ⟨_, _, hok⟩
  · rw [he]
  · rw [hok]
    apply db.users.map_updateWhere
    · exact fun _ => rfl
    · exact fun _ => rfl

/-- A registration adds a plain user, or nothing. -/
theorem standings_registerUser (text : TextEnv) (data : RegisterUserRequest)
    (draws : RegistrationDraws) (seen directory : Directory) :
    (registerUser text env data draws seen directory).2.db.standings = directory.db.standings ∨
      (registerUser text env data draws seen directory).2.db.standings =
        directory.db.standings ++ [(draws.userId, .user)] := by
  rcases registerUser_writes text env data draws seen directory with
    hkept | ⟨users, profiles, hinsert, hwritten⟩
  · exact Or.inl (by rw [hkept])
  · refine Or.inr ?_
    rw [hwritten, AuthDatabase.standings, (Table.insert_eq_some.mp hinsert).2, List.map_append]
    rfl

end

end Auth

/-! ### Runs of the backend -/

section

variable {Body : Type} (env : Env Body) (auth : Auth.Environment) (text : Auth.TextEnv)

omit text in
theorem RouteCall.standings_serveAccounts (user : Auth.User) (claims : Auth.AccessClaims)
    (draws : ServiceDraws) (accounts : Auth.AuthDatabase) (call : RouteCall) :
    (call.serveAccounts auth user claims draws accounts).standings = accounts.standings := by
  cases call with
  | logout =>
      simp only [RouteCall.serveAccounts, Auth.revokeAuthSession]
      split
      · rfl
      · split <;> rfl
  | logoutAll => rfl
  | changePassword payload =>
      exact Auth.standings_changeLoadedPassword auth accounts user payload draws.salt draws.now
  | _ => rfl

/-- A step adds plain users at most. -/
theorem Site.standings_step (s : Site) (action : SiteAction Body) :
    ∃ users : List Uuid, (s.step env auth text action).accounts.standings =
      s.accounts.standings ++ users.map fun id => (id, .user) := by
  have hkept : ∀ {accounts : Auth.AuthDatabase}, accounts.standings = s.accounts.standings →
      ∃ users : List Uuid, accounts.standings =
        s.accounts.standings ++ users.map fun id => (id, .user) :=
    fun hsame => ⟨[], hsame.trans (List.append_nil _).symm⟩
  cases action with
  | register payload draws seen =>
      simp only [Site.step, Site.register]
      split
      · exact hkept rfl
      next data _ =>
      rcases Auth.standings_registerUser auth text data draws seen ⟨s.accounts, s.profiles⟩ with
        hsame | hnew
      · exact hkept hsame
      · exact ⟨[draws.userId], hnew⟩
  | authenticate data now =>
      have hsame := Auth.standings_authenticateUser auth s.accounts data now
      simp only [Site.step, Site.authenticate]
      split
      · next hresult =>
        rw [hresult] at hsame
        exact hkept hsame
      · next hresult =>
        rw [hresult] at hsame
        exact hkept hsame
  | createSession i draws now issuedAt =>
      simp only [Site.step, Site.createSession]
      split
      · exact hkept rfl
      next login _ =>
      have hsame :=
        Auth.standings_createAuthSession auth s.accounts login.user.id draws now issuedAt
      split
      · next hresult =>
        rw [hresult] at hsame
        exact hkept hsame
      · next hresult =>
        rw [hresult] at hsame
        exact hkept hsame
  | refresh raw draws now =>
      have hsame := Auth.standings_rotateAuthSession auth s.accounts raw draws now
      simp only [Site.step, Site.refresh]
      split
      · next hresult =>
        rw [hresult] at hsame
        exact hkept hsame
      · next hresult =>
        rw [hresult] at hsame
        exact hkept hsame
  | setActive userId isActive =>
      apply hkept
      apply s.accounts.users.map_updateWhere
      · exact fun _ => rfl
      · exact fun _ => rfl
  | letIn authorization call now =>
      simp only [Site.step, Site.letIn]
      split
      · split <;> exact hkept rfl
      · exact hkept rfl
  | serve i draws =>
      simp only [Site.step, Site.serve]
      split
      · exact hkept rfl
      · split
        · exact hkept rfl
        · exact hkept (RouteCall.standings_serveAccounts auth _ _ draws s.accounts _)
  | background a =>
      simp only [Site.step]
      split <;> exact hkept rfl

theorem Site.standings_run (s : Site) (actions : List (SiteAction Body)) :
    ∃ users : List Uuid, (s.run env auth text actions).accounts.standings =
      s.accounts.standings ++ users.map fun id => (id, .user) := by
  induction actions generalizing s with
  | nil => exact ⟨[], (List.append_nil _).symm⟩
  | cons action actions ih =>
      obtain ⟨first, hfirst⟩ := s.standings_step env auth text action
      obtain ⟨rest, hrest⟩ := ih (s.step env auth text action)
      refine ⟨first ++ rest, ?_⟩
      calc (s.run env auth text (action :: actions)).accounts.standings
          = (s.accounts.standings ++ first.map fun id => (id, .user)) ++
              rest.map fun id => (id, .user) := by rw [← hfirst]; exact hrest
        _ = s.accounts.standings ++ (first ++ rest).map fun id => (id, .user) := by
            rw [List.map_append, List.append_assoc]

/-- A request that was let through is an earlier one, or comes from a user of that moment whose role
its route asks for. -/
theorem Site.admission_step (s : Site) (action : SiteAction Body) {a : Admission}
    (hmem : a ∈ (s.step env auth text action).admissions) :
    (∃ a' ∈ s.admissions, a'.user = a.user ∧ a'.call = a.call) ∨
      a.user ∈ s.accounts.users ∧ a.call.allows a.user.role := by
  have hkept : ∀ {a : Admission}, a ∈ s.admissions →
      (∃ a' ∈ s.admissions, a'.user = a.user ∧ a'.call = a.call) ∨
        a.user ∈ s.accounts.users ∧ a.call.allows a.user.role :=
    fun hmem => Or.inl ⟨_, hmem, rfl, rfl⟩
  cases action with
  | register payload draws seen =>
      simp only [Site.step, Site.register] at hmem
      split at hmem <;> exact hkept hmem
  | authenticate data now =>
      simp only [Site.step, Site.authenticate] at hmem
      split at hmem <;> exact hkept hmem
  | createSession i draws now issuedAt =>
      simp only [Site.step, Site.createSession] at hmem
      split at hmem
      · exact hkept hmem
      · split at hmem <;> exact hkept hmem
  | refresh raw draws now =>
      simp only [Site.step, Site.refresh] at hmem
      split at hmem <;> exact hkept hmem
  | setActive userId isActive => exact hkept hmem
  | letIn authorization call now =>
      simp only [Site.step, Site.letIn] at hmem
      split at hmem
      · next header user claims hrequired =>
        split at hmem
        · next hallows =>
          rcases List.mem_append.mp hmem with hold | hnew
          · exact hkept hold
          · rw [List.mem_singleton.mp hnew]
            obtain ⟨session, hauthorized⟩ :=
              Auth.authorized_of_required (Auth.required_bearer hrequired)
            exact Or.inr ⟨Table.mem_of_find hauthorized.user_eq, hallows⟩
        · exact hkept hmem
      · exact hkept hmem
  | serve i draws =>
      simp only [Site.step, Site.serve] at hmem
      split at hmem
      · exact hkept hmem
      next a' ha' =>
      split at hmem
      · exact hkept hmem
      rcases List.mem_or_eq_of_mem_set hmem with hold | rfl
      · exact hkept hold
      · exact Or.inl ⟨a', List.mem_of_getElem? ha', rfl, rfl⟩
  | background action =>
      simp only [Site.step] at hmem
      split at hmem <;> exact hkept hmem

/-- Whoever was let through is a user, with the role that the route asks for. -/
def Site.Known (s : Site) : Prop :=
  ∀ a ∈ s.admissions, a.user.standing ∈ s.accounts.standings ∧ a.call.allows a.user.role

variable {env auth text}

theorem Site.Known.step {s : Site} (h : s.Known) (action : SiteAction Body) :
    (s.step env auth text action).Known := by
  obtain ⟨users, husers⟩ := s.standings_step env auth text action
  intro a hmem
  rw [husers]
  rcases s.admission_step env auth text action hmem with
    ⟨a', hold, huser, hcall⟩ | ⟨huser, hallows⟩
  · rw [← huser, ← hcall]
    exact ⟨List.mem_append_left _ (h a' hold).1, (h a' hold).2⟩
  · exact ⟨List.mem_append_left _ (List.mem_map_of_mem huser), hallows⟩

theorem Site.Known.run {s : Site} (h : s.Known) (actions : List (SiteAction Body)) :
    (s.run env auth text actions).Known := by
  induction actions generalizing s with
  | nil => exact h
  | cons action actions ih => exact ih (h.step action)

end

/-- Someone who was given a role of their own before anything ran. -/
def Site.Appointed (s : Site) (operator : User) : Prop :=
  operator.role ≠ .user ∧ ∃ user ∈ s.accounts.users, user.principal = operator

/-- A route that asks for a role does not ask for that of a plain user. -/
theorem RouteCall.allowedRoles_ne_user {call : RouteCall} {role : UserRole}
    (hroles : call.allowedRoles ≠ none) (hallows : call.allows role) : role ≠ .user := by
  rintro rfl
  cases call <;> first | exact hroles rfl | exact absurd (hallows _ rfl) (by decide)

/-- Users keep their roles, and a new one is a plain user. -/
theorem Site.standing_cases {Body : Type} (env : Env Body) (auth : Auth.Environment)
    (text : Auth.TextEnv) (s : Site) (actions : List (SiteAction Body)) {id : Uuid}
    {role : UserRole} (hmem : (id, role) ∈ (s.run env auth text actions).accounts.standings) :
    role = .user ∨ ∃ user ∈ s.accounts.users, user.principal = ⟨id, role⟩ := by
  obtain ⟨users, husers⟩ := s.standings_run env auth text actions
  rw [husers] at hmem
  rcases List.mem_append.mp hmem with hold | hnew
  · obtain ⟨user, huser, heq⟩ := List.mem_map.mp hold
    simp only [Auth.User.standing, Prod.mk.injEq] at heq
    exact Or.inr ⟨user, huser, by rw [Auth.User.principal, heq.1, heq.2]⟩
  · obtain ⟨_, _, heq⟩ := List.mem_map.mp hnew
    exact Or.inl (congrArg Prod.snd heq).symm

theorem Site.Initial.appointed {Body : Type} {env : Env Body} {auth : Auth.Environment}
    {text : Auth.TextEnv} {s : Site} (h : s.Initial) {actions : List (SiteAction Body)}
    {a : Admission} (hmem : a ∈ (s.run env auth text actions).admissions)
    (hroles : a.call.allowedRoles ≠ none) : s.Appointed a.user.principal := by
  have hknown : s.Known := by
    intro a hmem
    rw [h.admissions] at hmem
    cases hmem
  have hrun : (s.run env auth text actions).Known := hknown.run actions
  obtain ⟨hstanding, hallows⟩ := hrun a hmem
  have hrole := RouteCall.allowedRoles_ne_user hroles hallows
  exact ⟨hrole, (s.standing_cases env auth text actions hstanding).resolve_left hrole⟩

/-- A request of someone who was appointed before anything ran was let through and served. -/
def Site.ServedAppointed (start s : Site) (P : User → RouteCall → Prop) : Prop :=
  ∃ a ∈ s.admissions, a.served = true ∧ start.Appointed a.user.principal ∧
    P a.user.principal a.call

/-- What was served on a route of the operators was served to one who was appointed. -/
theorem Site.Initial.served_appointed {Body : Type} {env : Env Body} {auth : Auth.Environment}
    {text : Auth.TextEnv} {s : Site} (h : s.Initial) {actions : List (SiteAction Body)}
    {P : User → RouteCall → Prop} (hroles : ∀ user call, P user call → call.allowedRoles ≠ none)
    (hserved : ∃ a ∈ (s.run env auth text actions).admissions, a.served = true ∧
      P a.user.principal a.call) :
    s.ServedAppointed (s.run env auth text actions) P := by
  obtain ⟨a, hmem, hserved, hP⟩ := hserved
  exact ⟨a, hmem, hserved, h.appointed hmem (hroles _ _ hP), hP⟩

/-- Nobody becomes an operator. In every run of the backend from the start, registrations included,
whoever has a role other than that of a plain user had it from the start, and no user loses a role;
each request that was let through a route of the operators came from someone who was appointed one
before anything ran; and it was at the request of such an operator that a charging session was
started and completed, by one who operates its charge point, and that a station or charge point was
created or patched, by one who controls it. -/
theorem operators_appointed {Body : Type} (env : Env Body) (auth : Auth.Environment)
    (text : Auth.TextEnv) {s : Site} (hinit : s.Initial) (actions : List (SiteAction Body)) :
    let site := s.run env auth text actions
    (∀ user ∈ site.accounts.users, user.role ≠ .user → s.Appointed user.principal) ∧
    (∀ user ∈ s.accounts.users,
      ∃ user' ∈ site.accounts.users, user'.principal = user.principal) ∧
    (∀ a ∈ site.admissions, a.call.allowedRoles ≠ none → s.Appointed a.user.principal) ∧
    (∀ c ∈ site.world.db.chargingSessions, s.ServedAppointed site fun operator call =>
      site.world.db.OperatedBy operator c.chargePointId ∧
      ∃ payload, call = .startSession payload ∧ payload.bookingId = c.bookingId) ∧
    (∀ c ∈ site.world.db.chargingSessions, c.status = .completed →
      s.ServedAppointed site fun operator call =>
        site.world.db.OperatedBy operator c.chargePointId ∧
        ∃ payload, call = .completeSession c.id payload ∧
          c.meterEndKwh = some payload.meterEndKwh) ∧
    (∀ station ∈ site.world.db.stations, station ∈ s.world.db.stations ∨
      (s.ServedAppointed site fun owner call => ∃ payload, call = .createChargingStation payload ∧
        station = payload.station owner station.id) ∨
      s.ServedAppointed site fun operator call => operatorControlsStation operator station = true ∧
        ∃ payload, call = .updateMyStation station.id payload) ∧
    ∀ point ∈ site.world.db.chargePoints, point ∈ s.world.db.chargePoints ∨
      (s.ServedAppointed site fun owner call => site.world.db.OwnedBy owner point.stationId ∧
        ∃ payload pointIds, call = .createChargingStation payload ∧
          point ∈ payload.points point.stationId pointIds) ∨
      s.ServedAppointed site fun operator call => site.world.db.OperatedBy operator point.id ∧
        ∃ payload, call = .updateMyChargePoint point.stationId point.id payload := by
  refine ⟨?_, ?_, ?_, ?_, ?_, ?_, ?_⟩
  · intro user huser hrole
    have hstanding : user.standing ∈ (s.run env auth text actions).accounts.standings :=
      List.mem_map_of_mem huser
    exact ⟨hrole, (s.standing_cases env auth text actions hstanding).resolve_left hrole⟩
  · intro user huser
    obtain ⟨users, husers⟩ := s.standings_run env auth text actions
    have hstanding : user.standing ∈ (s.run env auth text actions).accounts.standings := by
      rw [husers]
      exact List.mem_append_left _ (List.mem_map_of_mem huser)
    obtain ⟨user', huser', heq⟩ := List.mem_map.mp hstanding
    simp only [Auth.User.standing, Prod.mk.injEq] at heq
    exact ⟨user', huser', by rw [Auth.User.principal, Auth.User.principal, heq.1, heq.2]⟩
  · exact fun a hmem hroles => hinit.appointed hmem hroles
  · intro c hc
    refine hinit.served_appointed ?_ (hinit.session_due (Table.find_key hc))
    rintro _ _ ⟨_, payload, rfl, _⟩
    exact Option.some_ne_none _
  · intro c hc hcompleted
    refine hinit.served_appointed ?_ (hinit.completion_due (Table.find_key hc) hcompleted)
    rintro _ _ ⟨_, payload, rfl, _⟩
    exact Option.some_ne_none _
  · intro station hstation
    refine (Site.station_due (Table.find_key hstation)).imp Table.mem_of_find
      (Or.imp (hinit.served_appointed ?_) (hinit.served_appointed ?_))
    · rintro _ _ ⟨payload, rfl, _⟩
      exact Option.some_ne_none _
    · rintro _ _ ⟨_, payload, rfl⟩
      exact Option.some_ne_none _
  · intro point hpoint
    refine (Site.point_due (Table.find_key hpoint)).imp Table.mem_of_find
      (Or.imp (hinit.served_appointed ?_) (hinit.served_appointed ?_))
    · rintro _ _ ⟨_, payload, _, rfl, _⟩
      exact Option.some_ne_none _
    · rintro _ _ ⟨_, payload, rfl⟩
      exact Option.some_ne_none _

/-! ### A sample run -/

/-- The owner of the sample station. -/
def sampleOwner : Auth.User :=
  { Auth.sampleUser with
    id := 2
    email := "owner@example.com"
    username := "owner_one"
    role := .stationAdmin }

def sampleDepot : Site :=
  { sampleSite with accounts := ⟨⟨[sampleOwner], by decide⟩, ∅⟩ }

def sampleRenaming : StationUpdateRequest where
  version := 1
  name := some "Depot East"
  description := none
  addressLine1 := none
  addressLine2 := none
  city := none
  state := none
  postalCode := none
  countryCode := none
  latitude := none
  longitude := none
  timezone := none
  phone := none
  is24Hours := none
  status := none

def sampleOwnerToken : Auth.Jwt :=
  Auth.sampleEnvironment.jwtEncode
    (Auth.accessClaims Auth.sampleEnvironment sampleOwner 11 2011 0)

/-- A driver registers, and the owner logs in and renames the station. -/
def sampleRenamed : List (SiteAction Json) :=
  [.register ⟨"driver@example.com", "driver_one", "a-long-test-password", "A Driver", none⟩
      ⟨10, "salt"⟩ ⟨sampleDepot.accounts, ∅⟩,
    .authenticate ⟨"owner@example.com", "a-long-test-password"⟩ 0,
    .createSession 0 (Auth.sampleDraws 11 "first") 0 0,
    .letIn (some ⟨"Bearer", sampleOwnerToken⟩) (.updateMyStation 1 sampleRenaming) 60000000,
    .serve 0 ⟨50, 20, [], "", 0, 60000000, 60000000⟩]

theorem operators_appointed_sample :
    let site := sampleDepot.run sampleEnv Auth.sampleEnvironment Auth.asciiText sampleRenamed
    site.accounts.standings = [(2, .stationAdmin), (10, .user)] ∧
    ∃ station ∈ site.world.db.stations, station.name = "Depot East" ∧
      sampleDepot.ServedAppointed site fun operator call =>
        operatorControlsStation operator station = true ∧
        ∃ payload, call = .updateMyStation station.id payload := by
  have hrenamed : ∃ station ∈ (sampleDepot.run sampleEnv Auth.sampleEnvironment Auth.asciiText
      sampleRenamed).world.db.stations, station.name = "Depot East" ∧ station.version = 2 := by
    decide +kernel
  obtain ⟨station, hmem, hname, hversion⟩ := hrenamed
  have hnew : station ∉ sampleDepot.world.db.stations := by
    intro hold
    have hnames : ∀ station ∈ sampleDepot.world.db.stations, station.name ≠ "Depot East" := by
      decide +kernel
    exact hnames station hold hname
  refine ⟨by decide +kernel, station, hmem, hname, ?_⟩
  have hinit : sampleDepot.Initial := ⟨rfl, sampleWorld_initial, rfl, rfl, rfl⟩
  refine (((operators_appointed sampleEnv Auth.sampleEnvironment Auth.asciiText hinit
    sampleRenamed).2.2.2.2.2.1 station hmem).resolve_left hnew).resolve_left ?_
  -- a station as it was created has its first version
  rintro ⟨_, _, _, _, payload, _, hrow⟩
  rw [hrow] at hversion
  cases hversion

end ChargeMate
