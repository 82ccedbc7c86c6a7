import ChargeMate.LedgerGenerations

/-! What each transaction of `auth/service.py` can do. An outcome lists the ways a call ends, with
what it has checked; every later result about a call is a case analysis of its outcome. -/

namespace ChargeMate.Auth

open Relational

variable {env : Environment} {db : AuthDatabase}

/-- A session that was inserted. -/
structure Opened (db : AuthDatabase) (draws : Draws) (userId familyId : Uuid)
    (token : IssuedRefreshToken) (session : AuthSession) (db' : AuthDatabase) : Prop where
  id_eq : session.id = draws.sessionId
  userId_eq : session.userId = userId
  tokenHash_eq : session.tokenHash = token.digest
  familyId_eq : session.familyId = familyId
  expiresAt_eq : session.expiresAt = token.expiresAt
  live : session.isRevoked = false
  ends : session.replacedById = none
  newHash : ∀ s ∈ db.authSessions, s.tokenHash ≠ session.tokenHash
  inserted : db.authSessions.insert session = some db'.authSessions
  users_eq : db'.users = db.users

namespace Opened

variable {db' : AuthDatabase} {draws : Draws} {userId familyId : Uuid} {token : IssuedRefreshToken}
  {session : AuthSession}

theorem mem (h : Opened db draws userId familyId token session db') :
    session ∈ db'.authSessions :=
  (Table.mem_insert h.inserted).mpr (Or.inr rfl)

/-- The new key is no stored one. -/
theorem id_ne (h : Opened db draws userId familyId token session db') {s : AuthSession}
    (hs : s ∈ db.authSessions) : s.id ≠ session.id := by
  intro hid
  have hfree := (Table.insert_eq_some.mp h.inserted).1
  exact Table.find_eq_none.mp hfree s hs hid

/-- The write to the replaced row finds it, and leaves the new row. -/
theorem find_replaced (h : Opened db draws userId familyId token session db') {old : AuthSession}
    (hold : old ∈ db.authSessions) (now : Timestamp) :
    db'.authSessions.find (key (old.replaceBy session now)) = some old :=
  Table.find_insert_of_mem h.inserted hold

theorem mem_replaced (h : Opened db draws userId familyId token session db') {old : AuthSession}
    (hold : old ∈ db.authSessions) (now : Timestamp) :
    session ∈ db'.authSessions.set (old.replaceBy session now) :=
  (Table.mem_set (h.find_replaced hold now)).mpr (Or.inr ⟨h.mem, (h.id_ne hold).symm⟩)

/-- Opening a session in the place of a live one of its user and family is a move. -/
theorem move_replaced {old : AuthSession}
    (h : Opened db draws old.userId old.familyId token session db')
    (hold : old ∈ db.authSessions) (hlive : old.isRevoked = false) (now : Timestamp) :
    SessionMove db.authSessions (db'.authSessions.set (old.replaceBy session now)) :=
  .replace now hold hlive h.inserted h.userId_eq h.familyId_eq h.ends h.newHash

end Opened

theorem AuthDatabase.openSession_eq_some {draws : Draws} {userId familyId : Uuid}
    {token : IssuedRefreshToken} {session : AuthSession} {db' : AuthDatabase}
    (h : db.openSession draws userId familyId token = some (session, db')) :
    Opened db draws userId familyId token session db' := by
  unfold AuthDatabase.openSession at h
  split at h
  · simp only at h
    split at h
    · next hcheck =>
      rw [Option.map_eq_some_iff] at h
      obtain ⟨authSessions, hinsert, heq⟩ := h
      obtain ⟨hsession, hdb⟩ := Prod.mk.inj heq
      subst hsession
      subst hdb
      have hfree := (Table.insert_eq_some.mp hinsert).1
      refine ⟨rfl, rfl, rfl, rfl, rfl, rfl, rfl, ?_, hinsert, rfl⟩
      intro s hs hhash
      have hkey := uniqueColumn_eq_true.mp hcheck.2 _ rfl s hs (congrArg some hhash)
      exact Table.find_eq_none.mp hfree s hs hkey
    · cases h
  · cases h

/-! ### Creation -/

/-- How `create_auth_session` ends. -/
inductive CreateOutcome (env : Environment) (userId : Uuid) (draws : Draws)
    (now issuedAt : Timestamp) (db : AuthDatabase) :
    Except Raised IssuedSessionTokens × AuthDatabase → Prop
  | refused : CreateOutcome env userId draws now issuedAt db (.error .integrityError, db)
  | created {user : User} {session : AuthSession} {db' : AuthDatabase}
      (huser : db.users.find userId = some user)
      (hopen : Opened db draws userId draws.familyId (issueRefreshToken env draws.tokenUrlsafe now)
        session db') :
      CreateOutcome env userId draws now issuedAt db
        (.ok ⟨session, issueAccessToken env user session.id draws.tokenId issuedAt,
          issueRefreshToken env draws.tokenUrlsafe now⟩, db')

theorem createAuthSession_outcome (env : Environment) (userId : Uuid) (draws : Draws)
    (now issuedAt : Timestamp) (db : AuthDatabase) :
    CreateOutcome env userId draws now issuedAt db
      (createAuthSession env userId draws now issuedAt db) := by
  unfold createAuthSession
  simp only
  split
  · next huser hopen => exact .created huser (AuthDatabase.openSession_eq_some hopen)
  · exact .refused

/-! ### Rotation -/

namespace AuthDatabase

variable {raw : String} {session : AuthSession}

theorem mem_of_sessionOf (h : db.sessionOf env raw = some session) :
    session ∈ db.authSessions :=
  Table.mem_of_scalar h

theorem tokenHash_of_sessionOf (h : db.sessionOf env raw = some session) :
    session.tokenHash = hashRefreshToken env raw := by
  simpa using Table.prop_of_scalar h

/-- A digest that no two sessions share selects the session that stores it. -/
theorem sessionOf_eq_some (hd : DistinctHashes db.authSessions) (hmem : session ∈ db.authSessions)
    (hhash : session.tokenHash = hashRefreshToken env raw) :
    db.sessionOf env raw = some session := by
  apply Table.scalar_eq_some_of_unique hmem (decide_eq_true hhash)
  intro s hs heq
  have hid := hd s hs session hmem ((of_decide_eq_true heq).trans hhash.symm)
  exact Table.eq_of_key_eq hs hmem hid

/-- A revocation leaves the sessions it is not about. -/
theorem mem_revokeWhere_of_not {p : AuthSession → Bool} {now : Timestamp} {s : AuthSession}
    (hs : s ∈ db.authSessions) (hp : p s = false) : s ∈ (db.revokeWhere p now).authSessions := by
  refine mem_revoked.mpr ⟨s, hs, ?_⟩
  rw [AuthSession.revokeIf, hp, Bool.false_and, if_neg Bool.false_ne_true]

/-- The sessions a revocation leaves live were live before, and not among those it revokes. -/
theorem live_of_revokeWhere {p : AuthSession → Bool} {now : Timestamp} {s : AuthSession}
    (hs : s ∈ (db.revokeWhere p now).authSessions) (hlive : s.isRevoked = false) :
    s ∈ db.authSessions ∧ p s = false := by
  obtain ⟨r, hr, rfl⟩ := mem_revoked.mp hs
  rw [AuthSession.isRevoked_revokeIf, Bool.or_eq_false_iff] at hlive
  have hsame : r.revokeIf p now = r := by
    rw [AuthSession.revokeIf, hlive.2, Bool.false_and, if_neg Bool.false_ne_true]
  rw [hsame]
  exact ⟨hr, hlive.2⟩

end AuthDatabase

/-- The sessions live after a replacement: the new one, and those live before under other keys. -/
theorem live_of_replace {t t' : Table AuthSession} {session replacement s : AuthSession}
    {now : Timestamp} (hmem : session ∈ t) (hinsert : t.insert replacement = some t')
    (hs : s ∈ t'.set (session.replaceBy replacement now)) (hlive : s.isRevoked = false) :
    s = replacement ∨ (s ∈ t ∧ s.id ≠ session.id) := by
  have hfind : t'.find (key (session.replaceBy replacement now)) = some session :=
    Table.find_insert_of_mem hinsert hmem
  rcases (Table.mem_set hfind).mp hs with rfl | ⟨hs, hid⟩
  · rw [AuthSession.isRevoked_replaceBy] at hlive
    cases hlive
  · rcases (Table.mem_insert hinsert).mp hs with hold | hnew
    · exact Or.inr ⟨hold, hid⟩
    · exact Or.inl hnew

/-- How `rotate_auth_session` ends, branch by branch. -/
inductive RotateOutcome (env : Environment) (raw : String) (draws : Draws) (now : Timestamp)
    (db : AuthDatabase) : Except Raised IssuedSessionTokens × AuthDatabase → Prop
  | unknown (hsession : db.sessionOf env raw = none) :
      RotateOutcome env raw draws now db (.error refreshFailed, db)
  | reused {session : AuthSession} (hsession : db.sessionOf env raw = some session)
      (hrevoked : session.isRevoked = true) :
      RotateOutcome env raw draws now db
        (.error refreshFailed, revokeTokenFamily session.familyId now db)
  | expired {session : AuthSession} (hsession : db.sessionOf env raw = some session)
      (hlive : session.isRevoked = false) (hexpired : session.expiresAt ≤ now) :
      RotateOutcome env raw draws now db
        (.error refreshFailed, db.revokeWhere (fun s => s.id = session.id) now)
  | inactive {session : AuthSession} {user : User} (hsession : db.sessionOf env raw = some session)
      (hlive : session.isRevoked = false) (huser : db.users.find session.userId = some user)
      (hinactive : user.isActive = false) :
      RotateOutcome env raw draws now db
        (.error refreshFailed, revokeTokenFamily session.familyId now db)
  | refused {e : Raised} : RotateOutcome env raw draws now db (.error e, db)
  | replaced {session : AuthSession} {user : User} {replacement : AuthSession}
      {db' : AuthDatabase} (hsession : db.sessionOf env raw = some session)
      (hlive : session.isRevoked = false)
      (hcurrent : now < session.expiresAt) (huser : db.users.find session.userId = some user)
      (hactive : user.isActive = true)
      (hopen : Opened db draws session.userId session.familyId
        (issueRefreshToken env draws.tokenUrlsafe now) replacement db') :
      RotateOutcome env raw draws now db
        (.ok ⟨replacement, issueAccessToken env user replacement.id draws.tokenId now,
            issueRefreshToken env draws.tokenUrlsafe now⟩,
          { db' with authSessions := db'.authSessions.set (session.replaceBy replacement now) })

theorem rotateAuthSession_outcome (env : Environment) (raw : String) (draws : Draws)
    (now : Timestamp) (db : AuthDatabase) :
    RotateOutcome env raw draws now db (rotateAuthSession env raw draws now db) := by
  unfold rotateAuthSession
  split
  · next hsession => exact .unknown hsession
  next session hsession =>
  split
  · next hrevoked => exact .reused hsession hrevoked
  next hrevoked =>
  have hlive : session.isRevoked = false := by simpa using hrevoked
  split
  · next hexpired => exact .expired hsession hlive (by simpa [isExpired] using hexpired)
  next hexpired =>
  split
  · exact .refused
  next user huser =>
  split
  · next hinactive => exact .inactive hsession hlive huser (by simpa using hinactive)
  next hactive =>
  unfold replaceAuthSession
  simp only
  split
  · exact .refused
  next replacement db' hopen =>
  split
  · exact .replaced hsession hlive (by simpa [isExpired] using hexpired) huser
      (by simpa using hactive) (AuthDatabase.openSession_eq_some hopen)
  · exact .refused

/-! ### Moves -/

theorem AuthDatabase.move_revokeWhere (p : AuthSession → Bool) (now : Timestamp)
    (db : AuthDatabase) : SessionMove db.authSessions (db.revokeWhere p now).authSessions :=
  .revoke db.authSessions p now

theorem createAuthSession_move {userId : Uuid} {draws : Draws} {now issuedAt : Timestamp}
    (hfresh : ∀ s ∈ db.authSessions, s.familyId ≠ draws.familyId) :
    (createAuthSession env userId draws now issuedAt db).2 = db ∨
      SessionMove db.authSessions
        (createAuthSession env userId draws now issuedAt db).2.authSessions := by
  have hout := createAuthSession_outcome env userId draws now issuedAt db
  generalize createAuthSession env userId draws now issuedAt db = result at hout ⊢
  cases hout with
  | refused => exact Or.inl rfl
  | created huser hopen =>
      exact Or.inr (.issue hopen.inserted (by rwa [hopen.familyId_eq]) hopen.ends hopen.newHash)

theorem rotateAuthSession_move {raw : String} {draws : Draws} {now : Timestamp} :
    (rotateAuthSession env raw draws now db).2 = db ∨
      SessionMove db.authSessions (rotateAuthSession env raw draws now db).2.authSessions := by
  have hout := rotateAuthSession_outcome env raw draws now db
  generalize rotateAuthSession env raw draws now db = result at hout ⊢
  cases hout with
  | unknown => exact Or.inl rfl
  | reused | expired | inactive => exact Or.inr (AuthDatabase.move_revokeWhere _ _ _)
  | refused => exact Or.inl rfl
  | replaced hsession hlive hcurrent huser hactive hopen =>
      exact Or.inr
        (hopen.move_replaced (AuthDatabase.mem_of_sessionOf hsession) hlive now)

theorem revokeAuthSession_move {sessionId userId : Uuid} {now : Timestamp} :
    (revokeAuthSession sessionId userId now db).2 = db ∨
      SessionMove db.authSessions (revokeAuthSession sessionId userId now db).2.authSessions := by
  unfold revokeAuthSession
  split
  · exact Or.inl rfl
  · split
    · exact Or.inl rfl
    · exact Or.inr (AuthDatabase.move_revokeWhere _ _ _)

theorem changeLoadedPassword_cases (env : Environment) (user : User)
    (data : ChangePasswordRequest) (salt : String) (now : Timestamp) (db : AuthDatabase) :
    (∃ e, changeLoadedPassword env user data salt now db = (.error e, db)) ∨
    (user.checkPassword env data.currentPassword = true ∧
      user.checkPassword env data.newPassword = false ∧
      changeLoadedPassword env user data salt now db = (.ok (),
        (db.writePassword user.id (env.generatePasswordHash salt data.newPassword)).revokeWhere
          (fun s => s.userId = user.id) now)) := by
  unfold changeLoadedPassword
  split
  · exact Or.inl ⟨_, rfl⟩
  next hcurrent =>
  split
  · exact Or.inl ⟨_, rfl⟩
  next hnew =>
  exact Or.inr ⟨by simpa using hcurrent, by simpa using hnew, rfl⟩

theorem changeUserPassword_cases (env : Environment) (userId : Uuid) (data : ChangePasswordRequest)
    (salt : String) (now : Timestamp) (db : AuthDatabase) :
    (∃ e, changeUserPassword env userId data salt now db = (.error e, db)) ∨
    ∃ user, db.users.find userId = some user ∧
      changeUserPassword env userId data salt now db =
        changeLoadedPassword env user data salt now db := by
  unfold changeUserPassword
  split
  · exact Or.inl ⟨_, rfl⟩
  · next user huser => exact Or.inr ⟨user, huser, rfl⟩

theorem changeUserPassword_move {userId : Uuid} {data : ChangePasswordRequest} {salt : String}
    {now : Timestamp} :
    (changeUserPassword env userId data salt now db).2 = db ∨
      SessionMove db.authSessions
        (changeUserPassword env userId data salt now db).2.authSessions := by
  rcases changeUserPassword_cases env userId data salt now db with ⟨e, he⟩ | ⟨user, -, hloaded⟩
  · exact Or.inl (by rw [he])
  rw [hloaded]
  rcases changeLoadedPassword_cases env user data salt now db with ⟨e, he⟩ | ⟨-, -, hok⟩
  · exact Or.inl (by rw [he])
  · rw [hok]
    exact Or.inr (.revoke db.authSessions _ now)

theorem authenticateUser_authSessions (env : Environment) (data : LoginRequest)
    (now : Timestamp) (db : AuthDatabase) :
    (authenticateUser env data now db).2.authSessions = db.authSessions := by
  unfold authenticateUser
  split <;> rfl

/-- A transaction leaves the sessions as they are or makes one move. -/
theorem AuthDatabase.step_move (env : Environment) {a : AuthAction} (hfresh : FreshFamily db a) :
    (db.step env a).authSessions = db.authSessions ∨
      SessionMove db.authSessions (db.step env a).authSessions := by
  cases a with
  | authenticate data now => exact Or.inl (authenticateUser_authSessions env data now db)
  | create userId draws now issuedAt =>
      exact (createAuthSession_move hfresh).imp_left (congrArg AuthDatabase.authSessions)
  | rotate raw draws now =>
      exact rotateAuthSession_move.imp_left (congrArg AuthDatabase.authSessions)
  | revoke sessionId userId now =>
      exact revokeAuthSession_move.imp_left (congrArg AuthDatabase.authSessions)
  | revokeAll userId now => exact Or.inr (AuthDatabase.move_revokeWhere _ _ _)
  | changePassword userId data salt now =>
      exact changeUserPassword_move.imp_left (congrArg AuthDatabase.authSessions)
  | setActive userId isActive => exact Or.inl rfl

end ChargeMate.Auth
