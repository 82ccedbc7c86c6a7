import ChargeMate.ModelTokens
import ChargeMate.ModelDatabase

/-! The transactions of `auth/service.py`. Each takes the database and returns what the call
returns or raises, together with the database it leaves: a rotation that raises has committed its
revocations all the same. -/

namespace ChargeMate.Auth

open Relational

structure AuthDatabase where
  users : Table User
  authSessions : Table AuthSession

structure LoginRequest where
  identifier : String
  password : String
  deriving DecidableEq

structure ChangePasswordRequest where
  currentPassword : String
  newPassword : String

/-- What a transaction draws: `uuid4` and `token_urlsafe` values, and the database's `now()`. -/
structure Draws where
  sessionId : Uuid
  familyId : Uuid
  tokenId : Uuid
  tokenUrlsafe : String
  createdAt : Timestamp

/-- The persisted session and tokens created for one successful login. -/
structure IssuedSessionTokens where
  session : AuthSession
  accessToken : IssuedAccessToken
  refreshToken : IssuedRefreshToken

def User.checkPassword (env : Environment) (user : User) (password : String) : Bool :=
  env.checkPasswordHash user.passwordHash password

/-! ### Logging in -/

def isAccountLocked (user : User) (now : Timestamp) : Bool :=
  match user.lockedUntil with
  | none => false
  | some lockedUntil => now < lockedUntil

/-- Increment failures and lock the account when the limit is reached. -/
def recordFailedLogin (env : Environment) (user : User) (now : Timestamp) : User :=
  let user := { user with failedLoginAttempts := user.failedLoginAttempts + 1 }
  if env.loginMaxFailedAttempts ≤ user.failedLoginAttempts then
    { user with lockedUntil := some (now + minutes env.loginLockoutMinutes) }
  else user

/-- `failed_login_attempts = 0` and `locked_until = None`. -/
def User.resetLogin (user : User) : User :=
  { user with failedLoginAttempts := 0, lockedUntil := none }

/-- What `authenticate_user` makes of the row it has read, and whether it lets the user in. -/
def attemptLogin (env : Environment) (user : User) (password : String) (now : Timestamp) :
    User × Bool :=
  if isAccountLocked user now || !user.isActive then (user, false)
  else
    let unlocked := if user.lockedUntil.isSome then user.resetLogin else user
    if user.checkPassword env password then (unlocked.resetLogin, true)
    else (recordFailedLogin env unlocked now, false)

def authenticationFailed : Raised := .authenticationError "Invalid identifier or password."

/-- Verify credentials and update the user's login security state. -/
def authenticateUser (env : Environment) (data : LoginRequest) (now : Timestamp)
    (db : AuthDatabase) : Except Raised User × AuthDatabase :=
  match db.users.scalar fun u => u.email = data.identifier ∨ u.username = data.identifier with
  | none => (.error authenticationFailed, db)
  | some user =>
      let (user', authenticated) := attemptLogin env user data.password now
      (if authenticated then .ok user' else .error authenticationFailed,
        { db with users := db.users.set user' })

/-! ### Sessions -/

/-- `revoked_at = revokedAt`. -/
def AuthSession.revoke (revokedAt : Timestamp) (session : AuthSession) : AuthSession :=
  { session with revokedAt := some revokedAt }

/-- The old generation as a rotation writes it. -/
def AuthSession.replaceBy (session replacement : AuthSession) (now : Timestamp) : AuthSession :=
  { session with
    revokedAt := some now
    lastUsedAt := some now
    replacedById := some replacement.id }

namespace AuthDatabase

/-- `INSERT INTO auth_sessions`: refused unless the user exists, the digest and the key are free
and the session expires after its creation. -/
def openSession (draws : Draws) (userId familyId : Uuid) (token : IssuedRefreshToken)
    (db : AuthDatabase) : Option (AuthSession × AuthDatabase) :=
  if h : draws.createdAt < token.expiresAt then
    let session : AuthSession := {
      id := draws.sessionId
      userId := userId
      tokenHash := token.digest
      familyId := familyId
      createdAt := draws.createdAt
      expiresAt := token.expiresAt
      expiresAfterCreation := h
      revokedAt := none
      lastUsedAt := none
      replacedById := none }
    if (db.users.find userId).isSome ∧
        uniqueColumn db.authSessions (fun s => some s.tokenHash) session then
      (db.authSessions.insert session).map fun authSessions => (session, { db with authSessions })
    else none
  else none

/-- `UPDATE auth_sessions SET revoked_at WHERE p AND revoked_at IS NULL`. -/
def revokeWhere (p : AuthSession → Bool) (revokedAt : Timestamp) (db : AuthDatabase) :
    AuthDatabase :=
  { db with
    authSessions := db.authSessions.updateWhere (fun s => p s && !s.isRevoked)
      (AuthSession.revoke revokedAt) fun _ => rfl }

/-- The session a raw token belongs to. -/
def sessionOf (env : Environment) (db : AuthDatabase) (rawRefreshToken : String) :
    Option AuthSession :=
  db.authSessions.scalar fun s => s.tokenHash = hashRefreshToken env rawRefreshToken

/-- `UPDATE users SET password_hash WHERE id = userId`. -/
def writePassword (userId : Uuid) (passwordHash : String) (db : AuthDatabase) : AuthDatabase :=
  { db with
    users := db.users.updateWhere (fun u => u.id = userId) (fun u => { u with passwordHash })
      fun _ => rfl }

end AuthDatabase

/-- Persist a refresh session and issue its initial token pair. The access token reads the clock
again. -/
def createAuthSession (env : Environment) (userId : Uuid) (draws : Draws)
    (now issuedAt : Timestamp) (db : AuthDatabase) :
    Except Raised IssuedSessionTokens × AuthDatabase :=
  let refreshToken := issueRefreshToken env draws.tokenUrlsafe now
  match db.users.find userId, db.openSession draws userId draws.familyId refreshToken with
  | some user, some (session, db') =>
      (.ok ⟨session, issueAccessToken env user session.id draws.tokenId issuedAt, refreshToken⟩,
        db')
  | _, _ => (.error .integrityError, db)

def isExpired (expiresAt now : Timestamp) : Bool := expiresAt ≤ now

/-- Revoke every still-active refresh session in a rotation family. -/
def revokeTokenFamily (familyId : Uuid) (revokedAt : Timestamp) (db : AuthDatabase) :
    AuthDatabase :=
  db.revokeWhere (fun s => s.familyId = familyId) revokedAt

def refreshFailed : Raised := .refreshTokenError "Refresh token is invalid or expired."

/-- The last branch of `rotate_auth_session`. -/
def replaceAuthSession (env : Environment) (session : AuthSession) (user : User) (draws : Draws)
    (now : Timestamp) (db : AuthDatabase) : Except Raised IssuedSessionTokens × AuthDatabase :=
  let replacementToken := issueRefreshToken env draws.tokenUrlsafe now
  match db.openSession draws session.userId session.familyId replacementToken with
  | none => (.error .integrityError, db)
  | some (replacement, db') =>
      let session' := session.replaceBy replacement now
      if uniqueColumn db'.authSessions AuthSession.replacedById session' then
        (.ok ⟨replacement, issueAccessToken env user replacement.id draws.tokenId now,
            replacementToken⟩,
          { db' with authSessions := db'.authSessions.set session' })
      else (.error .integrityError, db)

/-- Rotate an active refresh session and detect revoked-token reuse. -/
def rotateAuthSession (env : Environment) (rawRefreshToken : String) (draws : Draws)
    (now : Timestamp) (db : AuthDatabase) : Except Raised IssuedSessionTokens × AuthDatabase :=
  match db.sessionOf env rawRefreshToken with
  | none => (.error refreshFailed, db)
  | some session =>
      if session.isRevoked then
        (.error refreshFailed, revokeTokenFamily session.familyId now db)
      else if isExpired session.expiresAt now then
        (.error refreshFailed, db.revokeWhere (fun s => s.id = session.id) now)
      else
        match db.users.find session.userId with
        | none => (.error .attributeError, db)
        | some user =>
            if !user.isActive then
              (.error refreshFailed, revokeTokenFamily session.familyId now db)
            else replaceAuthSession env session user draws now db

/-- Idempotently revoke one session owned by the authenticated user. -/
def revokeAuthSession (sessionId userId : Uuid) (now : Timestamp) (db : AuthDatabase) :
    Bool × AuthDatabase :=
  match db.authSessions.scalar fun s => s.id = sessionId ∧ s.userId = userId with
  | none => (false, db)
  | some session =>
      if session.isRevoked then (false, db)
      else (true, db.revokeWhere (fun s => s.id = session.id) now)

/-- Revoke every active refresh session belonging to one user; the number of rows it changed. -/
def revokeAllAuthSessions (userId : Uuid) (now : Timestamp) (db : AuthDatabase) :
    Nat × AuthDatabase :=
  ((db.authSessions.rows.filter fun s => s.userId = userId ∧ !s.isRevoked).length,
    db.revokeWhere (fun s => s.userId = userId) now)

/-- The rest of `change_user_password` once it holds the instance of the user: what it checks, and
the two statements it commits. The `UPDATE` of the user writes the changed column only. -/
def changeLoadedPassword (env : Environment) (user : User) (data : ChangePasswordRequest)
    (salt : String) (now : Timestamp) (db : AuthDatabase) : Except Raised Unit × AuthDatabase :=
  if !user.checkPassword env data.currentPassword then
    (.error (.passwordChangeError "Current password is incorrect."), db)
  else if user.checkPassword env data.newPassword then
    (.error (.passwordChangeError "New password must be different from the current password."), db)
  else
    (.ok (), (db.writePassword user.id (env.generatePasswordHash salt data.newPassword)).revokeWhere
      (fun s => s.userId = user.id) now)

/-- Change a password and atomically revoke every login session. -/
def changeUserPassword (env : Environment) (userId : Uuid) (data : ChangePasswordRequest)
    (salt : String) (now : Timestamp) (db : AuthDatabase) : Except Raised Unit × AuthDatabase :=
  match db.users.find userId with
  | none => (.error (.passwordChangeError "Current password is incorrect."), db)
  | some user => changeLoadedPassword env user data salt now db

/-! ### The serialised system -/

/-- One transaction, or an operator setting `is_active`. -/
inductive AuthAction where
  | authenticate (data : LoginRequest) (now : Timestamp)
  | create (userId : Uuid) (draws : Draws) (now issuedAt : Timestamp)
  | rotate (raw : String) (draws : Draws) (now : Timestamp)
  | revoke (sessionId userId : Uuid) (now : Timestamp)
  | revokeAll (userId : Uuid) (now : Timestamp)
  | changePassword (userId : Uuid) (data : ChangePasswordRequest) (salt : String) (now : Timestamp)
  | setActive (userId : Uuid) (isActive : Bool)

def AuthDatabase.step (env : Environment) (db : AuthDatabase) : AuthAction → AuthDatabase
  | .authenticate data now => (authenticateUser env data now db).2
  | .create userId draws now issuedAt => (createAuthSession env userId draws now issuedAt db).2
  | .rotate raw draws now => (rotateAuthSession env raw draws now db).2
  | .revoke sessionId userId now => (revokeAuthSession sessionId userId now db).2
  | .revokeAll userId now => (revokeAllAuthSessions userId now db).2
  | .changePassword userId data salt now => (changeUserPassword env userId data salt now db).2
  | .setActive userId isActive =>
      { db with
        users := db.users.updateWhere (fun u => u.id = userId) (fun u => { u with isActive })
          fun _ => rfl }

/-- The family id a new session draws is in use by no session. -/
def FreshFamily (db : AuthDatabase) : AuthAction → Prop
  | .create _ draws _ _ => ∀ s ∈ db.authSessions, s.familyId ≠ draws.familyId
  | _ => True

instance (db : AuthDatabase) (a : AuthAction) : Decidable (FreshFamily db a) := by
  cases a <;> unfold FreshFamily <;> infer_instance

/-- The drawn key and token are in use by no session, and the session outlives its creation. -/
structure Draws.Unused (env : Environment) (draws : Draws) (now : Timestamp) (db : AuthDatabase) :
    Prop where
  nonempty : draws.tokenUrlsafe ≠ ""
  inOrder : draws.createdAt < now + days env.jwtRefreshTokenDays
  newId : ∀ s ∈ db.authSessions, s.id ≠ draws.sessionId
  unnamed : ∀ s ∈ db.authSessions, s.replacedById ≠ some draws.sessionId
  newHash : ∀ s ∈ db.authSessions, s.tokenHash ≠ hashRefreshToken env draws.tokenUrlsafe

instance (env : Environment) (draws : Draws) (now : Timestamp) (db : AuthDatabase) :
    Decidable (draws.Unused env now db) :=
  decidable_of_iff (draws.tokenUrlsafe ≠ "" ∧ draws.createdAt < now + days env.jwtRefreshTokenDays ∧
      (∀ s ∈ db.authSessions, s.id ≠ draws.sessionId) ∧
      (∀ s ∈ db.authSessions, s.replacedById ≠ some draws.sessionId) ∧
      ∀ s ∈ db.authSessions, s.tokenHash ≠ hashRefreshToken env draws.tokenUrlsafe)
    ⟨fun ⟨h₁, h₂, h₃, h₄, h₅⟩ => ⟨h₁, h₂, h₃, h₄, h₅⟩,
      fun h => ⟨h.nonempty, h.inOrder, h.newId, h.unnamed, h.newHash⟩⟩

end ChargeMate.Auth
