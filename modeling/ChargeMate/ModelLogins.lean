import ChargeMate.FoundationCells
import ChargeMate.ModelAccounts
import Mathlib.Logic.Function.Basic

/-! Requests that span several transactions or hold a row across statements. A login is the
transaction of `authenticate_user` and, later, that of `create_auth_session`. A password change
first loads the user in its decorator, then takes the row lock, then checks, writes and commits.
A failed login reads the user without a lock and writes what it has computed from that reading. -/

namespace ChargeMate.Auth

open Relational

/-! ### Logins -/

/-- A login between its two transactions. `passwordVersion` counts the changes of the password that
had committed when it was checked. -/
structure PendingLogin where
  userId : Uuid
  passwordVersion : Nat

/-- The database with the logins under way. `passwordVersion` and `strength` are history: the
committed password changes of each user, and for each session the password version on whose
strength it was issued. -/
structure LoginState where
  db : AuthDatabase
  pending : List PendingLogin
  passwordVersion : Uuid → Nat
  strength : Uuid → Nat

inductive LoginAction where
  | authenticate (data : LoginRequest) (now : Timestamp)
  | create (login : Nat) (draws : Draws) (now issuedAt : Timestamp)
  | rotate (raw : String) (draws : Draws) (now : Timestamp)
  | changePassword (userId : Uuid) (data : ChangePasswordRequest) (salt : String) (now : Timestamp)

namespace LoginState

variable (env : Environment) (s : LoginState)

def authenticate (data : LoginRequest) (now : Timestamp) : LoginState :=
  match authenticateUser env data now s.db with
  | (.ok user, db) =>
      { s with db, pending := s.pending ++ [⟨user.id, s.passwordVersion user.id⟩] }
  | (.error _, db) => { s with db }

def create (p : PendingLogin) (draws : Draws) (now issuedAt : Timestamp) : LoginState :=
  match createAuthSession env p.userId draws now issuedAt s.db with
  | (.ok issued, db) =>
      { s with db, strength := Function.update s.strength issued.session.id p.passwordVersion }
  | (.error _, db) => { s with db }

def rotate (raw : String) (draws : Draws) (now : Timestamp) : LoginState :=
  match rotateAuthSession env raw draws now s.db, s.db.sessionOf env raw with
  | (.ok issued, db), some session =>
      { s with
        db
        strength := Function.update s.strength issued.session.id (s.strength session.id) }
  | (_, db), _ => { s with db }

def changePassword (userId : Uuid) (data : ChangePasswordRequest) (salt : String)
    (now : Timestamp) : LoginState :=
  match changeUserPassword env userId data salt now s.db with
  | (.ok _, db) =>
      { s with
        db
        passwordVersion :=
          Function.update s.passwordVersion userId (s.passwordVersion userId + 1) }
  | (.error _, db) => { s with db }

def step : LoginAction → LoginState
  | .authenticate data now => s.authenticate env data now
  | .create login draws now issuedAt =>
      match s.pending[login]? with
      | none => s
      | some p => { s with pending := s.pending.eraseIdx login }.create env p draws now issuedAt
  | .rotate raw draws now => s.rotate env raw draws now
  | .changePassword userId data salt now => s.changePassword env userId data salt now

/-- A database nobody is logging in to, with sessions of the passwords in force. -/
def start (db : AuthDatabase) : LoginState where
  db := db
  pending := []
  passwordVersion := fun _ => 0
  strength := fun _ => 0

end LoginState

/-! ### Attempts on one account -/

structure LoginAttempt where
  password : String
  now : Timestamp

/-- The `UPDATE` of a flush: the login columns in which the instance differs from what was loaded. -/
def User.flushLogin (loaded computed stored : User) : User :=
  { stored with
    failedLoginAttempts :=
      if computed.failedLoginAttempts = loaded.failedLoginAttempts then stored.failedLoginAttempts
      else computed.failedLoginAttempts
    lockedUntil :=
      if computed.lockedUntil = loaded.lockedUntil then stored.lockedUntil
      else computed.lockedUntil }

/-- An attempt changes no column but the two of the login state. -/
theorem attemptLogin_columns (env : Environment) (user : User) (password : String)
    (now : Timestamp) :
    (attemptLogin env user password now).1 = { user with
      failedLoginAttempts := (attemptLogin env user password now).1.failedLoginAttempts
      lockedUntil := (attemptLogin env user password now).1.lockedUntil } := by
  unfold attemptLogin
  split
  · rfl
  · simp only
    split
    · split <;> rfl
    · unfold recordFailedLogin
      simp only
      split <;> split <;> rfl

/-- `authenticate_user` as a client of the row: no lock is held between its reading and its
write. -/
def loginClient (env : Environment) : Cell.Client User LoginAttempt where
  compute attempt user := (attemptLogin env user attempt.password attempt.now).1
  store := User.flushLogin
  store_loaded attempt user := by
    rw [attemptLogin_columns, User.flushLogin]
    congr 1 <;> exact ite_eq_right_iff.mpr Eq.symm

/-! ### Password changes of one user -/

/-- A `/auth/change-password` request past its decorator. The identity map of its database session
holds `user`, with the attributes loaded there. -/
structure ChangeRequest where
  data : ChangePasswordRequest
  salt : String
  user : User

/-- The database, the requests by number, the one that holds the lock on the user's row, and the
accepted requests in the order of their commits. -/
structure ChangeState where
  db : AuthDatabase
  requests : Nat → Option ChangeRequest
  lockedBy : Option Nat
  accepted : List ChangePasswordRequest

inductive ChangeAction where
  | load (request : Nat) (data : ChangePasswordRequest) (salt : String)
  | lock (request : Nat)
  | commit (request : Nat) (now : Timestamp)

namespace ChangeState

variable (env : Environment) (userId : Uuid) (s : ChangeState)

/-- The decorator loads the user. -/
def load (i : Nat) (data : ChangePasswordRequest) (salt : String) : ChangeState :=
  match s.requests i, s.db.users.find userId with
  | none, some user => { s with requests := Function.update s.requests i (some ⟨data, salt, user⟩) }
  | _, _ => s

/-- `SELECT ... FOR UPDATE` waits for the lock. It returns the instance in the identity map, whose
loaded attributes it does not refresh. -/
def lock (i : Nat) : ChangeState :=
  if s.lockedBy = none ∧ (s.requests i).isSome then { s with lockedBy := some i } else s

/-- A request is over and releases the lock. -/
def finish (i : Nat) : ChangeState :=
  { s with requests := Function.update s.requests i none, lockedBy := none }

/-- The checks, the writes and the commit, or the rollback. -/
def commit (i : Nat) (now : Timestamp) : ChangeState :=
  if s.lockedBy = some i then
    match s.requests i with
    | none => s
    | some r =>
        match changeLoadedPassword env r.user r.data r.salt now s.db with
        | (.ok _, db) => { s.finish i with db, accepted := s.accepted ++ [r.data] }
        | (.error _, db) => { s.finish i with db }
  else s

def step : ChangeAction → ChangeState
  | .load i data salt => s.load userId i data salt
  | .lock i => s.lock i
  | .commit i now => s.commit env i now

def start (db : AuthDatabase) : ChangeState where
  db := db
  requests := fun _ => none
  lockedBy := none
  accepted := []

end ChangeState

end ChargeMate.Auth
