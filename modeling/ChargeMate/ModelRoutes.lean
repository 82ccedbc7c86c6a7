import ChargeMate.ModelAccounts

/-! The decorator of `auth/decorators.py` and the session routes of `auth/routes.py`, as far as a
client can tell their answers apart: the status, the access token and what happens to the refresh
cookie. -/

namespace ChargeMate.Auth

open Relational

/-- The two words of an `Authorization` header. -/
structure Authorization where
  scheme : String
  token : Jwt

/-- Require a valid bearer token, an active user and a live session. -/
def accessTokenRequired (env : Environment) (authorization : Option Authorization)
    (now : Timestamp) (db : AuthDatabase) : Option (User × AccessClaims) :=
  match authorization with
  | none => none
  | some header =>
      if header.scheme.toLower ≠ "bearer" then none
      else
        match decodeAccessToken env header.token now with
        | .error _ => none
        | .ok claims =>
            let activeSession := db.authSessions.scalar fun s =>
              s.id = claims.sid ∧ s.userId = claims.sub ∧ !s.isRevoked ∧ now < s.expiresAt
            match db.users.find claims.sub, activeSession with
            | some user, some _ => if user.isActive then some (user, claims) else none
            | _, _ => none

/-- What an answer does to the refresh cookie. -/
inductive CookieChange where
  | keep
  | set (token : IssuedRefreshToken)
  | clear
  deriving DecidableEq

/-- The cookie in the browser after an answer. -/
def CookieChange.apply (change : CookieChange) (cookie : Option String) : Option String :=
  match change with
  | .keep => cookie
  | .set token => some token.value
  | .clear => none

structure Reply where
  status : Nat
  cookie : CookieChange
  accessToken : Option Jwt
  deriving DecidableEq

def unauthorizedResponse : Reply := ⟨401, .keep, none⟩

/-- An exception that no route catches. -/
def internalError : Reply := ⟨500, .keep, none⟩

/-- Return an access token and rotate the protected refresh cookie. -/
def tokenResponse (issued : IssuedSessionTokens) : Reply :=
  ⟨200, .set issued.refreshToken, some issued.accessToken.value⟩

/-- `POST /auth/login`. -/
def loginRoute (env : Environment) (data : LoginRequest) (draws : Draws) (now : Timestamp)
    (db : AuthDatabase) : Reply × AuthDatabase :=
  match authenticateUser env data now db with
  | (.error _, db) => (unauthorizedResponse, db)
  | (.ok user, db) =>
      match createAuthSession env user.id draws now now db with
      | (.ok issued, db) => (tokenResponse issued, db)
      | (.error _, db) => (internalError, db)

/-- `POST /auth/refresh`: rotate the refresh cookie and issue a new access token. -/
def refreshRoute (env : Environment) (cookie : Option String) (draws : Draws) (now : Timestamp)
    (db : AuthDatabase) : Reply × AuthDatabase :=
  match cookie with
  | none => (unauthorizedResponse, db)
  | some raw =>
      if raw = "" then (unauthorizedResponse, db)
      else
        match rotateAuthSession env raw draws now db with
        | (.ok issued, db) => (tokenResponse issued, db)
        | (.error (.refreshTokenError _), db) => (⟨401, .clear, none⟩, db)
        | (.error _, db) => (internalError, db)

inductive LogoutKind where
  | logout
  | logoutAll
  deriving DecidableEq

/-- `POST /auth/logout` and `POST /auth/logout-all`. -/
def logoutRoute (env : Environment) (kind : LogoutKind) (authorization : Option Authorization)
    (now : Timestamp) (db : AuthDatabase) : Reply × AuthDatabase :=
  match accessTokenRequired env authorization now db with
  | none => (unauthorizedResponse, db)
  | some (user, claims) =>
      match kind with
      | .logout => (⟨204, .clear, none⟩, (revokeAuthSession claims.sid user.id now db).2)
      | .logoutAll => (⟨204, .clear, none⟩, (revokeAllAuthSessions user.id now db).2)

end ChargeMate.Auth
