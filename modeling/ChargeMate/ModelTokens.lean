import ChargeMate.ModelRows

/-! Accounts, login sessions and their tokens: the rows that authentication reads and writes, and
`auth/tokens.py`. What the services call outside the standard library, the password hashing of
`werkzeug.security` and the signing of `jwt`, stands in an `Environment` with the configuration. -/

namespace ChargeMate.Auth

open Relational

/-- A person who can authenticate with ChargeMate. -/
structure User where
  id : Uuid
  email : String
  username : String
  passwordHash : String
  role : UserRole
  isActive : Bool
  failedLoginAttempts : Nat
  lockedUntil : Option Timestamp
  deriving DecidableEq

/-- A stored, revocable generation of a user's refresh token. The check constraint
`expires_after_creation` is a field. -/
@[ext] structure AuthSession where
  id : Uuid
  userId : Uuid
  tokenHash : String
  familyId : Uuid
  createdAt : Timestamp
  expiresAt : Timestamp
  expiresAfterCreation : createdAt < expiresAt
  revokedAt : Option Timestamp
  lastUsedAt : Option Timestamp
  replacedById : Option Uuid

instance : DecidableEq AuthSession := fun _ _ => decidable_of_iff _ AuthSession.ext_iff.symm

instance : Keyed User Uuid := ⟨User.id⟩
instance : Keyed AuthSession Uuid := ⟨AuthSession.id⟩

@[simp] theorem key_user (u : User) : key u = u.id := rfl
@[simp] theorem key_authSession (s : AuthSession) : key s = s.id := rfl

def AuthSession.isRevoked (s : AuthSession) : Bool := s.revokedAt.isSome

/-- The payload of an access token. `iat` and `exp` are whole seconds. -/
structure AccessClaims where
  sub : Uuid
  role : UserRole
  type : String
  sid : Uuid
  jti : Uuid
  iat : Int
  exp : Int
  iss : String
  aud : String
  deriving DecidableEq

/-- The text of a signed token, by its parts. -/
structure Jwt where
  payload : AccessClaims
  signature : String
  deriving DecidableEq

structure Environment where
  checkPasswordHash : String → String → Bool
  /-- The salt is the first argument. -/
  generatePasswordHash : String → String → String
  sha256Hex : String → String
  jwtEncode : AccessClaims → Jwt
  /-- `jwt.decode` with the configured key, algorithm, issuer, audience and required claims. -/
  jwtDecode : Jwt → Timestamp → Option AccessClaims
  loginMaxFailedAttempts : Nat
  loginLockoutMinutes : Nat
  jwtAccessTokenMinutes : Nat
  jwtRefreshTokenDays : Nat
  jwtIssuer : String
  jwtAudience : String

/-- The exceptions that leave the services and the token functions. -/
inductive Raised where
  | authenticationError (message : String)
  | refreshTokenError (message : String)
  | passwordChangeError (message : String)
  | accessTokenError (message : String)
  | integrityError
  | attributeError
  deriving DecidableEq

/-! ### Tokens -/

structure IssuedAccessToken where
  value : Jwt
  expiresAt : Timestamp
  tokenId : Uuid
  deriving DecidableEq

structure IssuedRefreshToken where
  value : String
  digest : String
  expiresAt : Timestamp
  deriving DecidableEq

/-- The whole seconds of a timestamp, as a `NumericDate` of a token. -/
def numericDate (t : Timestamp) : Int := t / 1000000

/-- `timedelta(days=n)`. -/
def days (n : Int) : Int := minutes (1440 * n)

/-- The payload `issue_access_token` signs. -/
def accessClaims (env : Environment) (user : User) (sessionId tokenId : Uuid) (now : Timestamp) :
    AccessClaims where
  sub := user.id
  role := user.role
  type := "access"
  sid := sessionId
  jti := tokenId
  iat := numericDate now
  exp := numericDate (now + minutes env.jwtAccessTokenMinutes)
  iss := env.jwtIssuer
  aud := env.jwtAudience

/-- Create a signed, short-lived JWT for one authenticated session. -/
def issueAccessToken (env : Environment) (user : User) (sessionId tokenId : Uuid)
    (now : Timestamp) : IssuedAccessToken where
  value := env.jwtEncode (accessClaims env user sessionId tokenId now)
  expiresAt := now + minutes env.jwtAccessTokenMinutes
  tokenId := tokenId

/-- Verify an access token and return its trusted claims. -/
def decodeAccessToken (env : Environment) (token : Jwt) (now : Timestamp) :
    Except Raised AccessClaims :=
  match env.jwtDecode token now with
  | none => .error (.accessTokenError "Access token is invalid or expired.")
  | some payload =>
      if payload.type ≠ "access" then
        .error (.accessTokenError "Access token is invalid or expired.")
      else .ok payload

def hashRefreshToken (env : Environment) (token : String) : String := env.sha256Hex token

/-- Create an opaque refresh token from the drawn text and its stored digest. -/
def issueRefreshToken (env : Environment) (tokenUrlsafe : String) (now : Timestamp) :
    IssuedRefreshToken where
  value := tokenUrlsafe
  digest := hashRefreshToken env tokenUrlsafe
  expiresAt := now + days env.jwtRefreshTokenDays

end ChargeMate.Auth
