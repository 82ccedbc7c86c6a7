import ChargeMate.ModelAccounts
import ChargeMate.ModelText

/-! Registration: `RegisterUserRequest` and `LoginRequest` of `auth/schemas.py`, and
`register_user`. What the schemas take from outside the repository, pydantic's `EmailStr` and the
Unicode tables of Python and the database, stands in a `TextEnv`. -/

namespace ChargeMate.Auth

open Relational

/-! ### Texts -/

/-- An address as email-validator splits it. `enclosed` says that it stands in angle brackets, with
or without a display name before them. -/
structure EmailParts where
  enclosed : Bool
  localPart : String
  domain : String

structure TextEnv where
  /-- `str.lower`. -/
  lower : String → String
  /-- `lower` of the database. -/
  sqlLower : String → String
  /-- The decimal digits that `\d` matches. -/
  isDecimal : Char → Bool
  /-- `unicodedata.normalize("NFC", ...)`. -/
  nfc : String → String
  /-- The domain names in lower-case Unicode. -/
  normalizeDomain : String → String
  /-- The addresses that pydantic accepts. -/
  emailParts : String → Option EmailParts

variable (text : TextEnv)

/-- The value of an `EmailStr` field: the address as email-validator normalises it. -/
def EmailParts.normalized (parts : EmailParts) : String :=
  text.nfc parts.localPart ++ "@" ++ text.normalizeDomain parts.domain

def emailStr (value : String) : Option String :=
  (text.emailParts value).map fun parts => parts.normalized text

/-- Store identifiers in the canonical form required by PostgreSQL. -/
def normalizeIdentifier (value : String) : String := text.lower (strip value)

/-- Remove accidental surrounding and repeated whitespace. -/
def normalizeFullName (value : String) : String := " ".intercalate (words value)

/-- Treat a blank optional phone number as absent. -/
def normalizePhone (value : String) : Option String :=
  if strip value = "" then none else some (strip value)

/-- `^[a-z0-9_]+$`. -/
def isUsername (value : String) : Bool :=
  value.toList ≠ [] ∧ value.toList.all fun c => c.isLower || c.isDigit || c == '_'

/-- `^\+[1-9]\d{7,14}$`. -/
def isPhone (value : String) : Bool :=
  match value.toList with
  | '+' :: first :: rest =>
      ('1' ≤ first ∧ first ≤ '9') ∧ (7 ≤ rest.length ∧ rest.length ≤ 14) ∧
        rest.all text.isDecimal
  | _ => false

/-! ### Requests -/

/-- The JSON object of a registration, as it is typed. -/
structure RegistrationPayload where
  email : String
  username : String
  password : String
  fullName : String
  phone : Option String

structure RegisterUserRequest where
  email : String
  username : String
  password : String
  fullName : String
  phone : Option String
  deriving DecidableEq

/-- `min_length` and `max_length`. -/
def lengthWithin (least most : Nat) (value : String) : Prop :=
  least ≤ value.length ∧ value.length ≤ most

instance (least most : Nat) (value : String) : Decidable (lengthWithin least most value) :=
  inferInstanceAs (Decidable (_ ∧ _))

/-- `RegisterUserRequest.model_validate`; `none` is a `ValidationError`. -/
def RegisterUserRequest.modelValidate (payload : RegistrationPayload) :
    Option RegisterUserRequest :=
  (emailStr text (normalizeIdentifier text payload.email)).bind fun email =>
    let username := normalizeIdentifier text payload.username
    let fullName := normalizeFullName payload.fullName
    let phone := payload.phone.bind normalizePhone
    if (lengthWithin 3 50 username ∧ isUsername username) ∧ lengthWithin 12 128 payload.password ∧
        lengthWithin 2 100 fullName ∧ phone.all (isPhone text) then
      some { email, username, password := payload.password, fullName, phone }
    else none

/-- `LoginRequest.model_validate`. -/
def LoginRequest.modelValidate (identifier password : String) : Option LoginRequest :=
  let identifier := normalizeIdentifier text identifier
  if lengthWithin 3 255 identifier ∧ lengthWithin 1 128 password then
    some { identifier, password }
  else none

/-! ### The directory -/

/-- The columns of `users` that registration alone reads and writes. -/
structure Profile where
  userId : Uuid
  fullName : String
  phone : Option String
  deriving DecidableEq

instance : Keyed Profile Uuid := ⟨Profile.userId⟩

/-- The database, with the profiles of its users. -/
structure Directory where
  db : AuthDatabase
  profiles : Table Profile

/-- What leaves `register_user`. -/
inductive RegistrationError where
  | registrationConflictError (message : String)
  | integrityError
  | dataError
  deriving DecidableEq

def registrationConflict : RegistrationError :=
  .registrationConflictError "Registration details are already in use."

/-- The key and the salt that a registration draws. -/
structure RegistrationDraws where
  userId : Uuid
  salt : String

namespace Directory

/-- `WHERE email = ... OR username = ... OR phone = ...`. -/
def identifiersInUse (data : RegisterUserRequest) (directory : Directory) : Bool :=
  directory.db.users.rows.any (fun u => u.email = data.email ∨ u.username = data.username) ||
    data.phone.any fun phone => directory.profiles.rows.any fun p => p.phone = some phone

/-- `INSERT INTO users`. A duplicate key of the table and a failed check are no conflict of
identifiers. -/
def insertUser (user : User) (profile : Profile) (directory : Directory) :
    Except RegistrationError Directory :=
  if !(varchar 255 user.email && varchar 50 user.username && varchar 255 user.passwordHash &&
      varchar 100 profile.fullName && profile.phone.all (varchar 20)) then .error .dataError
  else if ¬(user.email = text.sqlLower user.email ∧ user.username = text.sqlLower user.username) then
    .error .integrityError
  else
    match directory.db.users.insert user, directory.profiles.insert profile with
    | some users, some profiles =>
        if uniqueColumn directory.db.users (fun u => some u.email) user ∧
            uniqueColumn directory.db.users (fun u => some u.username) user ∧
            uniqueColumn directory.profiles Profile.phone profile then
          .ok { db := { directory.db with users }, profiles }
        else .error registrationConflict
    | _, _ => .error .integrityError

end Directory

variable (env : Environment)

/-- The row that a registration adds. -/
def newUser (data : RegisterUserRequest) (draws : RegistrationDraws) : User where
  id := draws.userId
  email := data.email
  username := data.username
  passwordHash := env.generatePasswordHash draws.salt data.password
  role := .user
  isActive := true
  failedLoginAttempts := 0
  lockedUntil := none

/-- Create and persist a user from validated registration data. The `SELECT` has read `seen`;
other registrations may have committed before the `INSERT`. -/
def registerUser (data : RegisterUserRequest) (draws : RegistrationDraws)
    (seen directory : Directory) : Except RegistrationError User × Directory :=
  if seen.identifiersInUse data then (.error registrationConflict, directory)
  else
    let user := newUser env data draws
    match directory.insertUser text user ⟨draws.userId, data.fullName, data.phone⟩ with
    | .error e => (.error e, directory)
    | .ok directory' => (.ok user, directory')

/-! ### The system -/

/-- A request to register, after a `SELECT` of its own, or a transaction on the users registered. -/
inductive DirectoryAction where
  | register (payload : RegistrationPayload) (draws : RegistrationDraws) (seen : Directory)
  | account (a : AuthAction)

def Directory.step (directory : Directory) : DirectoryAction → Directory
  | .register payload draws seen =>
      match RegisterUserRequest.modelValidate text payload with
      | none => directory
      | some data => (registerUser text env data draws seen directory).2
  | .account a => { directory with db := directory.db.step env a }

/-- Nobody has registered. -/
def Directory.empty : Directory where
  db := { users := ∅, authSessions := ∅ }
  profiles := ∅

/-- The users that the lookup of `authenticate_user` matches. -/
def AuthDatabase.matched (db : AuthDatabase) (identifier : String) : List User :=
  db.users.rows.filter fun u => u.email = identifier ∨ u.username = identifier

end ChargeMate.Auth
