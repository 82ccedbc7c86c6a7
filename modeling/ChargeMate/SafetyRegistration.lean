import ChargeMate.FoundationNames
import ChargeMate.ModelRegistration
import ChargeMate.SafetyGuesses

/-! Who registers can log in. The users answer to two names, an address with an at sign and a
username without one, and nothing but a registration adds or changes a name. A login normalises
what is typed by stripping and lower-casing; a registration then takes the address that
email-validator makes of it. -/

namespace ChargeMate.Auth

open Relational

/-- The columns that a login looks up, with the key. No transaction on a user writes them. -/
structure Identity where
  id : Uuid
  email : String
  username : String
  deriving DecidableEq

def User.identity (user : User) : Identity := ⟨user.id, user.email, user.username⟩

def AuthDatabase.identities (db : AuthDatabase) : List Identity := db.users.rows.map User.identity

/-- The text has an at sign. -/
def AtSign (value : String) : Prop := '@' ∈ value.toList

def AuthDatabase.Named (db : AuthDatabase) : Prop :=
  Names.Distinct Identity.email Identity.username AtSign db.identities

theorem AuthDatabase.map_id_matched (db : AuthDatabase) (identifier : String) :
    (db.matched identifier).map User.id =
      (Names.matching Identity.email Identity.username db.identities identifier).map Identity.id := by
  rw [Names.matching, identities, List.filter_map, List.map_map]
  rfl

namespace AuthDatabase

variable {db : AuthDatabase}

theorem identity_eq_of_id {i j : Identity} (hi : i ∈ db.identities) (hj : j ∈ db.identities)
    (hid : i.id = j.id) : i = j := by
  obtain ⟨u, hu, rfl⟩ := List.mem_map.mp hi
  obtain ⟨v, hv, rfl⟩ := List.mem_map.mp hj
  exact congrArg User.identity (Table.eq_of_key_eq hu hv hid)

/-- The lookup matches a user alone exactly if it is by a name of the user. -/
theorem Named.matched_eq_singleton (h : db.Named) {i : Identity} (hi : i ∈ db.identities)
    (identifier : String) :
    (db.matched identifier).map User.id = [i.id] ↔ i.email = identifier ∨ i.username = identifier := by
  rw [db.map_id_matched, List.map_eq_singleton_iff]
  constructor
  · rintro ⟨j, hsingle, hid⟩
    obtain ⟨hj, hname⟩ := (Names.Distinct.matching_eq_singleton h).mp hsingle
    obtain rfl := identity_eq_of_id hj hi hid
    exact hname
  · exact fun hname => ⟨i, (Names.Distinct.matching_eq_singleton h).mpr ⟨hi, hname⟩, rfl⟩

theorem Named.length_matched_le (h : db.Named) (identifier : String) :
    (db.matched identifier).length ≤ 1 := by
  rw [← List.length_map User.id, db.map_id_matched, List.length_map]
  exact Names.Distinct.length_matching_le h identifier

end AuthDatabase

section

variable (env : Environment) (db : AuthDatabase)

theorem identities_authenticateUser (data : LoginRequest) (now : Timestamp) :
    (authenticateUser env data now db).2.identities = db.identities := by
  cases haccount : db.account data.identifier with
  | none =>
      rw [AuthDatabase.account] at haccount
      rw [authenticateUser, haccount]
  | some user =>
      have hmem : user ∈ db.users := Table.mem_of_scalar haccount
      rw [authenticateUser_of_account env now haccount]
      apply db.users.map_set User.identity
      intro s hs hkey
      have hid : (attemptLogin env user data.password now).1.identity = user.identity := by
        rw [attemptLogin_columns]
        rfl
      have hsame : s = user :=
        Table.eq_of_key_eq hs hmem (hkey.trans (attemptLogin_id env user data.password now))
      rw [hid, hsame]

theorem identities_createAuthSession (userId : Uuid) (draws : Draws) (now issuedAt : Timestamp) :
    (createAuthSession env userId draws now issuedAt db).2.identities = db.identities := by
  have hout := createAuthSession_outcome env userId draws now issuedAt db
  generalize createAuthSession env userId draws now issuedAt db = result at hout ⊢
  cases hout with
  | refused => rfl
  | created _ hopen => exact congrArg (fun t => t.rows.map User.identity) hopen.users_eq

theorem identities_rotateAuthSession (raw : String) (draws : Draws) (now : Timestamp) :
    (rotateAuthSession env raw draws now db).2.identities = db.identities := by
  have hout := rotateAuthSession_outcome env raw draws now db
  generalize rotateAuthSession env raw draws now db = result at hout ⊢
  cases hout with
  | unknown | reused | expired | inactive | refused => rfl
  | replaced _ _ _ _ _ hopen => exact congrArg (fun t => t.rows.map User.identity) hopen.users_eq

theorem identities_changeUserPassword (userId : Uuid) (data : ChangePasswordRequest)
    (salt : String) (now : Timestamp) :
    (changeUserPassword env userId data salt now db).2.identities = db.identities := by
  rcases changeUserPassword_cases env userId data salt now db with ⟨e, he⟩ | ⟨user, -, hloaded⟩
  · rw [he]
  rw [hloaded]
  rcases changeLoadedPassword_cases env user data salt now db with ⟨e, he⟩ | ⟨-, -, hok⟩
  · rw [he]
  · rw [hok]
    apply db.users.map_updateWhere
    · exact fun _ => rfl
    · exact fun _ => rfl

theorem AuthDatabase.identities_step (a : AuthAction) :
    (db.step env a).identities = db.identities := by
  cases a with
  | authenticate data now => exact identities_authenticateUser env db data now
  | create userId draws now issuedAt =>
      exact identities_createAuthSession env db userId draws now issuedAt
  | rotate raw draws now => exact identities_rotateAuthSession env db raw draws now
  | revoke sessionId userId now =>
      simp only [step, revokeAuthSession]
      split
      · rfl
      · split <;> rfl
  | revokeAll userId now => rfl
  | changePassword userId data salt now =>
      exact identities_changeUserPassword env db userId data salt now
  | setActive userId isActive =>
      apply db.users.map_updateWhere
      · exact fun _ => rfl
      · exact fun _ => rfl

end

/-! ### Registrations -/

section

variable {text : TextEnv} {env : Environment} {payload : RegistrationPayload}
  {data : RegisterUserRequest} {draws : RegistrationDraws} {seen directory directory' : Directory}
  {user : User}

/-- What the schema has checked, and where its identifiers come from. -/
theorem RegisterUserRequest.modelValidate_eq_some
    (h : RegisterUserRequest.modelValidate text payload = some data) :
    emailStr text (normalizeIdentifier text payload.email) = some data.email ∧
      data.username = normalizeIdentifier text payload.username ∧
      isUsername data.username = true := by
  rw [modelValidate, Option.bind_eq_some_iff] at h
  obtain ⟨email, hemail, hdata⟩ := h
  rw [Option.ite_none_right_eq_some] at hdata
  obtain ⟨⟨⟨-, husername⟩, -⟩, hdata⟩ := hdata
  cases hdata
  exact ⟨hemail, rfl, husername⟩

theorem LoginRequest.modelValidate_eq_some {typed password : String} {request : LoginRequest}
    (h : LoginRequest.modelValidate text typed password = some request) :
    request.identifier = normalizeIdentifier text typed := by
  rw [modelValidate, Option.ite_none_right_eq_some] at h
  cases h.2
  rfl

/-- A username holds neither an at sign nor an angle bracket. -/
theorem notMem_of_isUsername {value : String} (h : isUsername value = true) {c : Char}
    (hc : (c.isLower || c.isDigit || c == '_') = false) : c ∉ value.toList := by
  rw [isUsername, decide_eq_true_eq] at h
  intro hmem
  have hplain := List.all_eq_true.mp h.2 c hmem
  rw [hc] at hplain
  cases hplain

theorem EmailParts.atSign_normalized (parts : EmailParts) : AtSign (parts.normalized text) := by
  simp [AtSign, EmailParts.normalized]

theorem emailStr_eq_some {value email : String} (h : emailStr text value = some email) :
    ∃ parts, text.emailParts value = some parts ∧ email = parts.normalized text := by
  obtain ⟨parts, hparts, rfl⟩ := Option.map_eq_some_iff.mp h
  exact ⟨parts, hparts, rfl⟩

/-- A new row of the table, with a free key and names that no other row has. -/
theorem Directory.insertUser_eq_ok {profile : Profile}
    (h : directory.insertUser text user profile = .ok directory') :
    directory.db.users.insert user = some directory'.db.users ∧
      (∀ u ∈ directory.db.users, u.email ≠ user.email) ∧
      ∀ u ∈ directory.db.users, u.username ≠ user.username := by
  rw [insertUser] at h
  split at h
  · cases h
  split at h
  · cases h
  split at h
  · next users profiles husers _ =>
    split at h
    · next hunique =>
      cases h
      have hfree := Table.find_eq_none.mp (Table.insert_eq_some.mp husers).1
      refine ⟨husers, ?_, ?_⟩
      · intro u hu hemail
        exact hfree u hu (uniqueColumn_eq_true.mp hunique.1 _ rfl u hu (congrArg some hemail))
      · intro u hu husername
        have hunique := uniqueColumn_eq_true.mp hunique.2.1 _ rfl u hu (congrArg some husername)
        exact hfree u hu hunique
    · cases h
  · cases h

theorem registerUser_eq_ok (h : registerUser text env data draws seen directory = (.ok user, directory')) :
    user = newUser env data draws ∧
      directory.insertUser text user ⟨draws.userId, data.fullName, data.phone⟩ = .ok directory' := by
  rw [registerUser] at h
  split at h
  · cases h
  · simp only at h
    split at h
    · cases h
    · next hinsert =>
      cases h
      exact ⟨rfl, hinsert⟩

/-- A registration adds its identity. -/
theorem identities_of_registerUser
    (h : registerUser text env data draws seen directory = (.ok user, directory')) :
    directory'.db.identities = directory.db.identities ++ [⟨user.id, data.email, data.username⟩] := by
  obtain ⟨rfl, hinsert⟩ := registerUser_eq_ok h
  have hrows := (Table.insert_eq_some.mp (Directory.insertUser_eq_ok hinsert).1).2
  rw [AuthDatabase.identities, hrows, List.map_append]
  rfl

theorem registerUser_cases (text : TextEnv) (env : Environment) (data : RegisterUserRequest)
    (draws : RegistrationDraws) (seen directory : Directory) :
    (∃ e, registerUser text env data draws seen directory = (.error e, directory)) ∨
      ∃ user directory', registerUser text env data draws seen directory = (.ok user, directory') := by
  rw [registerUser]
  split
  · exact Or.inl ⟨_, rfl⟩
  · simp only
    split
    · exact Or.inl ⟨_, rfl⟩
    · exact Or.inr ⟨_, _, rfl⟩

theorem named_of_registerUser (hnamed : directory.db.Named)
    (hvalid : RegisterUserRequest.modelValidate text payload = some data)
    (h : registerUser text env data draws seen directory = (.ok user, directory')) :
    directory'.db.Named := by
  obtain ⟨hemail, -, husername⟩ := RegisterUserRequest.modelValidate_eq_some hvalid
  obtain ⟨parts, -, hnormalized⟩ := emailStr_eq_some hemail
  obtain ⟨huser, hinsert⟩ := registerUser_eq_ok h
  obtain ⟨-, hemails, husernames⟩ := Directory.insertUser_eq_ok hinsert
  rw [AuthDatabase.Named, identities_of_registerUser h]
  apply hnamed.append_singleton
  · rw [hnormalized]
    exact parts.atSign_normalized
  · exact notMem_of_isUsername husername (by decide)
  · intro i hi
    obtain ⟨u, hu, rfl⟩ := List.mem_map.mp hi
    have hne := hemails u hu
    rwa [huser] at hne
  · intro i hi
    obtain ⟨u, hu, rfl⟩ := List.mem_map.mp hi
    have hne := husernames u hu
    rwa [huser] at hne

/-- A step keeps the names of every user, and adds a user with names of its own or none. -/
theorem Directory.identities_step (a : DirectoryAction) (hnamed : directory.db.Named) :
    (directory.step text env a).db.Named ∧
      directory.db.identities <+: (directory.step text env a).db.identities := by
  cases a with
  | account a =>
      have hsame := directory.db.identities_step env a
      constructor
      · rw [AuthDatabase.Named, Directory.step, hsame]
        exact hnamed
      · exact ⟨[], (List.append_nil _).trans hsame.symm⟩
  | register payload draws seen =>
      rw [Directory.step]
      split
      · exact ⟨hnamed, List.prefix_rfl⟩
      · next data hvalid =>
        rcases registerUser_cases text env data draws seen directory with
          ⟨e, he⟩ | ⟨user, directory', hok⟩
        · rw [he]
          exact ⟨hnamed, List.prefix_rfl⟩
        · rw [hok, identities_of_registerUser hok]
          exact ⟨named_of_registerUser hnamed hvalid hok, List.prefix_append _ _⟩

theorem Directory.Reachable.named
    (h : Transition.Reachable (Directory.step text env) (· = Directory.empty) directory) :
    directory.db.Named := by
  refine h.invariant (P := fun d => d.db.Named) ?_ fun d a _ hd => (d.identities_step a hd).1
  rintro d rfl
  exact Names.Distinct.nil

/-- What has been registered keeps its names in every run. -/
theorem Directory.Reachable.identities_run
    (h : Transition.Reachable (Directory.step text env) (· = Directory.empty) directory)
    (actions : List DirectoryAction) :
    directory.db.identities <+:
      (Transition.run (Directory.step text env) directory actions).db.identities := by
  apply h.run_rel (Q := fun d d' => d.db.identities <+: d'.db.identities)
  · exact fun _ => List.prefix_rfl
  · exact fun _ _ _ hst htu => hst.trans htu
  · exact fun d a hd => (d.identities_step a (Directory.Reachable.named hd)).2

/-! ### Logging in -/

/-- What pydantic and email-validator document of an address, and Python of `str.lower`. -/
structure TextEnv.Documented (text : TextEnv) : Prop where
  /-- Lower-casing makes no white space. -/
  lower_stripped : ∀ value, strip value = value → strip (text.lower value) = text.lower value
  /-- An address that stands alone is its two parts with an at sign between them. -/
  bare : ∀ value parts, text.emailParts value = some parts → strip value = value →
    parts.enclosed = false → value = parts.localPart ++ "@" ++ parts.domain
  /-- Any other ends with its closing bracket. -/
  enclosed : ∀ value parts, text.emailParts value = some parts → strip value = value →
    parts.enclosed = true → value.toList.getLast? = some '>'
  single_at : ∀ value parts, text.emailParts value = some parts →
    '@' ∉ parts.localPart.toList ∧ '@' ∉ parts.domain.toList
  domain_open : ∀ value parts, text.emailParts value = some parts →
    '>' ∉ (text.normalizeDomain parts.domain).toList

/-- Written as email-validator writes it: no display name and no brackets, the local part in NFC,
the domain in lower-case Unicode. -/
structure EmailParts.Canonical (text : TextEnv) (parts : EmailParts) : Prop where
  bare : parts.enclosed = false
  localPart : text.nfc parts.localPart = parts.localPart
  domain : text.normalizeDomain parts.domain = parts.domain

/-- The typed address is canonical but for surrounding white space and upper case. -/
def TypedCanonically (text : TextEnv) (typed : String) : Prop :=
  ∀ parts, text.emailParts (normalizeIdentifier text typed) = some parts → parts.Canonical text

theorem TextEnv.Documented.stripped (htext : text.Documented) (typed : String) :
    strip (normalizeIdentifier text typed) = normalizeIdentifier text typed :=
  htext.lower_stripped _ (strip_strip typed)

/-- No address is a username. -/
theorem isUsername_eq_false (htext : text.Documented) {value : String} {parts : EmailParts}
    (hparts : text.emailParts value = some parts) (hstripped : strip value = value) :
    isUsername value = false := by
  apply Bool.eq_false_iff.mpr
  intro hplain
  cases henclosed : parts.enclosed with
  | false =>
      have hat : '@' ∈ value.toList := by
        rw [htext.bare value parts hparts hstripped henclosed]
        simp
      exact notMem_of_isUsername hplain (by decide) hat
  | true =>
      have hlast := htext.enclosed value parts hparts hstripped henclosed
      exact notMem_of_isUsername hplain (by decide) (List.mem_of_getLast? hlast)

/-- What email-validator writes ends with its domain, and so with no bracket. -/
theorem mem_domain_of_getLast {parts : EmailParts}
    (h : (parts.normalized text).toList.getLast? = some '>') :
    '>' ∈ (text.normalizeDomain parts.domain).toList := by
  rw [EmailParts.normalized, String.toList_append, String.toList_append, List.getLast?_append,
    List.getLast?_append] at h
  cases hdomain : (text.normalizeDomain parts.domain).toList.getLast? with
  | none =>
      have hat : ("@" : String).toList.getLast? = some '@' := rfl
      rw [hdomain, hat] at h
      cases h
  | some c =>
      rw [hdomain, Option.some_or] at h
      cases h
      exact List.mem_of_getLast? hdomain

/-- An address is what email-validator makes of it exactly if it is canonical. -/
theorem normalized_eq_iff (htext : text.Documented) {value : String} {parts : EmailParts}
    (hparts : text.emailParts value = some parts) (hstripped : strip value = value) :
    parts.normalized text = value ↔ parts.Canonical text := by
  obtain ⟨hlocal, hdomain⟩ := htext.single_at value parts hparts
  constructor
  · intro hsame
    have hbare : parts.enclosed = false := by
      by_contra henclosed
      have hlast := htext.enclosed value parts hparts hstripped ((Bool.not_eq_false _).mp henclosed)
      rw [← hsame] at hlast
      exact htext.domain_open value parts hparts (mem_domain_of_getLast hlast)
    have hvalue := htext.bare value parts hparts hstripped hbare
    have hchars : parts.localPart.toList ++ '@' :: parts.domain.toList =
        (text.nfc parts.localPart).toList ++ '@' :: (text.normalizeDomain parts.domain).toList := by
      have hchars := congrArg String.toList (hsame.trans hvalue).symm
      simpa [EmailParts.normalized] using hchars
    obtain ⟨hl, -, hd⟩ := (List.append_cons_inj_of_notMem hlocal hdomain).mp hchars
    exact ⟨hbare, (String.toList_inj.mp hl).symm, (String.toList_inj.mp hd).symm⟩
  · intro h
    rw [htext.bare value parts hparts hstripped h.bare, EmailParts.normalized, h.localPart, h.domain]

/-- Every user logs in by username, and no identifier matches two; a user logs in by the address
as it was typed exactly if it was typed canonically. -/
theorem registered_can_log_in (htext : text.Documented)
    (hreach : Transition.Reachable (Directory.step text env) (· = Directory.empty) directory)
    (hvalid : RegisterUserRequest.modelValidate text payload = some data)
    (hregister : registerUser text env data draws seen directory = (.ok user, directory'))
    (later : List DirectoryAction) {password password' : String} {byEmail byUsername : LoginRequest}
    (hemail : LoginRequest.modelValidate text payload.email password = some byEmail)
    (husername : LoginRequest.modelValidate text payload.username password' = some byUsername) :
    let db := (Transition.run (Directory.step text env) directory' later).db
    ((db.matched byEmail.identifier).map User.id = [user.id] ∧
      (db.matched byUsername.identifier).map User.id = [user.id] ∧
      ∀ identifier, (db.matched identifier).length ≤ 1) ↔
    TypedCanonically text payload.email := by
  intro db
  obtain ⟨haddress, hname, hplain⟩ := RegisterUserRequest.modelValidate_eq_some hvalid
  obtain ⟨parts, hparts, hnormalized⟩ := emailStr_eq_some haddress
  have hreach' : Transition.Reachable (Directory.step text env) (· = Directory.empty) directory' := by
    have hnext := hreach.next (.register payload draws seen)
    have hstep : directory.step text env (.register payload draws seen) = directory' := by
      simp only [Directory.step, hvalid, hregister]
    rwa [hstep] at hnext
  have hnamed : db.Named := Directory.Reachable.named (hreach'.run later)
  have hmem : (⟨user.id, data.email, data.username⟩ : Identity) ∈ db.identities := by
    apply (Directory.Reachable.identities_run hreach' later).subset
    rw [identities_of_registerUser hregister]
    exact List.mem_append_right _ (List.mem_singleton_self _)
  have hstripped := htext.stripped payload.email
  have hidentifier := LoginRequest.modelValidate_eq_some hemail
  constructor
  · rintro ⟨hmatched, -, -⟩ parts' hparts'
    obtain rfl : parts = parts' := Option.some.inj (hparts.symm.trans hparts')
    apply (normalized_eq_iff htext hparts hstripped).mp
    rcases (hnamed.matched_eq_singleton hmem _).mp hmatched with hfound | hfound
    · rw [← hnormalized, ← hidentifier]
      exact hfound
    · rw [hidentifier] at hfound
      simp only at hfound
      rw [hfound, isUsername_eq_false htext hparts hstripped] at hplain
      cases hplain
  · intro hcanonical
    refine ⟨?_, ?_, hnamed.length_matched_le⟩
    · apply (hnamed.matched_eq_singleton hmem _).mpr
      left
      rw [hidentifier]
      exact hnormalized.trans ((normalized_eq_iff htext hparts hstripped).mpr (hcanonical parts hparts))
    · apply (hnamed.matched_eq_singleton hmem _).mpr
      right
      exact hname.trans (LoginRequest.modelValidate_eq_some husername).symm

end

/-- ASCII capitals and small letters are no white space. -/
theorem isSpace_toLower (c : Char) : isSpace c.toLower = isSpace c := by
  have hshift : ∀ d : Char, 65 ≤ c.toNat → c.toNat ≤ 90 → d.toNat = c.toNat + 32 →
      isSpace d = isSpace c := by
    intro d hleast hmost hd
    rw [isSpace, isSpace, hd, decide_eq_decide]
    omega
  unfold Char.toLower
  split
  · next h =>
    have hmost : c.toNat ≤ 90 := UInt32.le_iff_toNat_le.mp h.2
    apply hshift _ (UInt32.le_iff_toNat_le.mp h.1) hmost
    show (c.val + 32).toNat = c.toNat + 32
    rw [UInt32.toNat_add]
    show (c.toNat + 32) % 2 ^ 32 = c.toNat + 32
    omega
  · rfl

/-- `str.lower` of ASCII texts. -/
def asciiLower (value : String) : String := String.ofList (value.toList.map Char.toLower)

theorem strip_asciiLower (value : String) : strip (asciiLower value) = asciiLower (strip value) := by
  have hspace : isSpace ∘ Char.toLower = isSpace := funext isSpace_toLower
  simp only [strip, asciiLower, String.toList_ofList, List.dropWhile_map, ← List.map_reverse, hspace]

def sampleEmailParts (value : String) : Option EmailParts :=
  if value = "driver@example.com" then some ⟨false, "driver", "example.com"⟩
  else if value = "driver <driver@example.com>" then some ⟨true, "driver", "example.com"⟩
  else none

def asciiText : TextEnv where
  lower := asciiLower
  sqlLower := asciiLower
  isDecimal := Char.isDigit
  nfc := id
  normalizeDomain := id
  emailParts := sampleEmailParts

theorem sampleEmailParts_cases {value : String} {parts : EmailParts}
    (h : sampleEmailParts value = some parts) :
    value = "driver@example.com" ∧ parts = ⟨false, "driver", "example.com"⟩ ∨
      value = "driver <driver@example.com>" ∧ parts = ⟨true, "driver", "example.com"⟩ := by
  rw [sampleEmailParts] at h
  split at h
  · next hvalue => exact Or.inl ⟨hvalue, (Option.some.inj h).symm⟩
  · split at h
    · next hvalue => exact Or.inr ⟨hvalue, (Option.some.inj h).symm⟩
    · cases h

theorem asciiText_documented : asciiText.Documented where
  lower_stripped value hstripped := (strip_asciiLower value).trans (congrArg asciiLower hstripped)
  bare value parts h _ hbare := by
    rcases sampleEmailParts_cases h with ⟨rfl, rfl⟩ | ⟨-, rfl⟩
    · decide
    · cases hbare
  enclosed value parts h _ henclosed := by
    rcases sampleEmailParts_cases h with ⟨-, rfl⟩ | ⟨rfl, -⟩
    · cases henclosed
    · decide
  single_at value parts h := by
    rcases sampleEmailParts_cases h with ⟨-, rfl⟩ | ⟨-, rfl⟩ <;> decide
  domain_open value parts h := by
    rcases sampleEmailParts_cases h with ⟨-, rfl⟩ | ⟨-, rfl⟩ <;> decide

def sampleRegistration (email : String) : RegistrationPayload where
  email := email
  username := " Driver_One "
  password := "correct horse battery"
  fullName := "Driver  One"
  phone := none

def sampleRegistered : RegisterUserRequest where
  email := "driver@example.com"
  username := "driver_one"
  password := "correct horse battery"
  fullName := "Driver One"
  phone := none

/-- Nobody but the driver has registered. -/
def sampleDirectory : Directory :=
  (registerUser asciiText sampleEnvironment sampleRegistered ⟨1, "salt"⟩ Directory.empty
    Directory.empty).2

theorem sampleRegistration_valid {typed : String}
    (h : typed = "Driver@Example.com " ∨ typed = "Driver <driver@example.com>") :
    RegisterUserRequest.modelValidate asciiText (sampleRegistration typed) =
      some sampleRegistered := by
  rcases h with rfl | rfl <;> decide +kernel

theorem sampleDirectory_registered :
    registerUser asciiText sampleEnvironment sampleRegistered ⟨1, "salt"⟩ Directory.empty
      Directory.empty = (.ok (newUser sampleEnvironment sampleRegistered ⟨1, "salt"⟩),
        sampleDirectory) :=
  Prod.ext (by decide +kernel) rfl

/-- An address in brackets is accepted and stored without them, and no user matches it as it was
typed. -/
theorem registered_can_log_in_counterexample :
    asciiText.Documented ∧
      RegisterUserRequest.modelValidate asciiText
        (sampleRegistration "Driver <driver@example.com>") = some sampleRegistered ∧
      ∃ (user : User) (directory : Directory) (request : LoginRequest),
        registerUser asciiText sampleEnvironment sampleRegistered ⟨1, "salt"⟩ Directory.empty
          Directory.empty = (.ok user, directory) ∧
        LoginRequest.modelValidate asciiText "Driver <driver@example.com>"
          "correct horse battery" = some request ∧
        directory.db.matched request.identifier = [] :=
  ⟨asciiText_documented, sampleRegistration_valid (Or.inr rfl), _, sampleDirectory,
    ⟨"driver <driver@example.com>", "correct horse battery"⟩, sampleDirectory_registered,
    by decide +kernel, by decide +kernel⟩

theorem typedCanonically_sample : TypedCanonically asciiText "Driver@Example.com " := by
  intro parts hparts
  have hparts : sampleEmailParts (normalizeIdentifier asciiText "Driver@Example.com ") = some parts :=
    hparts
  rcases sampleEmailParts_cases hparts with ⟨-, rfl⟩ | ⟨hvalue, -⟩
  · exact ⟨rfl, rfl, rfl⟩
  · exact absurd hvalue (by decide +kernel)

/-- The address is typed as it is stored, but for upper case and a space. -/
theorem registered_can_log_in_sample :
    (sampleDirectory.db.matched "driver@example.com").map User.id = [1] ∧
      (sampleDirectory.db.matched "driver_one").map User.id = [1] ∧
      ∀ identifier, (sampleDirectory.db.matched identifier).length ≤ 1 := by
  have hemail : LoginRequest.modelValidate asciiText "Driver@Example.com " "correct horse battery" =
      some ⟨"driver@example.com", "correct horse battery"⟩ := by decide +kernel
  have husername : LoginRequest.modelValidate asciiText " Driver_One " "correct horse battery" =
      some ⟨"driver_one", "correct horse battery"⟩ := by decide +kernel
  exact (registered_can_log_in asciiText_documented (Transition.Reachable.initial rfl)
    (sampleRegistration_valid (Or.inl rfl)) sampleDirectory_registered [] hemail husername).mpr
    typedCanonically_sample

end ChargeMate.Auth
