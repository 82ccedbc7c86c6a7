import ChargeMate.RefineRoutes
import ChargeMate.SafetyFamilies

/-! Tokens held outside the server. A database that only lost live sessions accepts no token that
it did not accept before. Tokens of one family stay so through revocations and rotations, and the
session that an accepted access token of the family names is the only live one of the family. -/

namespace ChargeMate.Auth

open Relational

/-! ### Databases that accept less -/

/-- The second database has no live session and no active user that the first does not have, and
its sessions are those of the first. -/
structure Narrows (db db' : AuthDatabase) : Prop where
  sound : FamiliesSound db → FamiliesSound db'
  live : ∀ session ∈ db'.authSessions, session.isRevoked = false → session ∈ db.authSessions
  active : ∀ id, (db'.users.find id).any User.isActive = true →
    (db.users.find id).any User.isActive = true
  kept : ∀ s ∈ db.authSessions, ∃ s' ∈ db'.authSessions, s'.id = s.id ∧ s'.familyId = s.familyId
  stored : ∀ s' ∈ db'.authSessions, ∃ s ∈ db.authSessions,
    s.tokenHash = s'.tokenHash ∧ s.familyId = s'.familyId

namespace Narrows

variable {env : Environment} {db db' : AuthDatabase}

theorem of_sessions (hsessions : db'.authSessions = db.authSessions)
    (husers : ∀ id, (db'.users.find id).any User.isActive = (db.users.find id).any User.isActive) :
    Narrows db db' where
  sound h := ⟨hsessions ▸ h.lineage, hsessions ▸ h.hashes⟩
  live _ hmem _ := hsessions ▸ hmem
  active id h := husers id ▸ h
  kept s hs := ⟨s, hsessions ▸ hs, rfl, rfl⟩
  stored s hs := ⟨s, hsessions ▸ hs, rfl, rfl⟩

theorem refl (db : AuthDatabase) : Narrows db db := of_sessions rfl fun _ => rfl

theorem revokeWhere (db : AuthDatabase) (p : AuthSession → Bool) (now : Timestamp) :
    Narrows db (db.revokeWhere p now) where
  sound h := h.move (AuthDatabase.move_revokeWhere p now db)
  live _ hmem hlive := (AuthDatabase.live_of_revokeWhere hmem hlive).1
  active _ h := h
  kept s hs := ⟨s.revokeIf p now, mem_revoked.mpr ⟨s, hs, rfl⟩, by simp, by simp⟩
  stored s' hs' := by
    obtain ⟨s, hs, rfl⟩ := mem_revoked.mp hs'
    exact ⟨s, hs, by simp, by simp⟩

/-- What is accepted later, of a narrower database, was accepted before. -/
theorem accepts (h : Narrows db db') (hsound : FamiliesSound db) {now now' : Timestamp}
    (hnow : now ≤ now') {raw : String} (haccepts : db'.accepts env now' raw = true) :
    db.accepts env now raw = true := by
  obtain ⟨session, user, hsession, hlive, hcurrent, huser, hactive⟩ :=
    AuthDatabase.accepts_eq_true.mp haccepts
  have hmem := h.live session (AuthDatabase.mem_of_sessionOf hsession) hlive
  have hold : db.sessionOf env raw = some session :=
    AuthDatabase.sessionOf_eq_some hsound.hashes hmem
      (AuthDatabase.tokenHash_of_sessionOf hsession)
  have hany : (db.users.find session.userId).any User.isActive = true := by
    apply h.active
    rw [huser, Option.any_some, hactive]
  rw [Option.any_eq_true] at hany
  obtain ⟨olduser, holduser, holdactive⟩ := hany
  exact AuthDatabase.accepts_eq_true.mpr
    ⟨session, olduser, hold, hlive, Int.lt_of_le_of_lt hnow hcurrent, holduser, holdactive⟩

end Narrows

/-! ### One family -/

/-- The refresh tokens are of stored sessions of one family or of none, and the access tokens name
stored sessions of it. -/
structure OneFamily (env : Environment) (db : AuthDatabase) (f : Uuid) (tokens : List String)
    (bearers : List Jwt) : Prop where
  tokens : ∀ raw ∈ tokens, ∀ session ∈ db.authSessions,
    session.tokenHash = hashRefreshToken env raw → session.familyId = f
  bearers : ∀ token ∈ bearers, ∃ claims, token = env.jwtEncode claims ∧
    ∃ session ∈ db.authSessions, session.id = claims.sid ∧ session.familyId = f

namespace OneFamily

variable {env : Environment} {db db' : AuthDatabase} {f : Uuid} {tokens tokens' : List String}
  {bearers bearers' : List Jwt} {now : Timestamp}

theorem narrow (h : OneFamily env db f tokens bearers) (hdb : Narrows db db')
    (htokens : tokens' ⊆ tokens) (hbearers : bearers' ⊆ bearers) :
    OneFamily env db' f tokens' bearers' where
  tokens raw hraw s' hs' hhash := by
    obtain ⟨s, hs, hsame, hfamily⟩ := hdb.stored s' hs'
    rw [← hfamily]
    exact h.tokens raw (htokens hraw) s hs (hsame.trans hhash)
  bearers token htoken := by
    obtain ⟨claims, hclaims, s, hs, hid, hf⟩ := h.bearers token (hbearers htoken)
    obtain ⟨s', hs', hid', hf'⟩ := hdb.kept s hs
    exact ⟨claims, hclaims, s', hs', hid'.trans hid, hf'.trans hf⟩

/-- A rotation adds a session of the family and hands out its tokens. -/
theorem rotate (h : OneFamily env db f tokens bearers) {session replacement : AuthSession}
    {user : User} {draws : Draws} (hmem : session ∈ db.authSessions) (hf : session.familyId = f)
    (hopen : Opened db draws session.userId session.familyId
      (issueRefreshToken env draws.tokenUrlsafe now) replacement db')
    (htokens : tokens' ⊆ draws.tokenUrlsafe :: tokens)
    (hbearers : bearers' ⊆
      (issueAccessToken env user replacement.id draws.tokenId now).value :: bearers) :
    OneFamily env
      { db' with authSessions := db'.authSessions.set (session.replaceBy replacement now) }
      f tokens' bearers' := by
  have hfind := hopen.find_replaced hmem now
  have hnew := hopen.mem_replaced hmem now
  have hnewFamily : replacement.familyId = f := hopen.familyId_eq.trans hf
  constructor
  · intro raw hraw s hs hhash
    rcases SessionMove.mem_replace hmem hopen.inserted hs with rfl | rfl | hold
    · exact hf
    · exact hnewFamily
    · rcases List.mem_cons.mp (htokens hraw) with rfl | hcirculating
      · exact absurd (hhash.trans hopen.tokenHash_eq.symm) (hopen.newHash s hold)
      · exact h.tokens raw hcirculating s hold hhash
  · intro token htoken
    rcases List.mem_cons.mp (hbearers htoken) with rfl | hborne
    · exact ⟨_, rfl, replacement, hnew, rfl, hnewFamily⟩
    obtain ⟨claims, hclaims, s, hs, hid, hsf⟩ := h.bearers token hborne
    refine ⟨claims, hclaims, ?_⟩
    by_cases hsame : s.id = session.id
    · exact ⟨session.replaceBy replacement now, (Table.mem_set hfind).mpr (Or.inl rfl),
        hsame.symm.trans hid, hf⟩
    · exact ⟨s, (Table.mem_set hfind).mpr
        (Or.inr ⟨(Table.mem_insert hopen.inserted).mpr (Or.inl hs), hsame⟩), hid, hsf⟩

/-- A login hands out the tokens of a family of its own. -/
theorem login {userId : Uuid} {user : User} {session : AuthSession} {draws : Draws}
    (hopen : Opened db draws userId draws.familyId
      (issueRefreshToken env draws.tokenUrlsafe now) session db') :
    OneFamily env db' draws.familyId [draws.tokenUrlsafe]
      [(issueAccessToken env user session.id draws.tokenId now).value] where
  tokens raw hraw s hs hhash := by
    rw [List.mem_singleton] at hraw
    rcases (Table.mem_insert hopen.inserted).mp hs with hold | rfl
    · rw [hraw] at hhash
      exact absurd (hhash.trans hopen.tokenHash_eq.symm) (hopen.newHash s hold)
    · exact hopen.familyId_eq
  bearers token htoken := by
    rw [List.mem_singleton] at htoken
    exact ⟨_, htoken, session, hopen.mem, rfl, hopen.familyId_eq⟩

/-- Revoking the session that an accepted access token of the family names leaves no refresh token
of the family accepted: the session was the live one. -/
theorem revoked (h : OneFamily env db f tokens bearers) (hsound : FamiliesSound db)
    (hjwt : env.SoundJwt) {jwt : Jwt} (hjwtBorne : jwt ∈ bearers) {user : User}
    {claims : AccessClaims} {session : AuthSession}
    (hauthorized : Authorized env jwt now db user claims session) {p : AuthSession → Bool}
    (hp : p session = true) {raw : String} (hraw : raw ∈ tokens) :
    (db.revokeWhere p now).accepts env now raw = false := by
  rw [Bool.eq_false_iff]
  intro haccepts
  obtain ⟨live, user', hlive, hrevoked, -, -, -⟩ := AuthDatabase.accepts_eq_true.mp haccepts
  obtain ⟨hmem, hother⟩ :=
    AuthDatabase.live_of_revokeWhere (AuthDatabase.mem_of_sessionOf hlive) hrevoked
  have hlivef : live.familyId = f :=
    h.tokens raw hraw live hmem (AuthDatabase.tokenHash_of_sessionOf hlive)
  obtain ⟨claims', rfl, named, hnamed, hid, hnamedf⟩ := h.bearers jwt hjwtBorne
  have hclaims : claims = claims' := hjwt.eq_of_decode hauthorized.decoded
  have hsession : session = named :=
    Table.eq_of_key_eq hauthorized.mem hnamed
      (hauthorized.id_eq.trans ((congrArg AccessClaims.sid hclaims).trans hid.symm))
  have hsame : live = session := by
    apply (hsound.lineage f).line.eq_of_live
    · exact mem_family.mpr ⟨hmem, hlivef⟩
    · exact mem_family.mpr ⟨hauthorized.mem, hsession ▸ hnamedf⟩
    · simp [hrevoked]
    · simp [hauthorized.live]
  rw [hsame, hp] at hother
  cases hother

end OneFamily

end ChargeMate.Auth
