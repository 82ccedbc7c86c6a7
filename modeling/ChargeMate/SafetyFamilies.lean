import ChargeMate.FoundationRun
import ChargeMate.RefineAccounts

/-! Refresh-token families, over every run of the serialised transactions from a database without
sessions. The invariant is the lineage of every family and the unique digests; what one
transaction preserves is the case analysis of the session moves. -/

namespace ChargeMate.Auth

open Relational

/-- The sessions of a family in a linear `replaced_by_id` chain of one user, all revoked but
perhaps the last. -/
structure FamilyChain (db : AuthDatabase) (f : Uuid) (chain : List AuthSession) : Prop where
  members : ∀ s, s ∈ chain ↔ s ∈ db.authSessions ∧ s.familyId = f
  distinct : chain.Nodup
  oneUser : ∀ s ∈ chain, ∀ s' ∈ chain, s.userId = s'.userId
  linked : chain.IsChain fun s s' => s.replacedById = some s'.id
  ends : ∀ s ∈ chain.getLast?, s.replacedById = none
  revoked : ∀ s ∈ chain.dropLast, s.isRevoked = true

/-- A family with sessions, none of them unrevoked. -/
def FamilyRevoked (db : AuthDatabase) (f : Uuid) : Prop :=
  (∃ s ∈ db.authSessions, s.familyId = f) ∧
    ∀ s ∈ db.authSessions, s.familyId = f → s.isRevoked = true

theorem familyRevoked_iff {db : AuthDatabase} {f : Uuid} :
    FamilyRevoked db f ↔ Spent db.authSessions f := by
  constructor
  · rintro ⟨⟨s, hs, hf⟩, hrevoked⟩
    refine ⟨⟨s, mem_family.mpr ⟨hs, hf⟩⟩, ?_⟩
    intro s hs
    exact hrevoked s (mem_family.mp hs).1 (mem_family.mp hs).2
  · rintro ⟨⟨s, hs⟩, hrevoked⟩
    refine ⟨⟨s, mem_family.mp hs⟩, ?_⟩
    intro s hs hf
    exact hrevoked s (mem_family.mpr ⟨hs, hf⟩)

/-- Every family is a lineage and no digest is stored twice. -/
structure FamiliesSound (db : AuthDatabase) : Prop where
  lineage : ∀ f, Lineage db.authSessions f
  hashes : DistinctHashes db.authSessions

namespace FamiliesSound

variable {env : Environment} {db : AuthDatabase}

theorem of_empty (h : db.authSessions = ∅) : FamiliesSound db where
  lineage f := Lineage.empty (by rw [h]; rfl)
  hashes := by
    rw [h]
    intro s hs
    exact absurd hs (Table.notMem_empty s)

theorem move {db' : AuthDatabase} (h : FamiliesSound db)
    (hmove : SessionMove db.authSessions db'.authSessions) : FamiliesSound db' where
  lineage f := hmove.lineage f (h.lineage f)
  hashes := hmove.distinctHashes h.hashes

theorem step {a : AuthAction} (h : FamiliesSound db) (hfresh : FreshFamily db a) :
    FamiliesSound (db.step env a) := by
  rcases AuthDatabase.step_move env hfresh with hsame | hmove
  · constructor
    · rw [hsame]
      exact h.lineage
    · rw [hsame]
      exact h.hashes
  · exact h.move hmove

theorem run (h : FamiliesSound db) {actions : List AuthAction}
    (hfresh : Transition.Along (AuthDatabase.step env) FreshFamily db actions) :
    FamiliesSound (Transition.run (AuthDatabase.step env) db actions) :=
  Transition.Along.kept (fun _ _ hs ha => hs.step ha) h hfresh

theorem familyChain (h : FamiliesSound db) (f : Uuid) :
    FamilyChain db f (family db.authSessions f) where
  members _ := mem_family
  distinct := List.Nodup.of_map key Table.nodup_keys_group
  oneUser := (h.lineage f).oneUser
  linked := (h.lineage f).line.linked
  ends := (h.lineage f).line.ends
  revoked := (h.lineage f).line.retired

/-- Presenting the token of a revoked session fails and revokes its family. -/
theorem rotate_reused (h : FamiliesSound db) {session : AuthSession} {raw : String}
    (hmem : session ∈ db.authSessions) (hhash : session.tokenHash = hashRefreshToken env raw)
    (hrevoked : session.isRevoked = true) (draws : Draws) (now : Timestamp) :
    rotateAuthSession env raw draws now db =
      (.error refreshFailed, revokeTokenFamily session.familyId now db) := by
  rw [rotateAuthSession, AuthDatabase.sessionOf_eq_some h.hashes hmem hhash]
  simp only [hrevoked, if_true]

end FamiliesSound

theorem revokeTokenFamily_revokes {db : AuthDatabase} {f : Uuid} {now : Timestamp}
    {s : AuthSession} (hs : s ∈ (revokeTokenFamily f now db).authSessions) (hf : s.familyId = f) :
    s.isRevoked = true := by
  obtain ⟨r, hr, rfl⟩ := mem_revoked.mp hs
  rw [AuthSession.familyId_revokeIf] at hf
  rw [AuthSession.isRevoked_revokeIf, decide_eq_true hf, Bool.or_true]

theorem ids_revokeWhere (p : AuthSession → Bool) (now : Timestamp) (db : AuthDatabase) :
    (db.revokeWhere p now).authSessions.rows.map AuthSession.id =
      db.authSessions.rows.map AuthSession.id := by
  have hrows : (db.revokeWhere p now).authSessions.rows =
      db.authSessions.rows.map (AuthSession.revokeIf p now) := rfl
  rw [hrows, List.map_map]
  apply List.map_congr_left
  intro s _
  exact AuthSession.id_revokeIf p now s

theorem FamilyRevoked.run {env : Environment} {db : AuthDatabase} {f : Uuid}
    (h : FamilyRevoked db f) {actions : List AuthAction}
    (hfresh : Transition.Along (AuthDatabase.step env) FreshFamily db actions) :
    FamilyRevoked (Transition.run (AuthDatabase.step env) db actions) f := by
  refine Transition.Along.kept (P := fun db => FamilyRevoked db f) ?_ h hfresh
  intro db a hdb ha
  rw [familyRevoked_iff] at hdb ⊢
  rcases AuthDatabase.step_move env ha with hsame | hmove
  · rwa [hsame]
  · exact hmove.spent f hdb

/-- In every run with fresh family ids the sessions of a family form one chain of one user with at
most its last one unrevoked; the token of a revoked session yields an error, no session and the
committed revocation of its family; and a family whose sessions are all revoked stays so. -/
theorem refresh_token_families (env : Environment) {db₀ : AuthDatabase}
    (hempty : db₀.authSessions = ∅) {actions : List AuthAction}
    (hfresh : Transition.Along (AuthDatabase.step env) FreshFamily db₀ actions) :
    let db := Transition.run (AuthDatabase.step env) db₀ actions
    (∀ f, ∃ chain, FamilyChain db f chain) ∧
    (∀ raw draws now, ∀ session ∈ db.authSessions,
      session.tokenHash = hashRefreshToken env raw → session.isRevoked = true →
      let result := rotateAuthSession env raw draws now db
      result.1 = .error refreshFailed ∧
      result.2.authSessions.rows.map AuthSession.id = db.authSessions.rows.map AuthSession.id ∧
      ∀ s ∈ result.2.authSessions, s.familyId = session.familyId → s.isRevoked = true) ∧
    ∀ f more, Transition.Along (AuthDatabase.step env) FreshFamily db more →
      FamilyRevoked db f → FamilyRevoked (Transition.run (AuthDatabase.step env) db more) f := by
  have hsound := (FamiliesSound.of_empty hempty).run hfresh
  refine ⟨fun f => ⟨_, hsound.familyChain f⟩, ?_, fun f more hmore hf => hf.run hmore⟩
  intro raw draws now session hmem hhash hrevoked
  have hreused := hsound.rotate_reused hmem hhash hrevoked draws now
  simp only [hreused]
  exact ⟨trivial, ids_revokeWhere _ now _, fun s hs hf => revokeTokenFamily_revokes hs hf⟩

/-! ### A sample run -/

/-- Digests are the texts themselves and a signature is empty. -/
def sampleEnvironment : Environment where
  checkPasswordHash hash password := hash == password
  generatePasswordHash _ password := password
  sha256Hex text := text
  jwtEncode claims := ⟨claims, ""⟩
  jwtDecode token now :=
    if token.payload.iss = "chargemate-api" ∧ token.payload.aud = "chargemate-client" ∧
        token.payload.iat * 1000000 ≤ now ∧ now < token.payload.exp * 1000000 then
      some token.payload
    else none
  loginMaxFailedAttempts := 5
  loginLockoutMinutes := 15
  jwtAccessTokenMinutes := 15
  jwtRefreshTokenDays := 30
  jwtIssuer := "chargemate-api"
  jwtAudience := "chargemate-client"

def sampleUser : User where
  id := 1
  email := "driver@example.com"
  username := "driver_one"
  passwordHash := "a-long-test-password"
  role := .user
  isActive := true
  failedLoginAttempts := 0
  lockedUntil := none

def sampleAccounts : AuthDatabase where
  users := ⟨[sampleUser], by decide⟩
  authSessions := ∅

def sampleDraws (n : Nat) (text : String) : Draws where
  sessionId := BitVec.ofNat 128 n
  familyId := BitVec.ofNat 128 (1000 + n)
  tokenId := BitVec.ofNat 128 (2000 + n)
  tokenUrlsafe := text
  createdAt := 0

/-- A login whose token is rotated and then presented again. -/
def reuseActions : List AuthAction :=
  [.create 1 (sampleDraws 10 "first") 0 0, .rotate "first" (sampleDraws 11 "second") 60000000,
    .rotate "first" (sampleDraws 12 "third") 120000000]

/-- The reused token has cost the family its live session. -/
theorem refresh_token_families_sample :
    let db := Transition.run (AuthDatabase.step sampleEnvironment) sampleAccounts reuseActions
    (∀ f, ∃ chain, FamilyChain db f chain) ∧ FamilyRevoked db 1010 ∧
      (rotateAuthSession sampleEnvironment "second" (sampleDraws 13 "fourth") 180000000 db).1 =
        .error refreshFailed := by
  have hfamilies := @refresh_token_families sampleEnvironment sampleAccounts rfl reuseActions
    (by decide +kernel)
  refine ⟨hfamilies.1, ?_, ?_⟩
  · constructor <;> decide +kernel
  · exact (hfamilies.2.1 "second" (sampleDraws 13 "fourth") 180000000 _
      (List.mem_of_getElem? (i := 1) rfl) (by decide +kernel) (by decide +kernel)).1

end ChargeMate.Auth
