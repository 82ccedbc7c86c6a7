import ChargeMate.FoundationChains
import ChargeMate.ModelAccounts

/-! The stored login sessions as generations of refresh tokens. A transaction revokes rows, issues
the first generation of a new family, or replaces a live generation by the next one of its family.
These three moves keep every family one line of succession of one user, and a family without a
live generation stays without one. -/

namespace ChargeMate.Auth

open Relational

/-- What a transaction can do to the stored sessions. -/
inductive SessionMove : Table AuthSession → Table AuthSession → Prop
  | revoke (t : Table AuthSession) (p : AuthSession → Bool) (now : Timestamp) :
      SessionMove t (t.updateWhere (fun s => p s && !s.isRevoked) (AuthSession.revoke now)
        fun _ => rfl)
  | issue {t t' : Table AuthSession} {session : AuthSession} (hinsert : t.insert session = some t')
      (hfresh : ∀ s ∈ t, s.familyId ≠ session.familyId) (hends : session.replacedById = none)
      (hhash : ∀ s ∈ t, s.tokenHash ≠ session.tokenHash) : SessionMove t t'
  | replace {t t' : Table AuthSession} {session replacement : AuthSession} (now : Timestamp)
      (hmem : session ∈ t) (hlive : session.isRevoked = false)
      (hinsert : t.insert replacement = some t') (huser : replacement.userId = session.userId)
      (hfamily : replacement.familyId = session.familyId)
      (hends : replacement.replacedById = none)
      (hhash : ∀ s ∈ t, s.tokenHash ≠ replacement.tokenHash) :
      SessionMove t (t'.set (session.replaceBy replacement now))

@[simp] theorem AuthSession.isRevoked_revoke (s : AuthSession) (now : Timestamp) :
    (s.revoke now).isRevoked = true := rfl

@[simp] theorem AuthSession.isRevoked_replaceBy (s r : AuthSession) (now : Timestamp) :
    (s.replaceBy r now).isRevoked = true := rfl

/-- What a revocation of some rows makes of one row. -/
def AuthSession.revokeIf (p : AuthSession → Bool) (now : Timestamp) (s : AuthSession) :
    AuthSession :=
  if p s && !s.isRevoked then s.revoke now else s

section revokeIf

variable (p : AuthSession → Bool) (now : Timestamp) (s : AuthSession)

@[simp] theorem AuthSession.id_revokeIf : (s.revokeIf p now).id = s.id := by
  unfold AuthSession.revokeIf
  split <;> rfl

@[simp] theorem AuthSession.userId_revokeIf : (s.revokeIf p now).userId = s.userId := by
  unfold AuthSession.revokeIf
  split <;> rfl

@[simp] theorem AuthSession.familyId_revokeIf : (s.revokeIf p now).familyId = s.familyId := by
  unfold AuthSession.revokeIf
  split <;> rfl

@[simp] theorem AuthSession.tokenHash_revokeIf : (s.revokeIf p now).tokenHash = s.tokenHash := by
  unfold AuthSession.revokeIf
  split <;> rfl

@[simp] theorem AuthSession.replacedById_revokeIf :
    (s.revokeIf p now).replacedById = s.replacedById := by
  unfold AuthSession.revokeIf
  split <;> rfl

@[simp] theorem AuthSession.isRevoked_revokeIf :
    (s.revokeIf p now).isRevoked = (s.isRevoked || p s) := by
  unfold AuthSession.revokeIf
  split <;> simp_all

end revokeIf

/-- A row after a revocation is a row before it, perhaps revoked. -/
theorem mem_revoked {t : Table AuthSession} {p : AuthSession → Bool} {now : Timestamp}
    {s : AuthSession} :
    s ∈ t.updateWhere (fun s => p s && !s.isRevoked) (AuthSession.revoke now) (fun _ => rfl) ↔
      ∃ r ∈ t, r.revokeIf p now = s :=
  List.mem_map

/-- The generations of one family, the oldest first. -/
def family (t : Table AuthSession) (f : Uuid) : List AuthSession :=
  t.group fun s => s.familyId = f

@[simp] theorem mem_family {t : Table AuthSession} {f : Uuid} {s : AuthSession} :
    s ∈ family t f ↔ s ∈ t ∧ s.familyId = f := by
  simp [family]

theorem family_revoke (t : Table AuthSession) (p : AuthSession → Bool) (now : Timestamp)
    (f : Uuid) :
    family (t.updateWhere (fun s => p s && !s.isRevoked) (AuthSession.revoke now) fun _ => rfl) f =
      (family t f).map (AuthSession.revokeIf p now) := by
  apply Table.group_of_rows_map rfl
  intro s _
  simp only [AuthSession.familyId_revokeIf]

theorem family_insert {t t' : Table AuthSession} {session : AuthSession}
    (h : t.insert session = some t') (f : Uuid) :
    family t' f = if session.familyId = f then family t f ++ [session] else family t f := by
  simpa [family] using Table.group_insert (p := fun s => decide (s.familyId = f)) h

/-- A family is one line of succession, of one user. -/
structure Lineage (t : Table AuthSession) (f : Uuid) : Prop where
  line : Succession AuthSession.replacedById (fun s => s.isRevoked = true) (family t f)
  oneUser : ∀ s ∈ family t f, ∀ s' ∈ family t f, s.userId = s'.userId

/-- A family that was begun and has no live generation. -/
structure Spent (t : Table AuthSession) (f : Uuid) : Prop where
  begun : ∃ s, s ∈ family t f
  revoked : ∀ s ∈ family t f, s.isRevoked = true

/-- The unique constraint on `token_hash`. -/
def DistinctHashes (t : Table AuthSession) : Prop :=
  ∀ s ∈ t, ∀ s' ∈ t, s.tokenHash = s'.tokenHash → s.id = s'.id

theorem Lineage.empty {t : Table AuthSession} {f : Uuid} (h : family t f = []) : Lineage t f where
  line := h ▸ Succession.nil
  oneUser := by simp [h]

namespace SessionMove

variable {t t' : Table AuthSession}

/-- A replacement leaves the other families alone. -/
theorem family_replace_other {session replacement : AuthSession} {f : Uuid}
    (hmem : session ∈ t) (hinsert : t.insert replacement = some t')
    (hfamily : replacement.familyId = session.familyId) (hf : session.familyId ≠ f)
    (now : Timestamp) :
    family (t'.set (session.replaceBy replacement now)) f = family t f := by
  have hfind : t'.find (key (session.replaceBy replacement now)) = some session :=
    Table.find_insert_of_mem hinsert hmem
  rw [family, Table.group_set_of_outside hfind (decide_eq_false hf)
    (decide_eq_false hf), ← family, family_insert hinsert, if_neg (hfamily ▸ hf)]

/-- The rows after a replacement. -/
theorem mem_replace {session replacement s : AuthSession} {now : Timestamp}
    (hmem : session ∈ t) (hinsert : t.insert replacement = some t')
    (hs : s ∈ t'.set (session.replaceBy replacement now)) :
    s = session.replaceBy replacement now ∨ s = replacement ∨ s ∈ t := by
  have hfind : t'.find (key (session.replaceBy replacement now)) = some session :=
    Table.find_insert_of_mem hinsert hmem
  rcases (Table.mem_set hfind).mp hs with hs | ⟨hs, _⟩
  · exact Or.inl hs
  · exact Or.inr ((Table.mem_insert hinsert).mp hs).symm

theorem lineage (h : SessionMove t t') (f : Uuid) (hl : Lineage t f) : Lineage t' f := by
  cases h with
  | revoke p now =>
      have hfamily := family_revoke t p now f
      constructor
      · rw [hfamily]
        exact hl.line.map (AuthSession.id_revokeIf p now) (AuthSession.replacedById_revokeIf p now)
          (fun s hs => by simp [hs])
      · rw [hfamily]
        intro s hs s' hs'
        obtain ⟨r, hr, rfl⟩ := List.mem_map.mp hs
        obtain ⟨r', hr', rfl⟩ := List.mem_map.mp hs'
        rw [AuthSession.userId_revokeIf, AuthSession.userId_revokeIf]
        exact hl.oneUser r hr r' hr'
  | @issue _ session hinsert hfresh hends =>
      by_cases hf : session.familyId = f
      · have hold : family t f = [] := by
          rw [List.eq_nil_iff_forall_not_mem]
          intro s hs
          exact hfresh s (mem_family.mp hs).1 ((mem_family.mp hs).2.trans hf.symm)
        have hnew : family t' f = [session] := by
          rw [family_insert hinsert, if_pos hf, hold, List.nil_append]
        constructor
        · rw [hnew]
          exact Succession.singleton hends
        · simp [hnew]
      · have hsame : family t' f = family t f := by
          rw [family_insert hinsert, if_neg hf]
        exact ⟨hsame ▸ hl.line, hsame ▸ hl.oneUser⟩
  | @replace t₁ session replacement now hmem hlive hinsert huser hfamily hends =>
      by_cases hf : session.familyId = f
      · constructor
        · exact hl.line.supersede (mem_family.mpr ⟨hmem, hf⟩) (by simp [hlive]) hinsert
            (decide_eq_true (hfamily.trans hf)) rfl (decide_eq_true hf) rfl
            (AuthSession.isRevoked_replaceBy _ _ _) hends
        · have huserOf : ∀ s ∈ family (t₁.set (session.replaceBy replacement now)) f,
              s.userId = session.userId := by
            intro s hs
            rcases mem_replace hmem hinsert (mem_family.mp hs).1 with rfl | rfl | hold
            · rfl
            · exact huser
            · exact hl.oneUser s (mem_family.mpr ⟨hold, (mem_family.mp hs).2⟩) session
                (mem_family.mpr ⟨hmem, hf⟩)
          intro s hs s' hs'
          rw [huserOf s hs, huserOf s' hs']
      · have hsame := family_replace_other hmem hinsert hfamily hf now
        exact ⟨hsame ▸ hl.line, hsame ▸ hl.oneUser⟩

/-- A spent family stays spent. -/
theorem spent (h : SessionMove t t') (f : Uuid) (hs : Spent t f) : Spent t' f := by
  cases h with
  | revoke p now =>
      have hfamily := family_revoke t p now f
      constructor
      · obtain ⟨s, hmem⟩ := hs.begun
        exact ⟨s.revokeIf p now, hfamily ▸ List.mem_map_of_mem hmem⟩
      · rw [hfamily]
        intro s hmem
        obtain ⟨r, hr, rfl⟩ := List.mem_map.mp hmem
        simp [hs.revoked r hr]
  | @issue _ session hinsert hfresh =>
      have hf : session.familyId ≠ f := by
        intro hf
        obtain ⟨s, hmem⟩ := hs.begun
        exact hfresh s (mem_family.mp hmem).1 ((mem_family.mp hmem).2.trans hf.symm)
      have hsame : family t' f = family t f := by
        rw [family_insert hinsert, if_neg hf]
      exact ⟨hsame ▸ hs.begun, hsame ▸ hs.revoked⟩
  | @replace t₁ session replacement now hmem hlive hinsert huser hfamily =>
      have hf : session.familyId ≠ f := by
        intro hf
        have hrevoked := hs.revoked session (mem_family.mpr ⟨hmem, hf⟩)
        rw [hlive] at hrevoked
        cases hrevoked
      have hsame := family_replace_other hmem hinsert hfamily hf now
      exact ⟨hsame ▸ hs.begun, hsame ▸ hs.revoked⟩

theorem distinctHashes (h : SessionMove t t') (hd : DistinctHashes t) : DistinctHashes t' := by
  have hinserted : ∀ {t' : Table AuthSession} {new : AuthSession}, t.insert new = some t' →
      (∀ s ∈ t, s.tokenHash ≠ new.tokenHash) → DistinctHashes t' := by
    intro t' new hinsert hnew s hs s' hs' heq
    rcases (Table.mem_insert hinsert).mp hs with hs | rfl <;>
      rcases (Table.mem_insert hinsert).mp hs' with hs' | rfl
    · exact hd s hs s' hs' heq
    · exact absurd heq (hnew s hs)
    · exact absurd heq.symm (hnew s' hs')
    · rfl
  cases h with
  | revoke p now =>
      intro s hs s' hs' heq
      obtain ⟨r, hr, rfl⟩ := mem_revoked.mp hs
      obtain ⟨r', hr', rfl⟩ := mem_revoked.mp hs'
      rw [AuthSession.tokenHash_revokeIf, AuthSession.tokenHash_revokeIf] at heq
      rw [AuthSession.id_revokeIf, AuthSession.id_revokeIf]
      exact hd r hr r' hr' heq
  | issue hinsert _ _ hhash => exact hinserted hinsert hhash
  | @replace t₁ session replacement now hmem _ hinsert _ _ _ hhash =>
      have hold : ∀ s ∈ t₁.set (session.replaceBy replacement now),
          ∃ r ∈ t₁, r.tokenHash = s.tokenHash ∧ r.id = s.id := by
        intro s hs
        rcases mem_replace hmem hinsert hs with rfl | rfl | hs
        · exact ⟨session, (Table.mem_insert hinsert).mpr (Or.inl hmem), rfl, rfl⟩
        · exact ⟨s, (Table.mem_insert hinsert).mpr (Or.inr rfl), rfl, rfl⟩
        · exact ⟨s, (Table.mem_insert hinsert).mpr (Or.inl hs), rfl, rfl⟩
      intro s hs s' hs' heq
      obtain ⟨r, hr, hhash₁, hid⟩ := hold s hs
      obtain ⟨r', hr', hhash₂, hid'⟩ := hold s' hs'
      rw [← hid, ← hid']
      exact hinserted hinsert hhash r hr r' hr' (by rw [hhash₁, hhash₂, heq])

end SessionMove

end ChargeMate.Auth
