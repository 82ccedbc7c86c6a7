import ChargeMate.FoundationTable
import Mathlib.Data.List.Pairwise

/-! Optimistic concurrency: rows that carry a version, and patches that expect one. Patches that are
only ever applied to the row that has the version they expect form a history without gaps, in which
no two patches expect the same version. -/

namespace Relational

/-- Rows with a version, and patches that raise it by one and keep the key. -/
structure Versioning (R P : Type) {K : Type} [Keyed R K] where
  version : R → Nat
  expects : P → Nat
  patch : R → P → R
  key_patch : ∀ r p, key (patch r p) = key r
  version_patch : ∀ r p, version (patch r p) = version r + 1

namespace Versioning

variable {R P K : Type} [Keyed R K] (V : Versioning R P)

/-- The patches lead from one row to the other, each applied to the version it expects. -/
structure History (r₀ : R) (patches : List P) (r : R) : Prop where
  row : r = patches.foldl V.patch r₀
  versions : patches.map V.expects = List.range' (V.version r₀) patches.length

variable {V} {r₀ r : R} {p : P} {patches : List P}

theorem History.nil (r : R) : V.History r [] r := ⟨rfl, rfl⟩

theorem version_foldl (V : Versioning R P) (patches : List P) (r : R) :
    V.version (patches.foldl V.patch r) = V.version r + patches.length := by
  induction patches generalizing r with
  | nil => rfl
  | cons p patches ih =>
      rw [List.foldl_cons, ih, V.version_patch, List.length_cons]
      omega

theorem History.version_eq (h : V.History r₀ patches r) :
    V.version r = V.version r₀ + patches.length := by
  rw [h.row, version_foldl]

theorem History.snoc (h : V.History r₀ patches r) (hexpects : V.expects p = V.version r) :
    V.History r₀ (patches ++ [p]) (V.patch r p) where
  row := by
    rw [List.foldl_append, ← h.row]
    rfl
  versions := by
    rw [List.map_append, h.versions, List.length_append, List.range'_append_1.symm, List.map_singleton,
      hexpects, h.version_eq]
    rfl

theorem History.nodup (h : V.History r₀ patches r) : (patches.map V.expects).Nodup := by
  rw [h.versions]
  exact List.nodup_range'

variable [DecidableEq K] {t₀ t : Table R} {log log' : K → List P}

variable (V) in
/-- The rows of a table are those of an earlier one, each as its patches have made it. -/
structure Tracks (t₀ t : Table R) (log : K → List P) : Prop where
  kept : ∀ k r₀, t₀.find k = some r₀ → ∃ r, t.find k = some r ∧ V.History r₀ (log k) r
  absent : ∀ k, t₀.find k = none → t.find k = none ∧ log k = []

theorem Tracks.refl (t : Table R) (h : ∀ k, log k = []) : V.Tracks t t log where
  kept k r hr := ⟨r, hr, by rw [h k]; exact History.nil r⟩
  absent k hnone := ⟨hnone, h k⟩

theorem Tracks.set (h : V.Tracks t₀ t log) {k : K} (hr : t.find k = some r)
    (hexpects : V.expects p = V.version r) (hnew : log' k = log k ++ [p])
    (hold : ∀ k', k' ≠ k → log' k' = log k') : V.Tracks t₀ (t.set (V.patch r p)) log' := by
  have hkey : key (V.patch r p) = k := (V.key_patch r p).trans (Table.key_of_find hr)
  have hfind := Table.find_set (r := V.patch r p) (hkey ▸ hr)
  rw [hkey] at hfind
  constructor
  · intro k' r₀ hr₀
    obtain ⟨r', hr', hrow⟩ := h.kept k' r₀ hr₀
    rw [hfind]
    by_cases hkk : k = k'
    · subst hkk
      obtain rfl := Option.some.inj (hr.symm.trans hr')
      exact ⟨_, if_pos rfl, by rw [hnew]; exact hrow.snoc hexpects⟩
    · exact ⟨r', (if_neg hkk).trans hr', by rw [hold k' (Ne.symm hkk)]; exact hrow⟩
  · intro k' hnone
    have hkk : k ≠ k' := by
      rintro rfl
      rw [(h.absent k hnone).1] at hr
      cases hr
    rw [hfind, if_neg hkk, hold k' (Ne.symm hkk)]
    exact h.absent k' hnone

/-- No two patches of one row expect the same version. -/
theorem Tracks.nodup (h : V.Tracks t₀ t log) (k : K) : ((log k).map V.expects).Nodup := by
  cases hr₀ : t₀.find k with
  | none =>
      rw [(h.absent k hr₀).2]
      exact List.nodup_nil
  | some r₀ =>
      obtain ⟨r, _, hrow⟩ := h.kept k r₀ hr₀
      exact hrow.nodup

end Versioning

/-- If no two patches of a log expect the same version, what a patch expects tells its entry. -/
theorem Versioning.eq_of_expects {P A : Type} {expects : P → Nat} {f : A → Option P} {log : List A}
    (h : ((log.filterMap f).map expects).Nodup) {a b : A} (ha : a ∈ log) (hb : b ∈ log) {p q : P}
    (hp : f a = some p) (hq : f b = some q) (heq : expects p = expects q) : a = b := by
  rw [List.Nodup, List.pairwise_map, List.pairwise_filterMap] at h
  have hsymm : Std.Symm fun a b => ∀ p, f a = some p → ∀ q, f b = some q → expects p ≠ expects q :=
    ⟨fun _ _ hab p hp q hq => (hab q hq p hp).symm⟩
  by_contra hab
  exact h.forall ha hb hab p hp q hq heq

end Relational
