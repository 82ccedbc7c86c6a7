import Mathlib

/-! Sums over the rows of two tables, one of which answers for the other. -/

namespace Relational

/-- Terms that have partners of their own under a common key, at least as large, do not sum to more
than the partners and what is left beside them. -/
theorem sum_le_of_matching {A B K : Type} (keyA : A → K) (keyB : B → K) {u : A → Int} {v : B → Int}
    {as : List A} {bs : List B} (hnodup : (as.map keyA).Nodup)
    (hmatch : ∀ a ∈ as, ∃ b ∈ bs, keyB b = keyA a ∧ u a ≤ v b) (hpositive : ∀ b ∈ bs, 0 ≤ v b) :
    (as.map u).sum ≤ (bs.map v).sum := by
  induction as generalizing bs with
  | nil =>
      apply List.sum_nonneg
      rintro _ hx
      obtain ⟨b, hb, rfl⟩ := List.mem_map.mp hx
      exact hpositive b hb
  | cons a as ih =>
      obtain ⟨hnew, hnodup⟩ := List.nodup_cons.mp hnodup
      obtain ⟨b, hb, hkey, hle⟩ := hmatch a List.mem_cons_self
      obtain ⟨front, back, rfl⟩ := List.append_of_mem hb
      -- the other terms have their partners among the rest
      have hrest : (as.map u).sum ≤ ((front ++ back).map v).sum := by
        apply ih hnodup
        · intro a' ha'
          obtain ⟨b', hb', hkey', hle'⟩ := hmatch a' (List.mem_cons_of_mem a ha')
          have hne : b' ≠ b := by
            rintro rfl
            exact hnew (List.mem_map.mpr ⟨a', ha', hkey'.symm.trans hkey⟩)
          refine ⟨b', ?_, hkey', hle'⟩
          simp only [List.mem_append, List.mem_cons] at hb' ⊢
          tauto
        · intro b' hb'
          apply hpositive b'
          simp only [List.mem_append, List.mem_cons] at hb' ⊢
          tauto
      simp only [List.map_append, List.map_cons, List.sum_append, List.sum_cons] at hrest ⊢
      omega

end Relational
