import Mathlib.Data.List.Nodup

/-! Lookups by either of two names. Each row of a list has a first and a second name, and one
lookup searches both columns. A mark that every first name bears and no second name does keeps the
columns apart; a lookup then finds one row at most. -/

namespace Names

variable {R N : Type} [DecidableEq N] (first second : R → N)

/-- The rows that a name selects in one column or the other. -/
def matching (rows : List R) (name : N) : List R :=
  rows.filter fun r => first r = name ∨ second r = name

omit [DecidableEq N] in
/-- Names of two kinds, told apart by a mark, each of them used once. -/
structure Distinct (marked : N → Prop) (rows : List R) : Prop where
  first_marked : ∀ r ∈ rows, marked (first r)
  second_unmarked : ∀ r ∈ rows, ¬marked (second r)
  first_nodup : (rows.map first).Nodup
  second_nodup : (rows.map second).Nodup

variable {first second} {marked : N → Prop} {rows : List R} {name : N} {r s : R}

@[simp] theorem mem_matching :
    r ∈ matching first second rows name ↔ r ∈ rows ∧ (first r = name ∨ second r = name) := by
  rw [matching, List.mem_filter, decide_eq_true_eq]

namespace Distinct

omit [DecidableEq N] in
theorem nil : Distinct first second marked [] :=
  ⟨nofun, nofun, List.nodup_nil, List.nodup_nil⟩

omit [DecidableEq N] in
theorem append_singleton (h : Distinct first second marked rows) (hmarked : marked (first r))
    (hunmarked : ¬marked (second r)) (hfirst : ∀ s ∈ rows, first s ≠ first r)
    (hsecond : ∀ s ∈ rows, second s ≠ second r) :
    Distinct first second marked (rows ++ [r]) := by
  have hnodup : ∀ column : R → N, (rows.map column).Nodup →
      (∀ s ∈ rows, column s ≠ column r) → ((rows ++ [r]).map column).Nodup := by
    intro column hcolumn hnew
    rw [List.map_append, List.map_singleton]
    refine hcolumn.append (List.nodup_singleton _) ?_
    intro name hname hsame
    obtain ⟨s, hs, rfl⟩ := List.mem_map.mp hname
    exact hnew s hs (List.mem_singleton.mp hsame)
  constructor
  · intro s hs
    rcases List.mem_append.mp hs with hs | hs
    · exact h.first_marked s hs
    · rwa [List.mem_singleton.mp hs]
  · intro s hs
    rcases List.mem_append.mp hs with hs | hs
    · exact h.second_unmarked s hs
    · rwa [List.mem_singleton.mp hs]
  · exact hnodup first h.first_nodup hfirst
  · exact hnodup second h.second_nodup hsecond

omit [DecidableEq N] in
/-- A row is known by each of its names. -/
theorem eq_of_name (h : Distinct first second marked rows) (hr : r ∈ rows) (hs : s ∈ rows)
    (hname : first r = name ∨ second r = name) (hname' : first s = name ∨ second s = name) :
    r = s := by
  rcases hname with hr' | hr' <;> rcases hname' with hs' | hs'
  · exact List.inj_on_of_nodup_map h.first_nodup hr hs (hr'.trans hs'.symm)
  · have hmark := h.first_marked r hr
    rw [hr', ← hs'] at hmark
    exact absurd hmark (h.second_unmarked s hs)
  · have hmark := h.first_marked s hs
    rw [hs', ← hr'] at hmark
    exact absurd hmark (h.second_unmarked r hr)
  · exact List.inj_on_of_nodup_map h.second_nodup hr hs (hr'.trans hs'.symm)

/-- A lookup returns a row alone exactly if the name is one of the row's. -/
theorem matching_eq_singleton (h : Distinct first second marked rows) :
    matching first second rows name = [r] ↔ r ∈ rows ∧ (first r = name ∨ second r = name) := by
  constructor
  · intro hsingle
    rw [← mem_matching, hsingle]
    exact List.mem_singleton_self r
  · rintro ⟨hr, hname⟩
    have hall : ∀ s ∈ matching first second rows name, s = r := by
      intro s hs
      obtain ⟨hmem, hs⟩ := mem_matching.mp hs
      exact h.eq_of_name hmem hr hs hname
    have hnodup : (matching first second rows name).Nodup := h.first_nodup.of_map.filter _
    have hself : r ∈ matching first second rows name := mem_matching.mpr ⟨hr, hname⟩
    apply List.perm_singleton.mp
    apply (List.perm_ext_iff_of_nodup hnodup (List.nodup_singleton r)).mpr
    intro s
    rw [List.mem_singleton]
    exact ⟨hall s, fun hs => hs ▸ hself⟩

theorem length_matching_le (h : Distinct first second marked rows) (name : N) :
    (matching first second rows name).length ≤ 1 := by
  cases hrows : matching first second rows name with
  | nil => exact Nat.zero_le 1
  | cons r rest =>
      have hr : r ∈ matching first second rows name := by
        rw [hrows]
        exact List.mem_cons_self
      have hsingle := h.matching_eq_singleton.mpr (mem_matching.mp hr)
      rw [← hrows]
      exact Nat.le_of_eq (congrArg List.length hsingle)

end Distinct

end Names
