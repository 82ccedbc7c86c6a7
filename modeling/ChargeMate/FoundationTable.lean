import Mathlib.Data.List.Basic
import Mathlib.Data.List.Nodup
import Mathlib.Tactic.Common

/-! Relational tables: a list of rows whose primary keys are distinct. A table is read through
its partial function `find` from keys to rows; every write below is specified by what it does
to that function and to membership, and callers never look at the list again. -/

namespace Relational

/-- The primary key of a row type. -/
class Keyed (R : Type) (K : outParam Type) where
  key : R → K

export Keyed (key)

/-- Rows in storage order. Two rows with one key cannot be stored. -/
structure Table (R : Type) {K : Type} [Keyed R K] where
  rows : List R
  nodup_keys : (rows.map key).Nodup

namespace Table

variable {R K : Type} [Keyed R K]

instance : Membership R (Table R) := ⟨fun t r => r ∈ t.rows⟩

theorem mem_def {t : Table R} {r : R} : r ∈ t ↔ r ∈ t.rows := Iff.rfl

instance (t : Table R) (P : R → Prop) [DecidablePred P] : Decidable (∀ r ∈ t, P r) :=
  inferInstanceAs (Decidable (∀ r ∈ t.rows, P r))

instance (t : Table R) (P : R → Prop) [DecidablePred P] : Decidable (∃ r ∈ t, P r) :=
  inferInstanceAs (Decidable (∃ r ∈ t.rows, P r))

instance : EmptyCollection (Table R) := ⟨⟨[], List.nodup_nil⟩⟩

@[simp] theorem rows_empty : (∅ : Table R).rows = [] := rfl

@[simp] theorem notMem_empty (r : R) : r ∉ (∅ : Table R) := by
  simp [mem_def]

theorem eq_of_key_eq {t : Table R} {r s : R} (hr : r ∈ t) (hs : s ∈ t) (h : key r = key s) :
    r = s :=
  List.inj_on_of_nodup_map t.nodup_keys hr hs h

theorem eq_of_rows_eq {t t' : Table R} (h : t.rows = t'.rows) : t = t' := by
  cases t
  cases t'
  simp only at h
  subst h
  rfl

/-- The first stored row with a property: `session.scalar(select(R).where(p))`. -/
def scalar (t : Table R) (p : R → Bool) : Option R := t.rows.find? p

theorem mem_of_scalar {t : Table R} {p : R → Bool} {r : R} (h : t.scalar p = some r) : r ∈ t :=
  List.mem_of_find?_eq_some h

theorem prop_of_scalar {t : Table R} {p : R → Bool} {r : R} (h : t.scalar p = some r) :
    p r = true :=
  List.find?_some h

theorem scalar_eq_none {t : Table R} {p : R → Bool} :
    t.scalar p = none ↔ ∀ r ∈ t, p r = false := by
  simp [scalar, mem_def, List.find?_eq_none]

/-- A property that at most one stored row has selects that row. -/
theorem scalar_eq_some_of_unique {t : Table R} {p : R → Bool} {r : R} (hr : r ∈ t)
    (hp : p r = true) (huniq : ∀ s ∈ t, p s = true → s = r) : t.scalar p = some r := by
  cases h : t.scalar p with
  | none => exact absurd hp (by simp [scalar_eq_none.mp h r hr])
  | some s => rw [huniq s (mem_of_scalar h) (prop_of_scalar h)]

variable [DecidableEq K]

/-- The row stored under a key. -/
def find (t : Table R) (k : K) : Option R := t.rows.find? fun r => decide (key r = k)

theorem find_eq_some {t : Table R} {k : K} {r : R} : t.find k = some r ↔ r ∈ t ∧ key r = k := by
  constructor
  · intro h
    exact ⟨List.mem_of_find?_eq_some h, by simpa using List.find?_some h⟩
  · rintro ⟨hmem, hkey⟩
    cases h : t.find k with
    | none =>
        have := List.find?_eq_none.mp h r hmem
        simp [hkey] at this
    | some s =>
        have hs : key s = k := by simpa using List.find?_some h
        rw [eq_of_key_eq (List.mem_of_find?_eq_some h) hmem (hs.trans hkey.symm)]

theorem find_eq_none {t : Table R} {k : K} : t.find k = none ↔ ∀ r ∈ t, key r ≠ k := by
  simp [find, mem_def, List.find?_eq_none]

theorem mem_of_find {t : Table R} {k : K} {r : R} (h : t.find k = some r) : r ∈ t :=
  (find_eq_some.mp h).1

theorem key_of_find {t : Table R} {k : K} {r : R} (h : t.find k = some r) : key r = k :=
  (find_eq_some.mp h).2

theorem find_key {t : Table R} {r : R} (h : r ∈ t) : t.find (key r) = some r :=
  find_eq_some.mpr ⟨h, rfl⟩

@[simp] theorem find_empty (k : K) : (∅ : Table R).find k = none := rfl

/-! ### Insertion -/

/-- `INSERT`, refused when the primary key is taken. -/
def insert (t : Table R) (r : R) : Option (Table R) :=
  if h : t.find (key r) = none then
    some ⟨t.rows ++ [r], by
      rw [List.map_append, List.map_singleton, List.nodup_append]
      refine ⟨t.nodup_keys, List.nodup_singleton _, ?_⟩
      intro a ha b hb hab
      obtain ⟨s, hs, rfl⟩ := List.mem_map.mp ha
      rw [List.mem_singleton] at hb
      exact find_eq_none.mp h s hs (hab.trans hb)⟩
  else none

theorem insert_eq_some {t t' : Table R} {r : R} :
    t.insert r = some t' ↔ t.find (key r) = none ∧ t'.rows = t.rows ++ [r] := by
  unfold insert
  split
  · next h =>
    simp only [Option.some.injEq, h, true_and]
    constructor
    · rintro rfl
      rfl
    · intro hrows
      exact eq_of_rows_eq hrows.symm
  · next h => simp [h]

/-- A row with a free key can be inserted. -/
theorem exists_insert {t : Table R} {r : R} (h : t.find (key r) = none) :
    ∃ t', t.insert r = some t' := by
  unfold insert
  rw [dif_pos h]
  exact ⟨_, rfl⟩

theorem mem_insert {t t' : Table R} {r : R} (h : t.insert r = some t') {s : R} :
    s ∈ t' ↔ s ∈ t ∨ s = r := by
  rw [mem_def, (insert_eq_some.mp h).2]
  simp [mem_def]

theorem find_insert {t t' : Table R} {r : R} (h : t.insert r = some t') (k : K) :
    t'.find k = if key r = k then some r else t.find k := by
  split
  · next hk => exact find_eq_some.mpr ⟨(mem_insert h).mpr (Or.inr rfl), hk⟩
  · next hk =>
    rw [find, (insert_eq_some.mp h).2, List.find?_append]
    simp [hk, find]

/-- The rows that were there are still found. -/
theorem find_insert_of_mem {t t' : Table R} {r s : R} (h : t.insert r = some t') (hs : s ∈ t) :
    t'.find (key s) = some s :=
  find_key ((mem_insert h).mpr (Or.inl hs))

theorem find_insert_self {t t' : Table R} {r : R} (h : t.insert r = some t') :
    t'.find (key r) = some r := by
  rw [find_insert h, if_pos rfl]

/-! ### Updates -/

/-- `UPDATE ... WHERE id = key r`: write the row in place of the stored row with its key. -/
def set (t : Table R) (r : R) : Table R where
  rows := t.rows.map fun s => if key s = key r then r else s
  nodup_keys := by
    rw [List.map_map]
    convert t.nodup_keys using 1
    apply List.map_congr_left
    intro s _
    simp only [Function.comp_apply]
    split
    · next h => exact h.symm
    · rfl

theorem mem_set {t : Table R} {r old : R} (h : t.find (key r) = some old) {s : R} :
    s ∈ t.set r ↔ s = r ∨ (s ∈ t ∧ key s ≠ key r) := by
  simp only [mem_def, set, List.mem_map]
  constructor
  · rintro ⟨u, hu, rfl⟩
    split
    · exact Or.inl rfl
    · next hk => exact Or.inr ⟨hu, hk⟩
  · rintro (rfl | ⟨hs, hk⟩)
    · exact ⟨old, mem_of_find h, if_pos (key_of_find h)⟩
    · exact ⟨s, hs, if_neg hk⟩

theorem find_set {t : Table R} {r old : R} (h : t.find (key r) = some old) (k : K) :
    (t.set r).find k = if key r = k then some r else t.find k := by
  split
  · next hk => exact find_eq_some.mpr ⟨(mem_set h).mpr (Or.inl rfl), hk⟩
  · next hk =>
    cases hf : t.find k with
    | none =>
        rw [find_eq_none]
        intro s hs
        rcases (mem_set h).mp hs with rfl | ⟨hs, _⟩
        · exact hk
        · exact find_eq_none.mp hf s hs
    | some s =>
        refine find_eq_some.mpr ⟨(mem_set h).mpr (Or.inr ⟨mem_of_find hf, ?_⟩), key_of_find hf⟩
        rw [key_of_find hf]
        exact fun h => hk h.symm

/-- A row that is written as it is stored. -/
theorem set_self {t : Table R} {r : R} (hr : r ∈ t) : t.set r = t := by
  refine eq_of_rows_eq ?_
  rw [set]
  conv_rhs => rw [← List.map_id t.rows]
  apply List.map_congr_left
  intro s hs
  split
  · next hk => exact eq_of_key_eq hr hs hk.symm
  · rfl

theorem find_set_self {t : Table R} {r old : R} (h : t.find (key r) = some old) :
    (t.set r).find (key r) = some r := by
  rw [find_set h, if_pos rfl]

/-- A write to a row that is not stored changes nothing. -/
theorem set_of_absent {t : Table R} {r : R} (h : t.find (key r) = none) : t.set r = t := by
  refine eq_of_rows_eq ?_
  rw [set]
  conv_rhs => rw [← List.map_id t.rows]
  exact List.map_congr_left fun s hs => if_neg (find_eq_none.mp h s hs)

theorem find_set_of_ne {t : Table R} {r : R} {k : K} (hk : key r ≠ k) :
    (t.set r).find k = t.find k := by
  cases h : t.find (key r) with
  | some old => rw [find_set h, if_neg hk]
  | none => rw [set_of_absent h]

/-- A write between rows that a selection leaves out does not change what it selects. -/
theorem filter_set {t : Table R} {r old : R} (h : t.find (key r) = some old) {p : R → Bool}
    (hold : p old = false) (hnew : p r = false) : (t.set r).rows.filter p = t.rows.filter p := by
  have hrow : ∀ s ∈ t.rows, p (if key s = key r then r else s) = p s := by
    intro s hs
    split
    · next hk =>
      have hso : s = old := eq_of_key_eq hs (mem_of_find h) (hk.trans (key_of_find h).symm)
      rw [hso, hold, hnew]
    · rfl
  have hkept : ∀ s ∈ t.rows.filter p, (if key s = key r then r else s) = s := by
    intro s hs
    obtain ⟨hmem, hp⟩ := List.mem_filter.mp hs
    refine if_neg fun hk => ?_
    rw [eq_of_key_eq hmem (mem_of_find h) (hk.trans (key_of_find h).symm), hold] at hp
    cases hp
  calc (t.set r).rows.filter p
      = (t.rows.filter fun s => p (if key s = key r then r else s)).map
          fun s => if key s = key r then r else s := List.filter_map
    _ = (t.rows.filter p).map fun s => if key s = key r then r else s := by
      rw [List.filter_congr hrow]
    _ = (t.rows.filter p).map id := List.map_congr_left hkept
    _ = t.rows.filter p := List.map_id _

/-- A row that was found before a write is replaced by it or still there. -/
theorem find_set_of_find {t : Table R} {r old s : R} {k : K} (h : t.find (key r) = some old)
    (hs : t.find k = some s) :
    ((t.set r).find k = some r ∧ s = old) ∨ (t.set r).find k = some s := by
  rw [find_set h]
  split
  · next hk =>
    rw [← hk, h] at hs
    exact Or.inl ⟨rfl, (Option.some.inj hs).symm⟩
  · exact Or.inr hs

/-- A row found after a write is the written one, or was there under another key. -/
theorem find_set_cases {t : Table R} {r old s : R} {k : K} (hs : (t.set r).find k = some s)
    (h : t.find (key r) = some old) : (key r = k ∧ s = r) ∨ (key r ≠ k ∧ t.find k = some s) := by
  rw [find_set h] at hs
  split at hs
  · next hk => exact Or.inl ⟨hk, (Option.some.inj hs).symm⟩
  · next hk => exact Or.inr ⟨hk, hs⟩

/-- After a write in place of a stored row, a row is the written one or as it was. -/
theorem row_of_set {t : Table R} {old new r r' : R} {k : K} (hkey : key new = key old)
    (hold : t.find (key old) = some old) (hr : t.find k = some r)
    (hr' : (t.set new).find k = some r') : (old = r ∧ r' = new) ∨ r' = r := by
  rcases find_set_cases hr' (hkey ▸ hold) with ⟨hk, rfl⟩ | ⟨_, hkept⟩
  · rw [hkey] at hk
    rw [hk, hr] at hold
    exact Or.inl ⟨(Option.some.inj hold).symm, rfl⟩
  · rw [hr] at hkept
    exact Or.inr (Option.some.inj hkept).symm

/-- `UPDATE ... WHERE p`: rewrite every row with a property, keys being kept. -/
def updateWhere (t : Table R) (p : R → Bool) (f : R → R) (hf : ∀ r, key (f r) = key r) :
    Table R where
  rows := t.rows.map fun s => if p s then f s else s
  nodup_keys := by
    rw [List.map_map]
    convert t.nodup_keys using 1
    apply List.map_congr_left
    intro s _
    simp only [Function.comp_apply]
    split
    · exact hf s
    · rfl

/-- A write that keeps what a column of the stored row holds. -/
theorem map_set {C : Type} (t : Table R) {r : R} (column : R → C)
    (h : ∀ s ∈ t, key s = key r → column r = column s) :
    (t.set r).rows.map column = t.rows.map column := by
  rw [set, List.map_map]
  apply List.map_congr_left
  intro s hs
  simp only [Function.comp_apply]
  split
  · next hk => exact h s hs hk
  · rfl

omit [DecidableEq K] in
theorem map_updateWhere {C : Type} (t : Table R) (p : R → Bool) (f : R → R)
    (hf : ∀ r, key (f r) = key r) {column : R → C} (h : ∀ r, column (f r) = column r) :
    (t.updateWhere p f hf).rows.map column = t.rows.map column := by
  rw [updateWhere, List.map_map]
  apply List.map_congr_left
  intro s _
  simp only [Function.comp_apply]
  split
  · exact h s
  · rfl

theorem map_key_set (t : Table R) (r : R) : (t.set r).rows.map key = t.rows.map key :=
  t.map_set key fun _ _ hk => hk.symm

omit [DecidableEq K] in
theorem map_key_updateWhere (t : Table R) (p : R → Bool) (f : R → R)
    (hf : ∀ r, key (f r) = key r) : (t.updateWhere p f hf).rows.map key = t.rows.map key :=
  t.map_updateWhere p f hf hf

/-- Tables with the same keys find rows under the same keys. -/
theorem exists_find_of_map_key {t t' : Table R} (h : t'.rows.map key = t.rows.map key) {k : K}
    {r' : R} (hr' : t'.find k = some r') : ∃ r, t.find k = some r := by
  have hmem : k ∈ t.rows.map key := h ▸ List.mem_map.mpr ⟨r', mem_of_find hr', key_of_find hr'⟩
  obtain ⟨r, hr, rfl⟩ := List.mem_map.mp hmem
  exact ⟨r, find_key hr⟩

theorem find_updateWhere (t : Table R) (p : R → Bool) (f : R → R) (hf : ∀ r, key (f r) = key r)
    (k : K) :
    (t.updateWhere p f hf).find k = (t.find k).map fun s => if p s then f s else s := by
  simp only [find, updateWhere, List.find?_map]
  congr 2
  funext s
  simp only [Function.comp_apply]
  split
  · rw [hf]
  · rfl

omit [DecidableEq K] in
/-- Two statements that write the same are one, if the second leaves alone what the first has
written. -/
theorem updateWhere_updateWhere (t : Table R) {p q : R → Bool} {f : R → R}
    (hf : ∀ r, key (f r) = key r) (hq : ∀ r, p r = true → q (f r) = false) :
    (t.updateWhere p f hf).updateWhere q f hf = t.updateWhere (fun r => p r || q r) f hf := by
  refine eq_of_rows_eq ?_
  simp only [updateWhere, List.map_map]
  refine List.map_congr_left fun r _ => ?_
  simp only [Function.comp_apply, Bool.or_eq_true]
  by_cases hp : p r = true
  · rw [if_pos hp, if_pos (Or.inl hp), hq r hp, if_neg Bool.false_ne_true]
  · rw [if_neg hp]
    simp only [hp, Bool.false_eq_true, false_or]

omit [DecidableEq K] in
theorem updateWhere_congr (t : Table R) {p q : R → Bool} {f : R → R}
    (hf : ∀ r, key (f r) = key r) (h : ∀ r ∈ t, p r = q r) :
    t.updateWhere p f hf = t.updateWhere q f hf := by
  refine eq_of_rows_eq (List.map_congr_left fun r hr => ?_)
  rw [h r hr]

omit [DecidableEq K] in
theorem updateWhere_eq_self (t : Table R) {p : R → Bool} {f : R → R}
    (hf : ∀ r, key (f r) = key r) (h : ∀ r ∈ t, p r = false) : t.updateWhere p f hf = t := by
  refine eq_of_rows_eq ?_
  calc t.rows.map (fun r => if p r then f r else r)
      = t.rows.map id := List.map_congr_left fun r hr => by rw [h r hr]; rfl
    _ = t.rows := List.map_id _

omit [DecidableEq K] in
/-- A selection that takes no rewritten row takes the rows it took before, but for those. -/
theorem filter_updateWhere (t : Table R) {p q : R → Bool} {f : R → R}
    (hf : ∀ r, key (f r) = key r) (hq : ∀ r, p r = true → q (f r) = false) :
    (t.updateWhere p f hf).rows.filter q = t.rows.filter fun r => !p r && q r := by
  show (t.rows.map fun r => if p r then f r else r).filter q = _
  induction t.rows with
  | nil => rfl
  | cons r rows ih =>
      rw [List.map_cons, List.filter_cons, List.filter_cons, ih]
      cases hp : p r with
      | true =>
          rw [if_pos rfl, hq r hp]
          rfl
      | false =>
          rw [if_neg Bool.false_ne_true]
          rfl

end Table

end Relational
