import ChargeMate.FoundationTable
import Mathlib.Data.List.Chain

/-! Lines of succession: the generations of one thing, each row naming by key the one that
replaced it. All generations but the last are retired. A line is read off a table as the rows of
a group, in the order in which they were stored. -/

namespace Relational

variable {R K : Type} [Keyed R K]

/-! ### Groups -/

namespace Table

/-- The stored rows with a property, in storage order. -/
def group (t : Table R) (p : R → Bool) : List R := t.rows.filter p

variable {t t' : Table R} {p : R → Bool} {r s : R}

@[simp] theorem mem_group : r ∈ t.group p ↔ r ∈ t ∧ p r = true := List.mem_filter

theorem nodup_keys_group : ((t.group p).map key).Nodup :=
  t.nodup_keys.sublist (List.filter_sublist.map key)

/-- Rewriting rows within their groups rewrites each group. -/
theorem group_of_rows_map {f : R → R} (h : t'.rows = t.rows.map f)
    (hp : ∀ r ∈ t, p (f r) = p r) : t'.group p = (t.group p).map f := by
  rw [group, group, h, List.filter_map]
  congr 1
  apply List.filter_congr
  intro r hr
  exact hp r hr

variable [DecidableEq K]

theorem group_insert (h : t.insert r = some t') :
    t'.group p = if p r then t.group p ++ [r] else t.group p := by
  rw [group, (insert_eq_some.mp h).2, List.filter_append]
  split
  · next hp => rw [List.filter_cons_of_pos hp, List.filter_nil, group]
  · next hp => rw [List.filter_cons_of_neg hp, List.filter_nil, List.append_nil, group]

theorem group_set (hr : t.find (key r) = some s) (hp : p r = p s) :
    (t.set r).group p = (t.group p).map fun x => if key x = key r then r else x := by
  apply group_of_rows_map rfl
  intro x hx
  split
  · next hk =>
    have hxs : x = s := eq_of_key_eq hx (mem_of_find hr) (hk.trans (key_of_find hr).symm)
    rw [hxs, hp]
  · rfl

/-- A write outside a group leaves it. -/
theorem group_set_of_outside (hr : t.find (key r) = some s) (hp : p r = false)
    (hs : p s = false) : (t.set r).group p = t.group p := by
  rw [group_set hr (hp.trans hs.symm)]
  conv_rhs => rw [← List.map_id (t.group p)]
  apply List.map_congr_left
  intro x hx
  rw [if_neg, id]
  intro hk
  have hxs : x = s :=
    eq_of_key_eq (mem_group.mp hx).1 (mem_of_find hr) (hk.trans (key_of_find hr).symm)
  rw [hxs, mem_group, hs] at hx
  cases hx.2

end Table

/-! ### Succession -/

/-- Each row names the next one, the last names none, and every row but the last is retired. -/
structure Succession (next : R → Option K) (retired : R → Prop) (rows : List R) : Prop where
  linked : rows.IsChain fun r s => next r = some (key s)
  ends : ∀ r ∈ rows.getLast?, next r = none
  retired : ∀ r ∈ rows.dropLast, retired r

namespace Succession

variable {next : R → Option K} {retired : R → Prop} {rows : List R}

theorem nil : Succession next retired [] where
  linked := List.isChain_nil
  ends := by simp
  retired := by simp

theorem singleton {r : R} (h : next r = none) : Succession next retired [r] where
  linked := List.isChain_singleton r
  ends := by simpa using h
  retired := by simp

/-- A rewriting that keeps keys and successors and brings no row back keeps a line. -/
theorem map {f : R → R} (hkey : ∀ r, key (f r) = key r) (hnext : ∀ r, next (f r) = next r)
    (hretired : ∀ r, retired r → retired (f r)) (h : Succession next retired rows) :
    Succession next retired (rows.map f) where
  linked := by
    rw [List.isChain_map]
    simpa only [hkey, hnext] using h.linked
  ends := by
    intro r hr
    rw [List.getLast?_map, Option.mem_def, Option.map_eq_some_iff] at hr
    obtain ⟨s, hs, rfl⟩ := hr
    rw [hnext]
    exact h.ends s hs
  retired := by
    intro r hr
    rw [← List.map_dropLast, List.mem_map] at hr
    obtain ⟨s, hs, rfl⟩ := hr
    exact hretired s (h.retired s hs)

/-- A row that is not retired is the last of its line. -/
theorem eq_concat {r : R} (h : Succession next retired rows) (hr : r ∈ rows)
    (hlive : ¬retired r) : rows = rows.dropLast ++ [r] := by
  have hne : rows ≠ [] := List.ne_nil_of_mem hr
  have hsplit := List.dropLast_append_getLast hne
  rw [← hsplit, List.mem_append, List.mem_singleton] at hr
  rcases hr with hold | hlast
  · exact absurd (h.retired r hold) hlive
  · rw [hlast, hsplit]

/-- Two rows of a line that are not retired are one. -/
theorem eq_of_live {r s : R} (h : Succession next retired rows) (hr : r ∈ rows) (hs : s ∈ rows)
    (hlive : ¬retired r) (hlive' : ¬retired s) : r = s := by
  have hrs : rows.dropLast ++ [r] = rows.dropLast ++ [s] := by
    rw [← h.eq_concat hr hlive, ← h.eq_concat hs hlive']
  simpa using hrs

/-- Retiring the last row in favour of a new one continues the line. -/
theorem extend {init : List R} {r r' s : R} (h : Succession next retired (init ++ [r]))
    (hkey : key r' = key r) (hnext : next r' = some (key s)) (hretired : retired r')
    (hends : next s = none) : Succession next retired (init ++ [r', s]) where
  linked := by
    rw [List.isChain_append_cons_cons]
    refine ⟨?_, hnext, List.isChain_singleton s⟩
    have hold := h.linked
    rw [List.isChain_append] at hold ⊢
    refine ⟨hold.1, List.isChain_singleton r', ?_⟩
    intro x hx y hy
    rw [List.head?_cons, Option.mem_def, Option.some.injEq] at hy
    rw [← hy, hkey]
    exact hold.2.2 x hx r rfl
  ends := by simpa using hends
  retired := by
    intro x hx
    rw [show init ++ [r', s] = (init ++ [r']) ++ [s] by simp, List.dropLast_concat,
      List.mem_append, List.mem_singleton] at hx
    rcases hx with hx | rfl
    · exact h.retired x (by rwa [List.dropLast_concat])
    · exact hretired

/-- The write by which a stored row that is not retired is retired in favour of a new one: the
line of its group goes on. -/
theorem supersede [DecidableEq K] {t t' : Table R} {p : R → Bool} {r r' s : R}
    (h : Succession next retired (t.group p)) (hr : r ∈ t.group p) (hlive : ¬retired r)
    (hinsert : t.insert s = some t') (hs : p s = true) (hkey : key r' = key r)
    (hr' : p r' = true) (hnext : next r' = some (key s)) (hretired : retired r')
    (hends : next s = none) : Succession next retired ((t'.set r').group p) := by
  have hchain := h.eq_concat hr hlive
  have hmem : r ∈ t := (Table.mem_group.mp hr).1
  have hfind : t'.find (key r') = some r := by
    rw [hkey]
    exact Table.find_insert_of_mem hinsert hmem
  have hsr : key s ≠ key r' := by
    intro hk
    have hfree := (Table.insert_eq_some.mp hinsert).1
    rw [hk, hkey, Table.find_key hmem] at hfree
    cases hfree
  have hinit : ((t.group p).dropLast).map (fun x => if key x = key r' then r' else x) =
      (t.group p).dropLast := by
    have hnodup : ((t.group p).map key).Nodup := Table.nodup_keys_group
    rw [hchain, List.map_append, List.map_singleton, List.nodup_append] at hnodup
    conv_rhs => rw [← List.map_id (t.group p).dropLast]
    apply List.map_congr_left
    intro x hx
    rw [if_neg, id]
    rw [hkey]
    exact hnodup.2.2 _ (List.mem_map_of_mem hx) _ (List.mem_singleton_self _)
  rw [Table.group_set hfind (hr'.trans (Table.mem_group.mp hr).2.symm),
    Table.group_insert hinsert, if_pos hs, hchain, List.append_assoc, List.map_append, hinit]
  simp only [List.singleton_append, List.map_cons, List.map_nil, if_pos hkey.symm, if_neg hsr]
  rw [hchain] at h
  exact h.extend hkey hnext hretired hends

end Succession

end Relational
