import ChargeMate.FoundationRun
import Mathlib.Data.Fintype.Basic
import Mathlib.Logic.Relation

/-! Strict two-phase locking. Each transaction of a family locks its rows one by one, in an order of
its own, and keeps them all until it commits. A deadlock is a cycle of transactions each of which
waits for a row that the next one holds. Two rules: rows taken in the order of a rank cannot lead to
one, and two rows taken in opposite orders can. -/

namespace Locking

variable {ι R : Type}

/-- The rows a transaction has locked, the last one first, and in order those it has still to
lock. -/
structure Progress (R : Type) where
  held : List R
  todo : List R

inductive Action (ι : Type) where
  | acquire (t : ι)
  | commit (t : ι)

/-- No transaction has begun. -/
def start (locks : ι → List R) (t : ι) : Progress R := ⟨[], locks t⟩

/-- No other transaction has locked the row. -/
def Free (s : ι → Progress R) (t : ι) (r : R) : Prop := ∀ u, u ≠ t → r ∉ (s u).held

section

variable [Fintype ι] [DecidableEq ι] [DecidableEq R]

instance (s : ι → Progress R) (t : ι) (r : R) : Decidable (Free s t r) := by
  unfold Free
  infer_instance

/-- A transaction that asks for a row another one holds waits, which changes nothing. -/
def step (s : ι → Progress R) : Action ι → ι → Progress R
  | .acquire t =>
      match (s t).todo with
      | [] => s
      | r :: rest => if Free s t r then Function.update s t ⟨r :: (s t).held, rest⟩ else s
  | .commit t => if (s t).todo = [] then Function.update s t ⟨[], []⟩ else s

end

/-- The row that a transaction asks for next is held by another one. -/
def WaitsFor (s : ι → Progress R) (t u : ι) : Prop :=
  u ≠ t ∧ ∃ r ∈ (s t).todo.head?, r ∈ (s u).held

def Deadlocked (s : ι → Progress R) : Prop := ∃ t, Relation.TransGen (WaitsFor s) t t

theorem WaitsFor.asks {s : ι → Progress R} {t u : ι} (h : WaitsFor s t u) :
    ∃ r, (s t).todo.head? = some r ∧ r ∈ (s u).held := by
  obtain ⟨_, r, hr, hheld⟩ := h
  exact ⟨r, hr, hheld⟩

/-! ### What holds in every state -/

/-- A transaction with rows to lock holds what comes before them in its list, and no row is held
twice. -/
structure Sound (locks : ι → List R) (s : ι → Progress R) : Prop where
  list : ∀ t, (s t).todo ≠ [] → (s t).held.reverse ++ (s t).todo = locks t
  exclusive : ∀ t u r, r ∈ (s t).held → r ∈ (s u).held → t = u

theorem Sound.start (locks : ι → List R) : Sound locks (start locks) where
  list _ _ := rfl
  exclusive _ _ _ h := absurd h List.not_mem_nil

section

variable [Fintype ι] [DecidableEq ι] [DecidableEq R]

/-- A step locks one row that is free, releases the rows of a transaction that has all of its own,
or changes nothing. -/
theorem step_cases (s : ι → Progress R) (a : Action ι) :
    (∃ t r rest, (s t).todo = r :: rest ∧ Free s t r ∧
      step s a = Function.update s t ⟨r :: (s t).held, rest⟩) ∨
    (∃ t, (s t).todo = [] ∧ step s a = Function.update s t ⟨[], []⟩) ∨ step s a = s := by
  cases a with
  | acquire t =>
      cases htodo : (s t).todo with
      | nil => exact Or.inr (Or.inr (by simp only [step, htodo]))
      | cons r rest =>
          by_cases hfree : Free s t r
          · exact Or.inl ⟨t, r, rest, htodo, hfree, by simp only [step, htodo, if_pos hfree]⟩
          · exact Or.inr (Or.inr (by simp only [step, htodo, if_neg hfree]))
  | commit t =>
      by_cases htodo : (s t).todo = []
      · exact Or.inr (Or.inl ⟨t, htodo, by simp only [step, if_pos htodo]⟩)
      · exact Or.inr (Or.inr (by simp only [step, if_neg htodo]))

omit [Fintype ι] [DecidableEq R] in
theorem Sound.acquire {locks : ι → List R} {s : ι → Progress R} (h : Sound locks s) {t : ι} {r : R}
    {rest : List R} (htodo : (s t).todo = r :: rest) (hfree : Free s t r) :
    Sound locks (Function.update s t ⟨r :: (s t).held, rest⟩) where
  list u := by
    by_cases hu : u = t
    · subst hu
      have hlist := h.list u (by simp [htodo])
      rw [htodo] at hlist
      intro _
      rw [Function.update_self, List.reverse_cons, List.append_assoc]
      exact hlist
    · rw [Function.update_of_ne hu]
      exact h.list u
  exclusive u v q hqu hqv := by
    have hnew : ∀ w, w ≠ t → q ∈ r :: (s t).held → q ∉ (s w).held := by
      intro w hw hq hheld
      rcases List.mem_cons.mp hq with rfl | hq
      · exact hfree w hw hheld
      · exact hw (h.exclusive w t q hheld hq)
    by_cases hu : u = t <;> by_cases hv : v = t
    · rw [hu, hv]
    · subst hu
      rw [Function.update_self] at hqu
      rw [Function.update_of_ne hv] at hqv
      exact absurd hqv (hnew v hv hqu)
    · subst hv
      rw [Function.update_of_ne hu] at hqu
      rw [Function.update_self] at hqv
      exact absurd hqu (hnew u hu hqv)
    · rw [Function.update_of_ne hu] at hqu
      rw [Function.update_of_ne hv] at hqv
      exact h.exclusive u v q hqu hqv

omit [Fintype ι] [DecidableEq R] in
theorem Sound.commit {locks : ι → List R} {s : ι → Progress R} (h : Sound locks s) (t : ι) :
    Sound locks (Function.update s t ⟨[], []⟩) where
  list u := by
    by_cases hu : u = t
    · subst hu
      simp
    · rw [Function.update_of_ne hu]
      exact h.list u
  exclusive u v q hqu hqv := by
    have hheld : ∀ w, q ∈ (Function.update s t ⟨[], []⟩ w).held → q ∈ (s w).held := by
      intro w hq
      by_cases hw : w = t
      · subst hw
        rw [Function.update_self] at hq
        exact absurd hq List.not_mem_nil
      · rwa [Function.update_of_ne hw] at hq
    exact h.exclusive u v q (hheld u hqu) (hheld v hqv)

theorem Sound.step {locks : ι → List R} {s : ι → Progress R} (h : Sound locks s) (a : Action ι) :
    Sound locks (step s a) := by
  rcases step_cases s a with ⟨t, r, rest, htodo, hfree, heq⟩ | ⟨t, _, heq⟩ | heq
  · rw [heq]
    exact h.acquire htodo hfree
  · rw [heq]
    exact h.commit t
  · rw [heq]
    exact h

theorem Sound.run {locks : ι → List R} (actions : List (Action ι)) :
    Sound locks (Transition.run Locking.step (Locking.start locks) actions) := by
  have hreach : Transition.Reachable Locking.step (fun s => s = Locking.start locks)
      (Transition.run Locking.step (Locking.start locks) actions) := ⟨_, actions, rfl, rfl⟩
  refine hreach.invariant ?_ ?_
  · rintro s rfl
    exact Sound.start locks
  · exact fun s a _ h => h.step a

/-! ### Rows taken in order -/

variable {α : Type} [Preorder α] {rank : R → α} {guard : R → R} {rows : List R}

/-- Of two rows, the one locked first has the lower rank. Rows of one rank are taken only under a
common guard, which is the first row that the transaction locks. -/
def Ordered (rank : R → α) (guard : R → R) (rows : List R) : Prop :=
  ∀ x y, List.Sublist [x, y] rows →
    rank x < rank y ∨ (rank x = rank y ∧ guard x = guard y ∧ rows.head? = some (guard x))

omit [Fintype ι] [DecidableEq ι] [DecidableEq R] in
/-- A row that a transaction holds and the next one that it asks for. -/
theorem Sound.held_asked {locks : ι → List R} {s : ι → Progress R} (h : Sound locks s) {t : ι}
    (hordered : Ordered rank guard (locks t)) {r q : R} (hr : r ∈ (s t).held)
    (hq : (s t).todo.head? = some q) :
    rank r < rank q ∨ (rank r = rank q ∧ guard r = guard q ∧ guard r ∈ (s t).held) := by
  obtain ⟨rest, htodo⟩ := List.head?_eq_some_iff.mp hq
  have hlist := h.list (t := t) (by simp [htodo])
  have hsub : List.Sublist [r, q] (locks t) := by
    rw [← hlist, htodo]
    have hleft : List.Sublist [r] (s t).held.reverse :=
      List.singleton_sublist.mpr (List.mem_reverse.mpr hr)
    have hright : List.Sublist [q] (q :: rest) := List.singleton_sublist.mpr List.mem_cons_self
    exact hleft.append hright
  rcases hordered r q hsub with hlt | ⟨hrank, hguard, hhead⟩
  · exact Or.inl hlt
  · refine Or.inr ⟨hrank, hguard, ?_⟩
    -- the first row of the list is held, since some row is
    have hne : (s t).held.reverse ≠ [] := by simpa using List.ne_nil_of_mem hr
    rw [← hlist, List.head?_append_of_ne_nil _ hne] at hhead
    exact List.mem_reverse.mp (List.mem_of_mem_head? hhead)

omit [Fintype ι] [DecidableEq ι] [DecidableEq R] in
/-- Along a chain of waiting transactions the rank of the row asked for rises, or it stays and the
last one holds the common guard. -/
theorem Sound.chain {locks : ι → List R} {s : ι → Progress R} (h : Sound locks s)
    (hordered : ∀ t, Ordered rank guard (locks t)) {t u : ι}
    (hchain : Relation.TransGen (WaitsFor s) t u) {r q : R} (hr : (s t).todo.head? = some r)
    (hq : (s u).todo.head? = some q) :
    rank r < rank q ∨
      (rank r = rank q ∧ guard r = guard q ∧ guard r ∈ (s u).held ∧ WaitsFor s t u) := by
  induction hchain generalizing q with
  | single hwait =>
      obtain ⟨r', hr', hheld⟩ := hwait.asks
      obtain rfl : r = r' := Option.some.inj (hr.symm.trans hr')
      rcases h.held_asked (hordered _) hheld hq with hlt | ⟨hrank, hguard, hmem⟩
      · exact Or.inl hlt
      · exact Or.inr ⟨hrank, hguard, hmem, hwait⟩
  | tail _ hwait ih =>
      obtain ⟨p, hp, hheld⟩ := hwait.asks
      rcases ih hp, h.held_asked (hordered _) hheld hq with
        ⟨hlt | ⟨hrank, hguard, hmem, _⟩, hlt' | ⟨hrank', hguard', hmem'⟩⟩
      · exact Or.inl (hlt.trans hlt')
      · exact Or.inl (hrank' ▸ hlt)
      · exact Or.inl (hrank ▸ hlt')
      · -- two transactions would hold the one guard
        rw [hguard] at hmem
        exact absurd (h.exclusive _ _ _ hmem' hmem) hwait.1

/-- Transactions that lock their rows in the order of a rank never deadlock. -/
theorem not_deadlocked_of_ordered {locks : ι → List R}
    (hordered : ∀ t, Ordered rank guard (locks t)) (actions : List (Action ι)) :
    ¬Deadlocked (Transition.run step (start locks) actions) := by
  rintro ⟨t, hcycle⟩
  have hsound : Sound locks (Transition.run step (start locks) actions) := Sound.run actions
  obtain ⟨u, hwait, _⟩ := Relation.TransGen.head'_iff.mp hcycle
  obtain ⟨r, hr, _⟩ := hwait.asks
  rcases hsound.chain hordered hcycle hr hr with hlt | ⟨_, _, _, hself⟩
  · exact lt_irrefl _ hlt
  · exact hself.1 rfl

/-! ### Rows taken in opposite orders -/

/-- Rows that no other transaction holds are locked one after the other. -/
theorem run_acquire {u : ι} {rest : List R} : ∀ {taken held : List R} {s : ι → Progress R},
    s u = ⟨held, taken ++ rest⟩ → (∀ r ∈ taken, Free s u r) →
      Transition.run step s (List.replicate taken.length (.acquire u)) =
        Function.update s u ⟨taken.reverse ++ held, rest⟩ := by
  intro taken
  induction taken with
  | nil =>
      intro held s hs _
      rw [List.nil_append] at hs
      rw [List.reverse_nil, List.nil_append, ← hs, Function.update_eq_self]
      rfl
  | cons r taken ih =>
      intro held s hs hfree
      have hstep : step s (.acquire u) = Function.update s u ⟨r :: held, taken ++ rest⟩ := by
        have hr : Free s u r := hfree r List.mem_cons_self
        simp only [step, hs, List.cons_append, if_pos hr]
      have hnext : ∀ q ∈ taken, Free (Function.update s u ⟨r :: held, taken ++ rest⟩) u q := by
        intro q hq v hv
        rw [Function.update_of_ne hv]
        exact hfree q (List.mem_cons_of_mem r hq) v hv
      rw [List.length_cons, List.replicate_succ, Transition.run_cons, hstep,
        ih (Function.update_self u _ s) hnext, Function.update_idem, List.reverse_cons,
        List.append_assoc, List.singleton_append]

/-- One transaction locks a row and then a second one; another starts with the second row and locks
the first one later. Some interleaving leaves them waiting for each other. -/
theorem exists_deadlocked (locks : ι → List R) {t u : ι} {x y : R} {rest later : List R}
    (hxy : x ≠ y) (htu : t ≠ u) (ht : locks t = x :: y :: rest) (hu : locks u = y :: later)
    (hx : x ∈ later) : ∃ actions, Deadlocked (Transition.run step (start locks) actions) := by
  obtain ⟨before, after, hlater, hnot⟩ := List.eq_append_cons_of_mem hx
  have hfirst : step (start locks) (.acquire t) = Function.update (start locks) t ⟨[x], y :: rest⟩ := by
    have hfree : Free (start locks) t x := fun _ _ => List.not_mem_nil
    simp only [step, start, ht, if_pos hfree]
  -- the second transaction goes on until it asks for the first row
  have hstart : Function.update (start locks) t ⟨[x], y :: rest⟩ u =
      ⟨[], (y :: before) ++ x :: after⟩ := by
    rw [Function.update_of_ne (Ne.symm htu), start, hu, hlater]
    rfl
  have hfree : ∀ r ∈ y :: before, Free (Function.update (start locks) t ⟨[x], y :: rest⟩) u r := by
    intro r hr v _ hheld
    by_cases hv : v = t
    · subst hv
      rw [Function.update_self, List.mem_singleton] at hheld
      subst hheld
      exact (List.mem_cons.mp hr).elim hxy hnot
    · rw [Function.update_of_ne hv] at hheld
      exact List.not_mem_nil hheld
  refine ⟨.acquire t :: List.replicate (y :: before).length (.acquire u), t, ?_⟩
  rw [Transition.run_cons, hfirst, run_acquire hstart hfree]
  refine Relation.TransGen.tail (.single ⟨Ne.symm htu, y, ?_, ?_⟩) ⟨htu, x, ?_, ?_⟩
  · rw [Function.update_of_ne htu, Function.update_self]
    rfl
  · rw [Function.update_self]
    simp
  · rw [Function.update_self]
    rfl
  · rw [Function.update_of_ne htu, Function.update_self]
    exact List.mem_singleton_self x

end

end Locking
