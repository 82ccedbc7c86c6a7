import Mathlib.Data.List.Basic
import Mathlib.Data.List.Induction
import Mathlib.Tactic.Common

/-! Counting in fixed windows. A window opens with the first hit after the last one has closed,
closes a fixed length later, and counts its hits. Times are integers in some unit and do not go
back. -/

namespace FixedWindow

structure Window where
  count : Nat
  closes : Int
  deriving DecidableEq

variable (length : Int)

/-- The window that a hit counts in: the open one, or one that it opens. -/
def hit (w : Option Window) (t : Int) : Window :=
  match w with
  | some ⟨count, closes⟩ => if t < closes then ⟨count + 1, closes⟩ else ⟨1, t + length⟩
  | none => ⟨1, t + length⟩

/-- The hits at some times, each with the count it raised its window to. -/
def counts (w : Option Window) : List Int → List (Int × Nat)
  | [] => []
  | t :: ts => (t, (hit length w t).count) :: counts (some (hit length w t)) ts

/-- The window after the hits at some times. -/
def after (w : Option Window) (ts : List Int) : Option Window :=
  ts.foldl (fun w t => some (hit length w t)) w

/-- How many of the hits from `a` on and before `b` are among the first `n` of their window. -/
def admitted (n : Nat) (a b : Int) (hits : List (Int × Nat)) : Nat :=
  hits.countP fun h => h.2 ≤ n ∧ a ≤ h.1 ∧ h.1 < b

variable {length}

theorem hit_open {count : Nat} {closes t : Int} (h : t < closes) :
    hit length (some ⟨count, closes⟩) t = ⟨count + 1, closes⟩ :=
  if_pos h

theorem hit_closed {count : Nat} {closes t : Int} (h : closes ≤ t) :
    hit length (some ⟨count, closes⟩) t = ⟨1, t + length⟩ :=
  if_neg (Int.not_lt.mpr h)

theorem counts_open {count : Nat} {closes t : Int} (h : t < closes) (ts : List Int) :
    counts length (some ⟨count, closes⟩) (t :: ts) =
      (t, count + 1) :: counts length (some ⟨count + 1, closes⟩) ts := by
  rw [counts, hit_open h]

theorem counts_closed {count : Nat} {closes t : Int} (h : closes ≤ t) (ts : List Int) :
    counts length (some ⟨count, closes⟩) (t :: ts) =
      (t, 1) :: counts length (some ⟨1, t + length⟩) ts := by
  rw [counts, hit_closed h]

theorem admitted_cons (n : Nat) (a b t : Int) (count : Nat) (hits : List (Int × Nat)) :
    admitted n a b ((t, count) :: hits) =
      admitted n a b hits + if count ≤ n ∧ a ≤ t ∧ t < b then 1 else 0 := by
  simp only [admitted, List.countP_cons, decide_eq_true_eq]

/-- Nothing is admitted before the first hit. -/
theorem admitted_eq_zero {n : Nat} {a b : Int} {w : Option Window} {ts : List Int}
    (h : ∀ t ∈ ts, b ≤ t) : admitted n a b (counts length w ts) = 0 := by
  induction ts generalizing w with
  | nil => rfl
  | cons t ts ih =>
      have hlate : b ≤ t := h t List.mem_cons_self
      rw [counts, admitted_cons, ih fun u hu => h u (List.mem_cons_of_mem t hu), if_neg (by omega)]

/-- Until an open window closes, no more than what it has left is admitted. -/
theorem admitted_within {n : Nat} {a b : Int} {count : Nat} {closes : Int} {ts : List Int}
    (hsorted : ts.Pairwise (· ≤ ·)) (hb : b ≤ closes) :
    admitted n a b (counts length (some ⟨count, closes⟩) ts) ≤ n - count := by
  induction ts generalizing count with
  | nil => exact Nat.zero_le _
  | cons t ts ih =>
      obtain ⟨hfirst, hrest⟩ := List.pairwise_cons.mp hsorted
      by_cases ht : t < b
      · rw [counts_open (by omega), admitted_cons]
        have hle : admitted n a b (counts length (some ⟨count + 1, closes⟩) ts) ≤ n - (count + 1) := ih hrest
        split <;> omega
      · rw [admitted_eq_zero]
        · exact Nat.zero_le _
        · intro u hu
          rcases List.mem_cons.mp hu with rfl | hu
          · omega
          · have := hfirst u hu
            omega

/-- An interval that ends before the window after an open one can close meets these two only. -/
theorem admitted_across {n : Nat} {a b : Int} {count : Nat} {closes : Int} {ts : List Int}
    (hsorted : ts.Pairwise (· ≤ ·)) (hb : b ≤ closes + length) :
    admitted n a b (counts length (some ⟨count, closes⟩) ts) ≤ (n - count) + n := by
  induction ts generalizing count with
  | nil => exact Nat.zero_le _
  | cons t ts ih =>
      obtain ⟨_, hrest⟩ := List.pairwise_cons.mp hsorted
      by_cases ht : t < closes
      · rw [counts_open ht, admitted_cons]
        have hle : admitted n a b (counts length (some ⟨count + 1, closes⟩) ts) ≤
            (n - (count + 1)) + n := ih hrest
        split <;> omega
      · rw [counts_closed (by omega), admitted_cons]
        have hle : admitted n a b (counts length (some ⟨1, t + length⟩) ts) ≤ n - 1 :=
          admitted_within hrest (by omega)
        split <;> omega

/-- No interval of the length of a window sees more than twice the limit admitted. -/
theorem admitted_le {n : Nat} {a b : Int} {w : Option Window} {ts : List Int}
    (hsorted : ts.Pairwise (· ≤ ·)) (hb : b ≤ a + length) :
    admitted n a b (counts length w ts) ≤ 2 * n := by
  induction ts generalizing w with
  | nil => exact Nat.zero_le _
  | cons t ts ih =>
      obtain ⟨_, hrest⟩ := List.pairwise_cons.mp hsorted
      by_cases ha : t < a
      · rw [counts, admitted_cons, if_neg (by omega)]
        exact ih hrest
      · have hnew : admitted n a b ((t, 1) :: counts length (some ⟨1, t + length⟩) ts) ≤ n := by
          have hle : admitted n a b (counts length (some ⟨1, t + length⟩) ts) ≤ n - 1 :=
            admitted_within hrest (by omega)
          rw [admitted_cons]
          split <;> omega
        match w with
        | none => exact Nat.le_trans hnew (by omega)
        | some ⟨count, closes⟩ =>
            by_cases ht : t < closes
            · -- the interval starts while the window is open
              have hle : admitted n a b (counts length (some ⟨count, closes⟩) (t :: ts)) ≤
                  (n - count) + n := admitted_across hsorted (by omega)
              omega
            · rw [counts_closed (by omega)]
              exact Nat.le_trans hnew (by omega)

/-- A window opened at one of the hits and has counted no more than those since. -/
theorem after_covered {ts : List Int} (hsorted : ts.Pairwise (· ≤ ·)) {w : Window}
    (h : after length none ts = some w) :
    w.closes - length ∈ ts ∧ w.count ≤ ts.countP fun u => w.closes - length ≤ u := by
  induction ts using List.reverseRecOn generalizing w with
  | nil => cases h
  | append_singleton ts t ih =>
      obtain ⟨hbefore, _, hlast⟩ := List.pairwise_append.mp hsorted
      have hw : hit length (after length none ts) t = w := by
        rw [after, List.foldl_append] at h
        exact Option.some.inj h
      have hnew : (⟨1, t + length⟩ : Window) = w → w.closes - length ∈ ts ++ [t] ∧
          w.count ≤ (ts ++ [t]).countP fun u => w.closes - length ≤ u := by
        rintro rfl
        simp
      match hafter : after length none ts with
      | none =>
          rw [hafter] at hw
          exact hnew hw
      | some ⟨count, closes⟩ =>
          rw [hafter] at hw
          by_cases ht : t < closes
          · obtain ⟨hmem, hcount⟩ := ih hbefore hafter
            rw [hit_open ht] at hw
            subst hw
            have hle : closes - length ≤ t := hlast _ hmem t (List.mem_singleton_self t)
            refine ⟨List.mem_append_left _ hmem, ?_⟩
            rw [List.countP_append, List.countP_singleton, if_pos (decide_eq_true hle)]
            exact Nat.succ_le_succ hcount
          · rw [hit_closed (by omega)] at hw
            exact hnew hw

/-- A hit is never counted higher than there were hits within the length of a window before it,
itself included. -/
theorem count_le_recent (hlength : 0 < length) {ts : List Int} {t : Int}
    (hsorted : (ts ++ [t]).Pairwise (· ≤ ·)) :
    (hit length (after length none ts) t).count ≤
      (ts ++ [t]).countP fun u => t - length < u := by
  set w := hit length (after length none ts) t with hw
  have hafter : after length none (ts ++ [t]) = some w := by
    rw [after, List.foldl_append]
    rfl
  obtain ⟨_, hcount⟩ := after_covered hsorted hafter
  have hopen : t < w.closes ∨ w.closes = t + length := by
    match hbefore : after length none ts with
    | none => exact Or.inr (by rw [hw, hbefore]; rfl)
    | some ⟨count, closes⟩ =>
        rw [hw, hbefore]
        by_cases ht : t < closes
        · rw [hit_open ht]
          exact Or.inl ht
        · rw [hit_closed (by omega)]
          exact Or.inr rfl
  refine Nat.le_trans hcount (List.countP_mono_left fun u hu hsince => ?_)
  rw [decide_eq_true_eq] at hsince ⊢
  omega

end FixedWindow
