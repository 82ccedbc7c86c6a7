import Mathlib.Data.List.Basic
import Mathlib.Tactic.Common

/-! Failure counters with a lockout. The counter counts the failures since the last success or the
last lock; the failure that reaches the maximum locks it for a fixed length, and an attempt made
under the lock is refused. Times are integers in some unit and do not go back. -/

namespace Lockout

structure FailureCounter where
  failures : Nat
  lockedUntil : Option Int
  deriving DecidableEq

structure Attempt where
  time : Int
  passes : Bool
  deriving DecidableEq

structure Outcome where
  time : Int
  refused : Bool
  succeeded : Bool
  deriving DecidableEq

def FailureCounter.locked (c : FailureCounter) (t : Int) : Bool :=
  match c.lockedUntil with
  | none => false
  | some u => t < u

/-- The failures that the next one adds to: a lock that has run out takes its failures with it. -/
def FailureCounter.standing (c : FailureCounter) : Nat :=
  if c.lockedUntil.isSome then 0 else c.failures

variable (maximum : Nat) (length : Int)

def FailureCounter.attempt (c : FailureCounter) (x : Attempt) : FailureCounter :=
  if c.locked x.time then c
  else if x.passes then ⟨0, none⟩
  else if maximum ≤ c.standing + 1 then ⟨c.standing + 1, some (x.time + length)⟩
  else ⟨c.standing + 1, none⟩

def FailureCounter.outcome (c : FailureCounter) (x : Attempt) : Outcome :=
  ⟨x.time, c.locked x.time, !c.locked x.time && x.passes⟩

/-- The counter after some attempts. -/
def after (c : FailureCounter) (attempts : List Attempt) : FailureCounter :=
  attempts.foldl (FailureCounter.attempt maximum length) c

def outcomes (c : FailureCounter) : List Attempt → List Outcome
  | [] => []
  | x :: attempts => c.outcome x :: outcomes (c.attempt maximum length x) attempts

/-- The attempt is made from `a` on and less than a lock's length later. -/
def Outcome.Within (a : Int) (o : Outcome) : Prop := a ≤ o.time ∧ o.time < a + length

instance (a : Int) (o : Outcome) : Decidable (o.Within length a) :=
  inferInstanceAs (Decidable (_ ∧ _))

/-- How many attempts of a window the lock does not refuse. -/
def admitted (a : Int) (os : List Outcome) : Nat :=
  os.countP fun o => o.Within length a ∧ o.refused = false

/-- Unlocked below the maximum, or locked at the maximum. -/
def FailureCounter.Sound (c : FailureCounter) : Prop :=
  (c.lockedUntil = none ∧ c.failures < maximum) ∨
    (c.lockedUntil.isSome = true ∧ c.failures = maximum)

variable {maximum : Nat} {length : Int}

/-! ### One attempt -/

theorem attempt_of_locked {c : FailureCounter} {x : Attempt} (h : c.locked x.time = true) :
    c.attempt maximum length x = c :=
  if_pos h

theorem FailureCounter.Sound.standing_lt {c : FailureCounter} (h : c.Sound maximum)
    (hmax : 1 ≤ maximum) :
    c.standing < maximum := by
  unfold FailureCounter.standing
  rcases h with ⟨hnone, hlt⟩ | ⟨hsome, _⟩
  · rw [hnone]
    exact hlt
  · rw [if_pos hsome]
    omega

theorem FailureCounter.Sound.attempt {c : FailureCounter} (h : c.Sound maximum) (hmax : 1 ≤ maximum)
    (x : Attempt) : (c.attempt maximum length x).Sound maximum := by
  have hstanding := h.standing_lt hmax
  unfold FailureCounter.attempt
  split
  · exact h
  · split
    · exact Or.inl ⟨rfl, hmax⟩
    · split
      · next hfull => exact Or.inr ⟨rfl, Nat.le_antisymm hstanding hfull⟩
      · next hroom => exact Or.inl ⟨rfl, Nat.lt_of_not_le hroom⟩

theorem FailureCounter.Sound.after {c : FailureCounter} (h : c.Sound maximum)
    (hmax : 1 ≤ maximum) (length : Int) (attempts : List Attempt) : (after maximum length c attempts).Sound maximum := by
  induction attempts generalizing c with
  | nil => exact h
  | cons x attempts ih => exact ih (h.attempt hmax x)

/-! ### Windows -/

theorem admitted_cons (a : Int) (o : Outcome) (os : List Outcome) :
    admitted length a (o :: os) =
      admitted length a os + if o.Within length a ∧ o.refused = false then 1 else 0 := by
  simp only [admitted, List.countP_cons, decide_eq_true_eq]

/-- Attempts after the window do not count. -/
theorem admitted_late {a : Int} {attempts : List Attempt}
    (hlate : ∀ x ∈ attempts, a + length ≤ x.time) (c : FailureCounter) :
    admitted length a (outcomes maximum length c attempts) = 0 := by
  induction attempts generalizing c with
  | nil => rfl
  | cons x attempts ih =>
      have hx : ¬((c.outcome x).Within length a ∧ (c.outcome x).refused = false) := by
        rintro ⟨⟨_, hlt⟩, _⟩
        exact absurd (hlate x List.mem_cons_self) (Int.not_le.mpr hlt)
      rw [outcomes, admitted_cons, if_neg hx, ih fun y hy => hlate y (List.mem_cons_of_mem x hy)]

section

variable {attempts : List Attempt} {a : Int}

theorem le_of_le_head {x : Attempt} (hsorted : (x :: attempts).Pairwise fun x y => x.time ≤ y.time)
    {t : Int} (ht : t ≤ x.time) : ∀ y ∈ x :: attempts, t ≤ y.time := by
  intro y hy
  rcases List.mem_cons.mp hy with rfl | hy
  · exact ht
  · exact Int.le_trans ht ((List.pairwise_cons.mp hsorted).1 y hy)

theorem not_admitted_of_locked {c : FailureCounter} {x : Attempt} (h : c.locked x.time = true) :
    ¬((c.outcome x).Within length a ∧ (c.outcome x).refused = false) := by
  rintro ⟨_, hopen⟩
  exact absurd (h.symm.trans hopen) (by decide)

/-- A lock that outlasts the window refuses the rest of it. -/
theorem admitted_locked (hsorted : attempts.Pairwise fun x y => x.time ≤ y.time) {c : FailureCounter}
    {u : Int} (hlock : c.lockedUntil = some u) (hlong : a + length ≤ u) :
    admitted length a (outcomes maximum length c attempts) = 0 := by
  induction attempts with
  | nil => rfl
  | cons x attempts ih =>
      by_cases hlate : a + length ≤ x.time
      · exact admitted_late (le_of_le_head hsorted hlate) c
      · have hlocked : c.locked x.time = true := by
          rw [FailureCounter.locked, hlock]
          exact decide_eq_true (by omega)
        rw [outcomes, admitted_cons, if_neg (not_admitted_of_locked hlocked),
          attempt_of_locked hlocked, ih hsorted.of_cons]

/-- From within a window without a success, as many attempts are left as the counter lacks to the
maximum. -/
theorem admitted_within (hmax : 1 ≤ maximum)
    (hsorted : attempts.Pairwise fun x y => x.time ≤ y.time) (hstart : ∀ x ∈ attempts, a ≤ x.time)
    {c : FailureCounter} (hsound : c.Sound maximum)
    (hfail : ∀ o ∈ outcomes maximum length c attempts, o.Within length a → o.succeeded = false) :
    admitted length a (outcomes maximum length c attempts) + c.standing ≤ maximum := by
  induction attempts generalizing c with
  | nil =>
      have hstanding := hsound.standing_lt hmax
      show 0 + c.standing ≤ maximum
      omega
  | cons x attempts ih =>
      have hrest := hsorted.of_cons
      have hstanding := hsound.standing_lt hmax
      have hx : a ≤ x.time := hstart x List.mem_cons_self
      have hstart' : ∀ y ∈ attempts, a ≤ y.time := fun y hy => hstart y (List.mem_cons_of_mem x hy)
      have hfail' : ∀ o ∈ outcomes maximum length (c.attempt maximum length x) attempts,
          o.Within length a → o.succeeded = false :=
        fun o ho => hfail o (List.mem_cons_of_mem _ ho)
      have hnext := ih hrest hstart' (hsound.attempt hmax x) hfail'
      by_cases hlate : a + length ≤ x.time
      · rw [admitted_late (le_of_le_head hsorted hlate)]
        omega
      rw [outcomes, admitted_cons]
      by_cases hlocked : c.locked x.time = true
      · rw [attempt_of_locked hlocked] at hnext ⊢
        rw [if_neg (not_admitted_of_locked hlocked)]
        exact hnext
      · have hwithin : (c.outcome x).Within length a := ⟨hx, Int.not_le.mp hlate⟩
        have hwrong : x.passes = false := by
          have hnot := hfail (c.outcome x) List.mem_cons_self hwithin
          simpa [FailureCounter.outcome, hlocked] using hnot
        rw [if_pos ⟨hwithin, by simpa [FailureCounter.outcome] using hlocked⟩]
        rw [FailureCounter.attempt, if_neg hlocked, hwrong, if_neg Bool.false_ne_true] at hnext ⊢
        split at hnext
        · next hfull =>
          -- the attempt has locked the counter beyond the window
          rw [if_pos hfull, admitted_locked hrest rfl (by omega)]
          omega
        · next hroom =>
          rw [if_neg hroom]
          have hcount : FailureCounter.standing ⟨c.standing + 1, none⟩ = c.standing + 1 := rfl
          rw [hcount] at hnext
          omega

/-- In any window as long as a lock, without a success, at most the maximum of attempts is not
refused. -/
theorem admitted_le (hmax : 1 ≤ maximum) (hsorted : attempts.Pairwise fun x y => x.time ≤ y.time)
    {c : FailureCounter} (hsound : c.Sound maximum)
    (hfail : ∀ o ∈ outcomes maximum length c attempts, o.Within length a → o.succeeded = false) :
    admitted length a (outcomes maximum length c attempts) ≤ maximum := by
  induction attempts generalizing c with
  | nil => exact Nat.zero_le maximum
  | cons x attempts ih =>
      by_cases hx : a ≤ x.time
      · have hcount := admitted_within hmax hsorted (le_of_le_head hsorted hx) hsound hfail
        exact Nat.le_trans (Nat.le_add_right _ _) hcount
      · -- an attempt before the window only moves the counter
        have hbefore : ¬((c.outcome x).Within length a ∧ (c.outcome x).refused = false) := by
          rintro ⟨⟨hle, _⟩, _⟩
          exact hx hle
        rw [outcomes, admitted_cons, if_neg hbefore]
        exact ih hsorted.of_cons (hsound.attempt hmax x) fun o ho => hfail o (List.mem_cons_of_mem _ ho)

end

end Lockout
