import Mathlib.Logic.Function.Basic
import Mathlib.Tactic.Common

/-! Stores whose entries vanish at a time of their own. What every write keeps holds of whatever is
read, and the entry that is read has not vanished. -/

namespace Expiring

variable {K V T : Type}

/-- A value, and when it vanishes, if it ever does. -/
structure Entry (V T : Type) where
  value : V
  expiresAt : Option T

abbrev Store (K V T : Type) := K → Option (Entry V T)

namespace Store

def get [LT T] [DecidableLT T] (store : Store K V T) (now : T) (k : K) : Option V :=
  ((store k).filter fun e => e.expiresAt.all fun t => now < t).map Entry.value

def put [DecidableEq K] (store : Store K V T) (k : K) (e : Entry V T) : Store K V T :=
  Function.update store k (some e)

def evict [DecidableEq K] (store : Store K V T) (k : K) : Store K V T :=
  Function.update store k none

/-- Every entry has a property, with its key. -/
def Keeps (P : K → Entry V T → Prop) (store : Store K V T) : Prop :=
  ∀ k e, store k = some e → P k e

variable {P Q : K → Entry V T → Prop} {store : Store K V T}

theorem Keeps.mono (h : Keeps P store) (hPQ : ∀ k e, P k e → Q k e) : Keeps Q store :=
  fun k e he => hPQ k e (h k e he)

theorem Keeps.put [DecidableEq K] (h : Keeps P store) {k : K} {e : Entry V T} (he : P k e) :
    Keeps P (store.put k e) := by
  intro k' e' hentry
  by_cases hk : k' = k
  · subst hk
    rw [Store.put, Function.update_self] at hentry
    cases hentry
    exact he
  · rw [Store.put, Function.update_of_ne hk] at hentry
    exact h k' e' hentry

theorem Keeps.evict [DecidableEq K] (h : Keeps P store) (k : K) : Keeps P (store.evict k) := by
  intro k' e' hentry
  by_cases hk : k' = k
  · subst hk
    rw [Store.evict, Function.update_self] at hentry
    cases hentry
  · rw [Store.evict, Function.update_of_ne hk] at hentry
    exact h k' e' hentry

theorem Keeps.get [LT T] [DecidableLT T] (h : Keeps P store) {now : T} {k : K} {v : V}
    (hget : store.get now k = some v) : ∃ e, P k e ∧ e.value = v ∧ ∀ t ∈ e.expiresAt, now < t := by
  obtain ⟨e, hfilter, hvalue⟩ := Option.map_eq_some_iff.mp hget
  obtain ⟨hentry, hlive⟩ := Option.filter_eq_some_iff.mp hfilter
  have hbefore : ∀ t ∈ e.expiresAt, now < t := by
    intro t ht
    rw [Option.mem_def] at ht
    rw [ht] at hlive
    exact of_decide_eq_true hlive
  exact ⟨e, h k e hentry, hvalue, hbefore⟩

end Store

end Expiring
