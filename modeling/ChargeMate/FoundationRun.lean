import Mathlib.Data.List.Basic
import Mathlib.Tactic.Common

/-! Runs of a labelled transition function. A run is the list of actions taken from a state;
what one step preserves is carried to whole runs by the rules below, and to every reachable
state by `Reachable.invariant`. -/

namespace Transition

variable {σ α : Type} (step : σ → α → σ)

/-- The state a list of actions leads to. -/
def run (s : σ) (actions : List α) : σ := actions.foldl step s

@[simp] theorem run_nil (s : σ) : run step s [] = s := rfl

@[simp] theorem run_cons (s : σ) (a : α) (actions : List α) :
    run step s (a :: actions) = run step (step s a) actions := rfl

theorem run_append (s : σ) (first second : List α) :
    run step s (first ++ second) = run step (run step s first) second :=
  List.foldl_append

/-- The states some run leads to from an initial state. -/
def Reachable (init : σ → Prop) (s : σ) : Prop :=
  ∃ s₀ actions, init s₀ ∧ run step s₀ actions = s

variable {step} {init : σ → Prop}

theorem Reachable.initial {s : σ} (h : init s) : Reachable step init s := ⟨s, [], h, rfl⟩

theorem Reachable.run {s : σ} (h : Reachable step init s) (actions : List α) :
    Reachable step init (run step s actions) := by
  obtain ⟨s₀, before, hinit, rfl⟩ := h
  exact ⟨s₀, before ++ actions, hinit, run_append step s₀ before actions⟩

theorem Reachable.next {s : σ} (h : Reachable step init s) (a : α) :
    Reachable step init (step s a) :=
  h.run [a]

/-- A property that the end of a run has and its start has not is entered at one of its steps. -/
theorem exists_entry {Q : σ → Prop} {s : σ} {actions : List α} (hs : ¬Q s)
    (hend : Q (Transition.run step s actions)) : ∃ before a after, actions = before ++ a :: after ∧
      ¬Q (Transition.run step s before) ∧ Q (step (Transition.run step s before) a) := by
  induction actions generalizing s with
  | nil => exact absurd hend hs
  | cons a actions ih =>
      by_cases hnext : Q (step s a)
      · exact ⟨[], a, actions, rfl, hs, hnext⟩
      · obtain ⟨before, b, after, rfl, hnot, henter⟩ := ih hnext hend
        exact ⟨a :: before, b, after, rfl, hnot, henter⟩

/-- A property of the initial states that every step from a reachable state keeps holds of
every reachable state. -/
theorem Reachable.invariant {P : σ → Prop} (hinit : ∀ s, init s → P s)
    (hstep : ∀ s a, Reachable step init s → P s → P (step s a)) {s : σ}
    (h : Reachable step init s) : P s := by
  obtain ⟨s₀, actions, h₀, rfl⟩ := h
  have hrun : ∀ (actions : List α) (t : σ), Reachable step init t → P t →
      P (Transition.run step t actions) := by
    intro actions
    induction actions with
    | nil => exact fun _ _ ht => ht
    | cons a actions ih => exact fun t hreach ht => ih _ (hreach.next a) (hstep t a hreach ht)
  exact hrun actions s₀ (Reachable.initial h₀) (hinit s₀ h₀)

/-- A reflexive and transitive relation that contains every step from a reachable state relates
the ends of every run. -/
theorem Reachable.run_rel {Q : σ → σ → Prop} (hrefl : ∀ s, Q s s)
    (htrans : ∀ s t u, Q s t → Q t u → Q s u)
    (hstep : ∀ s a, Reachable step init s → Q s (step s a)) {s : σ}
    (h : Reachable step init s) (actions : List α) : Q s (Transition.run step s actions) := by
  induction actions generalizing s with
  | nil => exact hrefl s
  | cons a actions ih => exact htrans _ _ _ (hstep s a h) (ih (h.next a))

/-- What every step from a reachable state makes of a part of the state, up to a reflexive and
transitive relation, every run does. -/
theorem Reachable.run_part {X : Type} {f : σ → Option X} {Q : X → X → Prop} (hrefl : ∀ x, Q x x)
    (htrans : ∀ {x y z}, Q x y → Q y z → Q x z)
    (hstep : ∀ s a x, Reachable step init s → f s = some x → ∃ y, f (step s a) = some y ∧ Q x y)
    {s : σ} (h : Reachable step init s) (actions : List α) {x : X} (hx : f s = some x) :
    ∃ y, f (Transition.run step s actions) = some y ∧ Q x y := by
  have hrun := h.run_rel (Q := fun s t => ∀ x, f s = some x → ∃ y, f t = some y ∧ Q x y)
    (fun s x hx => ⟨x, hx, hrefl x⟩)
    (by
      intro s t u hst htu x hx
      obtain ⟨y, hy, hxy⟩ := hst x hx
      obtain ⟨z, hz, hyz⟩ := htu y hy
      exact ⟨z, hz, htrans hxy hyz⟩)
    (fun s a hs x hx => hstep s a x hs hx)
    actions
  exact hrun x hx

/-- Once a property holds that every step from a reachable state keeps, it holds from then on. -/
theorem Reachable.stable {P : σ → Prop}
    (hstep : ∀ s a, Reachable step init s → P s → P (step s a)) {s : σ}
    (h : Reachable step init s) (hs : P s) (actions : List α) :
    P (Transition.run step s actions) :=
  h.run_rel (Q := fun s t => P s → P t) (fun _ hs => hs) (fun _ _ _ hst htu hs => htu (hst hs))
    hstep actions hs

/-- Dropping actions from a run leads to a state that a relation `R` does not tell from the full
run's, if kept actions keep `R` and dropped ones do not disturb it. `P` is what the end of the run
says about the states before. -/
theorem run_filter {R : σ → σ → Prop} {P : σ → Prop} {keep : α → Bool}
    (hback : ∀ s a, P (step s a) → P s)
    (hkeep : ∀ s t a, R s t → keep a = true → R (step s a) (step t a))
    (hdrop : ∀ s t a, R s t → P (step s a) → keep a = false → R (step s a) t) {s t : σ}
    (h : R s t) {actions : List α} (hend : P (Transition.run step s actions)) :
    R (Transition.run step s actions) (Transition.run step t (actions.filter keep)) := by
  have hbefore : ∀ (actions : List α) (s : σ), P (Transition.run step s actions) → P s := by
    intro actions
    induction actions with
    | nil => exact fun _ hs => hs
    | cons a actions ih => exact fun s hs => hback s a (ih _ hs)
  induction actions generalizing s t with
  | nil => exact h
  | cons a actions ih =>
      cases ha : keep a with
      | true =>
          rw [List.filter_cons_of_pos ha]
          exact ih (hkeep s t a h ha) hend
      | false =>
          rw [List.filter_cons_of_neg (by simp [ha])]
          exact ih (hdrop s t a h (hbefore actions _ hend) ha) hend

/-! ### Conditions on the steps of a run -/

variable (step)

/-- Every step of the run is taken from a state and with an action that meet a condition. -/
def Along (C : σ → α → Prop) : σ → List α → Prop
  | _, [] => True
  | s, a :: actions => C s a ∧ Along C (step s a) actions

instance Along.decidable (C : σ → α → Prop) [∀ s a, Decidable (C s a)] :
    ∀ (s : σ) (actions : List α), Decidable (Along step C s actions)
  | _, [] => isTrue trivial
  | s, a :: actions =>
      have := Along.decidable C (step s a) actions
      inferInstanceAs (Decidable (C s a ∧ Along step C (step s a) actions))

variable {step}

/-- Under a condition on its steps, a run keeps what such steps keep. -/
theorem Along.invariant {C : σ → α → Prop} {P : σ → Prop}
    (hstep : ∀ s a, Reachable step init s → P s → C s a → P (step s a)) {s : σ}
    (h : Reachable step init s) (hs : P s) {actions : List α} (halong : Along step C s actions) :
    P (run step s actions) := by
  induction actions generalizing s with
  | nil => exact hs
  | cons a actions ih => exact ih (h.next a) (hstep s a h hs halong.1) halong.2

/-- The same rule for a property that does not need reachability. -/
theorem Along.kept {C : σ → α → Prop} {P : σ → Prop}
    (hstep : ∀ s a, P s → C s a → P (step s a)) {s : σ} (hs : P s) {actions : List α}
    (halong : Along step C s actions) : P (run step s actions) := by
  have hinit : Reachable step (fun _ => True) s := Reachable.initial trivial
  exact Along.invariant (fun s a _ => hstep s a) hinit hs halong

/-- What an invariant and the condition on a step imply of the step holds along the run. -/
theorem Along.imp {C D : σ → α → Prop} {P : σ → Prop}
    (hstep : ∀ s a, P s → C s a → P (step s a)) (himp : ∀ s a, P s → C s a → D s a) {s : σ}
    (hs : P s) {actions : List α} (halong : Along step C s actions) : Along step D s actions := by
  induction actions generalizing s with
  | nil => trivial
  | cons a actions ih =>
      exact ⟨himp s a hs halong.1, ih (hstep s a hs halong.1) halong.2⟩

/-- If a step from a state with a property keeps it exactly under a condition, then the property holds
throughout a run exactly when every step of the run meets the condition. -/
theorem Along.exact {C : σ → α → Prop} {P : σ → Prop}
    (hstep : ∀ s a, Reachable step init s → P s → (P (step s a) ↔ C s a)) {s : σ}
    (h : Reachable step init s) (hs : P s) (actions : List α) :
    (∀ before, before <+: actions → P (run step s before)) ↔ Along step C s actions := by
  induction actions generalizing s with
  | nil =>
      refine iff_of_true ?_ trivial
      intro before hbefore
      rw [List.prefix_nil.mp hbefore]
      exact hs
  | cons a actions ih =>
      constructor
      · intro hall
        have hnext : P (step s a) := hall [a] (List.prefix_append [a] actions)
        refine ⟨(hstep s a h hs).mp hnext, (ih (h.next a) hnext).mp ?_⟩
        intro before hbefore
        exact hall (a :: before) (List.cons_prefix_cons.mpr ⟨rfl, hbefore⟩)
      · rintro ⟨hC, halong⟩ before hbefore
        cases before with
        | nil => exact hs
        | cons c before =>
            obtain ⟨rfl, htail⟩ := List.cons_prefix_cons.mp hbefore
            exact (ih (h.next c) ((hstep s c h hs).mpr hC)).mpr halong before htail

variable (step)

/-- How many steps of a run fire, for a notion of firing of one step. -/
def firings (fires : σ → α → Bool) : σ → List α → Nat
  | _, [] => 0
  | s, a :: actions => (if fires s a then 1 else 0) + firings fires (step s a) actions

variable {step}

/-- If firing leads to a lasting state in which nothing fires, a run fires at most once. -/
theorem firings_le_one {fires : σ → α → Bool} {D : σ → Prop}
    (henter : ∀ s a, Reachable step init s → fires s a = true → D (step s a))
    (hkeep : ∀ s a, Reachable step init s → D s → D (step s a))
    (hquiet : ∀ s a, Reachable step init s → D s → fires s a = false) {s : σ}
    (h : Reachable step init s) (actions : List α) : firings step fires s actions ≤ 1 := by
  have hzero : ∀ (actions : List α) (t : σ), Reachable step init t → D t →
      firings step fires t actions = 0 := by
    intro actions
    induction actions with
    | nil => exact fun _ _ _ => rfl
    | cons a actions ih =>
        intro t hreach ht
        simp [firings, hquiet t a hreach ht, ih _ (hreach.next a) (hkeep t a hreach ht)]
  induction actions generalizing s with
  | nil => exact Nat.zero_le 1
  | cons a actions ih =>
      rw [firings]
      cases hf : fires s a with
      | false => simpa using ih (h.next a)
      | true => simp [hzero actions _ (h.next a) (henter s a h hf)]

/-! ### Repeating a counted step -/

/-- Repeat a step that answers how much it has done until it answers 0, and add the answers up;
`none` if the given number of steps does not suffice. -/
def untilZero (f : σ → Nat × σ) : Nat → σ → Option (Nat × σ)
  | 0, _ => none
  | fuel + 1, s =>
      if (f s).1 = 0 then some (f s)
      else (untilZero f fuel (f s).2).map fun rest => ((f s).1 + rest.1, rest.2)

/-- A step that takes its answer off what there is to do, and answers 0 only when there is nothing,
comes to an end. Its answers add up to what there was, and a reflexive and transitive relation
that contains the step relates the first state to the last. -/
theorem untilZero_eq_some {f : σ → Nat × σ} {m : σ → Nat} {Q : σ → σ → Prop}
    (htrans : ∀ {s t u}, Q s t → Q t u → Q s u) (hstep : ∀ s, Q s (f s).2)
    (hcount : ∀ s, (f s).1 + m (f s).2 = m s)
    (hidle : ∀ s, (f s).1 = 0 → m s = 0) {fuel : Nat} {s : σ} (hfuel : m s < fuel) :
    ∃ t, untilZero f fuel s = some (m s, t) ∧ m t = 0 ∧ Q s t := by
  induction fuel generalizing s with
  | zero => exact absurd hfuel (Nat.not_lt_zero _)
  | succ fuel ih =>
      have hsum := hcount s
      by_cases hzero : (f s).1 = 0
      · have hnone := hidle s hzero
        refine ⟨(f s).2, ?_, by omega, hstep s⟩
        rw [untilZero, if_pos hzero, hnone, ← hzero]
      · obtain ⟨t, hrest, hdone, hQ⟩ := ih (s := (f s).2) (by omega)
        refine ⟨t, ?_, hdone, htrans (hstep s) hQ⟩
        rw [untilZero, if_neg hzero, hrest, Option.map_some, hsum]

end Transition
