import ChargeMate.FoundationRun

/-! A shared value whose clients read it, compute from what they have read and write later,
without a lock in between. A write is undisturbed if no write has changed the value since its
reading. Runs of undisturbed writes are serial: the value is the computations applied one after
the other in commit order, and what one computation keeps, the run keeps. -/

namespace Cell

variable {V I : Type}

/-- What a client has read: the value and its version, with the client's own input. -/
structure Reading (V I : Type) where
  input : I
  value : V
  version : Nat

/-- The value with the count of the writes that changed it, the readings not yet written back, and
the inputs of the clients that have written, in order. -/
structure State (V I : Type) where
  value : V
  version : Nat
  readings : List (Reading V I)
  committed : List I

inductive Action (I : Type) where
  | read (input : I)
  | write (reading : Nat)
  deriving DecidableEq

def start (v : V) : State V I where
  value := v
  version := 0
  readings := []
  committed := []

/-- `compute` is what a client makes of its reading; `store loaded computed stored` is what its
write leaves of the stored value. -/
structure Client (V I : Type) where
  compute : I → V → V
  store : V → V → V → V
  store_loaded : ∀ i v, store v (compute i v) v = compute i v

variable [DecidableEq V] (client : Client V I)

/-- Write back a reading. A computation that changes nothing writes nothing. -/
def write (s : State V I) (r : Reading V I) : State V I :=
  if client.compute r.input r.value = r.value then { s with committed := s.committed ++ [r.input] }
  else
    { s with
      value := client.store r.value (client.compute r.input r.value) s.value
      version := s.version + 1
      committed := s.committed ++ [r.input] }

def read (s : State V I) (input : I) : State V I :=
  { s with readings := s.readings ++ [⟨input, s.value, s.version⟩] }

def step (s : State V I) : Action I → State V I
  | .read input => read s input
  | .write n =>
      match s.readings[n]? with
      | none => s
      | some r => write client { s with readings := s.readings.eraseIdx n } r

/-- A write finds the version it has read, and a condition holds of the value, the commits so far
and the input. -/
def Undisturbed (C : V → List I → I → Prop) (s : State V I) : Action I → Prop
  | .read _ => True
  | .write n => ∀ r ∈ s.readings[n]?, r.version = s.version ∧ C s.value s.committed r.input

instance (C : V → List I → I → Prop) [∀ v is i, Decidable (C v is i)] (s : State V I)
    (a : Action I) : Decidable (Undisturbed C s a) := by
  cases a <;> unfold Undisturbed <;> infer_instance

/-- A reading of the present version is of the present value, and readings have inputs that satisfy
`W`. -/
structure Sound (W : I → Prop) (s : State V I) : Prop where
  current : ∀ r ∈ s.readings, r.version = s.version → r.value = s.value
  past : ∀ r ∈ s.readings, r.version ≤ s.version
  inputs : ∀ r ∈ s.readings, W r.input

namespace Sound

variable {client} {W : I → Prop} {s : State V I}

omit [DecidableEq V] in
theorem read (h : Sound W s) {input : I} (hinput : W input) : Sound W (read s input) := by
  have hcases : ∀ r ∈ (Cell.read s input).readings,
      r ∈ s.readings ∨ r = ⟨input, s.value, s.version⟩ := by
    intro r hr
    simpa [Cell.read] using hr
  refine ⟨?_, ?_, ?_⟩
  · intro r hr hversion
    rcases hcases r hr with hold | rfl
    · exact h.current r hold hversion
    · rfl
  · intro r hr
    rcases hcases r hr with hold | rfl
    · exact h.past r hold
    · exact Nat.le_refl s.version
  · intro r hr
    rcases hcases r hr with hold | rfl
    · exact h.inputs r hold
    · exact hinput

theorem write (h : Sound W s) (n : Nat) (r : Reading V I) :
    Sound W (write client { s with readings := s.readings.eraseIdx n } r) := by
  have hsub : ∀ {x}, x ∈ s.readings.eraseIdx n → x ∈ s.readings := List.mem_of_mem_eraseIdx
  unfold Cell.write
  split
  · exact ⟨fun x hx => h.current x (hsub hx), fun x hx => h.past x (hsub hx),
      fun x hx => h.inputs x (hsub hx)⟩
  · refine ⟨?_, ?_, fun x hx => h.inputs x (hsub hx)⟩
    · intro x hx hversion
      have hpast := h.past x (hsub hx)
      simp only at hversion
      omega
    · intro x hx
      exact Nat.le_succ_of_le (h.past x (hsub hx))

theorem step (h : Sound W s) {a : Action I} (hinput : ∀ i, a = .read i → W i) :
    Sound W (step client s a) := by
  cases a with
  | read input => exact h.read (hinput input rfl)
  | write n =>
      cases hr : s.readings[n]? with
      | none => simpa only [Cell.step, hr] using h
      | some r => simpa only [Cell.step, hr] using h.write n r

end Sound

/-- An undisturbed write applies its computation to the stored value. -/
theorem value_write {s : State V I} {r : Reading V I} (h : r.value = s.value) :
    (write client s r).value = client.compute r.input s.value ∧
      (write client s r).committed = s.committed ++ [r.input] := by
  unfold write
  rw [h]
  split
  · next hsame => exact ⟨hsame.symm, rfl⟩
  · exact ⟨client.store_loaded r.input s.value, rfl⟩

variable {client}

section serial

variable {W : I → Prop} {C : V → List I → I → Prop} {Q : V → List I → Prop}
variable (hQ : ∀ v is i, W i → C v is i → Q v is → Q (client.compute i v) (is ++ [i]))
include hQ

/-- An undisturbed step keeps what each computation keeps. -/
theorem serial_step {s : State V I} {a : Action I} (hsound : Sound W s)
    (ha : Undisturbed C s a) (h : Q s.value s.committed) :
    Q (step client s a).value (step client s a).committed := by
  cases a with
  | read input => exact h
  | write n =>
      cases hr : s.readings[n]? with
      | none => simpa only [step, hr] using h
      | some r =>
          have hmem := List.mem_of_getElem? hr
          obtain ⟨hversion, hC⟩ := ha r hr
          obtain ⟨hvalue, hcommitted⟩ := value_write client
            (s := { s with readings := s.readings.eraseIdx n })
            (hsound.current r hmem hversion)
          simp only [step, hr, hvalue, hcommitted]
          exact hQ s.value s.committed r.input (hsound.inputs r hmem) hC h

/-- Serial reasoning: under undisturbed writes, a property of the value and the commits so far that
each computation keeps holds at the end of every run. -/
theorem serial {v : V} (hstart : Q v []) {actions : List (Action I)}
    (hinputs : ∀ i, .read i ∈ actions → W i)
    (halong : Transition.Along (step client) (Undisturbed C) (start v) actions) :
    Q (Transition.run (step client) (start v) actions).value
      (Transition.run (step client) (start v) actions).committed := by
  have hrun : ∀ (actions : List (Action I)) (s : State V I), Sound W s → Q s.value s.committed →
      (∀ i, .read i ∈ actions → W i) → Transition.Along (step client) (Undisturbed C) s actions →
      Q (Transition.run (step client) s actions).value
        (Transition.run (step client) s actions).committed := by
    intro actions
    induction actions with
    | nil => exact fun s _ hs _ _ => hs
    | cons a actions ih =>
        intro s hsound hs hinputs halong
        apply ih (step client s a)
        · exact hsound.step fun i hi => hinputs i (hi ▸ List.mem_cons_self)
        · exact serial_step hQ hsound halong.1 hs
        · exact fun i hi => hinputs i (List.mem_cons_of_mem a hi)
        · exact halong.2
  refine hrun actions (start v) ?_ hstart hinputs halong
  constructor <;> exact fun r hr => absurd hr List.not_mem_nil

end serial

end Cell
