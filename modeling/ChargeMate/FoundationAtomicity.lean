import ChargeMate.FoundationRun
import Mathlib.Data.Fintype.Basic
import Mathlib.Logic.Function.Basic

/-! Strict two-phase locking makes transactions atomic. A transaction selects its rows one by one,
each under a lock that it keeps, and computes what it commits from the rows it has selected. Its
statements interleave with those of other transactions, it may be rolled back at any time, and
other writers may commit in between. Every run then leaves what some serial run leaves, in which
each transaction that has finished runs at once, and each has returned what it returns there. -/

namespace Atomicity

variable {ι : Type} {V : ι → Type} {S K R T : Type}

/-- A transaction over the states `S`, whose tables have the rows `V`: the statements
`SELECT ... FOR UPDATE`, and what is returned and written at the commit. A statement that selects no
row ends the transaction with a rollback. `row` is what a statement selects, `key` the name of its
lock. -/
inductive Program (V : ι → Type) (S K R : Type) : Type where
  | select {i : ι} (row : S → Option (V i)) (key : V i → K) (missing : R)
      (next : V i → Program V S K R)
  | commit (write : S → R × S)

/-- The transaction with nothing in between. -/
def Program.run : Program V S K R → S → R × S
  | .select row _ missing next, s =>
      match row s with
      | none => (missing, s)
      | some a => (next a).run s
  | .commit write, s => write s

/-- `same k` says that the row that `k` locks in one state is as it is in another, `I` is an
invariant of the states. A selected row is selected as long as it is the same, and a commit changes
no row but those that the transaction has locked. -/
def Program.Disciplined (I : S → Prop) (same : K → S → S → Prop) : List K → Program V S K R → Prop
  | held, .select row key _ next =>
      (∀ s s' a, I s → I s' → row s = some a → same (key a) s s' → row s' = some a) ∧
        ∀ a, (next a).Disciplined I same (key a :: held)
  | held, .commit write => ∀ s, I s → I (write s).2 ∧ ∀ k, k ∉ held → same k s (write s).2

theorem Program.run_select {i : ι} {row : S → Option (V i)} {key : V i → K} {missing : R}
    {next : V i → Program V S K R} {s : S} {a : V i} (h : row s = some a) :
    (Program.select row key missing next).run s = (next a).run s := by
  simp only [Program.run, h]

theorem Program.run_missing {i : ι} {row : S → Option (V i)} {key : V i → K} {missing : R}
    {next : V i → Program V S K R} {s : S} (h : row s = none) :
    (Program.select row key missing next).run s = (missing, s) := by
  simp only [Program.run, h]

/-! ### Interleaved statements -/

inductive Phase (V : ι → Type) (S K R : Type) : Type where
  | running (held : List K) (rest : Program V S K R)
  | finished (result : R)

/-- A transaction releases its locks when it ends. -/
def Phase.held : Phase V S K R → List K
  | .running held _ => held
  | .finished _ => []

structure State (V : ι → Type) (S K R T : Type) : Type where
  store : S
  phase : T → Phase V S K R

inductive Action (S T : Type) where
  /-- The next statement of a transaction, or its commit. -/
  | advance (t : T)
  | rollback (t : T)
  /-- Another writer commits. -/
  | other (write : S → S)

def Action.write : Action S T → Option (S → S)
  | .other write => some write
  | _ => none

/-- No other transaction has locked the row. -/
def Free (s : State V S K R T) (t : T) (k : K) : Prop := ∀ u, u ≠ t → k ∉ (s.phase u).held

section

variable [Fintype T] [DecidableEq T] [DecidableEq K] (programs : T → Program V S K R)

instance (s : State V S K R T) (t : T) (k : K) : Decidable (Free s t k) := by
  unfold Free
  infer_instance

/-- No transaction has begun. -/
def start (s : S) : State V S K R T := ⟨s, fun t => .running [] (programs t)⟩

/-- A statement whose row another transaction has locked waits, which changes nothing. -/
def advance (s : State V S K R T) (t : T) : State V S K R T :=
  match s.phase t with
  | .finished _ => s
  | .running held (.select row key missing next) =>
      match row s.store with
      | none => { s with phase := Function.update s.phase t (.finished missing) }
      | some a =>
          if Free s t (key a) then
            { s with phase := Function.update s.phase t (.running (key a :: held) (next a)) }
          else s
  | .running _ (.commit write) =>
      ⟨(write s.store).2, Function.update s.phase t (.finished (write s.store).1)⟩

/-- A transaction that is rolled back may begin again. -/
def rollback (s : State V S K R T) (t : T) : State V S K R T :=
  match s.phase t with
  | .finished _ => s
  | .running _ _ => { s with phase := Function.update s.phase t (.running [] (programs t)) }

def step (s : State V S K R T) : Action S T → State V S K R T
  | .advance t => advance s t
  | .rollback t => rollback programs s t
  | .other write => { s with store := write s.store }

end

/-! ### What holds in every state -/

section

variable {programs : T → Program V S K R} {I : S → Prop} {same : K → S → S → Prop}

/-- No row is locked twice, and a transaction run at once from the present state, or from one that
agrees with it on the locked rows, does what is left of it. -/
structure Sound (programs : T → Program V S K R) (I : S → Prop) (same : K → S → S → Prop)
    (s : State V S K R T) : Prop where
  kept : I s.store
  exclusive : ∀ t u k, k ∈ (s.phase t).held → k ∈ (s.phase u).held → t = u
  disciplined : ∀ t held rest, s.phase t = .running held rest → rest.Disciplined I same held
  tracks : ∀ t held rest, s.phase t = .running held rest → ∀ s', I s' →
    (∀ k ∈ held, same k s.store s') → (programs t).run s' = rest.run s'

/-- Another writer keeps the invariant and changes no locked row. -/
def Respects (I : S → Prop) (same : K → S → S → Prop) (s : State V S K R T) : Action S T → Prop
  | .other write => I (write s.store) ∧ ∀ t, ∀ k ∈ (s.phase t).held, same k s.store (write s.store)
  | _ => True

theorem Sound.start {s : S} (hs : I s) (hprograms : ∀ t, (programs t).Disciplined I same []) :
    Sound programs I same (start programs s) where
  kept := hs
  exclusive _ _ _ h := absurd h List.not_mem_nil
  disciplined t held rest h := by
    cases h
    exact hprograms t
  tracks t held rest h := by
    cases h
    exact fun _ _ _ => rfl

/-- What is left of a transaction is what the whole of it would do now. -/
theorem Sound.run_eq {s : State V S K R T} (h : Sound programs I same s)
    (hrefl : ∀ k s, same k s s) {t : T} {held : List K} {rest : Program V S K R}
    (ht : s.phase t = .running held rest) : (programs t).run s.store = rest.run s.store :=
  h.tracks t held rest ht s.store h.kept fun k _ => hrefl k s.store

/-- The others go on as before when a commit leaves their rows alone. -/
theorem Sound.write {s : State V S K R T} (h : Sound programs I same s)
    (htrans : ∀ k s t u, same k s t → same k t u → same k s u) {store : S} (hstore : I store)
    (hrows : ∀ t, ∀ k ∈ (s.phase t).held, same k s.store store) :
    Sound programs I same { s with store } where
  kept := hstore
  exclusive := h.exclusive
  disciplined := h.disciplined
  tracks t held rest ht s' hs' hagree := by
    refine h.tracks t held rest ht s' hs' fun k hk => htrans k _ _ _ ?_ (hagree k hk)
    apply hrows t k
    rw [ht]
    exact hk

variable [DecidableEq T]

/-- A transaction in a new phase, with locks that no other transaction has. -/
theorem Sound.update {s : State V S K R T} (h : Sound programs I same s) {t : T}
    (phase : Phase V S K R) (hfree : ∀ k ∈ phase.held, Free s t k)
    (hdisciplined : ∀ held rest, phase = .running held rest → rest.Disciplined I same held)
    (htracks : ∀ held rest, phase = .running held rest → ∀ s', I s' →
      (∀ k ∈ held, same k s.store s') → (programs t).run s' = rest.run s') :
    Sound programs I same { s with phase := Function.update s.phase t phase } where
  kept := h.kept
  exclusive u v k hu hv := by
    by_cases hut : u = t <;> by_cases hvt : v = t
    · rw [hut, hvt]
    · subst hut
      simp only [Function.update_self] at hu
      simp only [Function.update_of_ne hvt] at hv
      exact absurd hv (hfree k hu v hvt)
    · subst hvt
      simp only [Function.update_of_ne hut] at hu
      simp only [Function.update_self] at hv
      exact absurd hu (hfree k hv u hut)
    · simp only [Function.update_of_ne hut] at hu
      simp only [Function.update_of_ne hvt] at hv
      exact h.exclusive u v k hu hv
  disciplined u held rest hu := by
    by_cases hut : u = t
    · subst hut
      simp only [Function.update_self] at hu
      exact hdisciplined held rest hu
    · simp only [Function.update_of_ne hut] at hu
      exact h.disciplined u held rest hu
  tracks u held rest hu := by
    by_cases hut : u = t
    · subst hut
      simp only [Function.update_self] at hu
      exact htracks held rest hu
    · simp only [Function.update_of_ne hut] at hu
      exact h.tracks u held rest hu

/-- A transaction that ends. -/
theorem Sound.finish {s : State V S K R T} (h : Sound programs I same s) (t : T) (result : R) :
    Sound programs I same { s with phase := Function.update s.phase t (.finished result) } := by
  refine h.update (.finished result) ?_ ?_ ?_
  · exact fun k hk => absurd hk List.not_mem_nil
  · exact fun _ _ heq => nomatch heq
  · exact fun _ _ heq => nomatch heq

/-- What is selected under a new lock is what the whole transaction selects. -/
theorem Sound.lock {s : State V S K R T} (h : Sound programs I same s) {t : T} {held : List K}
    {i : ι} {row : S → Option (V i)} {key : V i → K} {missing : R} {next : V i → Program V S K R}
    (ht : s.phase t = .running held (.select row key missing next)) {a : V i}
    (hrow : row s.store = some a) (hfree : Free s t (key a)) :
    Sound programs I same
      { s with phase := Function.update s.phase t (.running (key a :: held) (next a)) } := by
  have hdisciplined := h.disciplined t _ _ ht
  refine h.update (.running (key a :: held) (next a)) ?_ ?_ ?_
  · intro k hk
    rcases List.mem_cons.mp hk with rfl | hk
    · exact hfree
    · intro u hu hku
      refine hu (h.exclusive u t k hku ?_)
      rw [ht]
      exact hk
  · intro held' rest heq
    cases heq
    exact hdisciplined.2 a
  · intro held' rest heq s' hs' hagree
    cases heq
    have hselected : row s' = some a :=
      hdisciplined.1 s.store s' a h.kept hs' hrow (hagree (key a) List.mem_cons_self)
    rw [h.tracks t _ _ ht s' hs' fun k hk => hagree k (List.mem_cons_of_mem _ hk),
      Program.run_select hselected]

theorem Sound.commit {s : State V S K R T} (h : Sound programs I same s)
    (htrans : ∀ k s t u, same k s t → same k t u → same k s u) {t : T} {held : List K}
    {write : S → R × S}
    (ht : s.phase t = .running held (.commit write)) : Sound programs I same
      ⟨(write s.store).2, Function.update s.phase t (.finished (write s.store).1)⟩ := by
  obtain ⟨hkept, hothers⟩ := h.disciplined t _ _ ht s.store h.kept
  refine (h.finish t (write s.store).1).write htrans hkept ?_
  intro u k hk
  apply hothers k
  intro hheld
  by_cases hut : u = t
  · subst hut
    simp only [Function.update_self] at hk
    exact List.not_mem_nil hk
  · simp only [Function.update_of_ne hut] at hk
    refine hut (h.exclusive u t k hk ?_)
    rw [ht]
    exact hheld

end

/-! ### Serial runs -/

inductive Event (S T : Type) where
  | transaction (t : T)
  | other (write : S → S)

def Event.write : Event S T → Option (S → S)
  | .other write => some write
  | .transaction _ => none

/-- The store and what each transaction has returned, one after the other. -/
def serialStep (programs : T → Program V S K R) (s : S × List (T × R)) :
    Event S T → S × List (T × R)
  | .transaction t =>
      (((programs t).run s.1).2, s.2 ++ [(t, ((programs t).run s.1).1)])
  | .other write => (write s.1, s.2)

abbrev serialRun (programs : T → Program V S K R) (s : S) (events : List (Event S T)) :
    S × List (T × R) :=
  Transition.run (serialStep programs) (s, []) events

/-- A serial run that leaves the same store and in which the same transactions have finished, once
each and with the same results. -/
structure Explains (s : State V S K R T) (serial : S × List (T × R)) : Prop where
  store : serial.1 = s.store
  once : (serial.2.map Prod.fst).Nodup
  results : ∀ t r, (t, r) ∈ serial.2 ↔ s.phase t = .finished r

section

variable [Fintype T] [DecidableEq T] [DecidableEq K] {programs : T → Program V S K R} {I : S → Prop}
  {same : K → S → S → Prop} {s : State V S K R T} {serial : S × List (T × R)}

omit [Fintype T] [DecidableEq K] in
/-- A transaction that is still running takes up another phase and does not finish. -/
theorem Explains.running (h : Explains s serial) {t : T} {held : List K} {rest : Program V S K R}
    (ht : s.phase t = .running held rest) (held' : List K) (rest' : Program V S K R) :
    Explains { s with phase := Function.update s.phase t (.running held' rest') } serial where
  store := h.store
  once := h.once
  results u r := by
    rw [h.results]
    by_cases hut : u = t
    · subst hut
      simp only [Function.update_self, ht, reduceCtorEq]
    · simp only [Function.update_of_ne hut]

omit [Fintype T] [DecidableEq K] in
/-- A transaction that finishes with what the whole of it returns and writes is the next one of
the serial run. -/
theorem Explains.finish (h : Explains s serial) {t : T} {held : List K} {rest : Program V S K R}
    (ht : s.phase t = .running held rest) {r : R} {store : S}
    (hrun : (programs t).run s.store = (r, store)) :
    Explains ⟨store, Function.update s.phase t (.finished r)⟩
      (serialStep programs serial (.transaction t)) := by
  have hnew : ∀ r, (t, r) ∉ serial.2 := by
    intro r hr
    rw [h.results, ht] at hr
    cases hr
  rw [serialStep, h.store, hrun]
  refine ⟨rfl, ?_, ?_⟩
  · rw [List.map_append, List.nodup_append]
    refine ⟨h.once, List.nodup_singleton t, ?_⟩
    intro u hu v hv huv
    obtain ⟨⟨u, r⟩, hmem, rfl⟩ := List.mem_map.mp hu
    rw [List.map_singleton, List.mem_singleton] at hv
    subst hv huv
    exact hnew r hmem
  · intro u r'
    rw [List.mem_append, List.mem_singleton, h.results, Prod.mk.injEq]
    by_cases hut : u = t
    · subst hut
      simp only [Function.update_self, ht, reduceCtorEq, false_or, true_and, Phase.finished.injEq]
      exact eq_comm
    · simp only [Function.update_of_ne hut, hut, false_and, or_false]

/-- A step changes nothing that counts, or is the next transaction or the next write of the serial
run. -/
theorem Sound.step (h : Sound programs I same s) (hrefl : ∀ k s, same k s s)
    (htrans : ∀ k s t u, same k s t → same k t u → same k s u)
    (hprograms : ∀ t, (programs t).Disciplined I same []) {a : Action S T}
    (ha : Respects I same s a) (hserial : Explains s serial) :
    Sound programs I same (step programs s a) ∧ ∃ events,
      Explains (step programs s a) (Transition.run (serialStep programs) serial events) ∧
      events.filterMap Event.write = a.write.toList := by
  have hidle : ∃ events, Explains s (Transition.run (serialStep programs) serial events) ∧
      events.filterMap Event.write = [] := ⟨[], hserial, rfl⟩
  cases a with
  | other write =>
      refine ⟨h.write htrans ha.1 ha.2, [.other write], ⟨?_, hserial.once, hserial.results⟩, rfl⟩
      simp only [Transition.run_cons, Transition.run_nil, serialStep, Atomicity.step, hserial.store]
  | rollback t =>
      simp only [Atomicity.step, rollback]
      split
      · exact ⟨h, hidle⟩
      next held rest ht =>
      refine ⟨?_, [], hserial.running ht [] (programs t), rfl⟩
      refine h.update (.running [] (programs t)) (fun k hk => absurd hk List.not_mem_nil)
        ?_ ?_
      · intro held' rest' heq
        cases heq
        exact hprograms t
      · intro held' rest' heq
        cases heq
        exact fun _ _ _ => rfl
  | advance t =>
      simp only [Atomicity.step, advance]
      split
      · exact ⟨h, hidle⟩
      next held i row key missing next ht =>
        split
        next hrow =>
          refine ⟨h.finish t missing, [.transaction t], ?_, rfl⟩
          refine hserial.finish ht ?_
          rw [h.run_eq hrefl ht, Program.run_missing hrow]
        next a hrow =>
          split
          next hfree =>
            exact ⟨h.lock ht hrow hfree, [], hserial.running ht (key a :: held) (next a), rfl⟩
          · exact ⟨h, hidle⟩
      next held write ht =>
        refine ⟨h.commit htrans ht, [.transaction t], ?_, rfl⟩
        refine hserial.finish ht ?_
        rw [h.run_eq hrefl ht, Program.run]

/-- Transactions that lock what they select and write only what they have locked are atomic: any
run of their statements, with rollbacks and other writers in between, leaves the store of a serial
run with the same other writes in the same order, in which the transactions that have finished run
at once and return what they have returned. -/
theorem serializable {store : S} (hstore : I store) (hrefl : ∀ k s, same k s s)
    (htrans : ∀ k s t u, same k s t → same k t u → same k s u)
    (hprograms : ∀ t, (programs t).Disciplined I same []) {actions : List (Action S T)}
    (halong : Transition.Along (step programs) (Respects I same) (start programs store) actions) :
    ∃ events, Explains (Transition.run (step programs) (start programs store) actions)
        (serialRun programs store events) ∧
      events.filterMap Event.write = actions.filterMap Action.write := by
  have hrun : ∀ (actions : List (Action S T)) (s : State V S K R T) (serial : S × List (T × R)),
      Sound programs I same s → Explains s serial →
      Transition.Along (step programs) (Respects I same) s actions →
      ∃ events, Explains (Transition.run (step programs) s actions)
          (Transition.run (serialStep programs) serial events) ∧
        events.filterMap Event.write = actions.filterMap Action.write := by
    intro actions
    induction actions with
    | nil => exact fun s serial _ hserial _ => ⟨[], hserial, rfl⟩
    | cons a actions ih =>
        intro s serial hsound hserial halong
        obtain ⟨hnext, first, hfirst, hwrites⟩ := hsound.step hrefl htrans hprograms halong.1 hserial
        obtain ⟨rest, hrest, hothers⟩ := ih _ _ hnext hfirst halong.2
        refine ⟨first ++ rest, ?_, ?_⟩
        · rw [Transition.run_append]
          exact hrest
        · rw [List.filterMap_append, hwrites, hothers]
          cases hwrite : a.write with
          | none => rw [List.filterMap_cons_none hwrite, Option.toList_none, List.nil_append]
          | some write => rw [List.filterMap_cons_some hwrite, Option.toList_some,
              List.singleton_append]
  refine hrun actions _ _ (Sound.start hstore hprograms) ⟨rfl, List.nodup_nil, ?_⟩ halong
  intro t r
  exact ⟨fun h => absurd h List.not_mem_nil, fun h => nomatch h⟩

end

end Atomicity
