import ChargeMate.FoundationTable

/-! Registers: what a table is to its readers, a partial function from keys to rows that holds
every row under its own key. The writes of `Table` are simulated by `put` and `map`. -/

namespace Relational

/-- A partial function from keys to rows. A row under another key than its own cannot be
stored. -/
structure Register (R : Type) {K : Type} [Keyed R K] where
  get : K → Option R
  key_of_get : ∀ k r, get k = some r → key r = k

namespace Register

variable {R K : Type} [Keyed R K]

instance : CoeFun (Register R) fun _ => K → Option R := ⟨Register.get⟩

@[ext] theorem ext {s t : Register R} (h : ∀ k, s k = t k) : s = t := by
  cases s
  cases t
  congr
  exact funext h

theorem key_eq {s : Register R} {k : K} {r : R} (h : s k = some r) : key r = k :=
  s.key_of_get k r h

/-- Rewrite every row, keys being kept. -/
def map (s : Register R) (f : R → R) (hf : ∀ r, key (f r) = key r) : Register R where
  get k := (s k).map f
  key_of_get := by
    intro k r h
    obtain ⟨r', hr', rfl⟩ := Option.map_eq_some_iff.mp h
    rw [hf, key_eq hr']

@[simp, grind =] theorem get_map (s : Register R) (f : R → R) (hf : ∀ r, key (f r) = key r)
    (k : K) : (s.map f hf) k = (s k).map f := rfl

variable [DecidableEq K]

/-- Write a row under its key, whatever was there. -/
def put (s : Register R) (r : R) : Register R where
  get k := if key r = k then some r else s k
  key_of_get := by
    intro k r' h
    split at h
    · next hk => exact Option.some.inj h ▸ hk
    · exact key_eq h

@[simp, grind =] theorem get_put (s : Register R) (r : R) (k : K) :
    (s.put r) k = if key r = k then some r else s k := rfl

/-- A row read after a write is the one written, or an old one under another key. -/
theorem put_cases {s : Register R} {r x : R} {k : K} (h : (s.put r) k = some x) :
    (key r = k ∧ x = r) ∨ (key r ≠ k ∧ s k = some x) := by
  rw [get_put] at h
  split at h
  · next hk => exact Or.inl ⟨hk, (Option.some.inj h).symm⟩
  · next hk => exact Or.inr ⟨hk, h⟩

theorem of_put {s : Register R} {r x : R} {k : K} (h : (s.put r) k = some x) :
    (key r = k ∧ x = r) ∨ s k = some x := by
  rcases put_cases h with hr | ⟨_, hold⟩
  · exact Or.inl hr
  · exact Or.inr hold

/-- A row under a new key hides no other. -/
theorem put_of_new {s : Register R} {r x : R} {k : K} (hnew : s (key r) = none)
    (hx : s k = some x) : (s.put r) k = some x := by
  rw [get_put, if_neg, hx]
  rintro rfl
  rw [hnew] at hx
  cases hx

/-- Under a write, the stored row of that key becomes the new one and any other stays. -/
theorem put_next {s : Register R} {r r' x : R} {k : K} (hr : s (key r') = some r)
    (hx : s k = some x) : ∃ x', (s.put r') k = some x' ∧ ((x = r ∧ x' = r') ∨ x' = x) := by
  rw [get_put]
  split
  · next hk =>
    rw [← hk, hr] at hx
    exact ⟨r', rfl, Or.inl ⟨(Option.some.inj hx).symm, rfl⟩⟩
  · exact ⟨x, hx, Or.inr rfl⟩

/-- A row that is there already can be written again. -/
theorem put_of_get {s : Register R} {k : K} {r : R} (h : s k = some r) : s.put r = s := by
  ext1 k'
  rw [get_put]
  split
  · next hk => rw [← hk, key_eq h, h]
  · rfl

/-! ### Unique columns -/

/-- No two rows have one value in a column; missing values do not count. -/
def Unique {V : Type} (s : Register R) (column : R → Option V) : Prop :=
  ∀ i j r q v, s i = some r → s j = some q → column r = some v → column q = some v → i = j

/-- A write keeps a column unique if no other row has the value it brings. -/
theorem Unique.put {V : Type} {s : Register R} {column : R → Option V} (h : s.Unique column)
    {r : R} (hr : ∀ v k q, column r = some v → s k = some q → column q = some v → k = key r) :
    (s.put r).Unique column := by
  intro i j a b v ha hb hav hbv
  rw [get_put] at ha hb
  split at ha <;> split at hb
  · next hi hj => rw [← hi, hj]
  · next hi _ =>
    cases ha
    rw [← hi, hr v j b hav hb hbv]
  · next _ hj =>
    cases hb
    rw [← hj, hr v i a hbv ha hav]
  · exact h i j a b v ha hb hav hbv

/-! ### Some rows are the same -/

/-- The rows with a property are the same in two registers. -/
def Agree (P : R → Prop) (s t : Register R) : Prop := ∀ k r, P r → (t k = some r ↔ s k = some r)

omit [DecidableEq K] in
theorem Agree.refl (P : R → Prop) (s : Register R) : Agree P s s := fun _ _ _ => Iff.rfl

omit [DecidableEq K] in
/-- Rewriting the rows without the property into such rows. -/
theorem Agree.map {P : R → Prop} (s : Register R) {f : R → R} (hf : ∀ r, key (f r) = key r)
    (hkept : ∀ r, P r → f r = r) (hout : ∀ r, P (f r) → f r = r) : Agree P s (s.map f hf) := by
  intro k r hr
  rw [get_map, Option.map_eq_some_iff]
  constructor
  · rintro ⟨q, hq, rfl⟩
    rw [hout q hr]
    exact hq
  · intro h
    exact ⟨r, h, hkept r hr⟩

/-- A write of a row without the property in place of another such row, or under a new key. -/
theorem Agree.put {P : R → Prop} {s : Register R} {r : R} (hr : ¬P r)
    (hold : ∀ q, s (key r) = some q → ¬P q) : Agree P s (s.put r) := by
  intro k q hq
  rw [get_put]
  split
  · next hk =>
    subst hk
    refine iff_of_false ?_ fun h => hold q h hq
    intro h
    cases h
    exact hr hq
  · exact Iff.rfl

end Register

namespace Table

variable {R K : Type} [Keyed R K] [DecidableEq K]

/-- The register a table stores. -/
def register (t : Table R) : Register R where
  get := t.find
  key_of_get _ _ := key_of_find

@[simp, grind =] theorem get_register (t : Table R) (k : K) : t.register k = t.find k := rfl

theorem register_insert {t t' : Table R} {r : R} (h : t.insert r = some t') :
    t'.register = t.register.put r := by
  ext1 k
  exact find_insert h k

theorem register_set {t : Table R} {r old : R} (h : t.find (key r) = some old) :
    (t.set r).register = t.register.put r := by
  ext1 k
  exact find_set h k

theorem register_updateWhere (t : Table R) (p : R → Bool) (f : R → R)
    (hf : ∀ r, key (f r) = key r) :
    (t.updateWhere p f hf).register =
      t.register.map (fun r => if p r then f r else r) (by intro r; split <;> simp [hf]) := by
  ext1 k
  exact find_updateWhere t p f hf k

end Table

end Relational
