import ChargeMate.ModelLocking
import ChargeMate.SafetyFamilies

/-! Revocations against concurrent rotations. The rows a revoking `UPDATE` sees are those visible
when it starts; a rotation that holds one of them commits a new session that the `UPDATE` never
visits. If no rotation is replacing such a row when the `UPDATE` starts, and none comes to hold one
before the `UPDATE` has visited it, then the revocation is complete at its commit and stays so. -/

namespace ChargeMate.Auth

open Relational

namespace LockState

/-- The transaction with a number; `finished` for a number not yet given. -/
def tx (s : LockState) (k : Nat) : Transaction := (s.txs[k]?).getD .finished

variable {env : Environment} {s : LockState} {t : Nat} {tx' : Transaction}

theorem tx_of_getElem? {tx : Transaction} (h : s.txs[t]? = some tx) : s.tx t = tx := by
  rw [LockState.tx, h, Option.getD_some]

theorem lt_of_getElem? {tx : Transaction} (h : s.txs[t]? = some tx) : t < s.txs.length :=
  (List.getElem?_eq_some_iff.mp h).1

theorem tx_put (h : t < s.txs.length) (tx' : Transaction) (k : Nat) :
    (s.put t tx').tx k = if k = t then tx' else s.tx k := by
  rw [LockState.tx, LockState.put, List.getElem?_set]
  by_cases hk : t = k
  · rw [if_pos hk, if_pos h, if_pos hk.symm, Option.getD_some]
  · rw [if_neg hk, if_neg (Ne.symm hk), LockState.tx]

/-- Locks are looked for among all numbers. -/
theorem free_iff {id : Uuid} : s.Free t id ↔ ∀ k, k ≠ t → (s.tx k).holds id = false := by
  constructor
  · intro h k hk
    unfold LockState.tx
    cases hget : s.txs[k]? with
    | none => rfl
    | some tx => exact h k (lt_of_getElem? hget) hk tx hget
  · intro h k _ hk tx hget
    rw [← tx_of_getElem? hget]
    exact h k hk

theorem tx_append (tx : Transaction) (k : Nat) :
    ({ s with txs := s.txs ++ [tx] } : LockState).tx k =
      if k = s.txs.length then tx else s.tx k := by
  unfold LockState.tx
  rcases Nat.lt_trichotomy k s.txs.length with hlt | heq | hgt
  · rw [List.getElem?_append_left hlt, if_neg (Nat.ne_of_lt hlt)]
  · rw [heq, List.getElem?_concat_length, if_pos rfl, Option.getD_some]
  · rw [if_neg (Nat.ne_of_gt hgt), List.getElem?_eq_none (by simp; omega),
      List.getElem?_eq_none (Nat.le_of_lt hgt)]

end LockState

namespace Transaction

theorem holds_of_replaces {tx : Transaction} {session : AuthSession}
    (h : tx.replaces = some session) : tx.holds session.id = true := by
  cases tx <;> simp_all [replaces, holds]

theorem holds_of_changed {tx : Transaction} {b : BulkUpdate} {id : Uuid} (h : tx.bulk = some b)
    (hid : id ∈ b.changed) : tx.holds id = true := by
  cases tx <;> simp_all [bulk, holds]

/-- A transaction that replaces a session is not in a revoking `UPDATE`. -/
theorem bulk_of_replaces {tx : Transaction} {session : AuthSession}
    (h : tx.replaces = some session) : tx.bulk = none := by
  cases tx <;> simp_all [replaces, bulk]

end Transaction

/-- What holds whenever the revoking updates are guarded. -/
structure LocksSound (s : LockState) : Prop where
  /-- No row is locked twice. -/
  exclusive : ∀ k l id, k ≠ l → (s.tx k).holds id = true → (s.tx l).holds id = false
  /-- A session about to be replaced is live. -/
  current : ∀ k session, (s.tx k).replaces = some session →
    session ∈ s.db.authSessions ∧ session.isRevoked = false
  /-- An `UPDATE` has before it or behind it every live row of its target. -/
  seen : ∀ k b, (s.tx k).bulk = some b → ∀ session ∈ s.db.authSessions,
    b.target.covers session = true → session.isRevoked = false →
      session.id ∈ b.todo ∨ session.id ∈ b.changed
  /-- No row an `UPDATE` has before it is about to be replaced. -/
  apart : ∀ k l session b, (s.tx k).replaces = some session → (s.tx l).bulk = some b →
    session.id ∉ b.todo
  /-- A committed revocation has left no live row. -/
  closed : ∀ r ∈ s.revocations, ∀ session ∈ s.db.authSessions,
    r.target.covers session = true → session.isRevoked = true

namespace LocksSound

variable {env : Environment} {s : LockState} {t : Nat} {tx' : Transaction}

theorem start (db : AuthDatabase) : LocksSound (LockState.start db) where
  exclusive _ _ _ _ h := by cases h
  current _ _ h := by cases h
  seen _ _ h := by cases h
  apart _ _ _ _ h := by cases h
  closed _ h := by cases h

/-- A session about to be replaced is in no target of an `UPDATE` under way. -/
theorem not_covered (h : LocksSound s) {k l : Nat} {session : AuthSession} {b : BulkUpdate}
    (hk : (s.tx k).replaces = some session) (hl : (s.tx l).bulk = some b) :
    b.target.covers session = false := by
  by_contra hcovers
  obtain ⟨hmem, hlive⟩ := h.current k session hk
  rcases h.seen l b hl session hmem (by simpa using hcovers) hlive with htodo | hchanged
  · exact h.apart k l session b hk hl htodo
  · have hkl : k ≠ l := by
      rintro rfl
      rw [Transaction.bulk_of_replaces hk] at hl
      cases hl
    have hfree := h.exclusive k l session.id hkl (Transaction.holds_of_replaces hk)
    rw [Transaction.holds_of_changed hl hchanged] at hfree
    cases hfree

/-- Nor in the target of a committed revocation. -/
theorem not_closed (h : LocksSound s) {k : Nat} {session : AuthSession} {r : Revocation}
    (hk : (s.tx k).replaces = some session) (hr : r ∈ s.revocations) :
    r.target.covers session = false := by
  obtain ⟨hmem, hlive⟩ := h.current k session hk
  by_contra hcovers
  rw [h.closed r hr session hmem (by simpa using hcovers)] at hlive
  cases hlive

/-- A transaction moves on, with the committed rows as they are. -/
theorem put (h : LocksSound s) (ht : t < s.txs.length)
    (hholds : ∀ id, tx'.holds id = true → ∀ k, k ≠ t → (s.tx k).holds id = false)
    (hreplaces : ∀ session, tx'.replaces = some session →
      (session ∈ s.db.authSessions ∧ session.isRevoked = false) ∧
        ∀ k b, (s.tx k).bulk = some b → k ≠ t → session.id ∉ b.todo)
    (hbulk : ∀ b, tx'.bulk = some b →
      (∀ session ∈ s.db.authSessions, b.target.covers session = true →
        session.isRevoked = false → session.id ∈ b.todo ∨ session.id ∈ b.changed) ∧
        ∀ k session, (s.tx k).replaces = some session → k ≠ t → session.id ∉ b.todo) :
    LocksSound (s.put t tx') := by
  have htx := LockState.tx_put ht tx'
  constructor
  · intro k l id hkl hk
    rw [htx] at hk ⊢
    by_cases hkt : k = t
    · rw [if_pos hkt] at hk
      rw [if_neg (fun hlt => hkl (hkt.trans hlt.symm))]
      exact hholds id hk l fun hlt => hkl (hkt.trans hlt.symm)
    · rw [if_neg hkt] at hk
      split
      · by_contra hfree
        rw [hholds id (by simpa using hfree) k hkt] at hk
        cases hk
      · exact h.exclusive k l id hkl hk
  · intro k session hk
    rw [htx] at hk
    split at hk
    · exact (hreplaces session hk).1
    · exact h.current k session hk
  · intro k b hk
    rw [htx] at hk
    split at hk
    · exact (hbulk b hk).1
    · exact h.seen k b hk
  · intro k l session b hk hl
    rw [htx] at hk hl
    split at hk
    · split at hl
      · rw [Transaction.bulk_of_replaces hk] at hl
        cases hl
      · next hlt => exact (hreplaces session hk).2 l b hl hlt
    · next hkt =>
      split at hl
      · exact (hbulk b hl).2 k session hk hkt
      · exact h.apart k l session b hk hl
  · exact h.closed

/-- Moving on within what a transaction already holds and replaces. -/
theorem advance (h : LocksSound s) {tx : Transaction} (hget : s.txs[t]? = some tx)
    (hholds : ∀ id, tx'.holds id = true → tx.holds id = true)
    (hreplaces : ∀ session, tx'.replaces = some session → tx.replaces = some session)
    (hbulk : tx'.bulk = none) : LocksSound (s.put t tx') := by
  have htx := LockState.tx_of_getElem? hget
  apply h.put (LockState.lt_of_getElem? hget)
  · intro id hid k hk
    exact h.exclusive t k id (Ne.symm hk) (htx.symm ▸ hholds id hid)
  · intro session hsession
    have hold : (s.tx t).replaces = some session := htx.symm ▸ hreplaces session hsession
    exact ⟨h.current t session hold, fun k b hk _ => h.apart t k session b hold hk⟩
  · intro b hb
    rw [hbulk] at hb
    cases hb

theorem finish (h : LocksSound s) (t : Nat) : LocksSound (s.put t .finished) := by
  cases hget : s.txs[t]? with
  | none =>
      have hsame : s.put t .finished = s := by
        rw [LockState.put, List.set_eq_of_length_le (List.getElem?_eq_none_iff.mp hget)]
      rwa [hsame]
  | some tx =>
      apply h.advance hget _ _ rfl
      · intro id hid
        cases hid
      · intro session hsession
        cases hsession

theorem begin (h : LocksSound s) {tx : Transaction} (hholds : ∀ id, tx.holds id = false)
    (hreplaces : tx.replaces = none) (hbulk : tx.bulk = none) :
    LocksSound { s with txs := s.txs ++ [tx] } := by
  have htx := LockState.tx_append (s := s) tx
  constructor
  · intro k l id hkl hk
    rw [htx] at hk ⊢
    split at hk
    · rw [hholds] at hk
      cases hk
    · split
      · exact hholds id
      · exact h.exclusive k l id hkl hk
  · intro k session hk
    rw [htx] at hk
    split at hk
    · rw [hreplaces] at hk
      cases hk
    · exact h.current k session hk
  · intro k b hk
    rw [htx] at hk
    split at hk
    · rw [hbulk] at hk
      cases hk
    · exact h.seen k b hk
  · intro k l session b hk hl
    rw [htx] at hk hl
    split at hk
    · rw [hreplaces] at hk
      cases hk
    · split at hl
      · rw [hbulk] at hl
        cases hl
      · exact h.apart k l session b hk hl
  · exact h.closed

/-- Rows are written that no transaction is about to replace; a new live row is outside every
target. -/
theorem withDb (h : LocksSound s) {db' : AuthDatabase}
    (hkeep : ∀ k session, (s.tx k).replaces = some session → session ∈ db'.authSessions)
    (hlive : ∀ session ∈ db'.authSessions, session.isRevoked = false →
      session ∈ s.db.authSessions ∨
        (∀ k b, (s.tx k).bulk = some b → b.target.covers session = false) ∧
          ∀ r ∈ s.revocations, r.target.covers session = false) :
    LocksSound { s with db := db' } := by
  constructor
  · exact h.exclusive
  · intro k session hk
    exact ⟨hkeep k session hk, (h.current k session hk).2⟩
  · intro k b hk session hmem hcovers hrevoked
    rcases hlive session hmem hrevoked with hold | ⟨hnew, -⟩
    · exact h.seen k b hk session hold hcovers hrevoked
    · rw [hnew k b hk] at hcovers
      cases hcovers
  · exact h.apart
  · intro r hr session hmem hcovers
    by_contra hrevoked
    rcases hlive session hmem (by simpa using hrevoked) with hold | ⟨-, hnew⟩
    · exact hrevoked (h.closed r hr session hold hcovers)
    · rw [hnew r hr] at hcovers
      cases hcovers

end LocksSound

/-! ### Steps -/

/-- No rotation comes between a revoking `UPDATE` and a row it has before it: none is granted such a
row to replace it, and none is replacing a row of the target when the `UPDATE` starts. -/
def LockState.Guarded (env : Environment) (s : LockState) : LockAction → Prop
  | .select t =>
      match s.txs[t]? with
      | some (.rotating raw draws now) => ∀ session ∈ s.db.sessionOf env raw,
          s.Free t session.id → (s.branch session draws now).replaces.isSome →
            ∀ tx ∈ s.txs, ∀ b ∈ tx.bulk, session.id ∉ b.todo
      | _ => True
  | .update t => ∀ target ∈ s.txs[t]?.bind Transaction.target,
      ∀ tx ∈ s.txs, ∀ session ∈ tx.replaces, target.covers session = false
  | _ => True

instance (env : Environment) (s : LockState) (a : LockAction) : Decidable (s.Guarded env a) := by
  cases a with
  | select t =>
      unfold LockState.Guarded
      simp only
      split <;> infer_instance
  | update t => exact inferInstanceAs (Decidable (∀ _ ∈ _, ∀ _ ∈ s.txs, ∀ _ ∈ _, _))
  | _ => exact isTrue trivial

namespace LockState

variable {env : Environment} {s : LockState}

theorem mem_of_tx {k : Nat} {tx : Transaction} (h : s.tx k = tx) (hne : tx ≠ .finished) :
    tx ∈ s.txs := by
  unfold LockState.tx at h
  cases hget : s.txs[k]? with
  | none =>
      rw [hget] at h
      exact absurd h.symm hne
  | some tx₀ =>
      rw [hget, Option.getD_some] at h
      exact h ▸ List.mem_of_getElem? hget

theorem mem_of_replaces {k : Nat} {session : AuthSession}
    (h : (s.tx k).replaces = some session) : s.tx k ∈ s.txs := by
  apply mem_of_tx rfl
  intro hfinished
  rw [hfinished] at h
  cases h

theorem mem_of_bulk {k : Nat} {b : BulkUpdate} (h : (s.tx k).bulk = some b) :
    s.tx k ∈ s.txs := by
  apply mem_of_tx rfl
  intro hfinished
  rw [hfinished] at h
  cases h

/-- The branches of a rotation that has found its session. -/
theorem branch_cases (s : LockState) (session : AuthSession) (draws : Draws) (now : Timestamp) :
    s.branch session draws now = .revokingFamily session now ∨
    s.branch session draws now = .expiring session now ∨
    s.branch session draws now = .finished ∨
    (s.branch session draws now = .replacing session draws now ∧ session.isRevoked = false) := by
  unfold branch
  split
  · exact Or.inl rfl
  next hrevoked =>
  split
  · exact Or.inr (Or.inl rfl)
  split
  · exact Or.inr (Or.inr (Or.inl rfl))
  split
  · exact Or.inl rfl
  · exact Or.inr (Or.inr (Or.inr ⟨rfl, by simpa using hrevoked⟩))

end LockState

theorem RevokeTarget.covers_congr {target : RevokeTarget} {s s' : AuthSession}
    (huser : s.userId = s'.userId) (hfamily : s.familyId = s'.familyId) :
    target.covers s = target.covers s' := by
  cases target with
  | user userId => rw [covers, covers, huser]
  | family familyId => rw [covers, covers, hfamily]

namespace LocksSound

variable {env : Environment} {s : LockState} {t : Nat}

theorem select (h : LocksSound s) {raw : String} {draws : Draws} {now : Timestamp}
    (hget : s.txs[t]? = some (.rotating raw draws now)) (hguard : s.Guarded env (.select t)) :
    LocksSound (s.select env t raw draws now) := by
  unfold LockState.select
  split
  · exact h.finish t
  next session hsession =>
  split
  · next hfree =>
    have hlock : ∀ id, decide (session.id = id) = true →
        ∀ k, k ≠ t → (s.tx k).holds id = false := by
      intro id hid k hk
      rw [← of_decide_eq_true hid]
      exact LockState.free_iff.mp hfree k hk
    rcases s.branch_cases session draws now with hb | hb | hb | ⟨hb, hlive⟩
    · rw [hb]
      exact h.put (LockState.lt_of_getElem? hget) hlock (fun _ hr => by cases hr)
        (fun _ hr => by cases hr)
    · rw [hb]
      exact h.put (LockState.lt_of_getElem? hget) hlock (fun _ hr => by cases hr)
        (fun _ hr => by cases hr)
    · rw [hb]
      exact h.finish t
    · have hclear : ∀ tx ∈ s.txs, ∀ b ∈ tx.bulk, session.id ∉ b.todo := by
        simp only [LockState.Guarded, hget] at hguard
        exact hguard session hsession hfree (by rw [hb]; rfl)
      rw [hb]
      apply h.put (LockState.lt_of_getElem? hget)
      · exact hlock
      · intro session' hr
        cases hr
        exact ⟨⟨AuthDatabase.mem_of_sessionOf hsession, hlive⟩,
          fun k b hk _ => hclear (s.tx k) (LockState.mem_of_bulk hk) b hk⟩
      · intro b hb'
        cases hb'
  · exact h

/-- A revoking `UPDATE` starts with all live rows of its target before it. -/
theorem startUpdate (h : LocksSound s) {tx : Transaction} {held : Option Uuid}
    {target : RevokeTarget} {now : Timestamp} (hget : s.txs[t]? = some tx)
    (hheld : ∀ id, held = some id → tx.holds id = true) (htarget : tx.target = some target)
    (hguard : s.Guarded env (.update t)) : LocksSound (s.startUpdate t held target now) := by
  have htx := LockState.tx_of_getElem? hget
  have hclear : ∀ tx ∈ s.txs, ∀ session ∈ tx.replaces, target.covers session = false :=
    hguard target (by rw [hget, Option.bind_some]; exact htarget)
  apply h.put (LockState.lt_of_getElem? hget)
  · intro id hid k hk
    have hid' : held = some id := by simpa [Transaction.holds] using hid
    exact h.exclusive t k id (Ne.symm hk) (htx.symm ▸ hheld id hid')
  · intro session hr
    cases hr
  · intro b hb
    cases hb
    constructor
    · intro session hmem hcovers hlive
      refine Or.inl (List.mem_map_of_mem (List.mem_filter.mpr ⟨hmem, ?_⟩))
      simp only at hcovers
      rw [hcovers, hlive]
      rfl
    · intro k session hk _ hsnap
      obtain ⟨row, hrow, hid⟩ := List.mem_map.mp hsnap
      obtain ⟨hmem, hcovers⟩ := List.mem_filter.mp hrow
      have hsame : row = session :=
        Table.eq_of_key_eq hmem (h.current k session hk).1 hid
      rw [hsame, hclear _ (LockState.mem_of_replaces hk) session hk] at hcovers
      cases hcovers

theorem visit (h : LocksSound s) {held : Option Uuid} {b : BulkUpdate} {id : Uuid}
    (hget : s.txs[t]? = some (.updating held b)) : LocksSound (s.visit t held b id) := by
  have htx := LockState.tx_of_getElem? hget
  have hbulk : (s.tx t).bulk = some b := by rw [htx]; rfl
  have hold : ∀ id', (held = some id' ∨ id' ∈ b.changed) → ∀ k, k ≠ t →
      (s.tx k).holds id' = false := by
    intro id' hid k hk
    apply h.exclusive t k id' (Ne.symm hk)
    rw [htx]
    simpa [Transaction.holds] using hid
  have hapart : ∀ k session, (s.tx k).replaces = some session → k ≠ t →
      session.id ∉ b.todo.filter (· ≠ id) :=
    fun k session hk _ hmem => h.apart k t session b hk hbulk (List.mem_of_mem_filter hmem)
  have htodo : ∀ {id'}, id' ∈ b.todo → id' ≠ id → id' ∈ b.todo.filter (· ≠ id) :=
    fun hmem hne => List.mem_filter.mpr ⟨hmem, by simpa using hne⟩
  -- The row that is passed over is not a live row of the target.
  have hpass : (∀ session ∈ s.db.authSessions, session.id = id →
      b.target.covers session = true → session.isRevoked = true) →
      LocksSound (s.put t (.updating held { b with todo := b.todo.filter (· ≠ id) })) := by
    intro hgone
    apply h.put (LockState.lt_of_getElem? hget)
    · intro id' hid
      exact hold id' (by simpa [Transaction.holds] using hid)
    · intro session hr
      cases hr
    · intro b' hb'
      cases hb'
      refine ⟨fun session hmem hcovers hlive => ?_, hapart⟩
      have hne : session.id ≠ id := by
        intro hid
        rw [hgone session hmem hid hcovers] at hlive
        cases hlive
      exact (h.seen t b hbulk session hmem hcovers hlive).imp_left fun hm => htodo hm hne
  unfold LockState.visit
  split
  · next hfree =>
    simp only
    split
    · next hnone =>
      apply hpass
      intro session hmem hid _
      exact absurd hid (Table.find_eq_none.mp hnone session hmem)
    next row hrow =>
    split
    · apply h.put (LockState.lt_of_getElem? hget)
      · intro id' hid k hk
        have hid' : held = some id' ∨ id' = id ∨ id' ∈ b.changed := by
          simpa [Transaction.holds] using hid
        rcases hid' with hh | rfl | hc
        · exact hold id' (Or.inl hh) k hk
        · exact LockState.free_iff.mp hfree k hk
        · exact hold id' (Or.inr hc) k hk
      · intro session hr
        cases hr
      · intro b' hb'
        cases hb'
        refine ⟨fun session hmem hcovers hlive => ?_, hapart⟩
        by_cases hid : session.id = id
        · exact Or.inr (hid ▸ List.mem_cons_self)
        · rcases h.seen t b hbulk session hmem hcovers hlive with hm | hc
          · exact Or.inl (htodo hm hid)
          · exact Or.inr (List.mem_cons_of_mem id hc)
    · next hskip =>
      apply hpass
      intro session hmem hid hcovers
      have hsame : row = session := Table.eq_of_key_eq (Table.mem_of_find hrow) hmem
        ((Table.key_of_find hrow).trans hid.symm)
      rw [hsame, hcovers] at hskip
      simpa using hskip
  · exact h

/-- A commit that writes rows no other transaction has locked. -/
theorem finishWith (h : LocksSound s) {tx : Transaction} (hget : s.txs[t]? = some tx)
    {db' : AuthDatabase}
    (hkeep : ∀ session ∈ s.db.authSessions, tx.holds session.id = false →
      session ∈ db'.authSessions)
    (hlive : ∀ session ∈ db'.authSessions, session.isRevoked = false →
      session ∈ s.db.authSessions ∨
        (∀ k b, (s.tx k).bulk = some b → b.target.covers session = false) ∧
          ∀ r ∈ s.revocations, r.target.covers session = false) :
    LocksSound { s.put t .finished with db := db' } := by
  have hput := LockState.tx_put (LockState.lt_of_getElem? hget) .finished
  apply (h.finish t).withDb
  · intro k session hk
    rw [hput] at hk
    split at hk
    · cases hk
    · next hkt =>
      apply hkeep session (h.current k session hk).1
      have hfree := h.exclusive k t session.id hkt (Transaction.holds_of_replaces hk)
      rwa [LockState.tx_of_getElem? hget] at hfree
  · intro session hmem hrevoked
    refine (hlive session hmem hrevoked).imp_right fun hnew => ⟨?_, hnew.2⟩
    intro k b hk
    rw [hput] at hk
    split at hk
    · cases hk
    · exact hnew.1 k b hk

theorem commitReplacement (h : LocksSound s) {session : AuthSession} {draws : Draws}
    {now : Timestamp} (hget : s.txs[t]? = some (.replaced session draws now)) :
    LocksSound (s.commit env t (.replaced session draws now)) := by
  have hreplaces : (s.tx t).replaces = some session := by
    rw [LockState.tx_of_getElem? hget]
    rfl
  have hold := (h.current t session hreplaces).1
  unfold LockState.commit
  simp only
  split
  · exact h.finish t
  next replacement db' hopen =>
  have hopened := AuthDatabase.openSession_eq_some hopen
  apply h.finishWith hget
  · intro session' hmem hfree
    refine (Table.mem_set (hopened.find_replaced hold now)).mpr (Or.inr ⟨?_, ?_⟩)
    · exact (Table.mem_insert hopened.inserted).mpr (Or.inl hmem)
    · intro hid
      rw [Transaction.holds, decide_eq_true (show session.id = session'.id from hid.symm)] at hfree
      cases hfree
  · intro session' hmem hlive
    rcases live_of_replace hold hopened.inserted hmem hlive with rfl | ⟨hmem', -⟩
    · refine Or.inr ⟨fun k b hk => ?_, fun r hr => ?_⟩
      · rw [RevokeTarget.covers_congr hopened.userId_eq hopened.familyId_eq]
        exact h.not_covered hreplaces hk
      · rw [RevokeTarget.covers_congr hopened.userId_eq hopened.familyId_eq]
        exact h.not_closed hreplaces hr
    · exact Or.inl hmem'

/-- A commit that revokes rows its transaction has locked. -/
theorem finishRevoking (h : LocksSound s) {tx : Transaction} (hget : s.txs[t]? = some tx)
    {p : AuthSession → Bool} (hholds : ∀ session, p session = true → tx.holds session.id = true)
    (now : Timestamp) :
    LocksSound { s.put t .finished with db := s.db.revokeWhere p now } := by
  apply h.finishWith hget
  · intro session hmem hfree
    apply AuthDatabase.mem_revokeWhere_of_not hmem
    by_contra hp
    rw [hholds session (by simpa using hp)] at hfree
    cases hfree
  · intro session hmem hlive
    exact Or.inl (AuthDatabase.live_of_revokeWhere hmem hlive).1

/-- A committed revocation is recorded when it has left no live row. -/
theorem record (h : LocksSound s) {r : Revocation}
    (hclosed : ∀ session ∈ s.db.authSessions, r.target.covers session = true →
      session.isRevoked = true) :
    LocksSound { s with revocations := s.revocations ++ [r] } := by
  refine { h with closed := ?_ }
  intro r' hr'
  rcases List.mem_append.mp hr' with hold | hnew
  · exact h.closed r' hold
  · rw [List.mem_singleton.mp hnew]
    exact hclosed

theorem commitUpdate (h : LocksSound s) {held : Option Uuid} {b : BulkUpdate}
    (hget : s.txs[t]? = some (.updating held b)) :
    LocksSound (s.commit env t (.updating held b)) := by
  unfold LockState.commit
  simp only
  split
  · next hdone =>
    have hholds : ∀ session : AuthSession, decide (session.id ∈ b.changed) = true →
        (Transaction.updating held b).holds session.id = true := by
      intro session hchanged
      simp only [Transaction.holds, decide_eq_true_eq]
      exact Or.inr (of_decide_eq_true hchanged)
    have hrevoked := h.finishRevoking hget hholds b.revokedAt
    apply hrevoked.record
    intro session hmem hcovers
    by_contra hlive
    obtain ⟨hold, hunchanged⟩ :=
      AuthDatabase.live_of_revokeWhere hmem (by simpa using hlive)
    rcases h.seen t b (by rw [LockState.tx_of_getElem? hget]; rfl) session hold hcovers
      (by simpa using hlive) with htodo | hchanged
    · rw [hdone] at htodo
      cases htodo
    · rw [decide_eq_true hchanged] at hunchanged
      cases hunchanged
  · exact h

theorem commit (h : LocksSound s) {tx : Transaction} (hget : s.txs[t]? = some tx) :
    LocksSound (s.commit env t tx) := by
  cases tx with
  | replaced session draws now => exact h.commitReplacement hget
  | expiring session now =>
      have hholds : ∀ other : AuthSession, decide (other.id = session.id) = true →
          (Transaction.expiring session now).holds other.id = true :=
        fun _ hid => decide_eq_true (of_decide_eq_true hid).symm
      exact h.finishRevoking hget hholds now
  | updating held b => exact h.commitUpdate hget
  | rotating | replacing | inserted | revokingFamily | revokingAll | finished => exact h

theorem step (h : LocksSound s) {a : LockAction} (hguard : s.Guarded env a) :
    LocksSound (s.step env a) := by
  unfold LockState.step
  cases a with
  | beginRotation raw draws now => exact h.begin (fun _ => rfl) rfl rfl
  | beginRevokeAll userId now => exact h.begin (fun _ => rfl) rfl rfl
  | select t =>
      simp only
      split
      · next hget => exact h.select hget hguard
      · exact h
  | insert t =>
      simp only
      split
      · next hget =>
        unfold LockState.insert
        split
        · exact h.finish t
        · exact h.advance hget (fun _ hid => hid) (fun _ hr => hr) rfl
      · exact h
  | write t =>
      simp only
      split
      · next hget => exact h.advance hget (fun _ hid => hid) (fun _ hr => hr) rfl
      · exact h
  | update t =>
      simp only
      split
      · next hget =>
        exact h.startUpdate hget (fun id hid => by simpa [Transaction.holds] using hid) rfl hguard
      · next hget => exact h.startUpdate hget (fun id hid => by cases hid) rfl hguard
      · exact h
  | visit t id =>
      simp only
      split
      · next hget =>
        split
        · exact h.visit hget
        · exact h
      · exact h
  | commit t =>
      simp only
      split
      · next hget => exact h.commit hget
      · exact h
  | rollback t => exact h.finish t

end LocksSound

/-- A session replaced, directly or over several generations, from one of some sessions. -/
inductive LockState.Descends (s : LockState) (existing : List Uuid) : Uuid → Prop
  | existing {id : Uuid} (h : id ∈ existing) : Descends s existing id
  | replaced {session : AuthSession} {id : Uuid} (h : Descends s existing session.id)
      (hmem : session ∈ s.db.authSessions) (hnext : session.replacedById = some id) :
      Descends s existing id

/-- Once the rotations under way at its commit have ended, no session of its target that descends
from the sessions there were at its start is unrevoked. -/
def LockState.Complete (s : LockState) (r : Revocation) : Prop :=
  (∀ k ∈ r.rivals, s.txs[k]? = some .finished) →
    ∀ session ∈ s.db.authSessions, r.target.covers session = true →
      s.Descends r.existing session.id → session.isRevoked = true

/-- In every interleaving in which no rotation comes between a revoking `UPDATE` and a row it has
still to visit, every committed revocation is complete. -/
theorem revocation_not_outrun (env : Environment) (db : AuthDatabase) {actions : List LockAction}
    (hguarded : Transition.Along (LockState.step env) (LockState.Guarded env) (LockState.start db)
      actions) :
    let s := Transition.run (LockState.step env) (LockState.start db) actions
    ∀ r ∈ s.revocations, s.Complete r := by
  have hsound := Transition.Along.kept (P := LocksSound) (fun s a h ha => h.step ha)
    (LocksSound.start db) hguarded
  intro s r hr _ session hmem hcovers _
  exact hsound.closed r hr session hmem hcovers

/-- One user with one live session, whose token is `first`. -/
def sampleSignedIn : AuthDatabase :=
  (createAuthSession sampleEnvironment 1 (sampleDraws 10 "first") 0 0 sampleAccounts).2

/-- A logout from all devices after a rotation. -/
theorem revocation_not_outrun_sample :
    let s := Transition.run (LockState.step sampleEnvironment) (LockState.start sampleSignedIn)
      [.beginRotation "first" (sampleDraws 11 "second") 60000000, .select 0, .insert 0, .write 0,
        .commit 0, .beginRevokeAll 1 120000000, .update 1, .visit 1 11, .commit 1]
    (∀ r ∈ s.revocations, s.Complete r) ∧ s.revocations.length = 1 := by
  refine ⟨revocation_not_outrun sampleEnvironment sampleSignedIn ?_, ?_⟩
  · decide +kernel
  · decide +kernel

/-- The `UPDATE` of a logout from all devices starts while a rotation holds the only session: it
waits, passes over the old row, and does not see the new one. -/
theorem revocation_outrun :
    let s := Transition.run (LockState.step sampleEnvironment) (LockState.start sampleSignedIn)
      [.beginRotation "first" (sampleDraws 11 "second") 60000000, .select 0,
        .beginRevokeAll 1 60000000, .update 1, .insert 0, .write 0, .visit 1 10, .commit 0,
        .visit 1 10, .commit 1]
    ∃ r ∈ s.revocations, ¬s.Complete r := by
  intro s
  have hrevoked : s.revocations = [⟨.user 1, [10], []⟩] := rfl
  have hnew : ∃ session ∈ s.db.authSessions, session.id = 11 ∧ session.userId = 1 ∧
      session.isRevoked = false := by
    decide +kernel
  have hold : ∃ session ∈ s.db.authSessions, session.id = 10 ∧
      session.replacedById = some 11 := by
    decide +kernel
  refine ⟨⟨.user 1, [10], []⟩, by simp [hrevoked], ?_⟩
  intro hcomplete
  obtain ⟨session, hmem, hid, huser, hlive⟩ := hnew
  obtain ⟨parent, hparent, hpid, hnext⟩ := hold
  have hdescends : s.Descends [10] session.id := by
    rw [hid]
    exact .replaced (.existing (by simp [hpid])) hparent hnext
  have hrevoked' := hcomplete (by simp) session hmem (decide_eq_true huser) hdescends
  rw [hlive] at hrevoked'
  cases hrevoked'

end ChargeMate.Auth
