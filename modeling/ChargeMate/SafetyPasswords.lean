import ChargeMate.ModelLogins
import ChargeMate.SafetyFamilies
import Mathlib.Data.List.Chain

/-! Password changes of one user. A request checks the instance its decorator loaded, so the lock
protects the check only if no other change has committed in between. Where that holds, every
accepted request presented the password in force, and the accepted requests are a chain: each
presents what the one before it has set. -/

namespace ChargeMate.Auth

open Relational

variable {env : Environment} {userId : Uuid} {s : ChangeState}

/-- The commit of a request that holds the lock and passes its checks. -/
structure ChangeState.Accepts (env : Environment) (s : ChangeState) (i : Nat) (now : Timestamp)
    (r : ChangeRequest) : Prop where
  locked : s.lockedBy = some i
  request : s.requests i = some r
  accepted : (changeLoadedPassword env r.user r.data r.salt now s.db).1.isOk = true

/-- An accepted request presents the password in force immediately before its commit. -/
def ChangeState.PresentsInForce (env : Environment) (userId : Uuid) (s : ChangeState) :
    ChangeAction → Prop
  | .commit i now => ∀ r ∈ s.requests i, s.lockedBy = some i →
      (changeLoadedPassword env r.user r.data r.salt now s.db).1.isOk = true →
      ∃ user ∈ s.db.users.find userId, user.checkPassword env r.data.currentPassword = true
  | _ => True

instance (s : ChangeState) (a : ChangeAction) : Decidable (s.PresentsInForce env userId a) := by
  cases a <;> unfold ChangeState.PresentsInForce <;> infer_instance

/-- The lock is granted while the password is still the one that was loaded. -/
def ChangeState.Unmoved (userId : Uuid) (s : ChangeState) : ChangeAction → Prop
  | .lock i => s.lockedBy = none → ∀ r ∈ s.requests i,
      ∀ user ∈ s.db.users.find userId, user.passwordHash = r.user.passwordHash
  | _ => True

instance (s : ChangeState) (a : ChangeAction) : Decidable (s.Unmoved userId a) := by
  cases a <;> unfold ChangeState.Unmoved <;> infer_instance

/-! ### Steps -/

theorem find_writePassword {db : AuthDatabase} {hash : String} {user : User}
    (h : db.users.find userId = some user) :
    (db.writePassword userId hash).users.find userId = some { user with passwordHash := hash } := by
  unfold AuthDatabase.writePassword
  rw [Table.find_updateWhere, h, Option.map_some,
    if_pos (decide_eq_true (show user.id = userId from Table.key_of_find h))]

/-- The state after an accepted request. -/
def ChangeState.accept (env : Environment) (s : ChangeState) (i : Nat) (now : Timestamp)
    (r : ChangeRequest) : ChangeState :=
  { s.finish i with
    db := (s.db.writePassword r.user.id
      (env.generatePasswordHash r.salt r.data.newPassword)).revokeWhere
        (fun session => session.userId = r.user.id) now
    accepted := s.accepted ++ [r.data] }

theorem ChangeState.find_accept (env : Environment) (i : Nat) (now : Timestamp)
    {r : ChangeRequest} {user : User} (hid : r.user.id = userId) (h : s.db.users.find userId = some user) :
    (s.accept env i now r).db.users.find userId = some { user with
      passwordHash := env.generatePasswordHash r.salt r.data.newPassword } := by
  rw [ChangeState.accept, hid]
  exact find_writePassword h

theorem ChangeState.commit_cases (env : Environment) (s : ChangeState) (i : Nat)
    (now : Timestamp) :
    s.commit env i now = s ∨ s.commit env i now = s.finish i ∨
      ∃ r, s.Accepts env i now r ∧ s.commit env i now = s.accept env i now r := by
  unfold ChangeState.commit
  split
  · next hlock =>
    split
    · exact Or.inl rfl
    · next r hr =>
      rcases changeLoadedPassword_cases env r.user r.data r.salt now s.db with
        ⟨e, he⟩ | ⟨-, -, hok⟩
      · exact Or.inr (Or.inl (by simp only [he]; rfl))
      · refine Or.inr (Or.inr ⟨r, ⟨hlock, hr, by rw [hok]; rfl⟩, ?_⟩)
        simp only [hok]
        rfl
  · exact Or.inl rfl

theorem ChangeState.Accepts.checks {i : Nat} {now : Timestamp} {r : ChangeRequest}
    (h : s.Accepts env i now r) : r.user.checkPassword env r.data.currentPassword = true ∧
      r.user.checkPassword env r.data.newPassword = false := by
  rcases changeLoadedPassword_cases env r.user r.data r.salt now s.db with ⟨e, he⟩ | ⟨hc, hn, -⟩
  · have hok := h.accepted
    rw [he] at hok
    cases hok
  · exact ⟨hc, hn⟩

theorem ChangeState.requests_of_finish {i j : Nat} {r : ChangeRequest}
    (h : (s.finish i).requests j = some r) : s.requests j = some r := by
  by_cases hj : j = i
  · rw [hj, show (s.finish i).requests i = none from Function.update_self _ _ _] at h
    cases h
  · rwa [show (s.finish i).requests j = s.requests j from Function.update_of_ne hj _ _] at h

/-! ### What the requests under way have loaded -/

structure LoadedSound (userId : Uuid) (s : ChangeState) : Prop where
  loaded : ∀ i r, s.requests i = some r → r.user.id = userId ∧
    ∃ user, s.db.users.find userId = some user
  /-- The request that holds the lock has the password that is stored. -/
  held : ∀ i r user, s.lockedBy = some i → s.requests i = some r →
    s.db.users.find userId = some user → user.passwordHash = r.user.passwordHash

namespace LoadedSound

theorem start (db : AuthDatabase) : LoadedSound userId (ChangeState.start db) where
  loaded _ _ h := by cases h
  held _ _ _ h := by cases h

theorem load (h : LoadedSound userId s) (i : Nat) (data : ChangePasswordRequest)
    (salt : String) : LoadedSound userId (s.load userId i data salt) := by
  unfold ChangeState.load
  split
  · next user hfree hfind =>
    constructor
    · intro j r hr
      simp only at hr ⊢
      by_cases hj : j = i
      · rw [hj, Function.update_self, Option.some.injEq] at hr
        rw [← hr]
        exact ⟨Table.key_of_find hfind, user, hfind⟩
      · rw [Function.update_of_ne hj] at hr
        exact h.loaded j r hr
    · intro j r user' hlock hr huser'
      simp only at hlock hr huser'
      by_cases hj : j = i
      · rw [hj, Function.update_self, Option.some.injEq] at hr
        rw [← hr, ← Option.some.inj (hfind.symm.trans huser')]
      · rw [Function.update_of_ne hj] at hr
        exact h.held j r user' hlock hr huser'
  · exact h

theorem lock (h : LoadedSound userId s) {i : Nat} (hunmoved : s.Unmoved userId (.lock i)) :
    LoadedSound userId (s.lock i) := by
  unfold ChangeState.lock
  split
  · next hfree =>
    refine { loaded := h.loaded, held := ?_ }
    intro j r user hlock hr huser
    cases hlock
    exact hunmoved hfree.1 r hr user huser
  · exact h

theorem finish (h : LoadedSound userId s) (i : Nat) : LoadedSound userId (s.finish i) where
  loaded j r hr := h.loaded j r (ChangeState.requests_of_finish hr)
  held _ _ _ hlock := by cases hlock

theorem accept (h : LoadedSound userId s) {i : Nat} {now : Timestamp} {r : ChangeRequest}
    (ha : s.Accepts env i now r) : LoadedSound userId (s.accept env i now r) where
  loaded j r' hr' := by
    obtain ⟨hid, user, huser⟩ := h.loaded j r' (ChangeState.requests_of_finish hr')
    exact ⟨hid, _, ChangeState.find_accept env i now (h.loaded i r ha.request).1 huser⟩
  held _ _ _ hlock := by cases hlock

theorem step (h : LoadedSound userId s) {a : ChangeAction} (hunmoved : s.Unmoved userId a) :
    LoadedSound userId (s.step env userId a) := by
  cases a with
  | load i data salt => exact h.load i data salt
  | lock i => exact h.lock hunmoved
  | commit i now =>
      show LoadedSound userId (s.commit env i now)
      rcases s.commit_cases env i now with hsame | hfinish | ⟨r, ha, haccept⟩
      · rwa [hsame]
      · rw [hfinish]
        exact h.finish i
      · rw [haccept]
        exact h.accept ha

/-- An accepted request has checked the stored hash. -/
theorem stored (h : LoadedSound userId s) {i : Nat} {now : Timestamp} {r : ChangeRequest}
    (ha : s.Accepts env i now r) :
    ∃ user, s.db.users.find userId = some user ∧ user.passwordHash = r.user.passwordHash := by
  obtain ⟨-, user, huser⟩ := h.loaded i r ha.request
  exact ⟨user, huser, h.held i r user ha.locked ha.request huser⟩

theorem presentsInForce (h : LoadedSound userId s) (a : ChangeAction) :
    s.PresentsInForce env userId a := by
  cases a with
  | load | lock => trivial
  | commit i now =>
      intro r hr hlock hok
      have ha : s.Accepts env i now r := ⟨hlock, hr, hok⟩
      obtain ⟨user, huser, hhash⟩ := h.stored ha
      refine ⟨user, huser, ?_⟩
      rw [User.checkPassword, hhash]
      exact ha.checks.1

end LoadedSound

/-! ### The accepted requests -/

/-- Each accepted request presents the password that the one before it has set. -/
structure AcceptedChain (env : Environment) (userId : Uuid) (s : ChangeState) : Prop where
  chain : s.accepted.IsChain fun a b => b.currentPassword = a.newPassword
  renews : ∀ a ∈ s.accepted, a.newPassword ≠ a.currentPassword
  /-- The last one has set the password in force. -/
  last : ∀ a ∈ s.accepted.getLast?, ∀ user, s.db.users.find userId = some user →
    ∃ salt, user.passwordHash = env.generatePasswordHash salt a.newPassword

namespace AcceptedChain

theorem start (db : AuthDatabase) : AcceptedChain env userId (ChangeState.start db) where
  chain := List.isChain_nil
  renews _ h := by cases h
  last _ h := by cases h

/-- `werkzeug.security` accepts the password a hash was made from, and no other. -/
theorem accept (hcheck : ∀ salt p q,
      env.checkPasswordHash (env.generatePasswordHash salt p) q = true ↔ q = p)
    (h : AcceptedChain env userId s) (hl : LoadedSound userId s) {i : Nat} {now : Timestamp}
    {r : ChangeRequest} (ha : s.Accepts env i now r) :
    AcceptedChain env userId (s.accept env i now r) := by
  obtain ⟨user, huser, hhash⟩ := hl.stored ha
  obtain ⟨hcurrent, hnew⟩ := ha.checks
  rw [User.checkPassword, ← hhash] at hcurrent hnew
  constructor
  · show (s.accepted ++ [r.data]).IsChain _
    rw [List.isChain_append]
    refine ⟨h.chain, List.isChain_singleton _, ?_⟩
    intro a hlast b hb
    obtain ⟨salt, hstored⟩ := h.last a hlast user huser
    rw [List.head?_cons, Option.mem_def, Option.some.injEq] at hb
    rw [← hb]
    exact (hcheck salt a.newPassword r.data.currentPassword).mp (hstored ▸ hcurrent)
  · intro a hmem
    rcases List.mem_append.mp hmem with hold | hlast
    · exact h.renews a hold
    · rw [List.mem_singleton.mp hlast]
      intro heq
      rw [heq, hcurrent] at hnew
      cases hnew
  · intro a hlast user' huser'
    have ha' : a = r.data := by
      simpa [ChangeState.accept, eq_comm] using hlast
    refine ⟨r.salt, ?_⟩
    have hwritten := ChangeState.find_accept env i now (hl.loaded i r ha.request).1 huser
    rw [← Option.some.inj (hwritten.symm.trans huser'), ha']

theorem step (hcheck : ∀ salt p q,
      env.checkPasswordHash (env.generatePasswordHash salt p) q = true ↔ q = p)
    (h : AcceptedChain env userId s) (hl : LoadedSound userId s) (a : ChangeAction) :
    AcceptedChain env userId (s.step env userId a) := by
  cases a with
  | load i data salt =>
      show AcceptedChain env userId (s.load userId i data salt)
      unfold ChangeState.load
      split <;> exact ⟨h.chain, h.renews, h.last⟩
  | lock i =>
      show AcceptedChain env userId (s.lock i)
      unfold ChangeState.lock
      split <;> exact ⟨h.chain, h.renews, h.last⟩
  | commit i now =>
      show AcceptedChain env userId (s.commit env i now)
      rcases s.commit_cases env i now with hsame | hfinish | ⟨r, ha, haccept⟩
      · rwa [hsame]
      · rw [hfinish]
        exact ⟨h.chain, h.renews, h.last⟩
      · rw [haccept]
        exact h.accept hcheck hl ha

/-- Between two accepted requests that present one password, another has set it again. -/
theorem set_between (h : AcceptedChain env userId s) {i j : Nat} {a b : ChangePasswordRequest}
    (hij : i < j) (ha : s.accepted[i]? = some a) (hb : s.accepted[j]? = some b)
    (hsame : a.currentPassword = b.currentPassword) :
    ∃ k c, i < k ∧ k < j ∧ s.accepted[k]? = some c ∧ c.newPassword = b.currentPassword := by
  obtain ⟨hj, hbj⟩ := List.getElem?_eq_some_iff.mp hb
  obtain ⟨k, rfl⟩ : ∃ k, j = k + 1 := ⟨j - 1, by omega⟩
  have hk : k < s.accepted.length := by omega
  have hlink : b.currentPassword = s.accepted[k].newPassword := by
    rw [← hbj]
    exact List.isChain_iff_getElem.mp h.chain k hj
  refine ⟨k, s.accepted[k], ?_, by omega, List.getElem?_eq_getElem hk, hlink.symm⟩
  by_contra hle
  have hik : i = k := by omega
  subst hik
  rw [List.getElem?_eq_getElem hk, Option.some.injEq] at ha
  apply h.renews s.accepted[i] (List.getElem_mem hk)
  rw [← hlink, ← hsame, ha]

end AcceptedChain

/-- If no request is granted the lock after another change has replaced the password it loaded,
every accepted request presents the password in force, and two that present the same one have
another between them that set it again. -/
theorem password_changes_not_lost (env : Environment)
    (hcheck : ∀ salt p q,
      env.checkPasswordHash (env.generatePasswordHash salt p) q = true ↔ q = p)
    (userId : Uuid) (db : AuthDatabase) {actions : List ChangeAction}
    (hunmoved : Transition.Along (ChangeState.step env userId) (ChangeState.Unmoved userId)
      (ChangeState.start db) actions) :
    Transition.Along (ChangeState.step env userId) (ChangeState.PresentsInForce env userId)
      (ChangeState.start db) actions ∧
    let accepted := (Transition.run (ChangeState.step env userId) (ChangeState.start db)
      actions).accepted
    ∀ (i j : Nat) (a b : ChangePasswordRequest), i < j → accepted[i]? = some a → accepted[j]? = some b →
      a.currentPassword = b.currentPassword →
      ∃ k c, i < k ∧ k < j ∧ accepted[k]? = some c ∧ c.newPassword = b.currentPassword := by
  constructor
  · exact Transition.Along.imp (P := LoadedSound userId) (fun s a h ha => h.step ha)
      (fun s a h _ => h.presentsInForce a) (LoadedSound.start db) hunmoved
  · have hchain := Transition.Along.kept
      (P := fun s => LoadedSound userId s ∧ AcceptedChain env userId s)
      (fun s a h ha => ⟨h.1.step ha, h.2.step hcheck h.1 a⟩)
      ⟨LoadedSound.start db, AcceptedChain.start db⟩ hunmoved
    intro accepted i j a b hij ha hb hsame
    exact hchain.2.set_between hij ha hb hsame

/-- Two requests one after the other, the second presenting what the first has set. -/
theorem password_changes_not_lost_sample :
    let actions : List ChangeAction :=
      [.load 0 ⟨"a-long-test-password", "a-new-long-test-password"⟩ "salt", .lock 0, .commit 0 0,
        .load 1 ⟨"a-new-long-test-password", "a-third-long-password"⟩ "salt", .lock 1, .commit 1 1]
    Transition.Along (ChangeState.step sampleEnvironment 1)
        (ChangeState.PresentsInForce sampleEnvironment 1) (ChangeState.start sampleAccounts) actions ∧
      (Transition.run (ChangeState.step sampleEnvironment 1) (ChangeState.start sampleAccounts)
        actions).accepted.length = 2 := by
  refine ⟨(password_changes_not_lost sampleEnvironment ?_ 1 sampleAccounts ?_).1, ?_⟩
  · intro salt p q
    rw [sampleEnvironment, beq_iff_eq, eq_comm]
  · decide +kernel
  · decide +kernel

/-- Two requests load the user before either commits: both present the first password, and the
second is accepted although it is no longer in force. -/
theorem password_change_lost :
    let actions : List ChangeAction :=
      [.load 0 ⟨"a-long-test-password", "a-new-long-test-password"⟩ "salt",
        .load 1 ⟨"a-long-test-password", "a-third-long-password"⟩ "salt",
        .lock 0, .commit 0 0, .lock 1, .commit 1 1]
    ¬Transition.Along (ChangeState.step sampleEnvironment 1)
        (ChangeState.PresentsInForce sampleEnvironment 1) (ChangeState.start sampleAccounts) actions ∧
      (Transition.run (ChangeState.step sampleEnvironment 1) (ChangeState.start sampleAccounts)
        actions).accepted.map ChangePasswordRequest.currentPassword =
          ["a-long-test-password", "a-long-test-password"] := by
  decide +kernel

end ChargeMate.Auth
