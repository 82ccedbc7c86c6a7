import ChargeMate.ModelLogins
import ChargeMate.SafetyFamilies

/-! Failed logins on one account. `authenticate_user` counts in Python, from a row it has read
without a lock, so an attempt that writes after another has written loses the other's count. Where
every write finds the row as it was read, the attempts are serial and all of them count, until the
account locks. -/

namespace ChargeMate.Auth

variable {env : Environment} {user : User}

/-- The failures an attempt adds to: a lock that has run out is cleared with its failures. -/
def User.standingFailures (user : User) : Nat :=
  if user.lockedUntil.isSome then 0 else user.failedLoginAttempts

/-- The row after a failed attempt on an account that is not locked. -/
theorem attemptLogin_wrong {password : String} {now : Timestamp} (hactive : user.isActive = true)
    (hunlocked : isAccountLocked user now = false)
    (hwrong : user.checkPassword env password = false) :
    (attemptLogin env user password now).1.failedLoginAttempts = user.standingFailures + 1 ∧
      (attemptLogin env user password now).1.lockedUntil =
        if env.loginMaxFailedAttempts ≤ user.standingFailures + 1 then
          some (now + minutes env.loginLockoutMinutes)
        else none := by
  have hlock : ((if user.lockedUntil.isSome then user.resetLogin else user).lockedUntil) = none := by
    cases hl : user.lockedUntil with
    | none => simpa using hl
    | some t => rfl
  have hcount : ((if user.lockedUntil.isSome then user.resetLogin else user).failedLoginAttempts) =
      user.standingFailures := by
    unfold User.standingFailures
    split <;> rfl
  simp only [attemptLogin, hunlocked, hactive, hwrong, Bool.not_true, Bool.or_self,
    Bool.false_eq_true, if_false, recordFailedLogin]
  simp only [hcount]
  split
  · exact ⟨rfl, rfl⟩
  · exact ⟨rfl, hlock⟩

/-- A lock set by one of the attempts has not run out when another one is made. -/
def LockLasts (user : User) (before : List LoginAttempt) (attempt : LoginAttempt) : Prop :=
  user.lockedUntil.isSome = true → isAccountLocked user attempt.now = true ∨ before = []

instance (user : User) (before : List LoginAttempt) (attempt : LoginAttempt) :
    Decidable (LockLasts user before attempt) :=
  inferInstanceAs (Decidable (_ → _))

/-- The maximum was reached and one of the attempts has locked the account. -/
def LockedOut (env : Environment) (user : User) (attempts : List LoginAttempt) : Prop :=
  env.loginMaxFailedAttempts ≤ user.failedLoginAttempts ∧
    ∃ attempt ∈ attempts, user.lockedUntil = some (attempt.now + minutes env.loginLockoutMinutes)

/-- The stored row `v` after some attempts on the account `user`. -/
structure Tally (env : Environment) (user v : User) (attempts : List LoginAttempt) : Prop where
  active : v.isActive = true
  password : v.passwordHash = user.passwordHash
  counted : (attempts = [] ∧ v = user) ∨
    (v.lockedUntil = none ∧
      v.failedLoginAttempts = user.standingFailures + attempts.length) ∨
    LockedOut env v attempts

namespace Tally

variable {v : User} {attempts : List LoginAttempt} {attempt : LoginAttempt}

/-- One more failed attempt on an account that is not locked. -/
theorem fail (h : Tally env user v attempts) (hunlocked : isAccountLocked v attempt.now = false)
    (hstanding : v.standingFailures = user.standingFailures + attempts.length)
    (hwrong : v.checkPassword env attempt.password = false) :
    Tally env user (attemptLogin env v attempt.password attempt.now).1
      (attempts ++ [attempt]) := by
  have hcolumns := attemptLogin_columns env v attempt.password attempt.now
  obtain ⟨hcount, hlock⟩ := attemptLogin_wrong h.active hunlocked hwrong
  generalize (attemptLogin env v attempt.password attempt.now).1 = v' at *
  have hnow : v'.failedLoginAttempts = user.standingFailures + (attempts ++ [attempt]).length := by
    rw [hcount, hstanding, List.length_append, List.length_singleton, Nat.add_assoc]
  refine ⟨by rw [hcolumns]; exact h.active, by rw [hcolumns]; exact h.password, Or.inr ?_⟩
  split at hlock
  · next hmax => exact Or.inr ⟨hcount ▸ hmax, attempt, by simp, hlock⟩
  · exact Or.inl ⟨hlock, hnow⟩

/-- Any further failed attempt keeps the tally, unless it finds a lock that has run out. -/
theorem step (h : Tally env user v attempts)
    (hwrong : user.checkPassword env attempt.password = false)
    (hunlocked : isAccountLocked user attempt.now = false) (hlasts : LockLasts v attempts attempt) :
    Tally env user (attemptLogin env v attempt.password attempt.now).1
      (attempts ++ [attempt]) := by
  have hwrong' : v.checkPassword env attempt.password = false := by
    rwa [User.checkPassword, h.password]
  rcases h.counted with ⟨hnone, hsame⟩ | ⟨hopen, hcount⟩ | ⟨hmax, earlier, hmem, hlock⟩
  · apply h.fail (hsame ▸ hunlocked) _ hwrong'
    rw [hsame, hnone, List.length_nil, Nat.add_zero]
  · apply h.fail _ _ hwrong'
    · rw [isAccountLocked, hopen]
    · rw [User.standingFailures, hopen, Option.isSome_none, if_neg Bool.false_ne_true, hcount]
  · have hlocked : isAccountLocked v attempt.now = true := by
      rcases hlasts (by rw [hlock]; rfl) with hlocked | hnone
      · exact hlocked
      · rw [hnone] at hmem
        cases hmem
    have hunchanged : attemptLogin env v attempt.password attempt.now = (v, false) := by
      rw [attemptLogin, hlocked, Bool.true_or, if_pos rfl]
    rw [hunchanged]
    exact ⟨h.active, h.password, Or.inr (Or.inr ⟨hmax, earlier, by simp [hmem], hlock⟩)⟩

end Tally

/-- Any number of concurrent failed attempts on an account that is active and not locked: if every
one writes to the row as it has read it, and no lock they set runs out among them, the failures have
grown by their number or one of them has locked the account at the maximum. -/
theorem failed_logins_not_lost (env : Environment) (user : User) (hactive : user.isActive = true)
    {actions : List (Cell.Action LoginAttempt)}
    (hattempts : ∀ attempt, .read attempt ∈ actions →
      user.checkPassword env attempt.password = false ∧
        isAccountLocked user attempt.now = false)
    (hundisturbed : Transition.Along (Cell.step (loginClient env)) (Cell.Undisturbed LockLasts)
      (Cell.start user) actions) :
    let s := Transition.run (Cell.step (loginClient env)) (Cell.start user) actions
    (s.committed = [] ∧ s.value = user) ∨
      s.value.failedLoginAttempts = user.standingFailures + s.committed.length ∨
      LockedOut env s.value s.committed := by
  have hstart : Tally env user user [] := ⟨hactive, rfl, Or.inl ⟨rfl, rfl⟩⟩
  have hstep : ∀ v before (attempt : LoginAttempt),
      user.checkPassword env attempt.password = false ∧
          isAccountLocked user attempt.now = false →
        LockLasts v before attempt → Tally env user v before →
          Tally env user ((loginClient env).compute attempt v) (before ++ [attempt]) :=
    fun v before attempt hattempt hlasts h => h.step hattempt.1 hattempt.2 hlasts
  have htally := Cell.serial hstep hstart hattempts hundisturbed
  exact htally.counted.imp_right (Or.imp_left And.right)

/-- Two attempts, the second made when the first has committed. -/
theorem failed_logins_not_lost_sample :
    let s := Transition.run (Cell.step (loginClient sampleEnvironment)) (Cell.start sampleUser)
      [.read ⟨"first-guess", 0⟩, .write 0, .read ⟨"second-guess", 1⟩, .write 0]
    ((s.committed = [] ∧ s.value = sampleUser) ∨
      s.value.failedLoginAttempts = sampleUser.standingFailures + s.committed.length ∨
      LockedOut sampleEnvironment s.value s.committed) ∧ s.committed.length = 2 := by
  refine ⟨failed_logins_not_lost sampleEnvironment sampleUser rfl ?_ ?_, ?_⟩
  · intro attempt hread
    simp only [List.mem_cons, List.not_mem_nil, or_false, reduceCtorEq, false_or,
      Cell.Action.read.injEq] at hread
    rcases hread with rfl | rfl <;> decide +kernel
  · decide +kernel
  · decide +kernel

/-- Two attempts read the row before either writes: one failure is counted. -/
theorem failed_login_lost :
    let s := Transition.run (Cell.step (loginClient sampleEnvironment)) (Cell.start sampleUser)
      [.read ⟨"first-guess", 0⟩, .read ⟨"second-guess", 1⟩, .write 0, .write 0]
    s.readings.length = 0 ∧ s.committed.length = 2 ∧ s.value.lockedUntil = none ∧
      s.value.failedLoginAttempts = sampleUser.failedLoginAttempts + 1 := by
  decide +kernel

end ChargeMate.Auth
