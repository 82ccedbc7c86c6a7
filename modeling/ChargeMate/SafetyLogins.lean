import ChargeMate.ModelLogins
import ChargeMate.SafetyFamilies

/-! What a password change cuts off. Every live session is of the password in force, in every run
in which no change of an account's password falls between the two transactions of a login to that
account. The change revokes what exists; a login that has passed its check is not yet a session. -/

namespace ChargeMate.Auth

open Relational

/-- Every unrevoked session was issued on the strength of its user's present password. -/
def LoginState.CutOff (s : LoginState) : Prop :=
  ∀ session ∈ s.db.authSessions, session.isRevoked = false →
    s.strength session.id = s.passwordVersion session.userId

instance (s : LoginState) : Decidable s.CutOff := by
  unfold LoginState.CutOff
  infer_instance

/-- A login opens its session under the password it was checked against. -/
def LoginState.Timely (s : LoginState) : LoginAction → Prop
  | .create login _ _ _ =>
      ∀ p ∈ s.pending[login]?, p.passwordVersion = s.passwordVersion p.userId
  | _ => True

instance (s : LoginState) (a : LoginAction) : Decidable (s.Timely a) := by
  cases a <;> unfold LoginState.Timely <;> infer_instance

namespace LoginState.CutOff

variable {env : Environment} {s : LoginState}

/-- Writes outside the sessions, and revocations, bring no session back. -/
theorem of_live {s' : LoginState} (h : s.CutOff)
    (hlive : ∀ session ∈ s'.db.authSessions, session.isRevoked = false →
      session ∈ s.db.authSessions ∧ s'.passwordVersion session.userId =
        s.passwordVersion session.userId)
    (hstrength : s'.strength = s.strength) : s'.CutOff := by
  intro session hmem hrevoked
  obtain ⟨hold, hversion⟩ := hlive session hmem hrevoked
  rw [hstrength, hversion]
  exact h session hold hrevoked

theorem authenticate (h : s.CutOff) (data : LoginRequest) (now : Timestamp) :
    (s.authenticate env data now).CutOff := by
  have hsessions := authenticateUser_authSessions env data now s.db
  unfold LoginState.authenticate
  generalize authenticateUser env data now s.db = result at hsessions ⊢
  obtain ⟨outcome, db⟩ := result
  simp only at hsessions
  cases outcome with
  | error e => exact h.of_live (fun session hmem _ => ⟨hsessions ▸ hmem, rfl⟩) rfl
  | ok user => exact h.of_live (fun session hmem _ => ⟨hsessions ▸ hmem, rfl⟩) rfl

theorem create (h : s.CutOff) {p : PendingLogin} (draws : Draws) (now issuedAt : Timestamp)
    (hversion : p.passwordVersion = s.passwordVersion p.userId) :
    (s.create env p draws now issuedAt).CutOff := by
  have hout := createAuthSession_outcome env p.userId draws now issuedAt s.db
  unfold LoginState.create
  generalize createAuthSession env p.userId draws now issuedAt s.db = result at hout ⊢
  cases hout with
  | refused => exact h.of_live (fun session hmem _ => ⟨hmem, rfl⟩) rfl
  | @created user session db' huser hopen =>
      intro t hmem hlive
      simp only at hmem ⊢
      rcases (Table.mem_insert hopen.inserted).mp hmem with hold | rfl
      · rw [Function.update_of_ne (hopen.id_ne hold)]
        exact h t hold hlive
      · rw [Function.update_self, hversion, hopen.userId_eq]

theorem rotate (h : s.CutOff) (raw : String) (draws : Draws) (now : Timestamp) :
    (s.rotate env raw draws now).CutOff := by
  have hout := rotateAuthSession_outcome env raw draws now s.db
  unfold LoginState.rotate
  generalize rotateAuthSession env raw draws now s.db = result at hout ⊢
  cases hout with
  | unknown | refused => exact h.of_live (fun session hmem _ => ⟨hmem, rfl⟩) rfl
  | reused | expired | inactive =>
      exact h.of_live (fun session hmem hlive =>
        ⟨(AuthDatabase.live_of_revokeWhere hmem hlive).1, rfl⟩) rfl
  | @replaced session user replacement db' hsession hlive hcurrent huser hactive hopen =>
      simp only [hsession]
      intro t hmem htlive
      simp only at hmem ⊢
      have hold := AuthDatabase.mem_of_sessionOf hsession
      rcases live_of_replace hold hopen.inserted hmem htlive with rfl | ⟨ht, -⟩
      · rw [Function.update_self, hopen.userId_eq]
        exact h session hold hlive
      · rw [Function.update_of_ne (hopen.id_ne ht)]
        exact h t ht htlive

theorem changePassword (h : s.CutOff) (userId : Uuid) (data : ChangePasswordRequest)
    (salt : String) (now : Timestamp) :
    (s.changePassword env userId data salt now).CutOff := by
  unfold LoginState.changePassword
  rcases changeUserPassword_cases env userId data salt now s.db with ⟨e, he⟩ | ⟨user, huser, hl⟩
  · simp only [he]
    exact h.of_live (fun session hmem _ => ⟨hmem, rfl⟩) rfl
  rw [hl]
  rcases changeLoadedPassword_cases env user data salt now s.db with ⟨e, he⟩ | ⟨-, -, hok⟩
  · simp only [he]
    exact h.of_live (fun session hmem _ => ⟨hmem, rfl⟩) rfl
  · simp only [hok]
    refine h.of_live (fun session hmem hlive => ?_) rfl
    obtain ⟨hold, hother⟩ := AuthDatabase.live_of_revokeWhere hmem hlive
    refine ⟨hold, Function.update_of_ne ?_ _ _⟩
    rw [← show user.id = userId from Table.key_of_find huser]
    exact of_decide_eq_false hother

theorem step {a : LoginAction} (h : s.CutOff) (htimely : s.Timely a) : (s.step env a).CutOff := by
  cases a with
  | authenticate data now => exact h.authenticate data now
  | create login draws now issuedAt =>
      have hdequeued : ({ s with pending := s.pending.eraseIdx login } : LoginState).CutOff := h
      cases hp : s.pending[login]? with
      | none => simpa only [LoginState.step, hp] using h
      | some p =>
          simpa only [LoginState.step, hp] using
            hdequeued.create draws now issuedAt (htimely p hp)
  | rotate raw draws now => exact h.rotate raw draws now
  | changePassword userId data salt now => exact h.changePassword userId data salt now

end LoginState.CutOff

/-- If no login's session is opened after a later change of its password, then after every step
the unrevoked sessions are those of the present passwords. -/
theorem password_change_cuts_off (env : Environment) (db : AuthDatabase)
    {actions : List LoginAction}
    (htimely : Transition.Along (LoginState.step env) LoginState.Timely (LoginState.start db)
      actions) :
    (Transition.run (LoginState.step env) (LoginState.start db) actions).CutOff :=
  Transition.Along.kept (P := LoginState.CutOff) (fun _ _ h ha => h.step ha) (fun _ _ _ => rfl)
    htimely

def sampleLogin : LoginRequest := ⟨"driver_one", "a-long-test-password"⟩

def samplePasswordChange : ChangePasswordRequest :=
  ⟨"a-long-test-password", "a-new-long-test-password"⟩

/-- A login, a rotation of its session and then the change. -/
theorem password_change_cuts_off_sample :
    (Transition.run (LoginState.step sampleEnvironment) (LoginState.start sampleAccounts)
      [.authenticate sampleLogin 0, .create 0 (sampleDraws 10 "first") 0 0,
        .rotate "first" (sampleDraws 11 "second") 60000000,
        .changePassword 1 samplePasswordChange "salt" 120000000]).CutOff :=
  password_change_cuts_off sampleEnvironment sampleAccounts (by decide +kernel)

/-- The password is changed between the two transactions of a login that presented the old one:
the session it then opens is live. -/
theorem password_change_outlived :
    ¬(Transition.run (LoginState.step sampleEnvironment) (LoginState.start sampleAccounts)
      [.authenticate sampleLogin 0, .changePassword 1 samplePasswordChange "salt" 60000000,
        .create 0 (sampleDraws 10 "first") 120000000 120000000]).CutOff := by
  decide +kernel

end ChargeMate.Auth
