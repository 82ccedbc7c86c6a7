import ChargeMate.SafetyLogout

/-! Concurrent calls of one browser tab whose access token has expired. The tab asks for one refresh
at a time, but a call whose 401 arrives after a refresh has ended asks for another one, and the
server, rotating again, revokes the session of the access token that the retries of the first one
carry. If no retry is under way when the server serves a refresh, then every retry carries an access
token of the live session and is accepted. -/

namespace ChargeMate.Auth

open Relational

namespace CallPhase

/-- A request that has been repeated and not yet been served. -/
def retrying : CallPhase → Bool
  | .sent _ retry => retry
  | _ => false

end CallPhase

namespace Joint

/-- No call has ended with a 401, nor is about to. -/
def StaysSignedIn (s : Joint) : Prop :=
  CallPhase.failed 401 ∉ s.calls ∧ CallPhase.answered 401 true ∉ s.calls

instance (s : Joint) : Decidable s.StaysSignedIn := by
  unfold StaysSignedIn
  infer_instance

/-- A retry is served before its access token and its session run out. -/
def RetryInTime (s : Joint) (i : Nat) : Prop :=
  match s.calls[i]? with
  | some (.sent (some token) true) =>
      s.clock < token.payload.exp * 1000000 ∧
        ∀ session ∈ s.db.authSessions, session.id = token.payload.sid → s.clock < session.expiresAt
  | _ => True

/-- A refresh is served before its session runs out, and draws an unused key and token. -/
def RefreshInTime (env : Environment) (s : Joint) (draws : Draws) : Prop :=
  match s.refresh with
  | .sent cookie =>
      draws.Unused env s.clock s.db ∧
        ∀ raw ∈ cookie, ∀ session ∈ s.db.sessionOf env raw, s.clock < session.expiresAt
  | _ => True

/-- The tab makes calls and refreshes only, and its session does not run out. -/
def Plain (env : Environment) (s : Joint) : TabAction → Prop
  | .serveCall i => s.RetryInTime i
  | .serveRefresh draws => s.RefreshInTime env draws
  | .tick _ | .restore | .call | .deliverCall _ | .deliverRefresh => True
  | .login .. | .logout _ | .serveLogout _ | .deliverLogout _ | .dropLogout _ => False

/-- No retry is under way when a refresh is served. -/
def Coalesced (s : Joint) : TabAction → Prop
  | .serveRefresh _ =>
      match s.refresh with
      | .sent .. => ∀ phase ∈ s.calls, phase.retrying = false
      | _ => True
  | _ => True

instance (s : Joint) (i : Nat) : Decidable (s.RetryInTime i) := by
  unfold RetryInTime
  split <;> infer_instance

instance (env : Environment) (s : Joint) (draws : Draws) :
    Decidable (s.RefreshInTime env draws) := by
  unfold RefreshInTime
  split <;> infer_instance

instance (env : Environment) (s : Joint) : (a : TabAction) → Decidable (s.Plain env a)
  | .serveCall i => inferInstanceAs (Decidable (s.RetryInTime i))
  | .serveRefresh draws => inferInstanceAs (Decidable (s.RefreshInTime env draws))
  | .tick _ | .restore | .call | .deliverCall _ | .deliverRefresh =>
      inferInstanceAs (Decidable True)
  | .login .. | .logout _ | .serveLogout _ | .deliverLogout _ | .dropLogout _ =>
      inferInstanceAs (Decidable False)

instance (s : Joint) : (a : TabAction) → Decidable (s.Coalesced a)
  | .serveRefresh _ => by
      unfold Coalesced
      simp only
      split <;> infer_instance
  | .tick _ | .login .. | .restore | .call | .serveCall _ | .deliverCall _ | .deliverRefresh
  | .logout _ | .serveLogout _ | .deliverLogout _ | .dropLogout _ => inferInstanceAs (Decidable True)

/-- A tab with a session, before any call. -/
def signedIn (db : AuthDatabase) (clock : Timestamp) (accessToken : Option Jwt) (raw : String) :
    Joint :=
  { Joint.start db clock (some raw) with accessToken }

end Joint

/-! ### The invariant -/

/-- An access token issued for the session, by now. -/
def Bears (env : Environment) (user : User) (session : AuthSession) (clock : Timestamp)
    (token : Option Jwt) : Prop :=
  ∃ tokenId issuedAt, issuedAt ≤ clock ∧
    token = some (env.jwtEncode (accessClaims env user session.id tokenId issuedAt))

/-- The refresh token that the tab sends next, has sent, or is about to receive. -/
def RefreshPhase.Brings (env : Environment) (user : User) (session : AuthSession)
    (clock : Timestamp) (raw : String) (cookie : Option String) : RefreshPhase → Prop
  | .idle => cookie = some raw
  | .sent attached => attached = some raw
  | .answered reply =>
      reply.status = 200 ∧ (∀ cookie, reply.cookie.apply cookie = some raw) ∧
        Bears env user session clock reply.accessToken

/-- A retry carries an access token of the session, and none has been refused. -/
def CallPhase.Sound (env : Environment) (user : User) (session : AuthSession)
    (clock : Timestamp) : CallPhase → Prop
  | .sent token true => Bears env user session clock token
  | .answered status retry => status = 200 ∨ (status = 401 ∧ retry = false)
  | .failed _ => False
  | _ => True

/-- The tab and its live session. -/
structure TabCurrent (env : Environment) (s : Joint) (raw : String) (session : AuthSession)
    (user : User) : Prop where
  hashes : DistinctHashes s.db.authSessions
  nonempty : raw ≠ ""
  mem : session ∈ s.db.authSessions
  hash : session.tokenHash = hashRefreshToken env raw
  live : session.isRevoked = false
  user_eq : s.db.users.find session.userId = some user
  active : user.isActive = true
  brings : s.refresh.Brings env user session s.clock raw s.cookie
  calls : ∀ phase ∈ s.calls, phase.Sound env user session s.clock

variable {env : Environment} {s : Joint} {raw : String} {session : AuthSession} {user : User}
  {clock : Timestamp}

theorem Bears.later {token : Option Jwt} {clock' : Timestamp}
    (h : Bears env user session clock token) (hclock : clock ≤ clock') :
    Bears env user session clock' token := by
  obtain ⟨tokenId, issuedAt, hissued, htoken⟩ := h
  exact ⟨tokenId, issuedAt, Int.le_trans hissued hclock, htoken⟩

theorem CallPhase.Sound.later {phase : CallPhase} {clock' : Timestamp}
    (h : phase.Sound env user session clock) (hclock : clock ≤ clock') :
    phase.Sound env user session clock' := by
  cases phase with
  | sent token retry =>
      cases retry with
      | false => trivial
      | true => exact Bears.later h hclock
  | answered status retry => exact h
  | failed status => exact h
  | waiting | returned => trivial

/-- A call with no retry under way is sound whatever the session. -/
theorem CallPhase.Sound.of_not_retrying {phase : CallPhase} {session' : AuthSession}
    (h : phase.Sound env user session clock) (hretrying : phase.retrying = false) :
    phase.Sound env user session' clock := by
  cases phase with
  | sent token retry =>
      cases retry with
      | false => trivial
      | true => cases hretrying
  | answered status retry => exact h
  | failed status => exact h
  | waiting | returned => trivial

theorem RefreshPhase.Brings.later {phase : RefreshPhase} {cookie : Option String}
    {clock' : Timestamp} (h : phase.Brings env user session clock raw cookie)
    (hclock : clock ≤ clock') : phase.Brings env user session clock' raw cookie := by
  cases phase with
  | idle | sent _ => exact h
  | answered reply => exact ⟨h.1, h.2.1, h.2.2.later hclock⟩

theorem CallPhase.sound_waiting : CallPhase.waiting.Sound env user session clock := trivial

theorem CallPhase.sound_returned : CallPhase.returned.Sound env user session clock := trivial

@[simp] theorem Joint.clock_refreshAccessToken : s.refreshAccessToken.clock = s.clock := by
  unfold Joint.refreshAccessToken
  split <;> rfl

namespace TabCurrent

theorem signedIn {db : AuthDatabase} (hsound : FamiliesSound db) (hraw : raw ≠ "")
    (haccepts : db.accepts env clock raw = true) (accessToken : Option Jwt) :
    ∃ session user,
      TabCurrent env (Joint.signedIn db clock accessToken raw) raw session user := by
  obtain ⟨session, user, hsession, hlive, -, huser, hactive⟩ :=
    AuthDatabase.accepts_eq_true.mp haccepts
  exact ⟨session, user, hsound.hashes, hraw, AuthDatabase.mem_of_sessionOf hsession,
    AuthDatabase.tokenHash_of_sessionOf hsession, hlive, huser, hactive, rfl,
    fun _ hphase => by cases hphase⟩

/-- Calls rewritten soundly, and a refresh asked for perhaps. -/
theorem of_calls {calls : List CallPhase} (h : TabCurrent env s raw session user)
    (hcalls : ∀ phase ∈ calls, phase.Sound env user session s.clock) :
    TabCurrent env { s with calls } raw session user :=
  { h with calls := hcalls }

theorem set_call (h : TabCurrent env s raw session user) {phase : CallPhase}
    (hphase : phase.Sound env user session s.clock) (i : Nat) :
    TabCurrent env { s with calls := s.calls.set i phase } raw session user := by
  apply h.of_calls
  intro other hother
  rcases List.mem_or_eq_of_mem_set hother with hold | rfl
  · exact h.calls other hold
  · exact hphase

theorem tick (h : TabCurrent env s raw session user) (now : Timestamp) :
    TabCurrent env { s with clock := max s.clock now } raw session user :=
  { h with
    brings := h.brings.later (Int.le_max_left _ _)
    calls := fun phase hphase => (h.calls phase hphase).later (Int.le_max_left _ _) }

theorem refreshAccessToken (h : TabCurrent env s raw session user) :
    TabCurrent env s.refreshAccessToken raw session user := by
  unfold Joint.refreshAccessToken
  split
  · next hidle =>
    have hcookie := h.brings
    rw [hidle] at hcookie
    exact { h with brings := hcookie }
  · exact h

/-- The server accepts an access token of the session while neither has run out. -/
theorem accepted (h : TabCurrent env s raw session user) (hjwt : env.SoundJwt) {token : Option Jwt}
    (hbears : Bears env user session s.clock token)
    (hcurrent : ∀ jwt ∈ token, s.clock < jwt.payload.exp * 1000000 ∧
      ∀ session ∈ s.db.authSessions, session.id = jwt.payload.sid → s.clock < session.expiresAt) :
    (accessTokenRequired env (bearer token) s.clock s.db).isSome = true := by
  obtain ⟨tokenId, issuedAt, hissued, rfl⟩ := hbears
  obtain ⟨hexp, hsession⟩ := hcurrent _ rfl
  rw [hjwt.payload_encode] at hexp hsession
  have huserId : user.id = session.userId := Table.key_of_find h.user_eq
  have hiat : numericDate issuedAt * 1000000 ≤ s.clock := by
    have hfloor : numericDate issuedAt * 1000000 ≤ issuedAt := by
      unfold numericDate
      omega
    exact Int.le_trans hfloor hissued
  have hauthorized : Authorized env
      (env.jwtEncode (accessClaims env user session.id tokenId issuedAt)) s.clock s.db user
      (accessClaims env user session.id tokenId issuedAt) session := by
    refine ⟨?_, rfl, ?_, h.active, h.mem, rfl, huserId.symm, h.live, hsession session h.mem rfl⟩
    · rw [hjwt.decode_encode, if_pos]
      exact ⟨rfl, rfl, hiat, hexp⟩
    · rw [← h.user_eq, ← huserId]
      rfl
  rw [required_of_authorized hauthorized, Option.isSome_some]

theorem serveCall (h : TabCurrent env s raw session user) (hjwt : env.SoundJwt) {i : Nat}
    (htime : s.RetryInTime i) : TabCurrent env (s.serveCall env i) raw session user := by
  unfold Joint.serveCall
  split
  · next token retry hget =>
    apply h.set_call
    cases hretry : retry with
    | false =>
        split
        · exact Or.inl rfl
        · exact Or.inr ⟨rfl, rfl⟩
    | true =>
        rw [hretry] at hget
        have hbears := h.calls _ (List.mem_of_getElem? hget)
        have haccepted := h.accepted hjwt hbears (by
          rintro jwt ⟨⟩
          simpa only [Joint.RetryInTime, hget] using htime)
        rw [if_pos haccepted]
        exact Or.inl rfl
  · exact h

theorem deliverCall (h : TabCurrent env s raw session user) (i : Nat) :
    TabCurrent env (s.deliverCall i) raw session user := by
  unfold Joint.deliverCall
  split
  · next status retry hget =>
    split
    · have hwaiting := h.set_call (CallPhase.sound_waiting) i
      refine h.refreshAccessToken.of_calls ?_
      rw [Joint.clock_refreshAccessToken]
      exact hwaiting.calls
    · next hfinal =>
      split
      · exact h.set_call CallPhase.sound_returned i
      · next hfailed =>
        rcases h.calls _ (List.mem_of_getElem? hget) with hok | ⟨hstatus, hretry⟩
        · omega
        · exact absurd ⟨hstatus, by simp [hretry]⟩ hfinal
  · exact h

/-- A refresh that is served replaces the session. -/
theorem replaced (h : TabCurrent env s raw session user) {draws : Draws}
    (htime : s.RefreshInTime env draws) {cookie : Option String}
    (hrefresh : s.refresh = .sent cookie) :
    draws.tokenUrlsafe ≠ "" ∧ ∃ replacement db', Opened s.db draws session.userId session.familyId
        (issueRefreshToken env draws.tokenUrlsafe s.clock) replacement db' ∧
      s.serveRefresh env draws = { s with
        db := { db' with
          authSessions := db'.authSessions.set (session.replaceBy replacement s.clock) }
        refresh := .answered (tokenResponse ⟨replacement,
          issueAccessToken env user replacement.id draws.tokenId s.clock,
          issueRefreshToken env draws.tokenUrlsafe s.clock⟩) } := by
  have hcookie : cookie = some raw := by
    have hbrings := h.brings
    rwa [hrefresh] at hbrings
  obtain ⟨hunused, hcurrent⟩ : draws.Unused env s.clock s.db ∧
      ∀ raw ∈ cookie, ∀ session ∈ s.db.sessionOf env raw, s.clock < session.expiresAt := by
    simpa only [Joint.RefreshInTime, hrefresh] using htime
  have hsession := AuthDatabase.sessionOf_eq_some h.hashes h.mem h.hash
  obtain ⟨replacement, db', hopen, hroute⟩ := refreshRoute_issued h.nonempty hsession h.live
    (hcurrent raw hcookie session hsession) h.user_eq h.active hunused
  refine ⟨hunused.nonempty, replacement, db', hopen, ?_⟩
  simp only [Joint.serveRefresh, hrefresh, hcookie, hroute]

/-- A refresh served while no retry is under way: the tab's session is the replacement now. -/
theorem serveRefresh (h : TabCurrent env s raw session user) {draws : Draws}
    (htime : s.RefreshInTime env draws)
    (halone : ∀ cookie, s.refresh = .sent cookie → ∀ phase ∈ s.calls, phase.retrying = false) :
    ∃ raw session, TabCurrent env (s.serveRefresh env draws) raw session user := by
  cases hrefresh : s.refresh with
  | idle | answered reply =>
      refine ⟨raw, session, ?_⟩
      simpa only [Joint.serveRefresh, hrefresh] using h
  | sent cookie =>
      obtain ⟨hnonempty, replacement, db', hopen, hserved⟩ := h.replaced htime hrefresh
      have hmove := hopen.move_replaced h.mem h.live s.clock
      rw [hserved]
      refine ⟨draws.tokenUrlsafe, replacement, ?_⟩
      exact {
        hashes := hmove.distinctHashes h.hashes
        nonempty := hnonempty
        mem := hopen.mem_replaced h.mem s.clock
        hash := hopen.tokenHash_eq
        live := hopen.live
        user_eq := by rw [hopen.users_eq, hopen.userId_eq, h.user_eq]
        active := h.active
        brings := ⟨rfl, fun _ => rfl, draws.tokenId, s.clock, Int.le_refl _, rfl⟩
        calls := fun phase hphase =>
          (h.calls phase hphase).of_not_retrying (halone cookie hrefresh phase hphase) }

theorem deliverRefresh (h : TabCurrent env s raw session user) :
    TabCurrent env s.deliverRefresh raw session user := by
  unfold Joint.deliverRefresh
  cases hrefresh : s.refresh with
  | idle | sent cookie => exact h
  | answered reply =>
      have hbrings := h.brings
      rw [hrefresh] at hbrings
      obtain ⟨hstatus, hcookie, hbears⟩ := hbrings
      refine { h with brings := hcookie s.cookie, calls := ?_ }
      intro phase hphase
      obtain ⟨before, hbefore, rfl⟩ := List.mem_map.mp hphase
      cases before with
      | waiting =>
          rw [CallPhase.resume, if_pos hstatus]
          exact hbears
      | sent _ _ | answered _ _ | returned | failed _ => exact h.calls _ hbefore

theorem step (h : TabCurrent env s raw session user) (hjwt : env.SoundJwt) {a : TabAction}
    (hplain : s.Plain env a) (hcoalesced : s.Coalesced a) :
    ∃ raw session, TabCurrent env (s.step env a) raw session user := by
  cases a with
  | tick now => exact ⟨raw, session, h.tick now⟩
  | restore => exact ⟨raw, session, h.refreshAccessToken⟩
  | call =>
      refine ⟨raw, session, h.of_calls ?_⟩
      intro phase hphase
      rcases List.mem_append.mp hphase with hold | hnew
      · exact h.calls phase hold
      · rw [List.mem_singleton.mp hnew]
        trivial
  | serveCall i => exact ⟨raw, session, h.serveCall hjwt hplain⟩
  | deliverCall i => exact ⟨raw, session, h.deliverCall i⟩
  | serveRefresh draws =>
      apply h.serveRefresh hplain
      intro cookie hrefresh
      simpa only [Joint.Coalesced, hrefresh] using hcoalesced
  | deliverRefresh => exact ⟨raw, session, h.deliverRefresh⟩
  | login | logout | serveLogout | deliverLogout | dropLogout => exact hplain.elim

theorem staysSignedIn (h : TabCurrent env s raw session user) : s.StaysSignedIn := by
  constructor
  · intro hfailed
    exact h.calls _ hfailed
  · intro hanswered
    rcases h.calls _ hanswered with hok | ⟨-, hfirst⟩
    · cases hok
    · cases hfirst

end TabCurrent

/-- From every database that transactions lead to, with a live session of the tab and any access
token: in a run of concurrent calls, if no retry is under way whenever a refresh is served, then no
call ends with a 401 and every retry is accepted. -/
theorem calls_stay_signed_in (env : Environment) (hjwt : env.SoundJwt) {db₀ : AuthDatabase}
    (hempty : db₀.authSessions = ∅) {history : List AuthAction}
    (hfresh : Transition.Along (AuthDatabase.step env) FreshFamily db₀ history)
    (clock : Timestamp) (accessToken : Option Jwt) {raw : String} (hraw : raw ≠ "")
    (hlive : (Transition.run (AuthDatabase.step env) db₀ history).accepts env clock raw = true)
    {actions : List TabAction}
    (hcalls : Transition.Along (Joint.step env) (fun s a => s.Plain env a ∧ s.Coalesced a)
      (Joint.signedIn (Transition.run (AuthDatabase.step env) db₀ history) clock accessToken raw)
      actions) :
    (Transition.run (Joint.step env)
      (Joint.signedIn (Transition.run (AuthDatabase.step env) db₀ history) clock accessToken raw)
      actions).StaysSignedIn := by
  have hsound := (FamiliesSound.of_empty hempty).run hfresh
  obtain ⟨session, user, hstart⟩ := TabCurrent.signedIn hsound hraw hlive accessToken
  have hend := Transition.Along.kept
    (P := fun s => ∃ raw session, TabCurrent env s raw session user)
    (fun s a ⟨_, _, h⟩ ha => h.step hjwt ha.1 ha.2) ⟨raw, session, hstart⟩ hcalls
  obtain ⟨_, _, hcurrent⟩ := hend
  exact hcurrent.staysSignedIn

/-! ### Sample runs -/

/-- The tab of a user who signed in fifteen minutes ago, as its access token expires. -/
def sampleExpired : Joint :=
  Joint.signedIn (Transition.run (AuthDatabase.step sampleEnvironment) sampleAccounts
      [.create 1 (sampleDraws 10 "first") 0 0])
    900000000 (some (issueAccessToken sampleEnvironment sampleUser 10 2010 0).value) "first"

/-- Two calls that share a refresh. -/
theorem calls_stay_signed_in_sample :
    (Transition.run (Joint.step sampleEnvironment) sampleExpired
      [.call, .call, .serveCall 0, .serveCall 1, .deliverCall 0, .deliverCall 1,
        .serveRefresh (sampleDraws 11 "second"), .deliverRefresh, .serveCall 1, .serveCall 0,
        .deliverCall 0, .deliverCall 1]).StaysSignedIn :=
  @calls_stay_signed_in sampleEnvironment sampleEnvironment_soundJwt sampleAccounts rfl _
    (by decide +kernel) 900000000 _ _ (by decide) (by decide +kernel) _ (by decide +kernel)

/-- The 401 of the second call arrives after the refresh of the first has ended: the tab refreshes
again, and the server revokes the session of the first call's retry before it serves the retry. -/
theorem concurrent_calls_signed_out :
    Transition.Along (Joint.step sampleEnvironment) (Joint.Plain sampleEnvironment) sampleExpired
        [.call, .call, .serveCall 0, .deliverCall 0, .serveRefresh (sampleDraws 11 "second"),
          .deliverRefresh, .serveCall 1, .deliverCall 1, .serveRefresh (sampleDraws 12 "third"),
          .serveCall 0, .deliverCall 0] ∧
      ¬(Transition.run (Joint.step sampleEnvironment) sampleExpired
        [.call, .call, .serveCall 0, .deliverCall 0, .serveRefresh (sampleDraws 11 "second"),
          .deliverRefresh, .serveCall 1, .deliverCall 1, .serveRefresh (sampleDraws 12 "third"),
          .serveCall 0, .deliverCall 0]).StaysSignedIn := by
  decide +kernel

end ChargeMate.Auth
