import ChargeMate.LedgerBearers
import ChargeMate.SafetyLogins

/-! Logging out of one browser tab. The refresh tokens that the tab holds or is about to hold, and
the access tokens it can send with a logout, are all of one family of sessions; a logout that the
server accepts therefore revokes the only live session a refresh could still name. A logout that
the server refuses revokes nothing and leaves the cookie, and the tab shows the user as logged out
all the same. -/

namespace ChargeMate.Auth

open Relational

/-! ### What a tab holds -/

/-- The refresh tokens a refresh under way has sent, or brings. -/
def RefreshPhase.tokens : RefreshPhase → List String
  | .idle => []
  | .sent cookie => cookie.toList
  | .answered reply => (reply.cookie.apply none).toList

def RefreshPhase.bearers : RefreshPhase → List Jwt
  | .answered reply => reply.accessToken.toList
  | _ => []

namespace Joint

def circulating (s : Joint) : List String := s.cookie.toList ++ s.refresh.tokens

/-- The logouts called since the last login. -/
def recent (s : Joint) : List LogoutCall := s.logouts.drop s.signedInAt

def borne (s : Joint) : List Jwt :=
  s.accessToken.toList ++ s.refresh.bearers ++ s.recent.filterMap LogoutCall.token

/-- A logout called since the last login has been served. -/
def Answered (s : Joint) : Prop := ∃ call ∈ s.recent, call.reply.isSome = true

/-- No refresh token of the tab is one that a refresh accepts. -/
def SignedOut (env : Environment) (s : Joint) : Prop :=
  ∀ raw ∈ s.circulating, s.db.accepts env s.clock raw = false

instance (env : Environment) (s : Joint) : Decidable (s.SignedOut env) := by
  unfold SignedOut
  infer_instance

/-- After a logout that has settled and has been served, restoring the session is refused. -/
def LoggedOut (env : Environment) (s : Joint) : Prop :=
  ∀ call ∈ s.recent, call.settled = true → call.reply.isSome = true →
    ∀ draws, (refreshRoute env s.cookie draws s.clock s.db).1.status ≠ 200

/-- A logout is served while the server accepts its access token, unless the tab is signed out
already; a login is made while no refresh is in flight, and begins a new family. -/
def LogsOut (env : Environment) (s : Joint) : TabAction → Prop
  | .login _ draws =>
      s.refresh = .idle ∧ ∀ session ∈ s.db.authSessions, session.familyId ≠ draws.familyId
  | .serveLogout i =>
      ∀ call ∈ s.logouts[i]?, s.signedInAt ≤ i → call.reply = none →
        (accessTokenRequired env (bearer call.token) s.clock s.db).isSome = true ∨ s.SignedOut env
  | _ => True

instance (env : Environment) (s : Joint) : (a : TabAction) → Decidable (s.LogsOut env a)
  | .login _ draws => inferInstanceAs (Decidable (s.refresh = .idle ∧
      ∀ session ∈ s.db.authSessions, session.familyId ≠ draws.familyId))
  | .serveLogout i => inferInstanceAs (Decidable (∀ call ∈ s.logouts[i]?, s.signedInAt ≤ i →
      call.reply = none →
        (accessTokenRequired env (bearer call.token) s.clock s.db).isSome = true ∨ s.SignedOut env))
  | .tick _ | .restore | .call | .serveCall _ | .deliverCall _ | .serveRefresh _ | .deliverRefresh
  | .logout _ | .deliverLogout _ | .dropLogout _ => inferInstanceAs (Decidable True)

theorem LoggedOut.of_signedOut {env : Environment} {s : Joint}
    (h : s.Answered → s.SignedOut env) : s.LoggedOut env := by
  intro call hcall _ hreply draws hstatus
  obtain ⟨raw, hcookie, haccepts⟩ := accepts_of_refresh hstatus
  have hraw : raw ∈ s.circulating := List.mem_append_left _ (by simp [hcookie])
  rw [h ⟨call, hcall, hreply⟩ raw hraw] at haccepts
  cases haccepts

theorem mem_recent {s : Joint} {i : Nat} {call : LogoutCall} (hget : s.logouts[i]? = some call)
    (hi : s.signedInAt ≤ i) : call ∈ s.recent := by
  apply List.mem_of_getElem? (i := i - s.signedInAt)
  rw [recent, List.getElem?_drop, Nat.add_sub_cancel' hi, hget]

/-- With a logout rewritten in place, the recent ones are as before, except it. -/
theorem mem_recent_set {s : Joint} {i : Nat} {old new call : LogoutCall}
    (hget : s.logouts[i]? = some old) (h : call ∈ (s.logouts.set i new).drop s.signedInAt) :
    call ∈ s.recent ∨ (call = new ∧ old ∈ s.recent ∧ s.signedInAt ≤ i) := by
  rw [List.drop_set] at h
  split at h
  · exact Or.inl h
  next hi =>
  have hi : s.signedInAt ≤ i := Nat.le_of_not_lt hi
  rcases List.mem_or_eq_of_mem_set h with hmem | heq
  · exact Or.inl hmem
  · exact Or.inr ⟨heq, mem_recent hget hi, hi⟩

end Joint

theorem CookieChange.apply_of_not_set {change : CookieChange}
    (h : ∀ token, change ≠ .set token) (cookie : Option String) :
    (change.apply cookie).toList ⊆ cookie.toList := by
  cases change with
  | keep => exact List.Subset.refl _
  | set token => exact absurd rfl (h token)
  | clear => exact List.nil_subset _

/-- The cookie after an answer is the one before or the one it brings. -/
theorem CookieChange.apply_subset (change : CookieChange) (cookie : Option String) :
    (change.apply cookie).toList ⊆ cookie.toList ++ (change.apply none).toList := by
  cases change with
  | keep => exact List.subset_append_left _ _
  | set token => exact List.subset_append_right _ _
  | clear => exact List.nil_subset _

/-! ### The invariant -/

/-- What holds of the tab and the server in every run whose logouts are accepted in time. -/
structure TabSound (env : Environment) (s : Joint) : Prop where
  families : FamiliesSound s.db
  oneFamily : ∃ f, OneFamily env s.db f s.circulating s.borne
  answers : ∀ call ∈ s.logouts, ∀ reply, call.reply = some reply → ∀ token,
    reply.cookie ≠ .set token
  signedInAt_le : s.signedInAt ≤ s.logouts.length
  signedOut : s.Answered → s.SignedOut env

theorem Joint.SignedOut.narrow {env : Environment} {s s' : Joint} (h : s.SignedOut env)
    (hsound : FamiliesSound s.db) (hdb : Narrows s.db s'.db) (hclock : s.clock ≤ s'.clock)
    (htokens : s'.circulating ⊆ s.circulating) : s'.SignedOut env := by
  intro raw hraw
  rw [Bool.eq_false_iff]
  intro haccepts
  have hbefore := hdb.accepts hsound hclock haccepts
  rw [h raw (htokens hraw)] at hbefore
  cases hbefore

namespace TabSound

variable {env : Environment} {s s' : Joint}

theorem start {db : AuthDatabase} (h : FamiliesSound db) (clock : Timestamp)
    (cookie : Option String) : TabSound env (Joint.start db clock cookie) where
  families := h
  oneFamily := by
    -- The family of the session the cookie belongs to; any, if it belongs to none.
    have hcookie : ∃ f, ∀ raw ∈ cookie, ∀ session ∈ db.authSessions,
        session.tokenHash = hashRefreshToken env raw → session.familyId = f := by
      cases hsession : cookie.bind (db.sessionOf env) with
      | none =>
          refine ⟨0, ?_⟩
          intro raw hraw session hmem hhash
          rw [Option.mem_def.mp hraw, Option.bind_some,
            AuthDatabase.sessionOf_eq_some h.hashes hmem hhash] at hsession
          cases hsession
      | some session =>
          refine ⟨session.familyId, ?_⟩
          intro raw hraw session' hmem hhash
          rw [Option.mem_def.mp hraw, Option.bind_some,
            AuthDatabase.sessionOf_eq_some h.hashes hmem hhash, Option.some.injEq] at hsession
          rw [hsession]
    obtain ⟨f, hf⟩ := hcookie
    refine ⟨f, ?_, ?_⟩
    · intro raw hraw
      exact hf raw (by simpa [Joint.circulating, Joint.start, RefreshPhase.tokens] using hraw)
    · intro token htoken
      simp [Joint.borne, Joint.start, Joint.recent, RefreshPhase.bearers] at htoken
  answers := by simp [Joint.start]
  signedInAt_le := Nat.le_refl 0
  signedOut := by
    rintro ⟨call, hcall, -⟩
    simp [Joint.start, Joint.recent] at hcall

/-- A step that brings neither tokens nor live sessions keeps the invariant. -/
theorem narrow (h : TabSound env s) (hdb : Narrows s.db s'.db)
    (htokens : s'.circulating ⊆ s.circulating) (hborne : s'.borne ⊆ s.borne)
    (hanswers : ∀ call ∈ s'.logouts, ∀ reply, call.reply = some reply → ∀ token,
      reply.cookie ≠ .set token)
    (hsigned : s'.signedInAt ≤ s'.logouts.length) (hanswered : s'.Answered → s'.SignedOut env) :
    TabSound env s' := by
  obtain ⟨f, hf⟩ := h.oneFamily
  exact ⟨hdb.sound h.families, ⟨f, hf.narrow hdb htokens hborne⟩, hanswers, hsigned, hanswered⟩

/-- Such a step outside the logouts. -/
theorem narrow_of_logouts (h : TabSound env s) (hdb : Narrows s.db s'.db)
    (hclock : s.clock ≤ s'.clock) (htokens : s'.circulating ⊆ s.circulating)
    (hborne : s'.accessToken.toList ++ s'.refresh.bearers ⊆
      s.accessToken.toList ++ s.refresh.bearers)
    (hlogouts : s'.logouts = s.logouts) (hsignedInAt : s'.signedInAt = s.signedInAt) :
    TabSound env s' := by
  have hrecent : s'.recent = s.recent := by rw [Joint.recent, Joint.recent, hlogouts, hsignedInAt]
  apply h.narrow hdb htokens
  · intro token htoken
    rw [Joint.borne, hrecent, List.mem_append] at htoken
    rw [Joint.borne, List.mem_append]
    exact htoken.imp_left fun hmem => hborne hmem
  · rw [hlogouts]
    exact h.answers
  · rw [hlogouts, hsignedInAt]
    exact h.signedInAt_le
  · rintro ⟨call, hcall, hreply⟩
    exact (h.signedOut ⟨call, hrecent ▸ hcall, hreply⟩).narrow h.families hdb hclock htokens

theorem refreshAccessToken (h : TabSound env s) : TabSound env s.refreshAccessToken := by
  unfold Joint.refreshAccessToken
  split
  · next hidle =>
    refine h.narrow_of_logouts (Narrows.refl _) (Int.le_refl _) ?_ ?_ rfl rfl
    · intro raw hraw
      simpa [Joint.circulating, RefreshPhase.tokens, hidle] using hraw
    · intro token htoken
      simpa [RefreshPhase.bearers, hidle] using htoken
  · exact h

theorem login (h : TabSound env s) (data : LoginRequest) (draws : Draws) (hidle : s.refresh = .idle)
    (hfresh : ∀ session ∈ s.db.authSessions, session.familyId ≠ draws.familyId) :
    TabSound env (s.login env data draws) := by
  have hout := loginRoute_outcome env data draws s.clock s.db
  unfold Joint.login
  generalize loginRoute env data draws s.clock s.db = result at hout ⊢
  cases hout with
  | refused hstatus hsessions husers =>
      simp only [hstatus, if_false]
      exact h.narrow_of_logouts (Narrows.of_sessions hsessions husers) (Int.le_refl _)
        (List.Subset.refl _) (List.Subset.refl _) rfl rfl
  | @signedIn userId user session db₁ db' hsessions hopen =>
      simp only [tokenResponse, if_true]
      have hmove : SessionMove s.db.authSessions db'.authSessions := by
        rw [← hsessions]
        refine .issue hopen.inserted ?_ hopen.ends hopen.newHash
        rw [hsessions, hopen.familyId_eq]
        exact hfresh
      refine ⟨h.families.move hmove, ⟨draws.familyId, ?_⟩, h.answers, Nat.le_refl _, ?_⟩
      · have hlogin : OneFamily env db' draws.familyId [draws.tokenUrlsafe]
            [(issueAccessToken env user session.id draws.tokenId s.clock).value] :=
          OneFamily.login hopen
        simpa [Joint.circulating, Joint.borne, Joint.recent, hidle, RefreshPhase.tokens,
          RefreshPhase.bearers, CookieChange.apply, issueRefreshToken] using hlogin
      · rintro ⟨call, hcall, -⟩
        simp [Joint.recent] at hcall

/-- A refresh answered without tokens. -/
theorem refreshRefused (h : TabSound env s) {reply : Reply} {db' : AuthDatabase}
    (hdb : Narrows s.db db')
    (htoken : reply.accessToken = none) (hcookie : ∀ token, reply.cookie ≠ .set token) :
    TabSound env { s with db := db', refresh := .answered reply } := by
  have hkept := CookieChange.apply_of_not_set hcookie none
  refine h.narrow_of_logouts hdb (Int.le_refl _) ?_ ?_ rfl rfl
  · intro raw hraw
    exact List.mem_append_left _ (by
      simpa [Joint.circulating, RefreshPhase.tokens, List.eq_nil_of_subset_nil hkept] using hraw)
  · intro token hmem
    exact List.mem_append_left _ (by simpa [RefreshPhase.bearers, htoken] using hmem)

theorem serveRefresh (h : TabSound env s) (draws : Draws) :
    TabSound env (s.serveRefresh env draws) := by
  unfold Joint.serveRefresh
  cases hrefresh : s.refresh with
  | idle | answered reply => exact h
  | sent cookie =>
      have hout := refreshRoute_outcome env cookie draws s.clock s.db
      simp only
      generalize refreshRoute env cookie draws s.clock s.db = result at hout ⊢
      cases hout with
      | refused hstatus htoken hcookie =>
          exact h.refreshRefused (Narrows.refl _) htoken hcookie
      | revoked p hstatus htoken hcookie =>
          exact h.refreshRefused (Narrows.revokeWhere _ _ _) htoken hcookie
      | @issued raw session replacement user db' hcookie hsession haccepts huser hactive hopen =>
          have hmem := AuthDatabase.mem_of_sessionOf hsession
          have hraw : raw ∈ s.circulating := by
            simp [Joint.circulating, hrefresh, RefreshPhase.tokens, hcookie]
          have hmove := hopen.move_replaced hmem
            (AuthDatabase.live_of_accepts hsession haccepts) s.clock
          obtain ⟨f, hf⟩ := h.oneFamily
          have hfamily := hf.tokens raw hraw session hmem
            (AuthDatabase.tokenHash_of_sessionOf hsession)
          refine ⟨h.families.move hmove, ⟨f, ?_⟩, h.answers, h.signedInAt_le, ?_⟩
          · refine hf.rotate hmem hfamily hopen ?_ (?_ : _ ⊆
              (issueAccessToken env user replacement.id draws.tokenId s.clock).value :: _)
            · intro token htoken
              simp only [Joint.circulating, RefreshPhase.tokens, tokenResponse,
                CookieChange.apply, issueRefreshToken, List.mem_append, List.mem_cons,
                Option.mem_toList] at htoken ⊢
              rcases htoken with hold | hnew
              · exact Or.inr (Or.inl hold)
              · exact Or.inl (Option.some.inj hnew).symm
            · intro token htoken
              simp only [Joint.borne, RefreshPhase.bearers, tokenResponse, Joint.recent,
                List.mem_append, List.mem_cons, Option.mem_toList] at htoken ⊢
              rcases htoken with (hold | hnew) | hrecent
              · exact Or.inr (Or.inl (Or.inl hold))
              · exact Or.inl (Option.some.inj hnew).symm
              · exact Or.inr (Or.inr hrecent)
          · intro hanswered
            have hrefused := h.signedOut hanswered raw hraw
            rw [haccepts] at hrefused
            cases hrefused

theorem deliverRefresh (h : TabSound env s) : TabSound env s.deliverRefresh := by
  unfold Joint.deliverRefresh
  cases hrefresh : s.refresh with
  | idle | sent cookie => exact h
  | answered reply =>
      refine h.narrow_of_logouts (Narrows.refl _) (Int.le_refl _) ?_ ?_ rfl rfl
      · rw [Joint.circulating, Joint.circulating, hrefresh]
        simpa only [RefreshPhase.tokens, List.append_nil] using
          reply.cookie.apply_subset s.cookie
      · simp only [hrefresh, RefreshPhase.bearers, List.append_nil]
        split
        · exact List.subset_append_right _ _
        · exact List.subset_append_left _ _

/-- Rewriting one logout, its token kept, is a step among the logouts. -/
theorem rewriteLogout (h : TabSound env s) {i : Nat} {old new : LogoutCall}
    (hget : s.logouts[i]? = some old) (hlogouts : s'.logouts = s.logouts.set i new)
    (htoken : new.token = old.token) (hsignedInAt : s'.signedInAt = s.signedInAt)
    (hdb : Narrows s.db s'.db) (hclock : s'.clock = s.clock)
    (htokens : s'.circulating ⊆ s.circulating) (hrefresh : s'.refresh = s.refresh)
    (haccess : s'.accessToken.toList ⊆ s.accessToken.toList)
    (hanswer : ∀ reply, new.reply = some reply → ∀ token, reply.cookie ≠ .set token)
    (hanswered : s.signedInAt ≤ i → new.reply.isSome = true → s'.SignedOut env) :
    TabSound env s' := by
  have hrecent : ∀ call ∈ s'.recent, call ∈ s.recent ∨
      (call = new ∧ old ∈ s.recent ∧ s.signedInAt ≤ i) := by
    intro call hcall
    rw [Joint.recent, hlogouts, hsignedInAt] at hcall
    exact Joint.mem_recent_set hget hcall
  apply h.narrow hdb htokens
  · intro token hmem
    simp only [Joint.borne, hrefresh, List.mem_append, List.mem_filterMap] at hmem ⊢
    rcases hmem with (hown | hbrought) | ⟨call, hcall, heq⟩
    · exact Or.inl (Or.inl (haccess hown))
    · exact Or.inl (Or.inr hbrought)
    · rcases hrecent call hcall with hold | ⟨rfl, hold, -⟩
      · exact Or.inr ⟨call, hold, heq⟩
      · exact Or.inr ⟨old, hold, htoken ▸ heq⟩
  · intro call hcall reply hreply
    rw [hlogouts] at hcall
    rcases List.mem_or_eq_of_mem_set hcall with hold | rfl
    · exact h.answers call hold reply hreply
    · exact hanswer reply hreply
  · rw [hlogouts, hsignedInAt, List.length_set]
    exact h.signedInAt_le
  · rintro ⟨call, hcall, hreply⟩
    rcases hrecent call hcall with hold | ⟨rfl, -, hi⟩
    · exact (h.signedOut ⟨call, hold, hreply⟩).narrow h.families hdb (Int.le_of_eq hclock.symm)
        htokens
    · exact hanswered hi hreply

theorem serveLogout (h : TabSound env s) (hjwt : env.SoundJwt) {i : Nat}
    (haccepted : ∀ call ∈ s.logouts[i]?, s.signedInAt ≤ i → call.reply = none →
      (accessTokenRequired env (bearer call.token) s.clock s.db).isSome = true ∨
        s.SignedOut env) :
    TabSound env (s.serveLogout env i) := by
  unfold Joint.serveLogout
  cases hget : s.logouts[i]? with
  | none => exact h
  | some call =>
      simp only
      split
      · next hreply =>
        have hout := logoutRoute_outcome env call.kind call.token s.clock s.db
        generalize logoutRoute env call.kind (bearer call.token) s.clock s.db = result at hout ⊢
        cases hout with
        | refused hnone =>
            refine h.rewriteLogout hget rfl rfl rfl (Narrows.refl _) rfl
              (List.Subset.refl _) rfl (List.Subset.refl _) ?_ ?_
            · rintro reply ⟨⟩ token ⟨⟩
            · intro hi _
              rcases haccepted call hget hi hreply with haccepted | hsigned
              · rw [hnone] at haccepted
                cases haccepted
              · exact hsigned
        | @served jwt user claims session p htoken hauthorized hp =>
            refine h.rewriteLogout hget rfl rfl rfl (Narrows.revokeWhere _ _ _) rfl
              (List.Subset.refl _) rfl (List.Subset.refl _) ?_ ?_
            · rintro reply ⟨⟩ token ⟨⟩
            · intro hi _ raw hraw
              obtain ⟨f, hf⟩ := h.oneFamily
              have hborne : jwt ∈ s.borne := by
                have hcall := Joint.mem_recent hget hi
                exact List.mem_append_right _ (List.mem_filterMap.mpr ⟨call, hcall, htoken⟩)
              exact hf.revoked h.families hjwt hborne hauthorized hp hraw
      · exact h

/-- The call ends and the tab forgets its access token; the cookie is kept or cleared. -/
theorem settleLogout (h : TabSound env s) {i : Nat} {call : LogoutCall} {cookie : Option String}
    (hget : s.logouts[i]? = some call) (hcookie : cookie.toList ⊆ s.cookie.toList) :
    TabSound env { s.settleLogout i call with cookie } := by
  have htokens : (cookie.toList ++ s.refresh.tokens) ⊆ s.circulating :=
    List.append_subset.mpr ⟨List.subset_append_of_subset_left _ hcookie,
      List.subset_append_right _ _⟩
  refine h.rewriteLogout hget rfl rfl rfl (Narrows.refl _) rfl htokens rfl (List.nil_subset _)
    (h.answers call (List.mem_of_getElem? hget)) ?_
  intro hi hreply
  exact (h.signedOut ⟨call, Joint.mem_recent hget hi, hreply⟩).narrow h.families (Narrows.refl _)
    (Int.le_refl _) htokens

theorem deliverLogout (h : TabSound env s) (i : Nat) : TabSound env (s.deliverLogout i) := by
  unfold Joint.deliverLogout
  cases hget : s.logouts[i]? with
  | none => exact h
  | some call =>
      simp only
      split
      · next reply hreply hsettled =>
        exact h.settleLogout hget (CookieChange.apply_of_not_set
          (h.answers call (List.mem_of_getElem? hget) reply hreply) s.cookie)
      · exact h

theorem dropLogout (h : TabSound env s) (i : Nat) : TabSound env (s.dropLogout i) := by
  unfold Joint.dropLogout
  cases hget : s.logouts[i]? with
  | none => exact h
  | some call =>
      simp only
      split
      · exact h
      · exact h.settleLogout hget (List.Subset.refl _)

/-- The new logout carries the tab's access token, and no answer yet. -/
theorem logout (h : TabSound env s) (kind : LogoutKind) :
    TabSound env { s with logouts := s.logouts ++ [⟨kind, s.accessToken, none, false⟩] } := by
  have hrecent (call : LogoutCall) : (s.logouts ++ [call]).drop s.signedInAt = s.recent ++ [call] :=
    List.drop_append_of_le_length h.signedInAt_le
  refine h.narrow (Narrows.refl _) (List.Subset.refl _) ?_ ?_ ?_ ?_
  · intro token htoken
    simp only [Joint.borne, Joint.recent, hrecent, List.filterMap_append,
      List.mem_append] at htoken ⊢
    rcases htoken with hold | hold | hnew
    · exact Or.inl hold
    · exact Or.inr hold
    · exact Or.inl (Or.inl (by simpa using hnew))
  · intro call hcall reply hreply
    rcases List.mem_append.mp hcall with hold | hnew
    · exact h.answers call hold reply hreply
    · rw [List.mem_singleton.mp hnew] at hreply
      cases hreply
  · exact h.signedInAt_le.trans (by simp)
  · rintro ⟨call, hcall, hreply⟩
    rw [Joint.recent, hrecent, List.mem_append, List.mem_singleton] at hcall
    rcases hcall with hold | rfl
    · exact h.signedOut ⟨call, hold, hreply⟩
    · cases hreply

theorem calls (h : TabSound env s) (calls : List CallPhase) : TabSound env { s with calls } :=
  h.narrow_of_logouts (Narrows.refl _) (Int.le_refl _) (List.Subset.refl _) (List.Subset.refl _)
    rfl rfl

theorem serveCall (h : TabSound env s) (i : Nat) : TabSound env (s.serveCall env i) := by
  unfold Joint.serveCall
  split
  · exact h.calls _
  · exact h

theorem deliverCall (h : TabSound env s) (i : Nat) : TabSound env (s.deliverCall i) := by
  unfold Joint.deliverCall
  split
  · split
    · exact h.refreshAccessToken.calls _
    · split <;> exact h.calls _
  · exact h

theorem step (h : TabSound env s) (hjwt : env.SoundJwt) {a : TabAction} (ha : s.LogsOut env a) :
    TabSound env (s.step env a) := by
  cases a with
  | tick now =>
      exact h.narrow_of_logouts (Narrows.refl _) (Int.le_max_left _ _) (List.Subset.refl _)
        (List.Subset.refl _) rfl rfl
  | login data draws => exact h.login data draws ha.1 ha.2
  | restore => exact h.refreshAccessToken
  | call => exact h.calls _
  | serveCall i => exact h.serveCall i
  | deliverCall i => exact h.deliverCall i
  | serveRefresh draws => exact h.serveRefresh draws
  | deliverRefresh => exact h.deliverRefresh
  | logout kind => exact h.logout kind
  | serveLogout i => exact h.serveLogout hjwt ha
  | deliverLogout i => exact h.deliverLogout i
  | dropLogout i => exact h.dropLogout i

end TabSound

/-- From every database that transactions lead to, and with every cookie: in a run whose logouts
are served while their access tokens are accepted, restoring the session is refused after each
logout. -/
theorem logout_logs_out (env : Environment) (hjwt : env.SoundJwt) {db₀ : AuthDatabase}
    (hempty : db₀.authSessions = ∅) {history : List AuthAction}
    (hfresh : Transition.Along (AuthDatabase.step env) FreshFamily db₀ history)
    (clock : Timestamp) (cookie : Option String) {actions : List TabAction}
    (hlogsOut : Transition.Along (Joint.step env) (Joint.LogsOut env)
      (Joint.start (Transition.run (AuthDatabase.step env) db₀ history) clock cookie) actions) :
    (Transition.run (Joint.step env)
      (Joint.start (Transition.run (AuthDatabase.step env) db₀ history) clock cookie)
      actions).LoggedOut env := by
  have hstart : TabSound env
      (Joint.start (Transition.run (AuthDatabase.step env) db₀ history) clock cookie) :=
    TabSound.start ((FamiliesSound.of_empty hempty).run hfresh) clock cookie
  have hend := Transition.Along.kept (fun _ _ h ha => h.step hjwt ha) hstart hlogsOut
  exact Joint.LoggedOut.of_signedOut hend.signedOut

theorem sampleEnvironment_soundJwt : sampleEnvironment.SoundJwt :=
  ⟨fun _ => rfl, fun _ _ => rfl⟩

/-- A restored tab loses the connection while it logs out: the cookie stays, and is worthless. -/
theorem logout_logs_out_sample :
    let s := Transition.run (Joint.step sampleEnvironment)
      (Joint.start (Transition.run (AuthDatabase.step sampleEnvironment) sampleAccounts
        [.create 1 (sampleDraws 10 "first") 0 0]) 0 (some "first"))
      [.restore, .serveRefresh (sampleDraws 11 "second"), .deliverRefresh, .logout .logout,
        .dropLogout 0, .serveLogout 0]
    s.LoggedOut sampleEnvironment ∧ s.cookie = some "second" ∧
      ∃ call ∈ s.recent, call.settled = true ∧ call.reply.isSome = true := by
  refine ⟨?_, by decide +kernel, by decide +kernel⟩
  exact @logout_logs_out sampleEnvironment sampleEnvironment_soundJwt sampleAccounts rfl _
    (by decide +kernel) 0 (some "first") _ (by decide +kernel)

/-- The access token has expired when the user logs out: the server answers 401, the tab forgets its
token and keeps the cookie, and the session can be restored. -/
theorem logout_survived :
    ¬(Transition.run (Joint.step sampleEnvironment) (Joint.start sampleAccounts 0 none)
      [.login sampleLogin (sampleDraws 10 "first"), .tick 1200000000, .logout .logout,
        .serveLogout 0, .deliverLogout 0]).LoggedOut sampleEnvironment := by
  intro h
  have hrefused := h _ (List.mem_of_getElem? (i := 0) rfl) (by decide +kernel) (by decide +kernel)
    (sampleDraws 11 "second")
  exact absurd (by decide +kernel) hrefused

/-- A login during a refresh: the refresh brings the other session's cookie after the logout. -/
example :
    let s := Transition.run (Joint.step sampleEnvironment)
      (Joint.start (Transition.run (AuthDatabase.step sampleEnvironment) sampleAccounts
        [.create 1 (sampleDraws 10 "first") 0 0]) 0 (some "first"))
      [.restore, .serveRefresh (sampleDraws 11 "second"),
        .login sampleLogin (sampleDraws 12 "third"), .logout .logout, .serveLogout 0,
        .deliverLogout 0, .deliverRefresh]
    (refreshRoute sampleEnvironment s.cookie (sampleDraws 13 "fourth") s.clock
      s.db).1.status = 200 := by
  decide +kernel

end ChargeMate.Auth
