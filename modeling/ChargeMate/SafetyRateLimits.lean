import ChargeMate.FoundationWindows
import ChargeMate.ModelRateLimit
import ChargeMate.ModelRows

/-! Rate limits: each key of the limiter counts the requests of one client and scope in fixed
windows, from which the bounds on what a client gets through follow. -/

namespace ChargeMate

open FixedWindow

/-- The window of a key, when it counts and has an expiry. -/
def Counters.window (counters : Counters) (key : String) : Option Window :=
  match counters key with
  | some ⟨value, some closes⟩ => some ⟨value, closes⟩
  | _ => none

/-- The key that a window is stored as. -/
def Counter.ofWindow (w : Window) : Counter := ⟨w.count, some w.closes⟩

/-- Every key that exists has counted something and has an expiry. -/
def Counters.Sound (counters : Counters) : Prop :=
  ∀ key counter, counters key = some counter → 0 < counter.value ∧ counter.expiresAt ≠ none

section

variable {counters : Counters} {key : String}

theorem Counters.window_of_eq {w : Window} (h : counters key = some (Counter.ofWindow w)) :
    counters.window key = some w := by
  simp only [window, h, Counter.ofWindow]

theorem Counters.Sound.eq_window (h : counters.Sound) (key : String) :
    counters key = (counters.window key).map Counter.ofWindow := by
  rcases hkey : counters key with _ | ⟨value, _ | closes⟩
  · simp only [window, hkey, Option.map_none]
  · exact absurd rfl (h key _ hkey).2
  · simp only [window, hkey, Option.map_some, Counter.ofWindow]

theorem Counters.Sound.count_pos (h : counters.Sound) {w : Window}
    (hw : counters.window key = some w) : 0 < w.count := by
  have hkey := h.eq_window key
  rw [hw] at hkey
  exact (h key _ hkey).1

theorem Counters.Sound.update (h : counters.Sound) {w : Window} (hw : 0 < w.count) :
    Counters.Sound (Function.update counters key (some (Counter.ofWindow w))) := by
  intro other counter hother
  by_cases hsame : other = key
  · subst hsame
    rw [Function.update_self] at hother
    cases hother
    exact ⟨hw, Option.some_ne_none _⟩
  · rw [Function.update_of_ne hsame] at hother
    exact h other counter hother

theorem Counters.read_eq_self {now closes : Int} {value : Nat}
    (h : counters key = some ⟨value, some closes⟩) (hopen : now < closes) :
    counters.read now key = some ⟨value, some closes⟩ := by
  simp [read, h, Option.filter, hopen]

theorem Counters.read_eq_none {now : Int} (hclosed : ∀ w ∈ counters.window key, w.closes ≤ now)
    (h : counters.Sound) : counters.read now key = none := by
  rw [read, h.eq_window key]
  cases hw : counters.window key with
  | none => rfl
  | some w => simp [Option.filter, Counter.ofWindow, hclosed w hw]

/-- The script on a key that does not exist any more opens a window. -/
theorem rateLimitScript_closed {now seconds : Int} (h : counters.read now key = none)
    (hseconds : 0 < seconds) :
    (rateLimitScript now key seconds counters).1.1 = 1 ∧
      (rateLimitScript now key seconds counters).2 =
        Function.update counters key (some ⟨1, some (now + seconds * 1000)⟩) := by
  have hread : Counters.read (Function.update counters key (some ⟨1, none⟩)) now key =
      some ⟨1, none⟩ := by
    simp [Counters.read, Option.filter]
  simp only [rateLimitScript, Counters.incr, h, Option.getD_none, Nat.zero_add, if_true,
    Counters.expire, hread, if_pos hseconds, Function.update_idem, true_and]

/-- The script on an open window counts and leaves the expiry. -/
theorem rateLimitScript_open {now seconds closes : Int} {value : Nat}
    (h : counters key = some ⟨value, some closes⟩) (hopen : now < closes) (hvalue : 0 < value) :
    (rateLimitScript now key seconds counters).1.1 = value + 1 ∧
      (rateLimitScript now key seconds counters).2 =
        Function.update counters key (some ⟨value + 1, some closes⟩) := by
  simp only [rateLimitScript, Counters.incr, Counters.read_eq_self h hopen, Option.getD_some,
    if_neg (show ¬value + 1 = 1 by omega), and_self]

/-- What the script does to the window of its key. -/
theorem rateLimitScript_hit (h : counters.Sound) (key : String) (now : Int) {seconds : Int}
    (hseconds : 0 < seconds) :
    (rateLimitScript now key seconds counters).1.1 =
        (hit (seconds * 1000) (counters.window key) now).count ∧
      (rateLimitScript now key seconds counters).2 = Function.update counters key
        (some (Counter.ofWindow (hit (seconds * 1000) (counters.window key) now))) := by
  rcases hw : counters.window key with _ | ⟨count, closes⟩
  · refine rateLimitScript_closed (Counters.read_eq_none ?_ h) hseconds
    rw [hw]
    exact fun w hw => nomatch hw
  · by_cases hopen : now < closes
    · have hkey := h.eq_window key
      rw [hw] at hkey
      rw [hit_open hopen]
      exact rateLimitScript_open hkey hopen (h.count_pos hw)
    · rw [hit_closed (by omega)]
      refine rateLimitScript_closed (Counters.read_eq_none ?_ h) hseconds
      rw [hw]
      rintro w ⟨⟩
      exact Int.not_lt.mp hopen

theorem hit_count_pos (length : Int) {w : Option Window} (t : Int) :
    0 < (hit length w t).count := by
  rcases w with _ | ⟨count, closes⟩
  · exact Nat.one_pos
  · by_cases hopen : t < closes
    · rw [hit_open hopen]
      exact Nat.succ_pos count
    · rw [hit_closed (by omega)]
      exact Nat.one_pos

end

/-! ### One request -/

def RateLimitConfig.windowMillis (config : RateLimitConfig) : Int := config.windowSeconds * 1000

section

variable {config : RateLimitConfig}

/-- The window that a request counts in. -/
def LimitedRequest.window (config : RateLimitConfig) (r : LimitedRequest) (counters : Counters) :
    Window :=
  hit config.windowMillis (counters.window (r.key config)) r.receivedAt

theorem rateLimit_hit (henabled : config.rateLimitingEnabled = true)
    (hwindow : 0 < config.windowSeconds) {counters : Counters} (h : counters.Sound)
    {r : LimitedRequest} (havailable : r.redisAvailable = true) :
    (rateLimit config r counters).1.admitted =
        decide (((r.window config counters).count : Int) ≤ config.limit r.scope) ∧
      (rateLimit config r counters).2 = Function.update counters (r.key config)
        (some (Counter.ofWindow (r.window config counters))) := by
  obtain ⟨hcount, hcounters⟩ := rateLimitScript_hit h (r.key config) r.receivedAt hwindow
  simp only [rateLimit, henabled, havailable, not_true_eq_false, if_false, hcount, hcounters]
  exact ⟨rfl, rfl⟩

theorem rateLimit_sound (hwindow : 0 < config.windowSeconds) {counters : Counters}
    (h : counters.Sound) (r : LimitedRequest) : (rateLimit config r counters).2.Sound := by
  by_cases henabled : config.rateLimitingEnabled = true
  · by_cases havailable : r.redisAvailable = true
    · rw [(rateLimit_hit henabled hwindow h havailable).2]
      exact h.update (hit_count_pos _ _)
    · rw [rateLimit, if_neg (not_not.mpr henabled), if_pos havailable]
      exact h
  · rw [rateLimit, if_pos henabled]
    exact h

/-- A request that is rejected was counted in an open window and has left its end alone. -/
theorem rateLimit_rejected (henabled : config.rateLimitingEnabled = true)
    (hwindow : 0 < config.windowSeconds) {counters : Counters} (h : counters.Sound)
    {r : LimitedRequest} (havailable : r.redisAvailable = true)
    (hlimit : 1 ≤ config.limit r.scope)
    (hrejected : (rateLimit config r counters).1.admitted = false) :
    ∃ value closes, counters (r.key config) = some ⟨value, some closes⟩ ∧ r.receivedAt < closes ∧
      (rateLimit config r counters).2 =
        Function.update counters (r.key config) (some ⟨value + 1, some closes⟩) := by
  obtain ⟨hadmitted, hcounters⟩ := rateLimit_hit henabled hwindow h havailable
  rw [hrejected] at hadmitted
  have hover := of_decide_eq_false hadmitted.symm
  rw [hcounters]
  have hkey := h.eq_window (r.key config)
  unfold LimitedRequest.window at hover ⊢
  rcases hw : counters.window (r.key config) with _ | ⟨count, closes⟩
  · rw [hw] at hover
    exact absurd hlimit hover
  · rw [hw] at hover hkey
    by_cases hopen : r.receivedAt < closes
    · rw [hit_open hopen]
      exact ⟨count, closes, hkey, hopen, rfl⟩
    · rw [hit_closed (by omega)] at hover
      exact absurd hlimit hover

/-! ### Runs -/

theorem Limiter.run_sound (hwindow : 0 < config.windowSeconds) {s : Limiter}
    (h : s.counters.Sound) (requests : List LimitedRequest) :
    (s.run config requests).counters.Sound := by
  induction requests generalizing s with
  | nil => exact h
  | cons r requests ih => exact ih (rateLimit_sound hwindow h r)

/-- When the requests counted under a key were received. -/
def hitTimes (config : RateLimitConfig) (key : String) (requests : List LimitedRequest) :
    List Int :=
  (requests.filter fun r => r.key config = key).map LimitedRequest.receivedAt

theorem hitTimes_sorted {key : String} {requests : List LimitedRequest}
    (h : requests.Pairwise fun r r' => r.receivedAt ≤ r'.receivedAt) :
    (hitTimes config key requests).Pairwise (· ≤ ·) :=
  List.pairwise_map.mpr (h.filter _)

variable (henabled : config.rateLimitingEnabled = true) (hwindow : 0 < config.windowSeconds)

include henabled hwindow

theorem Limiter.window_step {s : Limiter} (h : s.counters.Sound) {r : LimitedRequest}
    (havailable : r.redisAvailable = true) (key : String) :
    (s.step config r).counters.window key =
      if r.key config = key then some (r.window config s.counters)
      else s.counters.window key := by
  have hcounters : (s.step config r).counters = _ :=
    (rateLimit_hit henabled hwindow h havailable).2
  rw [hcounters]
  split
  · next hkey =>
    subst hkey
    exact Counters.window_of_eq (Function.update_self _ _ _)
  · next hkey =>
    rw [Counters.window, Function.update_of_ne (Ne.symm hkey)]
    rfl

/-- A key counts its own requests, whatever comes between them. -/
theorem Limiter.window_run {s : Limiter} (h : s.counters.Sound) {requests : List LimitedRequest}
    (havailable : ∀ r ∈ requests, r.redisAvailable = true) (key : String) :
    (s.run config requests).counters.window key =
      after config.windowMillis (s.counters.window key) (hitTimes config key requests) := by
  induction requests generalizing s with
  | nil => rfl
  | cons r requests ih =>
      have hr := havailable r List.mem_cons_self
      have hrest := ih (s := s.step config r) (rateLimit_sound hwindow h r)
        fun r' hr' => havailable r' (List.mem_cons_of_mem r hr')
      refine hrest.trans ?_
      rw [window_step henabled hwindow h hr, hitTimes, hitTimes, List.filter_cons]
      by_cases hkey : r.key config = key
      · rw [if_pos hkey, if_pos (decide_eq_true hkey), List.map_cons]
        subst hkey
        rfl
      · rw [if_neg hkey, if_neg (by simpa using hkey)]

/-- How many requests under a key were admitted from `a` on and before `b`. -/
def Limiter.admittedCount (config : RateLimitConfig) (s : Limiter) (key : String) (a b : Int) :
    Nat :=
  s.answers.countP fun x => x.2.admitted ∧ x.1.key config = key ∧ a ≤ x.1.receivedAt ∧
    x.1.receivedAt < b

theorem Limiter.admittedCount_run {s : Limiter} (h : s.counters.Sound)
    {requests : List LimitedRequest} (havailable : ∀ r ∈ requests, r.redisAvailable = true)
    {key : String} {limit : Int}
    (hlimit : ∀ r ∈ requests, r.key config = key → config.limit r.scope = limit) (a b : Int) :
    (s.run config requests).admittedCount config key a b = s.admittedCount config key a b +
      admitted limit.toNat a b
        (counts config.windowMillis (s.counters.window key) (hitTimes config key requests)) := by
  induction requests generalizing s with
  | nil => rfl
  | cons r requests ih =>
      have hr := havailable r List.mem_cons_self
      have hrest := ih (s := s.step config r) (rateLimit_sound hwindow h r)
        (fun r' hr' => havailable r' (List.mem_cons_of_mem r hr'))
        (fun r' hr' => hlimit r' (List.mem_cons_of_mem r hr'))
      refine hrest.trans ?_
      rw [window_step henabled hwindow h hr, hitTimes, hitTimes, List.filter_cons]
      have hstep : (s.step config r).admittedCount config key a b =
          s.admittedCount config key a b + if r.key config = key ∧
            ((r.window config s.counters).count : Int) ≤ config.limit r.scope ∧
            a ≤ r.receivedAt ∧ r.receivedAt < b then 1 else 0 := by
        have hadmitted := (rateLimit_hit henabled hwindow h hr).1
        simp only [admittedCount, step, List.countP_append, List.countP_singleton, hadmitted,
          decide_eq_true_eq]
        congr 2
        exact propext and_left_comm
      by_cases hkey : r.key config = key
      · rw [if_pos hkey, if_pos (decide_eq_true hkey), List.map_cons, counts, admitted_cons, hstep,
          hlimit r List.mem_cons_self hkey, ← hkey]
        have hpos : 0 < (r.window config s.counters).count := hit_count_pos _ _
        have hiff : ((r.window config s.counters).count : Int) ≤ limit ↔
            (r.window config s.counters).count ≤ limit.toNat := by
          omega
        simp only [hiff, true_and]
        exact (Nat.add_assoc _ _ _).trans (congrArg _ (Nat.add_comm _ _))
      · rw [if_neg hkey, if_neg (by simpa using hkey), hstep, if_neg fun h => hkey h.1]
        rfl

end

/-! ### Keys do not meet -/

section

variable {config : RateLimitConfig}

/-- A text in front and a mark between leave what they join apart, if the last parts are as long. -/
theorem append_parts_inj {front mark a b c d : String}
    (h : front ++ a ++ mark ++ c = front ++ b ++ mark ++ d) (hlength : c.length = d.length) :
    a = b ∧ c = d := by
  have hlist := congrArg String.toList h
  simp only [String.toList_append] at hlist
  obtain ⟨hbegins, hends⟩ := List.append_inj' hlist (by
    rw [String.length_toList, String.length_toList, hlength])
  have hmiddle := List.append_cancel_left (List.append_cancel_right hbegins)
  exact ⟨String.toList_inj.mp hmiddle, String.toList_inj.mp hends⟩

theorem rateLimitKey_inj (hdigest : ∀ address, (config.sha256Hex address).length = 64)
    {scope scope' address address' : String}
    (h : rateLimitKey config scope address = rateLimitKey config scope' address') :
    scope = scope' ∧ config.sha256Hex address = config.sha256Hex address' :=
  append_parts_inj h ((hdigest address).trans (hdigest address').symm)

theorem Counters.read_congr {c c' : Counters} {key : String} (h : c key = c' key) (now : Int) :
    c.read now key = c'.read now key := by
  rw [read, read, h]

theorem Counters.incr_congr {c c' : Counters} {key : String} (h : c key = c' key) (now : Int) :
    (c.incr now key).1 = (c'.incr now key).1 ∧
      (c.incr now key).2 key = (c'.incr now key).2 key := by
  simp only [incr, read_congr h, Function.update_self, and_self]

theorem Counters.expire_congr {c c' : Counters} {key : String} (h : c key = c' key)
    (now seconds : Int) : c.expire now key seconds key = c'.expire now key seconds key := by
  rw [expire, expire, read_congr h]
  cases c'.read now key with
  | none => exact h
  | some counter => simp only [Function.update_self]

theorem Counters.ttl_congr {c c' : Counters} {key : String} (h : c key = c' key) (now : Int) :
    c.ttl now key = c'.ttl now key := by
  rw [ttl, ttl, read_congr h]

/-- The script reads its own key only. -/
theorem rateLimitScript_congr {c c' : Counters} {key : String} (h : c key = c' key)
    (now seconds : Int) :
    (rateLimitScript now key seconds c).1 = (rateLimitScript now key seconds c').1 ∧
      (rateLimitScript now key seconds c).2 key = (rateLimitScript now key seconds c').2 key := by
  obtain ⟨hcurrent, hincr⟩ := Counters.incr_congr h now
  have hkey : (if (c.incr now key).1 = 1 then (c.incr now key).2.expire now key seconds
        else (c.incr now key).2) key =
      (if (c'.incr now key).1 = 1 then (c'.incr now key).2.expire now key seconds
        else (c'.incr now key).2) key := by
    rw [hcurrent]
    split
    · exact Counters.expire_congr hincr now seconds
    · exact hincr
  refine ⟨?_, hkey⟩
  simp only [rateLimitScript]
  rw [Counters.ttl_congr hkey, hcurrent]

/-- It writes no other. -/
theorem rateLimitScript_other {c : Counters} {key other : String} (h : other ≠ key)
    (now seconds : Int) : (rateLimitScript now key seconds c).2 other = c other := by
  have hincr : (c.incr now key).2 other = c other := Function.update_of_ne h _ _
  have hexpire : (c.incr now key).2.expire now key seconds other = c other := by
    rw [Counters.expire]
    cases Counters.read (c.incr now key).2 now key with
    | none => exact hincr
    | some counter => exact (Function.update_of_ne h _ _).trans hincr
  by_cases hfirst : (c.incr now key).1 = 1
  · simp only [rateLimitScript, if_pos hfirst]
    exact hexpire
  · simp only [rateLimitScript, if_neg hfirst]
    exact hincr

theorem rateLimit_congr {c c' : Counters} {r : LimitedRequest}
    (h : c (r.key config) = c' (r.key config)) :
    (rateLimit config r c).1 = (rateLimit config r c').1 ∧
      (rateLimit config r c).2 (r.key config) = (rateLimit config r c').2 (r.key config) := by
  obtain ⟨hresult, hkey⟩ := rateLimitScript_congr h r.receivedAt config.windowSeconds
  simp only [rateLimit]
  split
  · exact ⟨rfl, h⟩
  · split
    · exact ⟨rfl, h⟩
    · exact ⟨by simp only [hresult], hkey⟩

theorem rateLimit_other {c : Counters} {r : LimitedRequest} {other : String}
    (h : other ≠ r.key config) : (rateLimit config r c).2 other = c other := by
  simp only [rateLimit]
  split
  · rfl
  · split
    · rfl
    · exact rateLimitScript_other h _ _

/-- Every request is answered, in the order of the requests. -/
theorem Limiter.requests_run (s : Limiter) (requests : List LimitedRequest) :
    (s.run config requests).answers.map Prod.fst = s.answers.map Prod.fst ++ requests := by
  induction requests generalizing s with
  | nil => exact (List.append_nil _).symm
  | cons r requests ih =>
      refine (ih (s.step config r)).trans ?_
      simp only [step, List.map_append, List.map_singleton, List.append_assoc,
        List.singleton_append]

/-- `t` has answered what `s` has answered under a key, and has the same counter there. -/
def Limiter.Shares (config : RateLimitConfig) (key : String) (s t : Limiter) : Prop :=
  s.counters key = t.counters key ∧
    s.answers.filter (fun x => x.1.key config = key) = t.answers

theorem Limiter.Shares.step_own {key : String} {s t : Limiter} (h : s.Shares config key t)
    {r : LimitedRequest} (hkey : r.key config = key) :
    (s.step config r).Shares config key (t.step config r) := by
  subst hkey
  obtain ⟨hanswer, hafter⟩ := rateLimit_congr h.1
  refine ⟨hafter, ?_⟩
  simp only [step, List.filter_append, h.2, hanswer]
  simp

theorem Limiter.Shares.step_other {key : String} {s t : Limiter} (h : s.Shares config key t)
    {r : LimitedRequest} (hkey : r.key config ≠ key) :
    (s.step config r).Shares config key t := by
  refine ⟨(rateLimit_other (Ne.symm hkey)).trans h.1, ?_⟩
  simp only [step, List.filter_append, h.2]
  simp [hkey]

/-- The requests under other keys can be left out. -/
theorem Limiter.run_own (key : String) (requests : List LimitedRequest) :
    (Limiter.initial.run config requests).answers.filter (fun x => x.1.key config = key) =
      (Limiter.initial.run config
        (requests.filter fun r => r.key config = key)).answers := by
  have hshares : Limiter.initial.Shares config key Limiter.initial := ⟨rfl, rfl⟩
  have hrun : (Limiter.initial.run config requests).Shares config key
      (Limiter.initial.run config (requests.filter fun r => r.key config = key)) := by
    refine Transition.run_filter (P := fun _ => True) (fun _ _ _ => trivial) ?_ ?_ hshares trivial
    · intro s t r h hkeep
      exact h.step_own (of_decide_eq_true hkeep)
    · intro s t r h _ hdrop
      exact h.step_other (of_decide_eq_false hdrop)
  exact hrun.2

/-! ### What a client gets through -/

/-- A request of a client to the routes of a scope. -/
def LimitedRequest.Of (config : RateLimitConfig) (scope address : String) (r : LimitedRequest) :
    Prop :=
  r.scope = scope ∧ clientAddress config r = address

instance (config : RateLimitConfig) (scope address : String) :
    DecidablePred (LimitedRequest.Of config scope address) := fun r =>
  inferInstanceAs (Decidable (r.scope = scope ∧ clientAddress config r = address))

theorem LimitedRequest.Of.key {scope address : String} {r : LimitedRequest}
    (h : r.Of config scope address) : r.key config = rateLimitKey config scope address := by
  rw [LimitedRequest.key, h.1, h.2]

/-- Without a collision of digests a key belongs to one client and scope. -/
theorem LimitedRequest.of_iff_key (hdigest : ∀ address, (config.sha256Hex address).length = 64)
    {scope address : String} {r : LimitedRequest}
    (hcollision : config.sha256Hex (clientAddress config r) = config.sha256Hex address →
      clientAddress config r = address) :
    r.Of config scope address ↔ r.key config = rateLimitKey config scope address := by
  constructor
  · exact LimitedRequest.Of.key
  · intro hkey
    obtain ⟨hscope, hsha⟩ := rateLimitKey_inj hdigest hkey
    exact ⟨hscope, hcollision hsha⟩

theorem Counters.sound_initial : Limiter.initial.counters.Sound := fun _ _ h => nomatch h

/-- A request is admitted if its client has made no more than the limit within a window's length,
itself included. -/
theorem Limiter.admitted_of_recent (henabled : config.rateLimitingEnabled = true)
    (hwindow : 0 < config.windowSeconds) {before : List LimitedRequest} {r : LimitedRequest}
    (hsorted : (before ++ [r]).Pairwise fun r r' => r.receivedAt ≤ r'.receivedAt)
    (havailable : ∀ q ∈ before ++ [r], q.redisAvailable = true)
    (hrecent : (((before ++ [r]).countP fun q => q.key config = r.key config ∧
      r.receivedAt - config.windowMillis < q.receivedAt : Nat) : Int) ≤ config.limit r.scope) :
    (rateLimit config r (Limiter.initial.run config before).counters).1.admitted = true := by
  have hsound := Limiter.run_sound hwindow Counters.sound_initial before
  have hafter := Limiter.window_run henabled hwindow Counters.sound_initial
    (fun q hq => havailable q (List.mem_append_left _ hq)) (r.key config)
  have htimes : hitTimes config (r.key config) (before ++ [r]) =
      hitTimes config (r.key config) before ++ [r.receivedAt] := by
    simp [hitTimes]
  have hlength : 0 < config.windowMillis := by
    rw [RateLimitConfig.windowMillis]
    omega
  have hordered : (hitTimes config (r.key config) before ++ [r.receivedAt]).Pairwise (· ≤ ·) := by
    rw [← htimes]
    exact hitTimes_sorted hsorted
  have hcount := count_le_recent hlength hordered
  have hcounted : ((hitTimes config (r.key config) (before ++ [r])).countP fun u =>
        r.receivedAt - config.windowMillis < u) =
      (before ++ [r]).countP fun q => q.key config = r.key config ∧
        r.receivedAt - config.windowMillis < q.receivedAt := by
    rw [hitTimes, List.countP_map, List.countP_filter]
    refine List.countP_congr fun q _ => ?_
    simp [and_comm]
  rw [← htimes, hcounted] at hcount
  obtain ⟨hadmitted, _⟩ := rateLimit_hit henabled hwindow hsound
    (havailable r (List.mem_append_right _ (List.mem_singleton_self r)))
  rw [hadmitted, LimitedRequest.window, hafter]
  exact decide_eq_true (Int.le_trans (Int.ofNat_le.mpr hcount) hrecent)

/-- For every client and scope: at most twice the limit is admitted in any interval of a window's
length; a client that stays within the limit is always admitted and other clients do not
influence it; a rejected request leaves the end of its window alone; and every key expires. -/
theorem rate_limit_bound {config : RateLimitConfig}
    (henabled : config.rateLimitingEnabled = true) (hwindow : 0 < config.windowSeconds)
    (hlimit : ∀ scope, 1 ≤ config.limit scope)
    (hdigest : ∀ address, (config.sha256Hex address).length = 64)
    {requests : List LimitedRequest}
    (hsorted : requests.Pairwise fun r r' => r.receivedAt ≤ r'.receivedAt)
    (havailable : ∀ r ∈ requests, r.redisAvailable = true) (scope address : String) :
    (∀ t, (((Limiter.initial.run config requests).answers.countP fun x =>
        x.2.admitted ∧ x.1.Of config scope address ∧ t ≤ x.1.receivedAt ∧
          x.1.receivedAt < t + config.windowMillis : Nat) : Int) ≤ 2 * config.limit scope) ∧
    ((∀ r ∈ requests, config.sha256Hex (clientAddress config r) = config.sha256Hex address →
        clientAddress config r = address) →
      (∀ before r rest, requests = before ++ r :: rest → r.Of config scope address →
        (((before ++ [r]).countP fun q => q.Of config scope address ∧
          r.receivedAt - config.windowMillis < q.receivedAt : Nat) : Int) ≤ config.limit scope →
        (rateLimit config r (Limiter.initial.run config before).counters).1.admitted = true) ∧
      (Limiter.initial.run config requests).answers.filter
          (fun x => x.1.Of config scope address) =
        (Limiter.initial.run config
          (requests.filter fun r => r.Of config scope address)).answers) ∧
    (∀ before r rest, requests = before ++ r :: rest →
      (rateLimit config r (Limiter.initial.run config before).counters).1.admitted = false →
      ∃ value closes, (Limiter.initial.run config before).counters (r.key config) =
          some ⟨value, some closes⟩ ∧ r.receivedAt < closes ∧
        (Limiter.initial.run config (before ++ [r])).counters =
          Function.update (Limiter.initial.run config before).counters (r.key config)
            (some ⟨value + 1, some closes⟩)) ∧
    ∀ before rest, requests = before ++ rest → ∀ key counter,
      (Limiter.initial.run config before).counters key = some counter →
        counter.expiresAt ≠ none := by
  refine ⟨?_, ?_, ?_, ?_⟩
  · intro t
    have hscope : ∀ r ∈ requests, r.key config = rateLimitKey config scope address →
        config.limit r.scope = config.limit scope :=
      fun r _ hkey => congrArg config.limit (rateLimitKey_inj hdigest hkey).1
    have hcount := Limiter.admittedCount_run henabled hwindow Counters.sound_initial havailable
      hscope t (t + config.windowMillis)
    have htimes : (hitTimes config (rateLimitKey config scope address) requests).Pairwise (· ≤ ·) :=
      hitTimes_sorted hsorted
    have hbound := admitted_le (n := (config.limit scope).toNat)
      (w := Limiter.initial.counters.window (rateLimitKey config scope address)) htimes
      (Int.le_refl (t + config.windowMillis))
    have hown : ((Limiter.initial.run config requests).answers.countP fun x =>
        x.2.admitted ∧ x.1.Of config scope address ∧ t ≤ x.1.receivedAt ∧
          x.1.receivedAt < t + config.windowMillis) ≤
        (Limiter.initial.run config requests).admittedCount config
          (rateLimitKey config scope address) t (t + config.windowMillis) := by
      refine List.countP_mono_left fun x _ hx => ?_
      rw [decide_eq_true_eq] at hx ⊢
      exact ⟨hx.1, hx.2.1.key, hx.2.2⟩
    have hnone : Limiter.initial.admittedCount config (rateLimitKey config scope address) t
        (t + config.windowMillis) = 0 := rfl
    have hpositive := hlimit scope
    omega
  · intro hcollision
    have hiff : ∀ r ∈ requests, r.Of config scope address ↔
        r.key config = rateLimitKey config scope address :=
      fun r hr => LimitedRequest.of_iff_key hdigest (hcollision r hr)
    constructor
    · rintro before r rest rfl hof hrecent
      have hinit : before ++ [r] <+: before ++ r :: rest := ⟨rest, by simp⟩
      refine Limiter.admitted_of_recent henabled hwindow (hsorted.sublist hinit.sublist)
        (fun q hq => havailable q (hinit.subset hq)) ?_
      rw [hof.1, hof.key]
      refine Int.le_trans (Int.ofNat_le.mpr (List.countP_mono_left fun q hq hkey => ?_)) hrecent
      rw [decide_eq_true_eq] at hkey ⊢
      exact ⟨(hiff q (hinit.subset hq)).mpr hkey.1, hkey.2⟩
    · have hrequests : requests.filter (fun r => r.Of config scope address) =
          requests.filter fun r => r.key config = rateLimitKey config scope address :=
        List.filter_congr fun r hr => decide_eq_decide.mpr (hiff r hr)
      have hanswers : ∀ x ∈ (Limiter.initial.run config requests).answers, x.1 ∈ requests := by
        intro x hx
        have hall : (Limiter.initial.run config requests).answers.map Prod.fst = requests :=
          Limiter.requests_run Limiter.initial requests
        exact hall ▸ List.mem_map_of_mem hx
      rw [hrequests, ← Limiter.run_own]
      exact List.filter_congr fun x hx => decide_eq_decide.mpr (hiff x.1 (hanswers x hx))
  · rintro before r rest rfl hrejected
    obtain ⟨value, closes, hkey, hopen, hafter⟩ := rateLimit_rejected henabled hwindow
      (Limiter.run_sound hwindow Counters.sound_initial before)
      (havailable r (List.mem_append_right _ List.mem_cons_self)) (hlimit r.scope) hrejected
    refine ⟨value, closes, hkey, hopen, ?_⟩
    rw [Limiter.run, Transition.run_append]
    exact hafter
  · intro before _ _ key counter hcounter
    exact (Limiter.run_sound hwindow Counters.sound_initial before key counter hcounter).2

end

def sampleLimits : RateLimitConfig where
  rateLimitingEnabled := true
  trustProxyHeaders := false
  limit _ := 2
  windowSeconds := 60
  sha256Hex address :=
    if address = "192.0.2.10" then
      "6d99cbd08fc6c99cdb2d942a4cbb097c6b54496bbbc3ffd6351b145508dd2935"
    else "997c7ba95aa3f7c552c8ce042ea48b12fd2617f818f75492ab81747706f2c3bb"

def sampleAttempt (remoteAddr : String) (receivedAt : Int) : LimitedRequest :=
  ⟨"auth:login", none, some remoteAddr, receivedAt, true⟩

def sampleAttempts : List LimitedRequest :=
  [sampleAttempt "192.0.2.10" 0, sampleAttempt "192.0.2.10" 50000,
    sampleAttempt "192.0.2.11" 50000, sampleAttempt "192.0.2.10" 59999,
    sampleAttempt "192.0.2.10" 60000, sampleAttempt "192.0.2.10" 61000]

/-- Four requests of one client within a minute, two at the end of a window and two at the start of
the next. -/
theorem rate_limit_bound_sample :
    (Limiter.initial.run sampleLimits sampleAttempts).answers.map (fun x => x.2.admitted) =
        [true, true, true, false, true, true] ∧
      ((Limiter.initial.run sampleLimits sampleAttempts).answers.countP fun x =>
        x.2.admitted ∧ x.1.Of sampleLimits "auth:login" "192.0.2.10" ∧ 2000 ≤ x.1.receivedAt ∧
          x.1.receivedAt < 62000 : Nat) ≤ (4 : Int) := by
  have hdigest : ∀ address, (sampleLimits.sha256Hex address).length = 64 := by
    intro address
    simp only [sampleLimits]
    split <;> rfl
  have hlimit : ∀ scope, 1 ≤ sampleLimits.limit scope := fun _ => show (1 : Int) ≤ 2 by decide
  have hsorted : sampleAttempts.Pairwise fun r r' => r.receivedAt ≤ r'.receivedAt := by decide
  have hbound := (rate_limit_bound rfl (by decide) hlimit hdigest hsorted (by decide) "auth:login"
    "192.0.2.10").1 2000
  exact ⟨by decide +kernel, hbound⟩

end ChargeMate
