import ChargeMate.RefineSearches
import ChargeMate.SafetySessions

/-! Coherence of the search cache. A page under a version was read after every commit whose
invalidation the version counts; a search that reads the version after an invalidation has returned
therefore meets no page from before that commit. -/

namespace ChargeMate

/-- A number of commits by which all the invalidations that a version counts were committed. -/
def SearchState.Fresh (s : SearchState) (version readAt : Nat) : Prop :=
  ∀ i ∈ s.invalidations.take version, i < readAt

section

variable (env : SearchEnv) (s : SearchState)

/-- The page is what the three statements read from the databases of their time. -/
structure Origin.Reads (o : Origin) (body : Json) : Prop where
  ordered : o.countedAt ≤ o.selectedAt ∧ o.selectedAt ≤ o.loadedAt
  page : ∃ db₁ db₂ db₃, s.dbAt o.countedAt = some db₁ ∧ s.dbAt o.selectedAt = some db₂ ∧
    s.dbAt o.loadedAt = some db₃ ∧
    body = listResponse env o.query (env.countStations o.query db₁)
      (loadChargePoints (env.selectStations o.query db₂) db₃)

/-- The body is such a page, or what its text in the cache is decoded to. -/
def Origin.Shows (o : Origin) (body : Json) : Prop :=
  ∃ page, o.Reads env s page ∧ (body = page ∨ env.jsonLoads (env.jsonDumps page) = some body)

/-- A key under which a page that was read then may be stored. -/
def SearchState.KeyFor (query : StationSearchQuery) (readAt : Nat) (cacheKey : Option String) :
    Prop :=
  ∀ key ∈ cacheKey, ∃ v, v ≤ s.invalidations.length ∧ key = buildCacheKey env query v.repr ∧
    s.Fresh v readAt

/-- What holds of a search that has read a version of at least `n`, or reads none. -/
def SearchState.Meets (n : Nat) (search : Search) : Prop :=
  match search.phase with
  | .received => True
  | .versioned version => ∃ v, n ≤ v ∧ v ≤ s.invalidations.length ∧ version = v.repr
  | .missed cacheKey => s.KeyFor env search.query s.past.length cacheKey
  | .counted cacheKey total countedAt =>
      s.Fresh n countedAt ∧ s.KeyFor env search.query countedAt cacheKey ∧
        ∃ db, s.dbAt countedAt = some db ∧ total = env.countStations search.query db
  | .selected cacheKey total rows countedAt selectedAt =>
      s.Fresh n countedAt ∧ s.KeyFor env search.query countedAt cacheKey ∧ countedAt ≤ selectedAt ∧
        ∃ db db', s.dbAt countedAt = some db ∧ total = env.countStations search.query db ∧
          s.dbAt selectedAt = some db' ∧ rows = env.selectStations search.query db'
  | .listed cacheKey body origin =>
      origin.query = search.query ∧ s.Fresh n origin.countedAt ∧
        s.KeyFor env search.query origin.countedAt cacheKey ∧ origin.Reads env s body
  | .answered body origin =>
      ∃ o, origin = some o ∧ o.query = search.query ∧ s.Fresh n o.countedAt ∧ o.Shows env s body

/-- An entry of the cache. -/
structure SearchState.EntrySound (key : String) (value : RedisValue) : Prop where
  page : ∃ o body, value.origin = some o ∧ value.text = env.jsonDumps body ∧ o.Reads env s body ∧
    s.KeyFor env o.query o.countedAt (some key)

structure SearchState.Sound : Prop where
  invalidations : ∀ i ∈ s.invalidations, i < s.past.length
  version : env.cacheEnabled = true → s.get cacheVersionKey =
    if s.invalidations.length = 0 then none else some s.invalidations.length.repr
  entries : ∀ key value, s.redis key = some value → key ≠ cacheVersionKey →
    s.EntrySound env key value
  searches : ∀ (j : Nat), ∀ search ∈ s.searches[j]?, s.Meets env 0 search
  committed : ∀ writer ∈ s.writers, ∀ i, writer.phase = .committed i → i < s.past.length
  returned : ∀ writer ∈ s.writers, ∀ i, writer.phase = .returned i → i ∈ s.invalidations

end

/-! ### What stays true -/

/-- History grows. -/
structure SearchState.Extends (s s' : SearchState) : Prop where
  invalidations : s.invalidations <+: s'.invalidations
  dbAt : ∀ n db, s.dbAt n = some db → s'.dbAt n = some db
  past : s.past.length ≤ s'.past.length

section

variable {env : SearchEnv} {s s' : SearchState}

theorem SearchState.Extends.fresh (h : s.Extends s') {v n : Nat}
    (hv : v ≤ s.invalidations.length) (hfresh : s.Fresh v n) : s'.Fresh v n := by
  obtain ⟨rest, hrest⟩ := h.invalidations
  intro i hi
  rw [← hrest, List.take_append_of_le_length hv] at hi
  exact hfresh i hi

theorem SearchState.Extends.keyFor (h : s.Extends s') {query : StationSearchQuery} {n : Nat}
    {cacheKey : Option String} (hkey : s.KeyFor env query n cacheKey) :
    s'.KeyFor env query n cacheKey := by
  intro key hmem
  obtain ⟨v, hv, hbuilt, hfresh⟩ := hkey key hmem
  exact ⟨v, hv.trans h.invalidations.length_le, hbuilt, h.fresh hv hfresh⟩

theorem SearchState.Extends.reads (h : s.Extends s') {o : Origin} {body : Json}
    (hreads : o.Reads env s body) : o.Reads env s' body := by
  obtain ⟨hordered, db₁, db₂, db₃, h₁, h₂, h₃, hbody⟩ := hreads
  exact ⟨hordered, db₁, db₂, db₃, h.dbAt _ _ h₁, h.dbAt _ _ h₂, h.dbAt _ _ h₃, hbody⟩

theorem SearchState.KeyFor.none {query : StationSearchQuery} {n : Nat} :
    s.KeyFor env query n none := by
  intro key hkey
  cases hkey

theorem SearchState.KeyFor.later {query : StationSearchQuery} {n m : Nat}
    {cacheKey : Option String} (h : s.KeyFor env query n cacheKey) (hnm : n ≤ m) :
    s.KeyFor env query m cacheKey := by
  intro key hmem
  obtain ⟨v, hv, hbuilt, hfresh⟩ := h key hmem
  exact ⟨v, hv, hbuilt, fun i hi => (hfresh i hi).trans_le hnm⟩

theorem SearchState.Extends.meets (h : s.Extends s') {n : Nat} (hn : n ≤ s.invalidations.length)
    {search : Search} (hmeets : s.Meets env n search) : s'.Meets env n search := by
  obtain ⟨query, phase⟩ := search
  cases phase with
  | received => trivial
  | versioned version =>
      obtain ⟨v, hnv, hv, hversion⟩ := hmeets
      exact ⟨v, hnv, hv.trans h.invalidations.length_le, hversion⟩
  | missed cacheKey => exact (h.keyFor hmeets).later h.past
  | counted cacheKey total countedAt =>
      obtain ⟨hfresh, hkey, db, hdb, htotal⟩ := hmeets
      exact ⟨h.fresh hn hfresh, h.keyFor hkey, db, h.dbAt _ _ hdb, htotal⟩
  | selected cacheKey total rows countedAt selectedAt =>
      obtain ⟨hfresh, hkey, hle, db, db', hdb, htotal, hdb', hrows⟩ := hmeets
      exact ⟨h.fresh hn hfresh, h.keyFor hkey, hle, db, db', h.dbAt _ _ hdb, htotal,
        h.dbAt _ _ hdb', hrows⟩
  | listed cacheKey body origin =>
      obtain ⟨hquery, hfresh, hkey, hreads⟩ := hmeets
      exact ⟨hquery, h.fresh hn hfresh, h.keyFor hkey, h.reads hreads⟩
  | answered body origin =>
      obtain ⟨o, horigin, hquery, hfresh, page, hreads, hbody⟩ := hmeets
      exact ⟨o, horigin, hquery, h.fresh hn hfresh, page, h.reads hreads, hbody⟩

theorem SearchState.Extends.entrySound (h : s.Extends s') {key : String} {value : RedisValue}
    (hentry : s.EntrySound env key value) : s'.EntrySound env key value := by
  obtain ⟨o, body, horigin, htext, hreads, hkey⟩ := hentry
  exact ⟨o, body, horigin, htext, h.reads hreads, h.keyFor hkey⟩

theorem SearchState.dbAt_now (s : SearchState) : s.dbAt s.past.length = some s.db := by
  rw [SearchState.dbAt, List.getElem?_append_right (le_refl _), Nat.sub_self]
  rfl

theorem SearchState.le_of_dbAt (s : SearchState) {n : Nat} {db : Database}
    (h : s.dbAt n = some db) : n ≤ s.past.length := by
  have hlt := (List.getElem?_eq_some_iff.mp h).1
  rw [List.length_append, List.length_singleton] at hlt
  exact Nat.le_of_lt_succ hlt

/-! ### Steps -/

/-- What a search does with one statement. -/
inductive SearchMove (env : SearchEnv) (s : SearchState) : Search → Search → Prop
  | readVersion (query : StationSearchQuery) :
      SearchMove env s ⟨query, .received⟩ ⟨query, s.readVersion env⟩
  | readEntry (query : StationSearchQuery) (version : String) :
      SearchMove env s ⟨query, .versioned version⟩ ⟨query, s.readEntry env query version⟩
  | count (query : StationSearchQuery) (cacheKey : Option String) :
      SearchMove env s ⟨query, .missed cacheKey⟩
        ⟨query, .counted cacheKey (env.countStations query s.db) s.past.length⟩
  | select (query : StationSearchQuery) (cacheKey : Option String) (total countedAt : Nat) :
      SearchMove env s ⟨query, .counted cacheKey total countedAt⟩
        ⟨query, .selected cacheKey total (env.selectStations query s.db) countedAt s.past.length⟩
  | load (query : StationSearchQuery) (cacheKey : Option String) (total : Nat)
      (rows : List (ChargingStation × Option PyFloat)) (countedAt selectedAt : Nat) :
      SearchMove env s ⟨query, .selected cacheKey total rows countedAt selectedAt⟩
        ⟨query, .listed cacheKey (listResponse env query total (loadChargePoints rows s.db))
          ⟨query, countedAt, selectedAt, s.past.length⟩⟩
  | store (query : StationSearchQuery) (cacheKey : Option String) (body : Json) (origin : Origin) :
      SearchMove env s ⟨query, .listed cacheKey body origin⟩ ⟨query, .answered body (some origin)⟩

/-- The version that a search reads counts all invalidations so far. -/
theorem SearchState.Sound.readVersion (hsound : s.Sound env) (henabled : env.cacheEnabled = true) :
    s.readVersion env = .versioned s.invalidations.length.repr := by
  rw [SearchState.readVersion, if_pos henabled, hsound.version henabled]
  by_cases hnone : s.invalidations.length = 0
  · rw [if_pos hnone, hnone]
    rfl
  · rw [if_neg hnone, truthy, Option.filter_some, if_pos (by simp),
      Option.getD_some]

theorem SearchState.Sound.keyFor_now (hsound : s.Sound env) (query : StationSearchQuery) {v : Nat}
    (hv : v ≤ s.invalidations.length) :
    s.KeyFor env query s.past.length (some (buildCacheKey env query v.repr)) := by
  rintro key ⟨rfl⟩
  exact ⟨v, hv, rfl, fun i hi => hsound.invalidations i (List.mem_of_mem_take hi)⟩

/-- An entry found under a version was read after all invalidations that the version counts. -/
theorem SearchState.Sound.readEntry (henv : env.Faithful) (hsound : s.Sound env)
    (query : StationSearchQuery) {n v : Nat} (hn : n ≤ v) (hv : v ≤ s.invalidations.length) :
    s.Meets env n ⟨query, s.readEntry env query v.repr⟩ := by
  unfold SearchState.readEntry
  simp only
  cases hentry : s.redis (buildCacheKey env query v.repr) with
  | none => exact hsound.keyFor_now query hv
  | some cached =>
      simp only
      cases hbody : env.jsonLoads cached.text with
      | none => exact SearchState.KeyFor.none
      | some body =>
          obtain ⟨o, page, horigin, htext, hreads, hkey⟩ :=
            hsound.entries _ _ hentry (buildCacheKey_ne_version env query v.repr)
          obtain ⟨w, _, hbuilt, hfresh⟩ := hkey _ rfl
          obtain ⟨hquery, rfl⟩ := buildCacheKey_inj henv hbuilt
          refine ⟨o, horigin, hquery.symm, ?_, page, hreads, Or.inr (htext ▸ hbody)⟩
          exact fun i hi => hfresh i ((List.take_prefix_take_left hn).subset hi)

theorem SearchMove.meets (henv : env.Faithful) (hsound : s.Sound env) {search search' : Search}
    (hmove : SearchMove env s search search') {n : Nat} (hn : n ≤ s.invalidations.length)
    (hmeets : s.Meets env n search) : s.Meets env n search' := by
  have hnow : s.Fresh n s.past.length :=
    fun i hi => hsound.invalidations i (List.mem_of_mem_take hi)
  cases hmove with
  | readVersion query =>
      cases henabled : env.cacheEnabled with
      | true =>
          rw [hsound.readVersion henabled]
          exact ⟨_, hn, le_refl _, rfl⟩
      | false =>
          rw [SearchState.readVersion, henabled]
          exact SearchState.KeyFor.none
  | readEntry query version =>
      obtain ⟨v, hnv, hv, rfl⟩ := hmeets
      exact hsound.readEntry henv query hnv hv
  | count query cacheKey => exact ⟨hnow, hmeets, s.db, s.dbAt_now, rfl⟩
  | select query cacheKey total countedAt =>
      obtain ⟨hfresh, hkey, db, hdb, htotal⟩ := hmeets
      exact ⟨hfresh, hkey, s.le_of_dbAt hdb, db, s.db, hdb, htotal, s.dbAt_now, rfl⟩
  | load query cacheKey total rows countedAt selectedAt =>
      obtain ⟨hfresh, hkey, hle, db, db', hdb, htotal, hdb', hrows⟩ := hmeets
      refine ⟨rfl, hfresh, hkey, ⟨hle, s.le_of_dbAt hdb'⟩, db, db', s.db, hdb, hdb', s.dbAt_now, ?_⟩
      rw [htotal, hrows]
  | store query cacheKey body origin =>
      obtain ⟨hquery, hfresh, _, hreads⟩ := hmeets
      exact ⟨origin, rfl, hquery, hfresh, body, hreads, Or.inl rfl⟩

theorem SearchState.putSearch_cases {j i : Nat} {search x : Search}
    (h : (s.putSearch j search).searches[i]? = some x) :
    s.searches[i]? = some x ∨ (i = j ∧ x = search) := by
  rw [SearchState.putSearch, List.getElem?_set] at h
  split at h
  · next hij =>
    split at h
    · exact Or.inr ⟨hij.symm, (Option.some.inj h).symm⟩
    · cases h
  · exact Or.inl h

/-- A search after a step: as before, or new, or moved by one statement. -/
theorem SearchState.step_search {a : SearchAction} {i : Nat} {x : Search}
    (h : (s.step env a).searches[i]? = some x) :
    s.searches[i]? = some x ∨ x.phase = .received ∨
      ∃ search, s.searches[i]? = some search ∧ SearchMove env s search x := by
  have hput : ∀ {j : Nat} {search search' : Search}, s.searches[j]? = some search →
      SearchMove env s search search' → (s.putSearch j search').searches[i]? = some x →
      s.searches[i]? = some x ∨ x.phase = .received ∨
        ∃ search, s.searches[i]? = some search ∧ SearchMove env s search x := by
    intro j search search' hj hmove hx
    rcases SearchState.putSearch_cases hx with hold | ⟨rfl, rfl⟩
    · exact Or.inl hold
    · exact Or.inr (Or.inr ⟨search, hj, hmove⟩)
  cases a with
  | receive query =>
      rw [SearchState.step, List.getElem?_append] at h
      split at h
      · exact Or.inl h
      · obtain rfl := List.mem_singleton.mp (List.mem_of_getElem? h)
        exact Or.inr (Or.inl rfl)
  | readVersion j =>
      simp only [SearchState.step] at h
      split at h
      · next query hj => exact hput hj (.readVersion query) h
      · exact Or.inl h
  | readEntry j =>
      simp only [SearchState.step] at h
      split at h
      · next query version hj => exact hput hj (.readEntry query version) h
      · exact Or.inl h
  | count j =>
      simp only [SearchState.step] at h
      split at h
      · next query cacheKey hj => exact hput hj (.count query cacheKey) h
      · exact Or.inl h
  | select j =>
      simp only [SearchState.step] at h
      split at h
      · next hj => exact hput hj (.select _ _ _ _) h
      · exact Or.inl h
  | load j =>
      simp only [SearchState.step] at h
      split at h
      · next hj => exact hput hj (.load _ _ _ _ _ _) h
      · exact Or.inl h
  | store j =>
      simp only [SearchState.step] at h
      split at h
      · next query cacheKey body origin hj =>
        refine hput hj (.store query cacheKey body origin) ?_
        unfold SearchState.store at h
        cases cacheKey <;> exact h
      · exact Or.inl h
  | receiveWrite write => exact Or.inl h
  | commit k =>
      simp only [SearchState.step] at h
      split at h
      · unfold SearchState.commit at h
        split at h <;> exact Or.inl h
      · exact Or.inl h
  | invalidate k =>
      simp only [SearchState.step] at h
      split at h
      · unfold SearchState.invalidate at h
        simp only at h
        split at h
        · split at h <;> exact Or.inl h
        · exact Or.inl h
      · exact Or.inl h
  | commitOther db => exact Or.inl h
  | expire key =>
      simp only [SearchState.step] at h
      split at h <;> exact Or.inl h

/-- A value of Redis after a step that writes no version: as before, gone, or the page that a search
has read. -/
inductive SearchState.Stored (env : SearchEnv) (s : SearchState) (key : String)
    (value : Option RedisValue) : Prop where
  | kept (hvalue : value = s.redis key)
  | gone (hkey : key ≠ cacheVersionKey) (hvalue : value = none)
  | page (hkey : key ≠ cacheVersionKey) (j : Nat) (query : StationSearchQuery) (body : Json)
      (origin : Origin) (hj : s.searches[j]? = some ⟨query, .listed (some key) body origin⟩)
      (hvalue : value = some ⟨env.jsonDumps body, some origin⟩)

/-- What a step does to the parts of the state other than the searches. -/
inductive SearchState.Step (env : SearchEnv) (s s' : SearchState) : Prop where
  | served (hdb : s'.db = s.db) (hpast : s'.past = s.past)
      (hinvalidations : s'.invalidations = s.invalidations)
      (hredis : ∀ key, s.Stored env key (s'.redis key))
      (hwriters : ∀ w ∈ s'.writers, w ∈ s.writers ∨ w.phase = .received ∨ ∃ e, w.phase = .refused e)
  | committed (hpast : s'.past = s.past ++ [s.db])
      (hinvalidations : s'.invalidations = s.invalidations) (hredis : s'.redis = s.redis)
      (hwriters : ∀ w ∈ s'.writers, w ∈ s.writers ∨ w.phase = .committed s.past.length)
  | invalidated (index : Nat) (hwriter : ∃ w ∈ s.writers, w.phase = .committed index)
      (hdb : s'.db = s.db) (hpast : s'.past = s.past)
      (hinvalidations : s'.invalidations = s.invalidations ++ [index])
      (hredis : ∀ key, key ≠ cacheVersionKey → s'.redis key = s.redis key)
      (hversion : env.cacheEnabled = true → ∀ text,
        incremented (s.get cacheVersionKey) = some text → s'.get cacheVersionKey = some text)
      (hwriters : ∀ w ∈ s'.writers, w ∈ s.writers ∨ w.phase = .returned index)

theorem SearchState.mem_putWriter {k : Nat} {writer w : Writer}
    (h : w ∈ (s.putWriter k writer).writers) : w ∈ s.writers ∨ w = writer :=
  List.mem_or_eq_of_mem_set h

/-- A step of which only the searches can tell. -/
theorem SearchState.Step.quiet {s' : SearchState} (hdb : s'.db = s.db) (hpast : s'.past = s.past)
    (hinvalidations : s'.invalidations = s.invalidations) (hredis : s'.redis = s.redis)
    (hwriters : s'.writers = s.writers) : s.Step env s' :=
  .served hdb hpast hinvalidations (fun key => .kept (by rw [hredis]))
    (fun w hw => Or.inl (hwriters ▸ hw))

theorem SearchState.commit_step {k : Nat} {write : StationWrite} :
    s.Step env (s.commit k write) := by
  unfold SearchState.commit
  split
  · next e _ _ =>
    refine .served rfl rfl rfl (fun _ => .kept rfl) fun w hw => ?_
    rcases SearchState.mem_putWriter hw with hold | rfl
    · exact Or.inl hold
    · exact Or.inr (Or.inr ⟨e, rfl⟩)
  · refine .committed rfl rfl rfl fun w hw => ?_
    rcases SearchState.mem_putWriter hw with hold | rfl
    · exact Or.inl hold
    · exact Or.inr rfl

theorem SearchState.invalidate_step {k index : Nat} {write : StationWrite}
    (hk : s.writers[k]? = some ⟨write, .committed index⟩) :
    s.Step env (s.invalidate env k write index) := by
  have hwriter : ∃ w ∈ s.writers, w.phase = .committed index :=
    ⟨_, List.mem_of_getElem? hk, rfl⟩
  have hwriters : ∀ w ∈ (s.putWriter k ⟨write, .returned index⟩).writers,
      w ∈ s.writers ∨ w.phase = .returned index := by
    intro w hw
    rcases SearchState.mem_putWriter hw with hold | rfl
    · exact Or.inl hold
    · exact Or.inr rfl
  unfold SearchState.invalidate
  simp only
  split
  · split
    · next hincr =>
      refine .invalidated index hwriter rfl rfl rfl (fun _ _ => rfl) (fun _ text htext => ?_) hwriters
      exact absurd (hincr.symm.trans htext) (by simp)
    · next text' hincr =>
      refine .invalidated index hwriter rfl rfl rfl (fun key hkey => ?_) (fun _ text htext => ?_)
        hwriters
      · exact Function.update_of_ne hkey _ _
      · have hsame : text' = text := Option.some.inj (hincr.symm.trans htext)
        simp [SearchState.get, hsame]
  · next hdisabled =>
    refine .invalidated index hwriter rfl rfl rfl (fun _ _ => rfl) (fun henabled => ?_) hwriters
    exact absurd henabled hdisabled

theorem SearchState.store_step {j : Nat} {query : StationSearchQuery} {cacheKey : Option String}
    {body : Json} {origin : Origin} (hkey : ∀ key ∈ cacheKey, key ≠ cacheVersionKey)
    (hj : s.searches[j]? = some ⟨query, .listed cacheKey body origin⟩) :
    s.Step env (s.store env j query cacheKey body origin) := by
  unfold SearchState.store
  cases cacheKey with
  | none => exact .quiet rfl rfl rfl rfl rfl
  | some key =>
      refine .served rfl rfl rfl (fun key' => ?_) fun w hw => Or.inl hw
      by_cases heq : key' = key
      · subst heq
        exact .page (hkey key' rfl) j query body origin hj (Function.update_self _ _ _)
      · exact .kept (Function.update_of_ne heq _ _)

theorem SearchState.step_step (hsound : s.Sound env) (a : SearchAction) :
    s.Step env (s.step env a) := by
  cases a with
  | receive query => exact .quiet rfl rfl rfl rfl rfl
  | readVersion j | readEntry j | count j | select j | load j =>
      simp only [SearchState.step]
      split <;> exact .quiet rfl rfl rfl rfl rfl
  | store j =>
      simp only [SearchState.step]
      split
      · next query cacheKey body origin hj =>
        refine SearchState.store_step (fun key hkey => ?_) hj
        obtain ⟨_, _, hkeyfor, _⟩ := hsound.searches j _ hj
        obtain ⟨v, _, rfl, _⟩ := hkeyfor key hkey
        exact buildCacheKey_ne_version env query v.repr
      · exact .quiet rfl rfl rfl rfl rfl
  | receiveWrite write =>
      refine .served rfl rfl rfl (fun _ => .kept rfl) fun w hw => ?_
      rcases List.mem_append.mp hw with hold | hnew
      · exact Or.inl hold
      · obtain rfl := List.mem_singleton.mp hnew
        exact Or.inr (Or.inl rfl)
  | commit k =>
      simp only [SearchState.step]
      split
      · exact SearchState.commit_step
      · exact .quiet rfl rfl rfl rfl rfl
  | invalidate k =>
      simp only [SearchState.step]
      split
      · next hk => exact SearchState.invalidate_step hk
      · exact .quiet rfl rfl rfl rfl rfl
  | commitOther db => exact .committed rfl rfl rfl fun w hw => Or.inl hw
  | expire key =>
      simp only [SearchState.step]
      split
      · exact .quiet rfl rfl rfl rfl rfl
      · next hkey =>
        refine .served rfl rfl rfl (fun key' => ?_) fun w hw => Or.inl hw
        by_cases heq : key' = key
        · subst heq
          exact .gone hkey (Function.update_self _ _ _)
        · exact .kept (Function.update_of_ne heq _ _)

theorem SearchState.Step.extends (h : s.Step env s') : s.Extends s' := by
  cases h with
  | served hdb hpast hinvalidations _ _ =>
      refine ⟨⟨[], by rw [List.append_nil, hinvalidations]⟩, fun n db hn => ?_, by rw [hpast]⟩
      rwa [SearchState.dbAt, hpast, hdb]
  | committed hpast hinvalidations _ _ =>
      refine ⟨⟨[], by rw [List.append_nil, hinvalidations]⟩, fun n db hn => ?_,
        by rw [hpast]; simp⟩
      have hlt : n < (s.past ++ [s.db]).length := (List.getElem?_eq_some_iff.mp hn).1
      rw [SearchState.dbAt, hpast, List.getElem?_append_left hlt]
      exact hn
  | invalidated index _ hdb hpast hinvalidations _ _ _ =>
      refine ⟨⟨[index], hinvalidations.symm⟩, fun n db hn => ?_, by rw [hpast]⟩
      rwa [SearchState.dbAt, hpast, hdb]

/-- `INCR` of the number of invalidations. -/
theorem incremented_version (n : Nat) :
    incremented (if n = 0 then none else some n.repr) = some (n + 1).repr := by
  by_cases hn : n = 0
  · rw [if_pos hn, hn]
    rfl
  · have hdigits : n.repr.toList.all Char.isDigit = true := by
      rw [Nat.toList_repr, List.all_eq_true]
      exact fun c hc => Nat.isDigit_of_mem_toDigits (by decide) (by decide) hc
    rw [if_neg hn, incremented, if_pos ⟨by simp, hdigits⟩, Nat.toList_repr, Nat.ofDigitChars_ten_toDigits]

/-! ### The invariant -/

theorem SearchState.Initial.sound (h : s.Initial) : s.Sound env where
  invalidations := by simp [h.invalidations]
  version _ := by simp [SearchState.get, h.redis, h.invalidations]
  entries key value hvalue := by simp [h.redis] at hvalue
  searches := by simp [h.searches]
  committed := by simp [h.writers]
  returned := by simp [h.writers]

theorem SearchState.Step.version (h : s.Step env s') (hsound : s.Sound env)
    (henabled : env.cacheEnabled = true) : s'.get cacheVersionKey =
      if s'.invalidations.length = 0 then none else some s'.invalidations.length.repr := by
  cases h with
  | served _ _ hinvalidations hredis _ =>
      rw [hinvalidations, ← hsound.version henabled]
      cases hredis cacheVersionKey with
      | kept hvalue => rw [SearchState.get, hvalue, SearchState.get]
      | gone hkey _ => exact absurd rfl hkey
      | page hkey _ _ _ _ _ _ => exact absurd rfl hkey
  | committed _ hinvalidations hredis _ =>
      rw [hinvalidations, SearchState.get, hredis]
      exact hsound.version henabled
  | invalidated index _ _ _ hinvalidations _ hversion _ =>
      have hnext := incremented_version s.invalidations.length
      rw [← hsound.version henabled] at hnext
      rw [hversion henabled _ hnext, hinvalidations, List.length_append, List.length_singleton,
        if_neg (Nat.succ_ne_zero _)]

theorem SearchState.Step.entries (h : s.Step env s') (hsound : s.Sound env) {key : String}
    {value : RedisValue} (hvalue : s'.redis key = some value) (hkey : key ≠ cacheVersionKey) :
    s'.EntrySound env key value := by
  have hextends := h.extends
  have hold : s.redis key = some value → s'.EntrySound env key value :=
    fun hvalue => hextends.entrySound (hsound.entries key value hvalue hkey)
  cases h with
  | served _ _ _ hredis _ =>
      cases hredis key with
      | kept hsame => exact hold (hsame ▸ hvalue)
      | gone _ hnone =>
          rw [hnone] at hvalue
          cases hvalue
      | page _ j query body origin hj hpage =>
          rw [hpage] at hvalue
          cases hvalue
          obtain ⟨hquery, _, hkeyfor, hreads⟩ := hsound.searches j _ hj
          have hentry : s.EntrySound env key ⟨env.jsonDumps body, some origin⟩ :=
            ⟨origin, body, rfl, rfl, hreads, by rw [hquery]; exact hkeyfor⟩
          exact hextends.entrySound hentry
  | committed _ _ hredis _ => exact hold (hredis ▸ hvalue)
  | invalidated _ _ _ _ _ hredis _ _ => exact hold (hredis key hkey ▸ hvalue)

theorem SearchState.Sound.step (henv : env.Faithful) (hsound : s.Sound env) (a : SearchAction) :
    (s.step env a).Sound env := by
  have hstep := SearchState.step_step hsound a
  have hextends := hstep.extends
  constructor
  · intro i hi
    cases hstep with
    | served _ hpast hinvalidations _ _ =>
        rw [hinvalidations] at hi
        exact (hsound.invalidations i hi).trans_le hextends.past
    | committed _ hinvalidations _ _ =>
        rw [hinvalidations] at hi
        exact (hsound.invalidations i hi).trans_le hextends.past
    | invalidated index hwriter _ _ hinvalidations _ _ _ =>
        obtain ⟨w, hw, hphase⟩ := hwriter
        rw [hinvalidations] at hi
        rcases List.mem_append.mp hi with hi | hi
        · exact (hsound.invalidations i hi).trans_le hextends.past
        · obtain rfl := List.mem_singleton.mp hi
          exact (hsound.committed w hw i hphase).trans_le hextends.past
  · exact hstep.version hsound
  · exact fun key value hvalue hkey => hstep.entries hsound hvalue hkey
  · intro j search hj
    rcases SearchState.step_search hj with hold | hnew | ⟨old, hold, hmove⟩
    · exact hextends.meets (Nat.zero_le _) (hsound.searches j search hold)
    · rw [SearchState.Meets, hnew]
      trivial
    · exact hextends.meets (Nat.zero_le _)
        (hmove.meets henv hsound (Nat.zero_le _) (hsound.searches j old hold))
  · intro w hw i hphase
    cases hstep with
    | served _ _ _ _ hwriters =>
        rcases hwriters w hw with hold | hnew | ⟨e, hnew⟩
        · exact (hsound.committed w hold i hphase).trans_le hextends.past
        · cases hnew.symm.trans hphase
        · cases hnew.symm.trans hphase
    | committed hpast _ _ hwriters =>
        rcases hwriters w hw with hold | hnew
        · exact (hsound.committed w hold i hphase).trans_le hextends.past
        · cases hnew.symm.trans hphase
          rw [hpast, List.length_append, List.length_singleton]
          exact Nat.lt_succ_self _
    | invalidated _ _ _ _ _ _ _ hwriters =>
        rcases hwriters w hw with hold | hnew
        · exact (hsound.committed w hold i hphase).trans_le hextends.past
        · cases hnew.symm.trans hphase
  · intro w hw i hphase
    cases hstep with
    | served _ _ _ _ hwriters =>
        rcases hwriters w hw with hold | hnew | ⟨e, hnew⟩
        · exact hextends.invalidations.subset (hsound.returned w hold i hphase)
        · cases hnew.symm.trans hphase
        · cases hnew.symm.trans hphase
    | committed _ _ _ hwriters =>
        rcases hwriters w hw with hold | hnew
        · exact hextends.invalidations.subset (hsound.returned w hold i hphase)
        · cases hnew.symm.trans hphase
    | invalidated index _ _ _ hinvalidations _ _ hwriters =>
        rcases hwriters w hw with hold | hnew
        · exact hextends.invalidations.subset (hsound.returned w hold i hphase)
        · cases hnew.symm.trans hphase
          rw [hinvalidations]
          exact List.mem_append_right _ (List.mem_singleton_self _)

/-- The states that some interleaving of the statements leads to. -/
abbrev SearchState.Reachable (env : SearchEnv) (s : SearchState) : Prop :=
  Transition.Reachable (SearchState.step env) SearchState.Initial s

theorem SearchState.Reachable.sound (henv : env.Faithful) (h : s.Reachable env) : s.Sound env :=
  Transition.Reachable.invariant (P := fun s => s.Sound env) (fun _ hinit => hinit.sound)
    (fun _ a _ hs => hs.step henv a) h

/-- What a search that has not read the version yet goes through in a run: it meets nothing from
before what has been invalidated by now. -/
theorem SearchState.Reachable.meets_run (henv : env.Faithful) (h : s.Reachable env) {j : Nat}
    (hbefore : ∀ search ∈ s.searches[j]?, search.phase = .received)
    (actions : List SearchAction) :
    s.invalidations <+: (Transition.run (SearchState.step env) s actions).invalidations ∧
      ∀ search ∈ (Transition.run (SearchState.step env) s actions).searches[j]?,
        (Transition.run (SearchState.step env) s actions).Meets env s.invalidations.length search := by
  refine Transition.Reachable.stable (P := fun s' : SearchState =>
    s.invalidations <+: s'.invalidations ∧
      ∀ search ∈ s'.searches[j]?, s'.Meets env s.invalidations.length search) ?_ h ?_ actions
  · rintro s' a hreach ⟨hbegins, hmeets⟩
    have hsound := SearchState.Reachable.sound henv hreach
    have hextends := (SearchState.step_step hsound a).extends
    have hlength : s.invalidations.length ≤ s'.invalidations.length := hbegins.length_le
    refine ⟨hbegins.trans hextends.invalidations, fun search hj => ?_⟩
    rcases SearchState.step_search hj with hold | hnew | ⟨old, hold, hmove⟩
    · exact hextends.meets hlength (hmeets search hold)
    · rw [SearchState.Meets, hnew]
      trivial
    · exact hextends.meets hlength (hmove.meets henv hsound hlength (hmeets old hold))
  · refine ⟨List.prefix_rfl, fun search hj => ?_⟩
    rw [SearchState.Meets, hbefore search hj]
    trivial

/-- Every answer is a page for an equal query. After the invalidation of a write has returned, a
search that reads the version answers with nothing that was read before the commit of the write. -/
theorem station_searches_coherent (henv : env.Faithful) (h : s.Reachable env) :
    (∀ (j : Nat), ∀ search ∈ s.searches[j]?, ∀ body origin, search.phase = .answered body origin →
      ∃ o, origin = some o ∧ o.query = search.query ∧ o.Shows env s body) ∧
    ∀ (k : Nat), ∀ writer ∈ s.writers[k]?, ∀ index, writer.phase = .returned index →
      ∀ (j : Nat), (∀ search ∈ s.searches[j]?, search.phase = .received) →
      ∀ actions, ∀ search ∈ (Transition.run (SearchState.step env) s actions).searches[j]?,
      ∀ body origin, search.phase = .answered body origin →
        ∃ o, origin = some o ∧ index < o.countedAt ∧ o.countedAt ≤ o.selectedAt ∧
          o.selectedAt ≤ o.loadedAt := by
  have hsound := h.sound henv
  constructor
  · intro j search hj body origin hanswered
    have hmeets := hsound.searches j search hj
    rw [SearchState.Meets, hanswered] at hmeets
    obtain ⟨o, horigin, hquery, _, hshows⟩ := hmeets
    exact ⟨o, horigin, hquery, hshows⟩
  · intro k writer hk index hreturned j hbefore actions search hj body origin hanswered
    have hindex : index ∈ s.invalidations :=
      hsound.returned writer (List.mem_of_getElem? hk) index hreturned
    obtain ⟨⟨rest, hrest⟩, hmeets⟩ := h.meets_run henv hbefore actions
    have hanswer := hmeets search hj
    rw [SearchState.Meets, hanswered] at hanswer
    obtain ⟨o, horigin, _, hfresh, _, ⟨hordered, _⟩, _⟩ := hanswer
    refine ⟨o, horigin, hfresh index ?_, hordered⟩
    rw [← hrest, List.take_left]
    exact hindex

end

def sampleQuery : StationSearchQuery where
  city := some "Indore"
  connectorType := none
  minPowerKw := none
  latitude := none
  longitude := none
  radiusKm := none
  page := 1
  perPage := 20
  positivePage := by decide
  perPageRange := by decide
  spatialComplete := by decide

/-- No station is in that city. -/
def samplePage : Json :=
  .obj [("stations", .arr []), ("pagination", .obj [("page", .int 1), ("per_page", .int 20),
    ("total", .int 0), ("pages", .int 0)])]

def samplePageText : String :=
  "\x7b\"pagination\":\x7b\"page\":1,\"pages\":0,\"per_page\":20,\"total\":0\x7d,\"stations\":[]\x7d"

def sampleQueryText : String :=
  "\x7b\"city\":\"Indore\",\"connector_type\":null,\"latitude\":null,\"longitude\":null," ++
    "\"min_power_kw\":null,\"page\":1,\"per_page\":20,\"radius_km\":null\x7d"

def sampleQueryDigest : String :=
  "b00c9f3d3150c136ea79adecb48374ea6b9ed4f8ec55236104cd8e4da2e7c13a"

def sampleSign (negative : Bool) : Char := if negative then '-' else '+'

/-- The statements and functions as they act on the query of the sample. -/
def sampleSearchEnv : SearchEnv where
  cacheEnabled := true
  countStations query db := db.stations.rows.countP fun s => query.city = some s.city
  selectStations query db :=
    (db.stations.rows.filter fun s => query.city = some s.city).map fun s => (s, none)
  serializeStation _ := .null
  decimalStr d := String.ofList (sampleSign d.negative :: (Nat.toDigits 10 d.digits ++
    'E' :: sampleSign (d.exponent < 0) :: Nat.toDigits 10 d.exponent.natAbs))
  jsonDumps _ := samplePageText
  jsonLoads text := if text = samplePageText then some samplePage else none
  sha256Hex text := if text = sampleQueryText then sampleQueryDigest else text

theorem sampleSign_inj {a b : Bool} (h : sampleSign a = sampleSign b) : a = b := by
  cases a <;> cases b <;> first | rfl | exact absurd h (by decide)

theorem sampleSearchEnv_faithful : sampleSearchEnv.Faithful where
  decimalStr := by
    rintro ⟨negative, digits, exponent⟩ ⟨negative', digits', exponent'⟩ h
    obtain ⟨hsign, hrest⟩ := List.cons.inj (String.ofList_inj.mp h)
    obtain ⟨hdigits, hscale⟩ := Code.append_mark_inj (notMem_toDigits (by decide) digits)
      (notMem_toDigits (by decide) digits') hrest
    obtain ⟨hminus, habs⟩ := List.cons.inj hscale
    have hnegative : negative = negative' := sampleSign_inj hsign
    have hexponent : exponent = exponent' := by
      have hsigns : exponent < 0 ↔ exponent' < 0 := by simpa using sampleSign_inj hminus
      have hsizes : exponent.natAbs = exponent'.natAbs := toDigits_injective habs
      omega
    rw [hnegative, toDigits_injective hdigits, hexponent]
  sha256Hex := by
    have hbrace : ∀ q, canonicalQuery sampleSearchEnv q ≠ sampleQueryDigest := by
      intro q h
      have hhead := canonicalQuery_head sampleSearchEnv q
      rw [h] at hhead
      exact absurd hhead (by decide)
    intro p q h
    simp only [sampleSearchEnv] at h
    split at h <;> split at h
    · next hp hq => exact hp.trans hq.symm
    · exact absurd h.symm (hbrace q)
    · exact absurd h (hbrace p)
    · exact h

def sampleSearchState : SearchState where
  db := sampleWorld.db
  past := []
  redis _ := none
  invalidations := []
  searches := []
  writers := []

theorem sampleSearchState_reachable (actions : List SearchAction) :
    SearchState.Reachable sampleSearchEnv
      (Transition.run (SearchState.step sampleSearchEnv) sampleSearchState actions) :=
  (Transition.Reachable.initial ⟨rfl, fun _ => rfl, rfl, rfl, rfl⟩).run actions

/-- A search has read its page when a charge point is taken out of booking, and stores it after the
invalidation. -/
def sampleSlowSearch : List SearchAction :=
  [.receive sampleQuery, .readVersion 0, .readEntry 0, .count 0, .select 0, .load 0,
    .receiveWrite (.updateChargePoint sampleOperator 1 3 ⟨1, none, none, sampleUnset_nonneg, some false, none⟩),
    .commit 0, .invalidate 0, .store 0]

/-- A search that misses the cache and one that finds its page. -/
def sampleLaterSearches : List SearchAction :=
  [.receive sampleQuery, .readVersion 1, .readEntry 1, .count 1, .select 1, .load 1, .store 1,
    .receive sampleQuery, .readVersion 2, .readEntry 2]

/-- The origin of the page that a search has answered with. -/
def Search.shown (search : Search) : Option Origin :=
  match search.phase with
  | .answered _ origin => origin
  | _ => none

theorem station_searches_coherent_sample :
    ∃ search body origin, (Transition.run (SearchState.step sampleSearchEnv) sampleSearchState
        (sampleSlowSearch ++ sampleLaterSearches)).searches[2]? = some search ∧
      search.phase = .answered body (some origin) ∧ 0 < origin.countedAt := by
  have hwriter : ((Transition.run (SearchState.step sampleSearchEnv) sampleSearchState
      sampleSlowSearch).writers[0]?).map Writer.phase = some (.returned 0) := by
    decide +kernel
  have hshown : ((Transition.run (SearchState.step sampleSearchEnv) sampleSearchState
      (sampleSlowSearch ++ sampleLaterSearches)).searches[2]?).bind Search.shown =
      some ⟨sampleQuery, 1, 1, 1⟩ := by
    decide +kernel
  have hnone : ((Transition.run (SearchState.step sampleSearchEnv) sampleSearchState
      sampleSlowSearch).searches[2]?).isNone = true := by
    decide +kernel
  obtain ⟨writer, hk, hreturned⟩ := Option.map_eq_some_iff.mp hwriter
  obtain ⟨search, hj, hsearch⟩ := Option.bind_eq_some_iff.mp hshown
  obtain ⟨query, phase⟩ := search
  cases phase with
  | answered body origin =>
      cases hsearch
      rw [Transition.run_append] at hj ⊢
      obtain ⟨o, ho, hfresh, _⟩ := (station_searches_coherent sampleSearchEnv_faithful
        (sampleSearchState_reachable sampleSlowSearch)).2 0 writer hk 0 hreturned 2
        (by simp [Option.isNone_iff_eq_none.mp hnone]) sampleLaterSearches _ hj _ _ rfl
      exact ⟨_, _, o, hj, by rw [ho], hfresh⟩
  | _ => cases hsearch

end ChargeMate
