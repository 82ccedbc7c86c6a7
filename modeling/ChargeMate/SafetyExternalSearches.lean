import ChargeMate.ModelExternalSearches
import ChargeMate.RefineSearches
import ChargeMate.SafetyExternal

/-! Searches of external stations. What is answered is an answer of the provider to the same
request, given to this call or stored less than the lifetime of an entry ago; a failure is the
call's own. -/

namespace ChargeMate

open Code Expiring

/-! ### Keys -/

/-- The texts that the canonical text of a query is made of. -/
def ExternalStationSearchQuery.texts (env : ExternalSearchEnv) (q : ExternalStationSearchQuery) :=
  (env.decimalStr q.latitude, env.decimalStr q.longitude, q.maxResults,
    q.radiusKm.map env.decimalStr)

/-- The default radius begins with a digit, a given one with a quotation mark. -/
theorem delimited_radius :
    Delimited fun radius : Option String => radius.elim "25".toList jsonString := by
  refine delimited_jsonString.option ?_
  intro radius r r' h
  have hhead := congrArg List.head? h
  rw [jsonString] at hhead
  simp at hhead

theorem texts_of_canonicalExternalQuery {env : ExternalSearchEnv} {p q : ExternalStationSearchQuery}
    (h : canonicalExternalQuery env p = canonicalExternalQuery env q) : p.texts env = q.texts env := by
  have hlatitude := delimited_jsonString.prepend "\x7b\"latitude\":".toList
  have hlongitude := delimited_jsonString.prepend ",\"longitude\":".toList
  have hmax := delimited_number.prepend ",\"max_results\":".toList
  have hradius := (delimited_radius.prepend "\"radius_km\":".toList).append "\x7d".toList
  have hall := (hlatitude.pair (hlongitude.pair (hmax.pair hradius))).injective
  apply hall
  have htext := String.ofList_inj.mp h
  simpa [ExternalStationSearchQuery.texts, List.append_assoc, Option.elim_map,
    Function.comp_def] using htext

/-- No two canonical queries have one digest. -/
def ExternalSearchEnv.Faithful (env : ExternalSearchEnv) : Prop :=
  ∀ p q, env.sha256Hex (canonicalExternalQuery env p) = env.sha256Hex (canonicalExternalQuery env q) →
    canonicalExternalQuery env p = canonicalExternalQuery env q

theorem toList_externalCacheKey (env : ExternalSearchEnv) (query : ExternalStationSearchQuery) :
    (externalCacheKey env query).toList = externalCachePrefix.toList ++
      ':' :: (env.sha256Hex (canonicalExternalQuery env query)).toList := by
  simp [externalCacheKey, String.toList_append]

/-- Two queries under one key send the provider the same request. -/
theorem params_of_externalCacheKey {env : ExternalSearchEnv} (henv : env.Faithful)
    {p q : ExternalStationSearchQuery} (h : externalCacheKey env p = externalCacheKey env q)
    (apiKey : String) : openChargeMapParams env p apiKey = openChargeMapParams env q apiKey := by
  have htext := congrArg String.toList h
  rw [toList_externalCacheKey, toList_externalCacheKey] at htext
  have hdigest := (List.cons.inj (List.append_cancel_left htext)).2
  have htexts := texts_of_canonicalExternalQuery (henv p q (String.toList_inj.mp hdigest))
  simp only [ExternalStationSearchQuery.texts, Prod.mk.injEq] at htexts
  obtain ⟨hlatitude, hlongitude, hmax, hradius⟩ := htexts
  have hdistance := congrArg (fun radius => radius.elim "25" id) hradius
  simp only [Option.elim_map, Function.id_comp] at hdistance
  simp only [openChargeMapParams, hlatitude, hlongitude, hmax, hdistance]

/-- The other parts of the application leave the cached answers alone. -/
theorem OtherRedisKey.text_ne (key : OtherRedisKey) (env : ExternalSearchEnv)
    (query : ExternalStationSearchQuery) : key.text ≠ externalCacheKey env query := by
  intro h
  have hcut : ∀ (text a b c : String) (n : Nat), text.toList.length = 21 + n →
      (text ++ a ++ b ++ c).toList.take 21 = text.toList.take 21 := by
    intro text a b c n hlength
    simp only [String.toList_append, List.append_assoc]
    exact List.take_append_of_le_length (by omega)
  have hexternal : (externalCacheKey env query).toList.take 21 =
      externalCachePrefix.toList.take 21 := by
    rw [toList_externalCacheKey]
    exact List.take_append_of_le_length (by decide)
  have htext := (congrArg (fun s => s.toList.take 21) h).trans hexternal
  cases key with
  | rateLimit config scope clientAddress =>
      have hlimit := hcut "chargemate:rate-limit:" scope ":" (config.sha256Hex clientAddress) 1
        (by decide)
      exact absurd (hlimit.symm.trans htext) (by decide)
  | searchVersion => exact absurd htext (by decide)
  | searchPage env' query' version =>
      have hpage := hcut cacheKeyPrefix (":v" ++ version) ":"
        (env'.sha256Hex (canonicalQuery env' query')) 5 (by decide)
      rw [← String.append_assoc] at hpage
      exact absurd (hpage.symm.trans htext) (by decide)
  | jobQueue name =>
      have hhead : some 'r' = (externalCachePrefix.toList.take 21).head? := by
        rw [← htext]
        simp [OtherRedisKey.text]
      exact absurd hhead (by decide)

/-! ### Answers -/

/-- The provider was asked what the query asks, and its answer gives these stations. -/
structure ProviderReport.Gives (env : ExternalSearchEnv) (report : ProviderReport)
    (query : ExternalStationSearchQuery) (stations : List ExternalStation) : Prop where
  params : ∃ apiKey ∈ truthy env.openChargeMapApiKey,
    report.params = openChargeMapParams env query apiKey
  stations : fetchOpenChargeMapStations env.toExternalEnv report.answer = .ok stations

/-- How an answer of `find_external_stations` came about, given the answers of the provider. -/
inductive ExternalAnswered (env : ExternalSearchEnv) (reports : List ProviderReport)
    (query : ExternalStationSearchQuery) :
    Except ExternalRaised (List Json) → Option ProviderReport → Timestamp → Prop
  /-- The provider was asked for this very call. -/
  | fetched {report : ProviderReport} {stations : List ExternalStation} {answeredAt : Timestamp}
      (hmem : report ∈ reports) (hgives : report.Gives env query stations)
      (hbefore : report.answeredAt ≤ answeredAt) :
      ExternalAnswered env reports query (.ok (stations.map ExternalStation.serialize))
        (some report) answeredAt
  /-- A call with the same request stored its answer, in the lifetime of an entry before. -/
  | cached {report : ProviderReport} {stations : List ExternalStation} {items : List Json}
      {storedAt answeredAt : Timestamp} (hmem : report ∈ reports)
      (hgives : report.Gives env query stations) (hbefore : report.answeredAt ≤ storedAt)
      (hstored : storedAt ≤ answeredAt)
      (hlive : answeredAt < storedAt + seconds externalCacheTtlSeconds)
      (hitems : env.jsonLoads (env.jsonDumps (.arr (stations.map ExternalStation.serialize))) =
        some (.arr items)) :
      ExternalAnswered env reports query (.ok items) none answeredAt
  | unconfigured {answeredAt : Timestamp} (hkey : truthy env.openChargeMapApiKey = none) :
      ExternalAnswered env reports query (.error .externalStationProviderError) none answeredAt
  /-- The provider was asked for this very call, and its answer is at fault. -/
  | failed {report : ProviderReport} {e : ExternalRaised} {answeredAt : Timestamp}
      (hmem : report ∈ reports)
      (hparams : ∃ apiKey ∈ truthy env.openChargeMapApiKey,
        report.params = openChargeMapParams env query apiKey)
      (hfailed : fetchOpenChargeMapStations env.toExternalEnv report.answer = .error e)
      (hbefore : report.answeredAt ≤ answeredAt) :
      ExternalAnswered env reports query (.error e) (some report) answeredAt

section

variable {env : ExternalSearchEnv}

theorem ExternalAnswered.mono {reports reports' : List ProviderReport}
    {query : ExternalStationSearchQuery} {result : Except ExternalRaised (List Json)}
    {asked : Option ProviderReport} {answeredAt : Timestamp}
    (h : ExternalAnswered env reports query result asked answeredAt) (hsub : reports ⊆ reports') :
    ExternalAnswered env reports' query result asked answeredAt := by
  cases h with
  | fetched hmem hgives hbefore => exact .fetched (hsub hmem) hgives hbefore
  | cached hmem hgives hbefore hstored hlive hitems =>
      exact .cached (hsub hmem) hgives hbefore hstored hlive hitems
  | unconfigured hkey => exact .unconfigured hkey
  | failed hmem hparams hfailed hbefore => exact .failed (hsub hmem) hparams hfailed hbefore

variable (env) in
/-- An entry under the key of a query: an answer of the provider to its request, and until when it
may be read. -/
structure EntryAttested (reports : List ProviderReport) (now : Timestamp)
    (query : ExternalStationSearchQuery) (e : Entry String Timestamp) : Prop where
  report : ∃ report ∈ reports, ∃ stations storedAt, report.Gives env query stations ∧
    report.answeredAt ≤ storedAt ∧ storedAt ≤ now ∧
    e.value = env.jsonDumps (.arr (stations.map ExternalStation.serialize)) ∧
    e.expiresAt = some (storedAt + seconds externalCacheTtlSeconds)

theorem EntryAttested.mono {reports reports' : List ProviderReport} {now now' : Timestamp}
    {query : ExternalStationSearchQuery} {e : Entry String Timestamp}
    (h : EntryAttested env reports now query e) (hsub : reports ⊆ reports') (hnow : now ≤ now') :
    EntryAttested env reports' now' query e := by
  obtain ⟨report, hmem, stations, storedAt, hgives, hbefore, hstored, hvalue, hexpires⟩ := h.report
  exact ⟨report, hsub hmem, stations, storedAt, hgives, hbefore, hstored.trans hnow, hvalue,
    hexpires⟩

variable (env) in
/-- What holds of a call wherever it stands. -/
def ExternalSearch.Meets (reports : List ProviderReport) (now : Timestamp)
    (search : ExternalSearch) : Prop :=
  match search.phase with
  | .received | .missed => True
  | .fetched stations asked =>
      asked ∈ reports ∧ asked.Gives env search.query stations ∧ asked.answeredAt ≤ now
  | .answered result asked answeredAt =>
      ExternalAnswered env reports search.query result asked answeredAt

theorem ExternalSearch.Meets.mono {reports reports' : List ProviderReport} {now now' : Timestamp}
    {search : ExternalSearch} (h : search.Meets env reports now) (hsub : reports ⊆ reports')
    (hnow : now ≤ now') : search.Meets env reports' now' := by
  obtain ⟨query, phase⟩ := search
  cases phase with
  | received => trivial
  | missed => trivial
  | fetched stations asked => exact ⟨hsub h.1, h.2.1, h.2.2.trans hnow⟩
  | answered result asked answeredAt => exact ExternalAnswered.mono h hsub

variable (env) in
structure ExternalState.Sound (s : ExternalState) : Prop where
  entries : s.redis.Keeps fun key e => ∀ query, key = externalCacheKey env query →
    EntryAttested env s.reports s.now query e
  searches : ∀ search ∈ s.searches, search.Meets env s.reports s.now

namespace ExternalState

variable {s : ExternalState}

theorem Initial.sound (h : s.Initial) : s.Sound env where
  entries := by
    intro key e he
    rw [h.redis] at he
    cases he
  searches := by
    rw [h.searches]
    exact List.forall_mem_nil _

namespace Sound

/-- Time passes and the provider answers. -/
theorem later (h : s.Sound env) {s' : ExternalState} (hredis : s'.redis = s.redis)
    (hsearches : s'.searches = s.searches) (hsub : s.reports ⊆ s'.reports)
    (hnow : s.now ≤ s'.now) : s'.Sound env where
  entries := by
    rw [hredis]
    exact h.entries.mono fun _ _ he query hkey => (he query hkey).mono hsub hnow
  searches := by
    rw [hsearches]
    exact fun search hmem => (h.searches search hmem).mono hsub hnow

theorem putSearch (h : s.Sound env) (j : Nat) {search : ExternalSearch}
    (hmeets : search.Meets env s.reports s.now) : (s.putSearch j search).Sound env where
  entries := h.entries
  searches := by
    intro search' hmem
    rcases List.mem_or_eq_of_mem_set hmem with hold | rfl
    · exact h.searches search' hold
    · exact hmeets

theorem putEntry (h : s.Sound env) {key : String} {e : Entry String Timestamp}
    (he : ∀ query, key = externalCacheKey env query → EntryAttested env s.reports s.now query e) :
    Sound env { s with redis := s.redis.put key e } where
  entries := h.entries.put he
  searches := h.searches

theorem readCache (h : s.Sound env) {query : ExternalStationSearchQuery} {available : Bool}
    {items : List Json} (hread : s.readCache env query available = some items) :
    ExternalAnswered env s.reports query (.ok items) none s.now := by
  unfold ExternalState.readCache at hread
  split at hread
  · cases hread
  split at hread
  · next hloaded =>
    cases hread
    obtain ⟨text, hget, hloads⟩ := Option.bind_eq_some_iff.mp hloaded
    obtain ⟨e, hentry, rfl, hlive⟩ := h.entries.get hget
    obtain ⟨report, hmem, stations, storedAt, hgives, hbefore, hstored, hvalue, hexpires⟩ :=
      (hentry query rfl).report
    rw [hvalue] at hloads
    exact .cached hmem hgives hbefore hstored (hlive _ hexpires) hloads
  · cases hread

theorem fetch (h : s.Sound env) (j : Nat) (query : ExternalStationSearchQuery)
    (answer : ExternalAnswer) : (s.fetch env j query answer).Sound env := by
  unfold ExternalState.fetch
  split
  · next hkey => exact h.putSearch j (ExternalAnswered.unconfigured hkey)
  · next apiKey hkey =>
    let report : ProviderReport := ⟨openChargeMapParams env query apiKey, answer, s.now⟩
    have hreported : Sound env { s with reports := s.reports ++ [report] } :=
      h.later rfl rfl (List.subset_append_left _ _) le_rfl
    have hmem : report ∈ s.reports ++ [report] := List.mem_append_right _ List.mem_cons_self
    dsimp only
    split
    · next hfailed =>
      exact hreported.putSearch j (ExternalAnswered.failed hmem ⟨apiKey, hkey, rfl⟩ hfailed le_rfl)
    · next hstations =>
      exact hreported.putSearch j ⟨hmem, ⟨⟨apiKey, hkey, rfl⟩, hstations⟩, le_rfl⟩

theorem writeCache (henv : env.Faithful) (h : s.Sound env) (j : Nat)
    {query : ExternalStationSearchQuery} {stations : List ExternalStation} {asked : ProviderReport}
    (hmem : asked ∈ s.reports) (hgives : asked.Gives env query stations)
    (hbefore : asked.answeredAt ≤ s.now) (available : Bool) :
    (s.writeCache env j query stations asked available).Sound env := by
  let answered : ExternalSearch :=
    ⟨query, .answered (.ok (stations.map ExternalStation.serialize)) (some asked) s.now⟩
  have hmeets : answered.Meets env s.reports s.now := .fetched hmem hgives hbefore
  have hanswered := h.putSearch j hmeets
  unfold ExternalState.writeCache
  dsimp only
  split
  · exact hanswered
  · refine hanswered.putEntry ?_
    intro query' hkey
    obtain ⟨⟨apiKey, hkeyed, hparams⟩, hstations⟩ := hgives
    have hsame := params_of_externalCacheKey henv hkey apiKey
    exact ⟨asked, hmem, stations, s.now, ⟨⟨apiKey, hkeyed, hparams.trans hsame⟩, hstations⟩, hbefore,
      le_rfl, rfl, rfl⟩

theorem step (henv : env.Faithful) (h : s.Sound env) (a : ExternalAction) :
    (s.step env a).Sound env := by
  cases a with
  | receive query =>
      refine ⟨h.entries, ?_⟩
      intro search hmem
      rcases List.mem_append.mp hmem with hold | hnew
      · exact h.searches search hold
      · rw [List.mem_singleton.mp hnew]
        trivial
  | readCache j available =>
      rw [ExternalState.step]
      split
      · split
        · next hread => exact h.putSearch j (h.readCache hread)
        · exact h.putSearch j trivial
      · exact h
  | fetch j answer =>
      rw [ExternalState.step]
      split
      · exact h.fetch j _ answer
      · exact h
  | writeCache j available =>
      rw [ExternalState.step]
      split
      · next query stations asked hsearch =>
        obtain ⟨hmem, hgives, hbefore⟩ := h.searches _ (List.mem_of_getElem? hsearch)
        exact h.writeCache henv j hmem hgives hbefore available
      · exact h
  | writeOther key text expiresAt =>
      refine h.putEntry ?_
      intro query hkey
      exact absurd hkey (key.text_ne env query)
  | evict key => exact ⟨h.entries.evict key, h.searches⟩
  | wait duration =>
      have hnow : s.now ≤ s.now + duration := Int.le_add_of_nonneg_right (Int.natCast_nonneg duration)
      exact h.later rfl rfl (List.Subset.refl _) hnow

end Sound

theorem Reachable.sound (henv : env.Faithful) (h : s.Reachable env) : s.Sound env :=
  Transition.Reachable.invariant (fun _ hinit => hinit.sound)
    (fun _ a _ hs => hs.step henv a) h

end ExternalState

end

/-- External searches answer with the provider's own and recent words, provided that no two
canonical queries have one digest. In every reachable state, whatever the interleaving of the
searches, the failures of Redis, the evictions and the writes of the rest of the application under
its own keys: what a search returns is what the provider answered to the same request, either to
this very call or to a call that stored it less than 300 seconds before it was read; and a search
fails only if no API key is configured or the provider's answer to this very call is at fault. -/
theorem external_answers_attested (env : ExternalSearchEnv) (henv : env.Faithful)
    {s : ExternalState} (h : s.Reachable env) : ∀ search ∈ s.searches, ∀ result asked answeredAt,
    search.phase = .answered result asked answeredAt →
      ExternalAnswered env s.reports search.query result asked answeredAt := by
  intro search hmem result asked answeredAt hphase
  have hmeets := (h.sound henv).searches search hmem
  rw [ExternalSearch.Meets, hphase] at hmeets
  exact hmeets

/-! ### A sample run -/

def sampleExternalQuery : ExternalStationSearchQuery where
  latitude := ⟨false, 227196, -4⟩
  longitude := ⟨false, 758577, -4⟩
  radiusKm := none
  maxResults := 50
  latitudeRange := by decide +kernel
  longitudeRange := by decide +kernel
  radiusRange := by simp
  maxResultsRange := by decide

def sampleExternalQueryText : String :=
  "\x7b\"latitude\":\"22.7196\",\"longitude\":\"75.8577\",\"max_results\":50,\"radius_km\":25\x7d"

def sampleExternalQueryDigest : String :=
  "8e0690b66aee9d9431c38c44cbae5db3763cb2b8156e5baac6e4726aee321f5a"

/-- One station, as the cache holds it. -/
def sampleStationsText : String :=
  "[\x7b\"address\":\x7b\"country_code\":null,\"line_1\":null,\"postal_code\":null,\"state\":null," ++
  "\"town\":null\x7d,\"bookable\":false,\"connections\":[],\"data_provider\":null," ++
  "\"details_url\":\"https://openchargemap.org/site/poi/details/12345\",\"distance_km\":null," ++
  "\"external_id\":\"12345\",\"is_operational\":null,\"latitude\":22.0,\"longitude\":75.0," ++
  "\"name\":\"Charging station 12345\",\"operator\":null,\"source\":\"open_charge_map\"," ++
  "\"status\":null,\"usage_cost\":null\x7d]"

def sampleLoadedStation : Json :=
  .obj [("address", .obj [("country_code", .null), ("line_1", .null), ("postal_code", .null),
      ("state", .null), ("town", .null)]), ("bookable", .bool false), ("connections", .arr []),
    ("data_provider", .null),
    ("details_url", .str "https://openchargemap.org/site/poi/details/12345"),
    ("distance_km", .null), ("external_id", .str "12345"), ("is_operational", .null),
    ("latitude", .float (.finite 22)), ("longitude", .float (.finite 75)),
    ("name", .str "Charging station 12345"), ("operator", .null),
    ("source", .str "open_charge_map"), ("status", .null), ("usage_cost", .null)]

/-- The functions as they act on the texts of the sample. -/
def sampleExternalSearchEnv : ExternalSearchEnv where
  toExternalEnv := sampleExternalEnv
  testing := false
  openChargeMapApiKey := some "key"
  decimalStr d :=
    let digits := Nat.toDigits 10 d.digits
    let places := d.exponent.natAbs
    String.ofList (if places = 0 then digits
      else digits.take (digits.length - places) ++ '.' :: digits.drop (digits.length - places))
  jsonDumps _ := sampleStationsText
  jsonLoads text := if text = sampleStationsText then some (.arr [sampleLoadedStation]) else none
  sha256Hex text := if text = sampleExternalQueryText then sampleExternalQueryDigest else text

theorem sampleExternalSearchEnv_faithful : sampleExternalSearchEnv.Faithful := by
  have hbrace : ∀ q, canonicalExternalQuery sampleExternalSearchEnv q ≠ sampleExternalQueryDigest := by
    intro q h
    have hhead : (canonicalExternalQuery sampleExternalSearchEnv q).toList.head? = some '\x7b' := by
      unfold canonicalExternalQuery
      rw [String.toList_ofList]
      simp
    rw [h] at hhead
    exact absurd hhead (by decide)
  intro p q h
  simp only [sampleExternalSearchEnv] at h
  split at h <;> split at h
  · next hp hq => exact hp.trans hq.symm
  · exact absurd h.symm (hbrace q)
  · exact absurd h (hbrace p)
  · exact h

def sampleExternalState : ExternalState where
  now := 0
  redis _ := none
  reports := []
  searches := []

/-- A search is stored, one finds it 299 seconds later, and one comes too late for it when the
provider is down. -/
def sampleExternalSearches : List ExternalAction :=
  [.receive sampleExternalQuery, .readCache 0 true,
    .fetch 0 (.json (.arr [sampleRecord (.int 22) .null])), .writeCache 0 true,
    .wait 299000000, .receive sampleExternalQuery, .readCache 1 true,
    .wait 2000000, .receive sampleExternalQuery, .readCache 2 true, .fetch 2 .failure]

/-- When a call answered, whether it succeeded and whether it asked the provider. -/
def ExternalSearch.outcome (search : ExternalSearch) : Option (Timestamp × Bool × Bool) :=
  match search.phase with
  | .answered result asked answeredAt => some (answeredAt, result.isOk, asked.isSome)
  | _ => none

/-- The second search is answered from the cache with the answer to the first. -/
theorem external_answers_attested_sample :
    let s := Transition.run (ExternalState.step sampleExternalSearchEnv) sampleExternalState
      sampleExternalSearches
    s.searches.map ExternalSearch.outcome =
      [some (0, true, true), some (299000000, true, false), some (301000000, false, true)] ∧
    ∃ search ∈ s.searches, ∃ items,
      ExternalAnswered sampleExternalSearchEnv s.reports search.query (.ok items) none
        299000000 := by
  refine ⟨by decide +kernel, ?_⟩
  have hcached : ((Transition.run (ExternalState.step sampleExternalSearchEnv) sampleExternalState
      sampleExternalSearches).searches[1]?).bind ExternalSearch.outcome =
      some (299000000, true, false) := by decide +kernel
  have hreach : (Transition.run (ExternalState.step sampleExternalSearchEnv) sampleExternalState
      sampleExternalSearches).Reachable sampleExternalSearchEnv :=
    (Transition.Reachable.initial ⟨fun _ => rfl, rfl, rfl⟩).run sampleExternalSearches
  obtain ⟨search, hsearch, houtcome⟩ := Option.bind_eq_some_iff.mp hcached
  have hmem := List.mem_of_getElem? hsearch
  have hattested := external_answers_attested sampleExternalSearchEnv
    sampleExternalSearchEnv_faithful hreach search hmem
  refine ⟨search, hmem, ?_⟩
  obtain ⟨query, phase⟩ := search
  cases phase with
  | answered result asked answeredAt =>
      cases result with
      | error e => cases houtcome
      | ok items =>
          cases asked with
          | some report => cases houtcome
          | none =>
              cases houtcome
              exact ⟨items, hattested _ _ _ rfl⟩
  | _ => cases houtcome

end ChargeMate
