import ChargeMate.ModelStations
import ChargeMate.RefineOperations

/-! What an accepted station payload stores. The limits of the schemas are those of the columns, but
two texts are upper-cased after their length has been checked, and no schema looks for a null
character: with these apart, the rows satisfy every constraint. -/

namespace ChargeMate

open Relational Decimals

theorem Numeric.of_numeral {precision scale : Nat} {d : Numeral} (hplaces : d.places ≤ scale)
    (hwhole : d.wholeDigits ≤ precision - scale) : Numeric precision scale d.value := by
  obtain ⟨n, hn⟩ := Numeral.exists_int_of_places hplaces
  have hbound : |d.value| < 10 ^ (precision - scale) :=
    lt_of_lt_of_le d.abs_value_lt (pow_le_pow_right₀ (by norm_num) hwhole)
  refine ⟨?_, abs_lt.mp hbound⟩
  rw [hn]
  exact Rat.den_intCast n

theorem SchemaEnv.Documented.numeric {env : SchemaEnv} (henv : env.Documented)
    {precision scale : Nat} {d : Numeral} (h : env.digitsAdmitted precision scale d = true) :
    Numeric precision scale d.value := by
  obtain ⟨d', hvalue, hplaces, hwhole⟩ := henv.digits precision scale d h
  rw [← hvalue]
  exact Numeric.of_numeral hplaces hwhole

/-- What is stripped at the ends is white space, and a null character is none. -/
theorem nullFree_trim {s : String} : nullFree (trim s) ↔ nullFree s := by
  have hnone : ∀ c, isWhiteSpace c = true → c ≠ '\x00' := by
    rintro c hc rfl
    cases hc
  have hstart : ∀ l : List Char, '\x00' ∈ l.dropWhile isWhiteSpace ↔ '\x00' ∈ l := by
    intro l
    conv_rhs => rw [← List.takeWhile_append_dropWhile (p := isWhiteSpace) (l := l)]
    rw [List.mem_append, or_iff_right fun h => hnone _ (List.mem_takeWhile_imp h) rfl]
  have hend : ∀ l : List Char, '\x00' ∈ l.rdropWhile isWhiteSpace ↔ '\x00' ∈ l := by
    intro l
    conv_rhs => rw [← List.rdropWhile_append_rtakeWhile (p := isWhiteSpace) (l := l)]
    rw [List.mem_append, or_iff_left fun h => hnone _ (List.mem_rtakeWhile_imp h) rfl]
  rw [nullFree_iff, nullFree_iff, trim, String.toList_ofList, hend, hstart]

theorem varchar_trim_iff {n : Nat} {s : String} (h : (trim s).length ≤ n) :
    varchar n (trim s) = true ↔ nullFree s := by
  rw [varchar_iff, nullFree_trim, and_iff_right h]

/-- A check of an optional text that is mapped before. -/
theorem all_map_iff {f : String → String} {p : String → Bool} {o : Option String} :
    (o.map f).all p = true ↔ ∀ s ∈ o, p (f s) = true := by
  cases o with
  | none => exact ⟨fun _ => nofun, fun _ => rfl⟩
  | some s => exact ⟨fun h _ hs => Option.mem_some.mp hs ▸ h, fun h => h s rfl⟩

/-- What holds of the default of a text binds the text only where it is given. -/
theorem getD_map_iff (P : String → Prop) {f : String → String} {default : String}
    {o : Option String} (hdefault : P default) :
    P ((o.map f).getD default) ↔ ∀ s ∈ o, P (f s) := by
  cases o with
  | none => exact ⟨fun _ => nofun, fun _ => hdefault⟩
  | some s => exact ⟨fun h _ hs => Option.mem_some.mp hs ▸ h, fun h => h s rfl⟩

theorem all_varchar_trim_iff {n : Nat} {o : Option String}
    (h : ∀ s ∈ o, (trim s).length ≤ n) :
    (o.map trim).all (varchar n) = true ↔ ∀ s ∈ o, nullFree s :=
  all_map_iff.trans (forall₂_congr fun s hs => varchar_trim_iff (h s hs))

/-- Two rows that a table of charge points may hold together. -/
structure ChargePoint.Apart (p q : ChargePoint) : Prop where
  keys : p.id ≠ q.id
  codes : ¬(p.stationId = q.stationId ∧ p.code = q.code)

/-- The rows of a new station satisfy every constraint of their tables, the keys aside. -/
structure Storable (env : SchemaEnv) (station : ChargingStation) (points : List ChargePoint) :
    Prop where
  stationFits : station.Fits
  stationChecks : station.Checks env
  pointsFit : ∀ p ∈ points, p.Fits
  pointsCheck : ∀ p ∈ points, p.Checks
  codesUnique : points.Pairwise fun p q => ¬(p.stationId = q.stationId ∧ p.code = q.code)

theorem Database.insertChargePoint_ok_iff {db : Database} {p : ChargePoint} :
    (∃ db', db.insertChargePoint p = .ok db') ↔ ∀ q ∈ db.chargePoints, q.Apart p := by
  simp only [insertChargePoint, bind_eq_ok, ensure_eq_ok, orRaise_eq_ok, pure_eq_ok]
  constructor
  · rintro ⟨_, -, hcodes, t, hins, -⟩ q hq
    exact ⟨Table.find_eq_none.mp (Table.insert_eq_some.mp hins).1 q hq, hcodes q hq⟩
  · intro hapart
    obtain ⟨t, ht⟩ := Table.exists_insert
      (Table.find_eq_none.mpr fun q hq => (hapart q hq).keys)
    exact ⟨_, (), fun q hq => (hapart q hq).codes, t, ht, rfl⟩

/-- Rows go in one after another exactly if they stand apart from those there and from each
other. -/
theorem Database.foldlM_insertChargePoint_ok_iff {points : List ChargePoint} {db : Database} :
    (∃ db', points.foldlM Database.insertChargePoint db = .ok db') ↔
      (∀ p ∈ points, ∀ q ∈ db.chargePoints, q.Apart p) ∧ points.Pairwise ChargePoint.Apart := by
  induction points generalizing db with
  | nil => exact ⟨fun _ => ⟨nofun, List.Pairwise.nil⟩, fun _ => ⟨db, rfl⟩⟩
  | cons p points ih =>
      rw [List.foldlM_cons, List.forall_mem_cons, List.pairwise_cons]
      simp only [bind_eq_ok]
      constructor
      · rintro ⟨db', db₁, hins, hrest⟩
        obtain ⟨hnew, hpair⟩ := ih.mp ⟨db', hrest⟩
        have hmem := fun q => Database.mem_insertChargePoint hins (q := q)
        refine ⟨⟨Database.insertChargePoint_ok_iff.mp ⟨db₁, hins⟩, ?_⟩, ?_, hpair⟩
        · exact fun r hr q hq => hnew r hr q ((hmem q).mpr (Or.inl hq))
        · exact fun r hr => hnew r hr p ((hmem p).mpr (Or.inr rfl))
      · rintro ⟨⟨hp, hnew⟩, hfirst, hpair⟩
        obtain ⟨db₁, hins⟩ := Database.insertChargePoint_ok_iff.mpr hp
        have hrest : ∀ r ∈ points, ∀ q ∈ db₁.chargePoints, q.Apart r := by
          intro r hr q hq
          rcases (Database.mem_insertChargePoint hins).mp hq with hold | rfl
          · exact hnew r hr q hold
          · exact hfirst r hr
        obtain ⟨db', hdb'⟩ := ih.mpr ⟨hrest, hpair⟩
        exact ⟨db', db₁, hins, hdb'⟩

theorem Database.storeChargePoint_eq_ok {db db' : Database} {p : ChargePoint} :
    db.storeChargePoint p = .ok db' ↔
      (p.Fits ∧ p.Checks) ∧ db.insertChargePoint p = .ok db' := by
  simp only [storeChargePoint, bind_eq_ok, ensure_eq_ok, exists_const, and_assoc]

theorem Database.foldlM_storeChargePoint_eq_ok {points : List ChargePoint} {db db' : Database} :
    points.foldlM Database.storeChargePoint db = .ok db' ↔
      (∀ p ∈ points, p.Fits ∧ p.Checks) ∧
        points.foldlM Database.insertChargePoint db = .ok db' := by
  induction points generalizing db with
  | nil => exact ⟨fun h => ⟨nofun, h⟩, fun h => h.2⟩
  | cons p points ih =>
      simp only [List.foldlM_cons, bind_eq_ok, Database.storeChargePoint_eq_ok, ih,
        List.forall_mem_cons]
      constructor
      · rintro ⟨db₁, ⟨hp, hins⟩, hpoints, hrest⟩
        exact ⟨⟨hp, hpoints⟩, db₁, hins, hrest⟩
      · rintro ⟨⟨hp, hpoints⟩, db₁, hins, hrest⟩
        exact ⟨db₁, ⟨hp, hins⟩, hpoints, hrest⟩

theorem Database.storeStation_eq_ok {env : SchemaEnv} {db db' : Database} {s : ChargingStation} :
    db.storeStation env s = .ok db' ↔
      (s.Fits ∧ s.Checks env) ∧ db.insertStation s = .ok db' := by
  simp only [storeStation, bind_eq_ok, ensure_eq_ok, exists_const, and_assoc]

/-! ### The transaction -/

namespace StationCreateRequest

variable {env : SchemaEnv} {request : StationCreateRequest} {owner : User} {stationId : Uuid}
  {pointIds : List Uuid} {db db' : Database} {station : ChargingStation}

/-- The transaction with the constraints of the columns is the one without them wherever the rows
satisfy these, and otherwise raises. -/
theorem createStation_eq_ok :
    request.createStation env owner stationId pointIds db = (.ok station, db') ↔
      ((request.station owner stationId).Fits ∧ (request.station owner stationId).Checks env) ∧
      (∀ p ∈ request.points stationId pointIds, p.Fits ∧ p.Checks) ∧
      ChargeMate.createStation owner request stationId pointIds db = (.ok station, db') := by
  simp only [createStation, ChargeMate.createStation, transaction_eq_ok, bind_eq_ok, pure_eq_ok,
    Database.storeStation_eq_ok, Database.foldlM_storeChargePoint_eq_ok]
  constructor
  · rintro ⟨db₁, ⟨hstation, hins⟩, db₂, ⟨hpoints, hfold⟩, hresult⟩
    exact ⟨hstation, hpoints, db₁, hins, db₂, hfold, hresult⟩
  · rintro ⟨hstation, hpoints, db₁, hins, db₂, hfold, hresult⟩
    exact ⟨db₁, ⟨hstation, hins⟩, db₂, ⟨hpoints, hfold⟩, hresult⟩

/-- The keys that the models draw are new. -/
structure Fresh (request : StationCreateRequest) (stationId : Uuid) (pointIds : List Uuid)
    (db : Database) : Prop where
  station : db.stations.find stationId = none
  unreferenced : ∀ p ∈ db.chargePoints, p.stationId ≠ stationId
  points : ∀ id ∈ pointIds, db.chargePoints.find id = none
  distinct : pointIds.Nodup
  enough : pointIds.length = request.chargePoints.length

theorem map_code_points (hlen : pointIds.length = request.chargePoints.length) :
    (request.points stationId pointIds).map ChargePoint.code =
      request.chargePoints.map ChargePointCreateRequest.code := by
  calc (request.points stationId pointIds).map ChargePoint.code
      = ((request.chargePoints.zip pointIds).map Prod.fst).map ChargePointCreateRequest.code := by
        rw [points, List.map_map, List.map_map]
        rfl
    _ = request.chargePoints.map ChargePointCreateRequest.code := by
        rw [List.map_fst_zip (by omega)]

theorem map_id_points (hlen : pointIds.length = request.chargePoints.length) :
    (request.points stationId pointIds).map ChargePoint.id = pointIds := by
  calc (request.points stationId pointIds).map ChargePoint.id
      = (request.chargePoints.zip pointIds).map Prod.snd := by
        rw [points, List.map_map]
        rfl
    _ = pointIds := List.map_snd_zip (by omega)

/-- The codes of a validated request are unique within its station. -/
theorem pairwise_codes_points (hlen : pointIds.length = request.chargePoints.length) :
    (request.points stationId pointIds).Pairwise
      fun p q => ¬(p.stationId = q.stationId ∧ p.code = q.code) := by
  have hcodes : ((request.points stationId pointIds).map ChargePoint.code).Nodup := by
    rw [map_code_points hlen]
    exact request.uniqueCodes
  exact (List.pairwise_map.mp hcodes).imp fun hne h => hne h.2

/-- With new keys the transaction returns exactly if the rows are storable. -/
theorem createStation_ok_iff (hfresh : Fresh request stationId pointIds db) :
    (∃ station db', request.createStation env owner stationId pointIds db = (.ok station, db')) ↔
      Storable env (request.station owner stationId) (request.points stationId pointIds) := by
  simp only [createStation_eq_ok]
  constructor
  · rintro ⟨station, db', ⟨hfits, hchecks⟩, hpoints, -⟩
    exact ⟨hfits, hchecks, fun p hp => (hpoints p hp).1, fun p hp => (hpoints p hp).2,
      pairwise_codes_points hfresh.enough⟩
  · intro h
    have hapart : (request.points stationId pointIds).Pairwise ChargePoint.Apart := by
      have hkeys : ((request.points stationId pointIds).map ChargePoint.id).Nodup := by
        rw [map_id_points hfresh.enough]
        exact hfresh.distinct
      exact (List.pairwise_map.mp hkeys).imp₂ (fun _ _ hid hcode => ⟨hid, hcode⟩) h.codesUnique
    have hnew : ∀ p ∈ request.points stationId pointIds, ∀ q ∈ db.chargePoints, q.Apart p := by
      intro p hp q hq
      have hid : p.id ∈ (request.points stationId pointIds).map ChargePoint.id :=
        List.mem_map_of_mem hp
      rw [map_id_points hfresh.enough] at hid
      refine ⟨Table.find_eq_none.mp (hfresh.points _ hid) q hq, fun heq => ?_⟩
      exact hfresh.unreferenced q hq (heq.1.trans (stationId_of_mem_points hp))
    have hkey : db.stations.find (key (request.station owner stationId)) = none := hfresh.station
    obtain ⟨stations, hstations⟩ := Table.exists_insert hkey
    have hins : db.insertStation (request.station owner stationId) = .ok { db with stations } := by
      simp only [Database.insertStation, bind_eq_ok, orRaise_eq_ok, pure_eq_ok]
      exact ⟨stations, hstations, rfl⟩
    obtain ⟨db', hfold⟩ := Database.foldlM_insertChargePoint_ok_iff.mpr
      (show (∀ p ∈ _, ∀ q ∈ ({ db with stations } : Database).chargePoints, q.Apart p) ∧ _ from
        ⟨hnew, hapart⟩)
    refine ⟨request.station owner stationId, db', ⟨h.stationFits, h.stationChecks⟩,
      fun p hp => ⟨h.pointsFit p hp, h.pointsCheck p hp⟩, ?_⟩
    rw [ChargeMate.createStation, transaction_eq_ok]
    simp only [bind_eq_ok, pure_eq_ok]
    exact ⟨_, hins, db', hfold, rfl⟩

end StationCreateRequest

/-! ### Payloads -/

/-- A traversal that succeeds has an answer for every member. -/
theorem forall₂_of_mapM_eq_some {α β : Type} {f : α → Option β} {as : List α} {bs : List β}
    (h : as.mapM f = some bs) : List.Forall₂ (fun a b => f a = some b) as bs := by
  induction as generalizing bs with
  | nil =>
      cases h
      exact List.Forall₂.nil
  | cons a as ih =>
      rw [List.mapM_cons] at h
      obtain ⟨b, hb, hrest⟩ := Option.bind_eq_some_iff.mp h
      obtain ⟨bs', hbs, hresult⟩ := Option.bind_eq_some_iff.mp hrest
      cases hresult
      exact List.Forall₂.cons hb (ih hbs)

/-- A property of the answers, each with a key, is one of what was asked. -/
theorem forall_mem_zip_iff {α β γ : Type} {R : α → β → Prop} {as : List α} {bs : List β}
    {keys : List γ} (h : List.Forall₂ R as bs) (hlen : keys.length = bs.length)
    {P : β × γ → Prop} {Q : α → Prop} (hPQ : ∀ a b k, R a b → (P (b, k) ↔ Q a)) :
    (∀ x ∈ bs.zip keys, P x) ↔ ∀ a ∈ as, Q a := by
  induction h generalizing keys with
  | nil => exact ⟨fun _ => nofun, fun _ => nofun⟩
  | cons hab _ ih =>
      cases keys with
      | nil => cases hlen
      | cons k keys =>
          rw [List.length_cons, List.length_cons] at hlen
          rw [List.zip_cons_cons, List.forall_mem_cons, List.forall_mem_cons, hPQ _ _ k hab,
            ih (by omega)]

/-- The texts that the client sends for the columns of the station. -/
def StationPayload.stationTexts (payload : StationPayload) : List String :=
  [payload.name, payload.addressLine1, payload.city, payload.state, payload.postalCode] ++
    (payload.description.toList ++ payload.addressLine2.toList ++ payload.countryCode.toList ++
      payload.timezone.toList ++ payload.phone.toList)

/-- No text has a null character, and upper-casing a code, for the database too, leaves its length
within the limit that was checked before. -/
structure StationPayload.Plain (env : SchemaEnv) (payload : StationPayload) : Prop where
  stationTexts : ∀ text ∈ payload.stationTexts, nullFree text
  countryCode : ∀ code ∈ payload.countryCode, (env.upper (trim code)).length ≤ 2
  countryUppercase : ∀ code ∈ payload.countryCode,
    env.upper (trim code) = env.sqlUpper (env.upper (trim code))
  codes : ∀ point ∈ payload.chargePoints,
    nullFree point.code ∧ (env.upper (trim point.code)).length ≤ 50

section

variable {env : SchemaEnv}

theorem SchemaEnv.Documented.nullFree_upper (henv : env.Documented) {s : String} :
    nullFree (env.upper (trim s)) ↔ nullFree s := by
  rw [← nullFree_trim (s := s), nullFree_iff, henv.upper_null, nullFree_iff]

theorem ChargePointCreateRequest.of_modelValidate {payload : ChargePointPayload}
    {point : ChargePointCreateRequest} (h : modelValidate env payload = some point) :
    payload.stripped.Valid env ∧ point.code = env.upper (trim payload.code) ∧
      point.maxPowerKw = payload.maxPowerKw.value ∧ point.bookingFee = payload.fee.value := by
  unfold modelValidate at h
  split at h
  · next hvalid =>
    cases h
    exact ⟨hvalid, rfl, rfl, rfl⟩
  · cases h

theorem StationCreateRequest.of_modelValidate {payload : StationPayload}
    {request : StationCreateRequest} (h : modelValidate env payload = some request) :
    payload.stripped.Valid env ∧ ∃ chargePoints uniqueCodes,
      List.Forall₂ (fun p point => ChargePointCreateRequest.modelValidate env p = some point)
        payload.chargePoints chargePoints ∧
      request = payload.accepted env chargePoints uniqueCodes := by
  obtain ⟨chargePoints, hpoints, h⟩ := Option.bind_eq_some_iff.mp h
  split at h
  · next hvalid =>
    split at h
    · next hcodes =>
      cases h
      exact ⟨hvalid, chargePoints, hcodes, forall₂_of_mapM_eq_some hpoints, rfl⟩
    · cases h
  · cases h

/-- The default fee passes the validation that it is spared. -/
theorem ChargePointPayload.Valid.numeric_fee (henv : env.Documented) {payload : ChargePointPayload}
    (hvalid : payload.stripped.Valid env) : Numeric 10 2 payload.fee.value := by
  have hfee := hvalid.bookingFee.2
  rw [stripped] at hfee
  unfold fee
  cases hsent : payload.bookingFee with
  | none => exact Numeric.of_numeral (by decide) (by decide)
  | some d =>
      rw [hsent] at hfee
      exact henv.numeric hfee

theorem ChargePointCreateRequest.fits_iff (henv : env.Documented) {payload : ChargePointPayload}
    {point : ChargePointCreateRequest} (h : modelValidate env payload = some point)
    (stationId id : Uuid) :
    (point.chargePoint stationId id).Fits ↔
      nullFree payload.code ∧ (env.upper (trim payload.code)).length ≤ 50 := by
  obtain ⟨hvalid, hcode, hpower, hfee⟩ := of_modelValidate h
  have hstored : varchar 50 (point.chargePoint stationId id).code = true ↔
      nullFree payload.code ∧ (env.upper (trim payload.code)).length ≤ 50 := by
    rw [chargePoint, hcode, varchar_iff, henv.nullFree_upper, and_comm]
  constructor
  · intro hfits
    exact hstored.mp hfits.code
  · intro hplain
    refine ⟨hstored.mpr hplain, ?_, ?_, show integer32 1 = true by decide⟩
    · show Numeric 7 2 point.maxPowerKw
      rw [hpower]
      exact henv.numeric hvalid.maxPowerKw.2
    · show Numeric 10 2 point.bookingFee
      rw [hfee]
      exact hvalid.numeric_fee henv

theorem ChargePointCreateRequest.checks {payload : ChargePointPayload}
    {point : ChargePointCreateRequest} (h : modelValidate env payload = some point)
    (stationId id : Uuid) : (point.chargePoint stationId id).Checks := by
  obtain ⟨hvalid, -, hpower, -⟩ := of_modelValidate h
  refine ⟨?_, point.nonNegativeBookingFee, Nat.one_pos⟩
  rw [chargePoint, hpower]
  exact hvalid.maxPowerKw.1

namespace StationPayload

variable {payload : StationPayload}

theorem forall_stationTexts {P : String → Prop} :
    (∀ text ∈ payload.stationTexts, P text) ↔
      (P payload.name ∧ P payload.addressLine1 ∧ P payload.city ∧ P payload.state ∧
        P payload.postalCode) ∧
      (((((∀ s ∈ payload.description, P s) ∧ ∀ s ∈ payload.addressLine2, P s) ∧
        ∀ s ∈ payload.countryCode, P s) ∧ ∀ s ∈ payload.timezone, P s) ∧
        ∀ s ∈ payload.phone, P s) := by
  simp only [stationTexts, List.forall_mem_append, List.forall_mem_cons, Option.mem_toList,
    List.not_mem_nil, false_imp_iff, implies_true, and_true, Option.mem_def]

theorem varchar_countryCode_iff (henv : env.Documented) (payload : StationPayload) :
    varchar 2 ((payload.stripped.countryCode.map env.upper).getD "IN") = true ↔
      ∀ s ∈ payload.countryCode, (env.upper (trim s)).length ≤ 2 ∧ nullFree s := by
  rw [stripped, Option.map_map, getD_map_iff (fun s => varchar 2 s = true) (by decide)]
  exact forall₂_congr fun s _ => by rw [Function.comp_apply, varchar_iff, henv.nullFree_upper]

theorem varchar_timezone_iff (hvalid : payload.stripped.Valid env) :
    varchar 64 (payload.stripped.timezone.getD "Asia/Kolkata") = true ↔
      ∀ s ∈ payload.timezone, nullFree s := by
  have hlength := all_map_iff.mp hvalid.timezone
  rw [stripped, getD_map_iff (fun s => varchar 64 s = true) (by decide)]
  exact forall₂_congr fun s hs => varchar_trim_iff (of_decide_eq_true (hlength s hs)).2

theorem nullFree_description_iff :
    payload.stripped.description.all nullFree = true ↔ ∀ s ∈ payload.description, nullFree s :=
  all_map_iff.trans (forall₂_congr fun _ _ => nullFree_trim)

/-- The texts of a valid payload fit their columns but for null characters and the length of the
country code. -/
theorem fits_iff (henv : env.Documented) (hvalid : payload.stripped.Valid env)
    (chargePoints : List ChargePointCreateRequest)
    (uniqueCodes : (chargePoints.map ChargePointCreateRequest.code).Nodup) (owner : User)
    (stationId : Uuid) :
    ((payload.accepted env chargePoints uniqueCodes).station owner stationId).Fits ↔
      (∀ text ∈ payload.stationTexts, nullFree text) ∧
      ∀ s ∈ payload.countryCode, (env.upper (trim s)).length ≤ 2 := by
  have hline : ∀ s ∈ payload.addressLine2, (trim s).length ≤ 255 :=
    fun s hs => of_decide_eq_true (all_map_iff.mp hvalid.addressLine2 s hs)
  have hphone : ∀ s ∈ payload.phone, (trim s).length ≤ 20 :=
    fun s hs => (of_decide_eq_true (all_map_iff.mp hvalid.phone s hs)).2
  have hcountry := varchar_countryCode_iff henv payload
  rw [forall_stationTexts]
  constructor
  · intro h
    have hcountry := hcountry.mp h.countryCode
    exact ⟨⟨⟨(varchar_trim_iff hvalid.name.2).mp h.name,
        (varchar_trim_iff hvalid.addressLine1.2).mp h.addressLine1,
        (varchar_trim_iff hvalid.city.2).mp h.city, (varchar_trim_iff hvalid.state.2).mp h.state,
        (varchar_trim_iff hvalid.postalCode.2).mp h.postalCode⟩,
      ⟨⟨⟨⟨nullFree_description_iff.mp h.description,
        (all_varchar_trim_iff hline).mp h.addressLine2⟩, fun s hs => (hcountry s hs).2⟩,
        (varchar_timezone_iff hvalid).mp h.timezone⟩, (all_varchar_trim_iff hphone).mp h.phone⟩⟩,
      fun s hs => (hcountry s hs).1⟩
  · rintro ⟨⟨⟨hname, hline₁, hcity, hstate, hpostal⟩,
      ⟨⟨⟨hdescription, hline₂⟩, hcode⟩, htimezone⟩, hphone'⟩, hlength⟩
    exact {
      name := (varchar_trim_iff hvalid.name.2).mpr hname
      description := nullFree_description_iff.mpr hdescription
      addressLine1 := (varchar_trim_iff hvalid.addressLine1.2).mpr hline₁
      addressLine2 := (all_varchar_trim_iff hline).mpr hline₂
      city := (varchar_trim_iff hvalid.city.2).mpr hcity
      state := (varchar_trim_iff hvalid.state.2).mpr hstate
      postalCode := (varchar_trim_iff hvalid.postalCode.2).mpr hpostal
      countryCode := hcountry.mpr fun s hs => ⟨hlength s hs, hcode s hs⟩
      latitude := henv.numeric hvalid.latitude.2
      longitude := henv.numeric hvalid.longitude.2
      timezone := (varchar_timezone_iff hvalid).mpr htimezone
      phone := (all_varchar_trim_iff hphone).mpr hphone'
      version := show integer32 1 = true by decide }

theorem checks_iff (henv : env.Documented) (hvalid : payload.stripped.Valid env)
    (chargePoints : List ChargePointCreateRequest)
    (uniqueCodes : (chargePoints.map ChargePointCreateRequest.code).Nodup) (owner : User)
    (stationId : Uuid) :
    ((payload.accepted env chargePoints uniqueCodes).station owner stationId).Checks env ↔
      ∀ s ∈ payload.countryCode, env.upper (trim s) = env.sqlUpper (env.upper (trim s)) := by
  have hdefault : env.sqlUpper "IN" = "IN" := henv.sqlUpper_capitals "IN" (by simp)
  have hcountry : (payload.accepted env chargePoints uniqueCodes).countryCode =
        env.sqlUpper (payload.accepted env chargePoints uniqueCodes).countryCode ↔
      ∀ s ∈ payload.countryCode, env.upper (trim s) = env.sqlUpper (env.upper (trim s)) := by
    rw [accepted, stripped, Option.map_map]
    exact getD_map_iff (fun s => s = env.sqlUpper s) hdefault.symm
  rw [← hcountry]
  constructor
  · exact fun h => h.countryCodeUppercase
  · exact fun h => ⟨hvalid.latitude.1, hvalid.longitude.1, h, Nat.one_pos⟩

end StationPayload

/-- The rows of an accepted payload satisfy every constraint exactly if the payload is plain. -/
theorem storable_iff_plain (henv : env.Documented) {payload : StationPayload}
    {request : StationCreateRequest}
    (hvalid : StationCreateRequest.modelValidate env payload = some request)
    (owner : User) (stationId : Uuid) {pointIds : List Uuid}
    (hlen : pointIds.length = request.chargePoints.length) :
    Storable env (request.station owner stationId) (request.points stationId pointIds) ↔
      payload.Plain env := by
  obtain ⟨hstation, chargePoints, uniqueCodes, hpoints, rfl⟩ :=
    StationCreateRequest.of_modelValidate hvalid
  have hfits : (∀ p ∈ (payload.accepted env chargePoints uniqueCodes).points stationId pointIds,
      p.Fits) ↔ ∀ point ∈ payload.chargePoints,
        nullFree point.code ∧ (env.upper (trim point.code)).length ≤ 50 := by
    rw [StationCreateRequest.points, List.forall_mem_map]
    exact forall_mem_zip_iff hpoints hlen fun _ _ id h =>
      ChargePointCreateRequest.fits_iff henv h stationId id
  have hchecks : ∀ p ∈ (payload.accepted env chargePoints uniqueCodes).points stationId pointIds,
      p.Checks := by
    rw [StationCreateRequest.points, List.forall_mem_map]
    exact (forall_mem_zip_iff hpoints hlen fun _ _ id h =>
      iff_true_intro (ChargePointCreateRequest.checks h stationId id)).mpr fun _ _ => trivial
  have hstationFits :=
    StationPayload.fits_iff henv hstation chargePoints uniqueCodes owner stationId
  have hstationChecks :=
    StationPayload.checks_iff henv hstation chargePoints uniqueCodes owner stationId
  constructor
  · intro h
    obtain ⟨htexts, hcountry⟩ := hstationFits.mp h.stationFits
    exact ⟨htexts, hcountry, hstationChecks.mp h.stationChecks, hfits.mp h.pointsFit⟩
  · intro h
    exact ⟨hstationFits.mpr ⟨h.stationTexts, h.countryCode⟩, hstationChecks.mpr h.countryUppercase,
      hfits.mpr h.codes, hchecks, StationCreateRequest.pairwise_codes_points hlen⟩

end

/-- For every accepted payload and new keys: the rows of `create_station` satisfy every constraint,
and the database refuses none of them, exactly if the payload is plain. -/
theorem accepted_payload_storable {env : SchemaEnv} (henv : env.Documented)
    {payload : StationPayload} {request : StationCreateRequest}
    (hvalid : StationCreateRequest.modelValidate env payload = some request)
    (owner : User) {stationId : Uuid} {pointIds : List Uuid} {db : Database}
    (hfresh : request.Fresh stationId pointIds db) :
    (Storable env (request.station owner stationId) (request.points stationId pointIds) ↔
        payload.Plain env) ∧
      ((∃ station db', request.createStation env owner stationId pointIds db =
          (.ok station, db')) ↔ payload.Plain env) := by
  have hplain := storable_iff_plain henv hvalid owner stationId hfresh.enough
  exact ⟨hplain, (StationCreateRequest.createStation_ok_iff hfresh).trans hplain⟩

def sampleSchemaEnv : SchemaEnv where
  upper s := String.ofList (s.toList.flatMap fun c => if c = 'ß' then ['S', 'S'] else [c.toUpper])
  sqlUpper s := String.ofList (s.toList.map Char.toUpper)
  digitsAdmitted maxDigits decimalPlaces d :=
    d.places ≤ decimalPlaces ∧ d.wholeDigits ≤ maxDigits - decimalPlaces

def sampleStationPayload (countryCode : String) : StationPayload where
  name := " Anna Nagar Hub "
  description := none
  addressLine1 := "2nd Avenue"
  addressLine2 := none
  city := "Chennai"
  state := "Tamil Nadu"
  postalCode := "600040"
  countryCode := some countryCode
  latitude := ⟨13085000, -6⟩
  longitude := ⟨802101, -4⟩
  timezone := none
  phone := none
  is24Hours := none
  chargePoints := [⟨"dc-1", ⟨60, 0⟩, none, none⟩]

theorem toUpper_of_not_isLower {c : Char} (h : ¬('a'.val ≤ c.val ∧ c.val ≤ 'z'.val)) :
    c.toUpper = c :=
  dif_neg h

theorem val_toUpper_of_isLower {c : Char} (h : 'a'.val ≤ c.val ∧ c.val ≤ 'z'.val) :
    c.toUpper.val = c.val + ('A'.val - 'a'.val) := by
  delta Char.toUpper
  rw [dif_pos h]

theorem toUpper_eq_null {c : Char} : c.toUpper = '\x00' ↔ c = '\x00' := by
  by_cases hlower : 'a'.val ≤ c.val ∧ c.val ≤ 'z'.val
  · constructor
    · intro hnull
      have hletter : 97 ≤ c.toNat ∧ c.toNat ≤ 122 := hlower
      have hsum : (c.val + ('A'.val - 'a'.val)).toNat = (c.toNat + 4294967264) % 4294967296 :=
        UInt32.toNat_add _ _
      rw [← val_toUpper_of_isLower hlower, hnull] at hsum
      have hzero : 0 = (c.toNat + 4294967264) % 4294967296 := hsum
      omega
    · rintro rfl
      exact absurd hlower (by decide)
  · rw [toUpper_of_not_isLower hlower]

theorem toUpper_of_isUpper {c : Char} (h : c.isUpper = true) : c.toUpper = c := by
  have hcapital : 65 ≤ c.toNat ∧ c.toNat ≤ 90 := of_decide_eq_true h
  apply toUpper_of_not_isLower
  intro hlower
  have hleast : 97 ≤ c.toNat := hlower.1
  omega

theorem sampleSchemaEnv_documented : sampleSchemaEnv.Documented where
  upper_null s := by
    simp only [sampleSchemaEnv, String.toList_ofList, List.mem_flatMap]
    constructor
    · rintro ⟨c, hc, hmem⟩
      split at hmem
      · exact absurd hmem (by decide)
      · rw [List.mem_singleton, eq_comm, toUpper_eq_null] at hmem
        exact hmem ▸ hc
    · exact fun h => ⟨_, h, by decide⟩
  sqlUpper_capitals s h := by
    show String.ofList (s.toList.map Char.toUpper) = s
    rw [List.map_congr_left fun c hc => toUpper_of_isUpper (h c hc), List.map_id',
      String.ofList_toList]
  digits _ _ d h := ⟨d, rfl, of_decide_eq_true h⟩

def sampleStations : Database := ⟨∅, ∅, ∅, ∅, ∅, ∅, ∅⟩

/-- The outcome of a payload that is accepted. -/
def sampleCreation (payload : StationPayload) : Option (Except Raised String) :=
  (StationCreateRequest.modelValidate sampleSchemaEnv payload).map fun request =>
    (request.createStation sampleSchemaEnv ⟨1, .systemAdmin⟩ 7 [8] sampleStations).1.map
      ChargingStation.countryCode

theorem fresh_sampleStations {request : StationCreateRequest}
    (hlen : request.chargePoints.length = 1) : request.Fresh 7 [8] sampleStations where
  station := rfl
  unreferenced := nofun
  points _ _ := rfl
  distinct := by decide
  enough := hlen.symm

theorem accepted_payload_storable_sample : ∃ request,
    StationCreateRequest.modelValidate sampleSchemaEnv (sampleStationPayload "in") =
      some request ∧
    Storable sampleSchemaEnv (request.station ⟨1, .systemAdmin⟩ 7) (request.points 7 [8]) := by
  have hlen : (StationCreateRequest.modelValidate sampleSchemaEnv (sampleStationPayload "in")).map
      (fun request => request.chargePoints.length) = some 1 := by decide +kernel
  have hout : sampleCreation (sampleStationPayload "in") = some (.ok "IN") := by decide +kernel
  obtain ⟨request, hvalid, hlen⟩ := Option.map_eq_some_iff.mp hlen
  obtain ⟨_, hvalid', hout⟩ := Option.map_eq_some_iff.mp hout
  obtain rfl := Option.some.inj (hvalid.symm.trans hvalid')
  obtain ⟨hstorable, hcreated⟩ := accepted_payload_storable sampleSchemaEnv_documented hvalid
    ⟨1, .systemAdmin⟩ (fresh_sampleStations hlen)
  refine ⟨request, hvalid, hstorable.mpr (hcreated.mp ?_)⟩
  generalize request.createStation sampleSchemaEnv ⟨1, .systemAdmin⟩ 7 [8]
    sampleStations = result at hout ⊢
  obtain ⟨_ | station, db'⟩ := result
  · cases hout
  · exact ⟨station, db', rfl⟩

/-- A country code of two characters is upper-cased to one of three. -/
theorem accepted_payload_storable_counterexample :
    sampleSchemaEnv.Documented ∧ ∃ request,
      StationCreateRequest.modelValidate sampleSchemaEnv (sampleStationPayload "ßa") =
        some request ∧
      request.Fresh 7 [8] sampleStations ∧ request.countryCode = "SSA" ∧
      ¬Storable sampleSchemaEnv (request.station ⟨1, .systemAdmin⟩ 7) (request.points 7 [8]) ∧
      (request.createStation sampleSchemaEnv ⟨1, .systemAdmin⟩ 7 [8] sampleStations).1 =
        .error .dataError := by
  have hfields : (StationCreateRequest.modelValidate sampleSchemaEnv
      (sampleStationPayload "ßa")).map (fun request =>
        (request.chargePoints.length, request.countryCode)) = some (1, "SSA") := by decide +kernel
  have hout : sampleCreation (sampleStationPayload "ßa") = some (.error .dataError) := by
    decide +kernel
  obtain ⟨request, hvalid, hfields⟩ := Option.map_eq_some_iff.mp hfields
  obtain ⟨_, hvalid', hout⟩ := Option.map_eq_some_iff.mp hout
  obtain rfl := Option.some.inj (hvalid.symm.trans hvalid')
  obtain ⟨hlen, hcountry⟩ := Prod.mk.inj hfields
  refine ⟨sampleSchemaEnv_documented, request, hvalid, fresh_sampleStations hlen, hcountry, ?_, ?_⟩
  · intro hstorable
    have hcode : varchar 2 request.countryCode = true := hstorable.stationFits.countryCode
    rw [hcountry] at hcode
    exact absurd hcode (by decide)
  · generalize request.createStation sampleSchemaEnv ⟨1, .systemAdmin⟩ 7 [8]
      sampleStations = result at hout ⊢
    obtain ⟨e | station, db'⟩ := result
    · cases hout
      rfl
    · cases hout

end ChargeMate
