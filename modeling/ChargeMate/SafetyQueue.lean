import ChargeMate.SafetyListings
import ChargeMate.SafetyPlaces
import ChargeMate.SafetyStarts

/-! The queue of an operator against the operations that it is a list of: which bookings are on
it, and which of them can be started or completed. -/

namespace ChargeMate

open Relational Pages

/-! ### The checks of the operations -/

theorem checkStart_of_start {operator : User} {payload : StartChargingSessionRequest}
    {sessionId : Uuid} {now : Timestamp} {db db' : Database} {s : ChargingSession}
    (h : startChargingSession operator payload sessionId now db = (.ok s, db')) :
    ∃ b, checkStart operator payload now db = .ok b := by
  rw [startChargingSession, transaction_eq_ok, bind_eq_ok] at h
  obtain ⟨b, hok, _⟩ := h
  exact ⟨b, hok⟩

/-- The start window of a booking is still ahead, or open, until the booking ends. -/
theorem exists_insideStartWindow {b : Booking} {now : Timestamp} :
    (∃ t, now ≤ t ∧ insideStartWindow b t = true) ↔ now < b.endsAt := by
  simp only [insideStartWindow, decide_eq_true_eq]
  have hduration := b.positiveDuration
  have hearly : (0 : Int) ≤ minutes earlyStartMinutes := by decide
  constructor
  · rintro ⟨t, hle, _, hlt⟩
    exact lt_of_le_of_lt hle hlt
  · intro hlt
    have hopens : b.startsAt - minutes earlyStartMinutes < b.endsAt :=
      lt_of_le_of_lt (sub_le_self _ hearly) hduration
    exact ⟨max now (b.startsAt - minutes earlyStartMinutes), le_max_left _ _, le_max_right _ _,
      max_lt hlt hopens⟩

/-- The booking has a session, and no completion of its current version fails a check of state or
ownership; with a reading and a time that are not behind those of the start, it succeeds. -/
def Database.Completable (db : Database) (operator : User) (b : Booking) : Prop :=
  ∃ s ∈ db.chargingSessions, s.bookingId = b.id ∧
    ∀ (payload : CompleteChargingSessionRequest) (t : Timestamp), s.version = payload.version →
      (completeChargingSession operator s.id payload t db).1 ≠
          .error .chargingSessionStateConflictError ∧
      (completeChargingSession operator s.id payload t db).1 ≠
          .error .chargingSessionForbiddenError ∧
      (s.meterStartKwh ≤ payload.meterEndKwh → s.startedAt ≤ t →
        ∃ s' db', completeChargingSession operator s.id payload t db = (.ok s', db'))

theorem completeChargingSession_ne_forbidden {operator : User} {sessionId : Uuid}
    {payload : CompleteChargingSessionRequest} (now : Timestamp) {db : Database}
    {s : ChargingSession} {b : Booking} {point : ChargePoint}
    (hs : db.chargingSessions.find sessionId = some s) (hactive : s.status = .active)
    (hversion : s.version = payload.version) (hb : db.bookings.find s.bookingId = some b)
    (hpoint : db.chargePoints.find s.chargePointId = some point)
    (hcontrols : operatorControlsChargePoint db operator point = true) :
    (completeChargingSession operator sessionId payload now db).1 ≠
      .error .chargingSessionForbiddenError := by
  intro h
  rcases raised_of_transaction h with hr | hblock
  · cases hr
  · simp [-bind_pure_comp, hs, hactive, hversion, hb, hpoint, hcontrols,
      Database.updateChargingSession] at hblock

theorem updateChargingSession_complete {s : ChargingSession} {meterEndKwh : Decimal}
    {now : Timestamp} (db : Database) (hmeter : s.meterStartKwh ≤ meterEndKwh)
    (htime : s.startedAt ≤ now) :
    ∃ db', db.updateChargingSession (s.complete meterEndKwh now) = .ok db' := by
  have hend : ∀ m ∈ (s.complete meterEndKwh now).meterEndKwh, s.meterStartKwh ≤ m := by
    intro m hm
    cases hm
    exact hmeter
  have henergy : ∀ e ∈ (s.complete meterEndKwh now).energyConsumedKwh, 0 ≤ e := by
    intro e he
    cases he
    exact sub_nonneg.mpr hmeter
  have hended : ∀ t ∈ (s.complete meterEndKwh now).endedAt, s.startedAt ≤ t := by
    intro t ht
    cases ht
    exact htime
  refine ⟨{ db with chargingSessions := db.chargingSessions.set (s.complete meterEndKwh now) }, ?_⟩
  simp only [Database.updateChargingSession, bind_eq_ok, ensure_eq_ok, pure_eq_ok]
  exact ⟨(), hend, (), henergy, (), hended, trivial⟩

section

variable {Body : Type} {env : Env Body}

/-- An active booking has an active session at its charge point. -/
theorem World.Reachable.completable {w : World} (h : w.Reachable env) {operator : User}
    {b : Booking} (hb : b ∈ w.db.bookings) (hactive : b.status = .active)
    (hcontrols : w.db.Controls operator b) : w.db.Completable operator b := by
  obtain ⟨point, hpoint, hcontrols⟩ := hcontrols
  obtain ⟨s, hs, huses⟩ := h.sessionsSound.used b.id b (Table.find_key hb) (Or.inl hactive)
  have hs : w.db.chargingSessions.find s.id = some s := hs
  have hsactive : s.status = .active := huses.active_iff.mpr hactive
  have hbooking : w.db.bookings.find s.bookingId = some b := by
    rw [huses.bookingId]
    exact Table.find_key hb
  have hspoint : w.db.chargePoints.find s.chargePointId = some point := by
    rwa [huses.chargePointId]
  refine ⟨s, Table.mem_of_find hs, huses.bookingId, fun payload t hversion => ⟨?_, ?_, ?_⟩⟩
  · exact completeChargingSession_ne_conflict operator t hs hsactive hversion hbooking hactive
  · exact completeChargingSession_ne_forbidden t hs hsactive hversion hbooking hspoint hcontrols
  · intro hmeter htime
    obtain ⟨db₁, hupd⟩ := updateChargingSession_complete w.db hmeter htime
    exact ⟨_, _, completeChargingSession_eq_ok.mpr ⟨s, b, point, db₁, hs, hsactive, hversion, hmeter,
      hbooking, hactive, hspoint, hcontrols, rfl, hupd, rfl⟩⟩

/-! ### The queue -/

/-- The booking is on some page of the queue. -/
def Database.Queued (db : Database) (operator : User) (query : ChargingOperationListQuery)
    (now : Timestamp) (b : Booking) : Prop :=
  ∃ k page, findOperatorChargingOperations operator (query.onPage k) now db = .ok page ∧
    b ∈ page.items

theorem World.Reachable.isOperatorOperation_iff {w : World} (h : w.Reachable env) (operator : User)
    (now : Timestamp) {b : Booking} (hb : b ∈ w.db.bookings) :
    isOperatorOperation operator none now w.db b = true ↔
      w.db.Controls operator b ∧
        (b.status = .active ∨ (b.status = .confirmed ∧ now < b.endsAt)) := by
  obtain ⟨point, station, hpoint, hstation⟩ := h.placed b hb
  simp [isOperatorOperation, Database.Controls, operatorControlsChargePoint, hpoint, hstation,
    and_comm]

theorem World.Reachable.queued_iff {w : World} (h : w.Reachable env) (operator : User)
    {query : ChargingOperationListQuery} (hall : query.stationId = none) (now : Timestamp)
    (hrows : w.db.bookings.rows.length ≤ bigintLimit) (b : Booking) :
    w.db.Queued operator query now b ↔
      b ∈ w.db.bookings ∧ w.db.Controls operator b ∧
        (b.status = .active ∨ (b.status = .confirmed ∧ now < b.endsAt)) := by
  have hmatching : b ∈ w.db.bookings ∧ isOperatorOperation operator none now w.db b = true ↔
      b ∈ w.db.bookings ∧ w.db.Controls operator b ∧
        (b.status = .active ∨ (b.status = .confirmed ∧ now < b.endsAt)) :=
    and_congr_right fun hb => h.isOperatorOperation_iff operator now hb
  rw [← hmatching, ← hall]
  constructor
  · rintro ⟨k, page, hpage, hb⟩
    obtain ⟨items, hitems, rfl⟩ := map_eq_ok.mp hpage
    have hmem := mem_of_pageOf hitems hb
    rw [List.mem_insertionSort, List.mem_filter] at hmem
    exact hmem
  · intro hmatches
    have hfits := offsetFits_of_le query.perPageRange.1 ((List.length_filter_le
      (isOperatorOperation operator query.stationId now w.db) _).trans hrows)
    have hpages := (operatorOperations_paginated w.db operator query (fun _ => now) now
      fun _ _ _ => rfl).mpr hfits
    obtain ⟨k, items, total, hpage, hb⟩ := hpages.exists_page hmatches
    obtain ⟨page, hpage, heq⟩ := map_eq_ok.mp hpage
    exact ⟨k, page, hpage, (Prod.mk.inj heq).1 ▸ hb⟩

end

/-- A booking is on the queue exactly when the operator controls its charge point and it can be
completed, or started now or later. No table of PostgreSQL has more rows than `OFFSET` can skip. -/
theorem operator_queue_agrees {Body : Type} (env : Env Body) {w : World} (h : w.Reachable env)
    (operator : User) {query : ChargingOperationListQuery} (hall : query.stationId = none)
    (now : Timestamp) (hrows : w.db.bookings.rows.length ≤ bigintLimit) :
    (∀ b, w.db.Queued operator query now b ↔
      b ∈ w.db.bookings ∧ w.db.Controls operator b ∧
        ((b.status = .active ∧ w.db.Completable operator b) ∨
          (b.status = .confirmed ∧ ∃ t, now ≤ t ∧ ∀ payload : StartChargingSessionRequest,
            payload.bookingId = b.id → payload.bookingVersion = b.version →
              checkStart operator payload t w.db = .ok b))) ∧
    (∀ payload sessionId s db',
      startChargingSession operator payload sessionId now w.db = (.ok s, db') →
        ∃ b, b.id = payload.bookingId ∧ w.db.Queued operator query now b) ∧
    ∀ sessionId payload s db',
      completeChargingSession operator sessionId payload now w.db = (.ok s, db') →
        ∃ b, b.id = s.bookingId ∧ w.db.Queued operator query now b := by
  have hmem := h.queued_iff operator hall now hrows
  refine ⟨fun b => ?_, ?_, ?_⟩
  · rw [hmem]
    refine and_congr_right fun hb => and_congr_right fun hcontrols => or_congr ?_ ?_
    · exact ⟨fun hactive => ⟨hactive, h.completable hb hactive hcontrols⟩, And.left⟩
    · refine and_congr_right fun hconfirmed => ?_
      rw [← exists_insideStartWindow]
      constructor
      · rintro ⟨t, hle, hwindow⟩
        refine ⟨t, hle, fun payload hid hversion => ?_⟩
        have hfind : w.db.bookings.find payload.bookingId = some b := by
          rw [hid]
          exact Table.find_key hb
        exact checkStart_eq_ok.mpr ⟨hfind, hconfirmed, hversion.symm, hwindow, hcontrols⟩
      · rintro ⟨t, hle, hpasses⟩
        have hok := hpasses
          { bookingId := b.id
            bookingVersion := b.version
            meterStartKwh := 0
            nonNegativeMeterStart := le_refl 0
            meterStartFits := by decide +kernel } rfl rfl
        exact ⟨t, hle, (checkStart_eq_ok.mp hok).2.2.2.1⟩
  · intro payload sessionId s db' hok
    obtain ⟨b, hpasses⟩ := checkStart_of_start hok
    obtain ⟨hb, hconfirmed, _, hwindow, hcontrols⟩ := checkStart_eq_ok.mp hpasses
    exact ⟨b, Table.key_of_find hb, (hmem b).mpr ⟨Table.mem_of_find hb, hcontrols,
      Or.inr ⟨hconfirmed, exists_insideStartWindow.mp ⟨now, le_refl now, hwindow⟩⟩⟩⟩
  · intro sessionId payload s' db' hok
    obtain ⟨s, b, point, _, hs, _, _, _, hb, hactive, hpoint, hcontrols, rfl, _⟩ :=
      completeChargingSession_eq_ok.mp hok
    obtain ⟨d, hd, huses⟩ := h.sessionsSound.uses s.id s (Table.find_key (Table.mem_of_find hs))
    have hbid : b.id = s.bookingId := Table.key_of_find hb
    obtain rfl : d = b := by
      rw [← huses.bookingId] at hd
      exact Option.some.inj (hd.symm.trans hb)
    exact ⟨d, hbid, (hmem d).mpr ⟨Table.mem_of_find hb,
      ⟨point, huses.chargePointId ▸ hpoint, hcontrols⟩, Or.inl hactive⟩⟩

def sampleQueueQuery : ChargingOperationListQuery where
  stationId := none
  page := 1
  perPage := 2
  positivePage := sampleFirstPage_positive
  perPageRange := samplePairs_inRange

/-- A paid booking that starts now is on the queue. -/
theorem operator_queue_agrees_sample :
    ∃ b, b.id = 20 ∧ (sampleWorld.run sampleEnv sampleConfirmed).db.Queued sampleOperator
      sampleQueueQuery (minutes 60) b := by
  have hstarts : (startChargingSession sampleOperator (sampleStart 20) 70 (minutes 60)
      (sampleWorld.run sampleEnv sampleConfirmed).db).1.isOk = true := by decide +kernel
  have hqueue := operator_queue_agrees sampleEnv (sampleWorld_reachable sampleConfirmed)
    sampleOperator (show sampleQueueQuery.stationId = none from rfl) (minutes 60)
    (by decide +kernel)
  cases hresult : startChargingSession sampleOperator (sampleStart 20) 70 (minutes 60)
      (sampleWorld.run sampleEnv sampleConfirmed).db with
  | mk result db' =>
    rw [hresult] at hstarts
    cases result with
    | error e => cases hstarts
    | ok s => exact hqueue.2.1 (sampleStart 20) 70 s db' hresult

end ChargeMate
