import ChargeMate.SafetyPlaces
import ChargeMate.SafetySessions

/-! The start of a charging session: whose reserved time it takes, and in which state it finds the
charge point that it puts to use. -/

namespace ChargeMate

open Relational

/-! ### Early starts -/

/-- The time lies in the half-open interval of the booking. -/
def Booking.Covers (b : Booking) (t : Timestamp) : Prop := b.startsAt ≤ t ∧ t < b.endsAt

instance (b : Booking) (t : Timestamp) : Decidable (b.Covers t) := by
  unfold Booking.Covers
  infer_instance

/-- The overlap check of a hold, asked about one microsecond. -/
theorem hasOverlappingBooking_instant {db : Database} {chargePointId : Uuid} {t : Timestamp} :
    hasOverlappingBooking db chargePointId t (t + 1) = true ↔
      ∃ c ∈ db.bookings, c.chargePointId = chargePointId ∧ c.Blocking ∧ c.Covers t := by
  simp only [hasOverlappingBooking, List.any_eq_true, decide_eq_true_eq, Int.lt_add_one_iff]
  exact Iff.rfl

/-- A start that is on time takes no other customer's interval; an early one takes it exactly when
some blocking booking of the charge point is still running. -/
theorem reserved_slot_kept {Body : Type} (env : Env Body) {w : World} (h : w.Reachable env)
    {operator : User} {payload : StartChargingSessionRequest} {sessionId : Uuid} {now : Timestamp}
    {b : Booking} {s : ChargingSession} {db' : Database}
    (hb : w.db.bookings.find payload.bookingId = some b)
    (hstart : startChargingSession operator payload sessionId now w.db = (.ok s, db')) :
    (∀ c ∈ w.db.bookings, c.id ≠ b.id → c.chargePointId = b.chargePointId → c.Blocking →
        ¬c.Covers now) ↔
      b.startsAt ≤ now ∨ ¬hasOverlappingBooking w.db b.chargePointId now (now + 1) = true := by
  obtain ⟨b', point, hb', hconfirmed, _, hwindow, _⟩ := startChargingSession_eq_ok.mp hstart
  rw [hb] at hb'
  cases hb'
  have hends : now < b.endsAt := by
    simp only [insideStartWindow, decide_eq_true_eq] at hwindow
    exact hwindow.2
  rw [hasOverlappingBooking_instant]
  constructor
  · intro hfree
    by_cases hontime : b.startsAt ≤ now
    · exact Or.inl hontime
    · refine Or.inr ?_
      rintro ⟨c, hc, hpoint, hblock, hcovers⟩
      refine hfree c hc ?_ hpoint hblock hcovers
      intro hid
      have hcb : c = b := by
        rw [← Option.some.injEq, ← Table.find_key hc, ← Database.find_booking_id hb]
        exact congrArg w.db.bookings.find hid
      rw [hcb] at hcovers
      exact hontime hcovers.1
  · intro hcond c hc hid hpoint hblock hcovers
    rcases hcond with hontime | hfree
    · -- both intervals contain the time of the start, which no two blocking bookings do
      have hbblock : b.Blocking := by
        simp [Booking.Blocking, blockingBookingStatuses, hconfirmed]
      refine h.sound.ledger.bookings.disjoint c.id b.id c b (Table.find_key hc)
        (Database.find_booking_id hb) hid hblock hbblock ⟨hpoint, ?_, ?_⟩
      · exact Int.lt_of_le_of_lt hcovers.1 hends
      · exact Int.lt_of_le_of_lt hontime hcovers.2
    · exact hfree ⟨c, hc, hpoint, hblock, hcovers⟩

def sampleNeighbour : User := ⟨11, .user⟩

/-- The second of two neighbouring hours is booked and paid for by another customer. -/
def sampleNeighbours : List (Action Json) :=
  sampleConfirmed ++
    [.createBookingHold sampleNeighbour
      { chargePointId := 3
        startsAt := minutes 120
        endsAt := minutes 180
        endsLater := by decide
        notTooLong := by decide } 21 0,
    .requestOrder 31 sampleNeighbour ⟨21, 1, 31⟩, .beginOrder 31 31 0, .callOrder 31,
    .closeOrder 31 (sampleOrderAnswer "order_B") 0] ++
    sampleDelivery 41 "evt_2" "payment.captured" "order_B" "pay_2"

/-- The first reading for the start of a booking in version 3, the version of a paid one. -/
def sampleStart (bookingId : Uuid) : StartChargingSessionRequest where
  bookingId := bookingId
  bookingVersion := 3
  meterStartKwh := 100
  nonNegativeMeterStart := sampleFee_nonneg
  meterStartFits := sampleReading_fits

/-- Ten minutes before the end of the first hour the operator starts the second customer's session,
while the first customer's confirmed booking is running. -/
theorem reserved_slot_kept_counterexample :
    (sampleWorld.run sampleEnv sampleNeighbours).Reachable sampleEnv ∧
      ((sampleWorld.run sampleEnv sampleNeighbours).db.bookings.find 21).map Booking.chargePointId =
        some 3 ∧
      (startChargingSession sampleOperator (sampleStart 21) 70 (minutes 110)
        (sampleWorld.run sampleEnv sampleNeighbours).db).1.isOk = true ∧
      ∃ c ∈ (sampleWorld.run sampleEnv sampleNeighbours).db.bookings, c.id ≠ 21 ∧
        c.chargePointId = 3 ∧ c.Blocking ∧ c.Covers (minutes 110) :=
  ⟨sampleWorld_reachable _, by decide +kernel, by decide +kernel, by decide +kernel⟩

/-- The same booking is started when its own hour has begun. -/
theorem reserved_slot_kept_sample :
    (startChargingSession sampleOperator (sampleStart 21) 70 (minutes 120)
      (sampleWorld.run sampleEnv sampleNeighbours).db).1.isOk = true ∧
    ∀ c ∈ (sampleWorld.run sampleEnv sampleNeighbours).db.bookings, c.id ≠ 21 →
      c.chargePointId = 3 → c.Blocking → ¬c.Covers (minutes 120) := by
  have hbooking : ∃ b ∈ (sampleWorld.run sampleEnv sampleNeighbours).db.bookings.find 21,
      b.id = 21 ∧ b.chargePointId = 3 ∧ b.startsAt ≤ minutes 120 := by decide +kernel
  obtain ⟨b, hb, hid, hpoint, hontime⟩ := hbooking
  have hok : (startChargingSession sampleOperator (sampleStart 21) 70 (minutes 120)
      (sampleWorld.run sampleEnv sampleNeighbours).db).1.isOk = true := by decide +kernel
  refine ⟨hok, ?_⟩
  cases hstart : startChargingSession sampleOperator (sampleStart 21) 70 (minutes 120)
      (sampleWorld.run sampleEnv sampleNeighbours).db with
  | mk result db' =>
      cases result with
      | error e =>
          rw [hstart] at hok
          cases hok
      | ok s =>
          have hkept := (reserved_slot_kept sampleEnv (sampleWorld_reachable sampleNeighbours) hb
            hstart).mpr (Or.inl hontime)
          rw [hid, hpoint] at hkept
          exact hkept

/-! ### Chargers out of service -/

/-- A charge point with an active session is available. -/
def Database.UsedAvailable (db : Database) : Prop :=
  ∀ point ∈ db.chargePoints, ∀ s ∈ db.chargingSessions, s.chargePointId = point.id →
    s.status = .active → point.status = .available

instance (db : Database) : Decidable db.UsedAvailable := by
  unfold Database.UsedAvailable
  infer_instance

/-- A start that passes every check of `start_charging_session` finds its charge point available. -/
def World.StartsAvailable {Body : Type} (w : World) : Action Body → Prop
  | .startChargingSession operator payload sessionId now =>
      ∀ b ∈ w.db.bookings.find payload.bookingId, b.status = .confirmed →
        b.version = payload.bookingVersion → insideStartWindow b now = true →
        ∀ point ∈ w.db.chargePoints.find b.chargePointId,
          operatorControlsChargePoint w.db operator point = true →
          ¬hasActiveChargingSession w.db b.chargePointId = true →
          w.db.chargingSessions.find sessionId = none → point.status = .available
  | _ => True

instance {Body : Type} (w : World) (a : Action Body) : Decidable (w.StartsAvailable a) := by
  cases a <;> unfold World.StartsAvailable <;> infer_instance

/-- The charge points and the sessions are all that the property reads. -/
theorem Database.UsedAvailable.congr {db db' : Database} (h : db.UsedAvailable)
    (hsame : (db'.chargePoints, db'.chargingSessions) = (db.chargePoints, db.chargingSessions)) :
    db'.UsedAvailable := by
  obtain ⟨hpoints, hsessions⟩ := Prod.mk.inj hsame
  rw [Database.UsedAvailable, hpoints, hsessions]
  exact h

theorem apart_usage : Database.Apart fun db => (db.chargePoints, db.chargingSessions) :=
  ⟨fun _ _ => rfl, fun _ _ => rfl, fun _ _ => rfl⟩

/-- An update that disables its charge point is refused while the charge point is in use. -/
theorem Database.UsedAvailable.updateChargePoint {db : Database} (h : db.UsedAvailable)
    (operator : User) (stationId chargePointId : Uuid) (payload : ChargePointUpdateRequest) :
    (updateChargePoint operator stationId chargePointId payload db).2.UsedAvailable := by
  rcases updateChargePoint_commits operator stationId chargePointId payload db with
    hsame | ⟨point', hok⟩
  · rwa [hsame]
  · obtain ⟨_, old, _, _, hold, _, _, hfree, _, hdb⟩ := updateChargePoint_eq_ok.mp hok
    rw [hdb]
    have hid : db.chargePoints.find old.id = some old := Table.find_key (Table.mem_of_find hold)
    intro point hpoint s hs hof hactive
    rcases (Table.mem_set (r := old.patch payload) hid).mp hpoint with rfl | ⟨hpoint, _⟩
    · have havailable := h old (Table.mem_of_find hold) s hs hof hactive
      have hused : hasActiveChargingSession db old.id = true :=
        List.any_eq_true.mpr ⟨s, hs, decide_eq_true ⟨hof, hactive⟩⟩
      cases hstatus : payload.status with
      | none => simp [ChargePoint.patch, patched, hstatus, havailable]
      | some status =>
          have hkept : status = .available := by
            by_contra hne
            exact hfree ⟨Or.inr ⟨status, hstatus, hne⟩, hused⟩
          simp [ChargePoint.patch, patched, hstatus, hkept]
    · exact h point hpoint s hs hof hactive

/-- A completion ends usage and starts none. -/
theorem Database.UsedAvailable.completeChargingSession {db : Database} (h : db.UsedAvailable)
    (operator : User) (sessionId : Uuid) (payload : CompleteChargingSessionRequest)
    (now : Timestamp) :
    (completeChargingSession operator sessionId payload now db).2.UsedAvailable := by
  rcases completeChargingSession_commits operator sessionId payload now db with hsame | ⟨_, hok⟩
  · rwa [hsame]
  · obtain ⟨s, b, _, db₁, hs, _, _, _, _, _, _, _, rfl, hupd, hdb⟩ :=
      completeChargingSession_eq_ok.mp hok
    obtain rfl := Database.updateChargingSession_ok hupd
    rw [hdb]
    intro point hpoint t ht hof hactive
    have hid : db.chargingSessions.find s.id = some s := Database.find_session_id hs
    rcases (Table.mem_set (r := s.complete payload.meterEndKwh now) hid).mp ht with rfl | ⟨ht, _⟩
    · cases hactive
    · exact h point hpoint t ht hof hactive

section

variable {Body : Type} {env : Env Body}

/-- A start that passes its checks commits: a confirmed booking has no session yet. -/
theorem World.Reachable.start_commits {w : World} (h : w.Reachable env) {operator : User}
    {payload : StartChargingSessionRequest} {sessionId : Uuid} {now : Timestamp} {b : Booking}
    {point : ChargePoint} (hb : w.db.bookings.find payload.bookingId = some b)
    (hconfirmed : b.status = .confirmed) (hversion : b.version = payload.bookingVersion)
    (hwindow : insideStartWindow b now = true)
    (hpoint : w.db.chargePoints.find b.chargePointId = some point)
    (hcontrols : operatorControlsChargePoint w.db operator point = true)
    (hidle : ¬hasActiveChargingSession w.db b.chargePointId = true)
    (hfresh : w.db.chargingSessions.find sessionId = none) :
    ∃ db', startChargingSession operator payload sessionId now w.db =
        (.ok (payload.session b sessionId now), db') ∧
      payload.session b sessionId now ∈ db'.chargingSessions := by
  have hfirst : uniqueColumn w.db.chargingSessions (fun s => some s.bookingId)
      (payload.session b sessionId now) = true := by
    refine uniqueColumn_eq_true.mpr fun v hv t ht htv => ?_
    obtain ⟨d, hd, huses⟩ := h.sessionsSound.uses t.id t (Table.find_key ht)
    cases hv
    rw [← huses.bookingId, Option.some.inj htv, Database.bookings_ledger,
      show (payload.session b sessionId now).bookingId = b.id from rfl,
      Database.find_booking_id hb] at hd
    cases hd
    rcases huses.inUse with hs | hs <;> simp [hconfirmed] at hs
  obtain ⟨sessions, hins⟩ := Table.exists_insert (r := payload.session b sessionId now) hfresh
  refine ⟨{ w.db.updateBooking (b.advance .active) with chargingSessions := sessions }, ?_, ?_⟩
  · refine startChargingSession_eq_ok.mpr
      ⟨b, point, hb, hconfirmed, hversion, hwindow, hpoint, hcontrols, hidle, rfl, ?_⟩
    exact Database.insertChargingSession_eq_ok.mpr
      ⟨payload.nonNegativeMeterStart, hfirst, sessions, hins, rfl⟩
  · exact (Table.mem_insert hins).mpr (Or.inr rfl)

/-- A start keeps the property exactly if it finds its charge point available. -/
theorem World.Reachable.start_available_iff {w : World} (h : w.Reachable env)
    (hw : w.db.UsedAvailable) (operator : User) (payload : StartChargingSessionRequest)
    (sessionId : Uuid) (now : Timestamp) :
    (startChargingSession operator payload sessionId now w.db).2.UsedAvailable ↔
      @World.StartsAvailable Body w (.startChargingSession operator payload sessionId now) := by
  constructor
  · intro hnext b hb hconfirmed hversion hwindow point hpoint hcontrols hidle hfresh
    obtain ⟨db', hstart, hmem⟩ := h.start_commits hb hconfirmed hversion hwindow hpoint hcontrols
      hidle hfresh
    obtain ⟨_, _, _, _, _, _, _, _, _, _, hins⟩ := startChargingSession_eq_ok.mp hstart
    obtain ⟨_, _, sessions, _, rfl⟩ := Database.insertChargingSession_eq_ok.mp hins
    rw [hstart] at hnext
    exact hnext point (Table.mem_of_find hpoint) _ hmem (Table.key_of_find hpoint).symm rfl
  · intro havailable
    rcases startChargingSession_commits operator payload sessionId now w.db with hsame | ⟨s, hok⟩
    · rwa [hsame]
    · obtain ⟨b, point, hb, hconfirmed, hversion, hwindow, hpoint, hcontrols, hidle, rfl, hins⟩ :=
        startChargingSession_eq_ok.mp hok
      obtain ⟨_, _, sessions, hins, hdb⟩ := Database.insertChargingSession_eq_ok.mp hins
      rw [hdb]
      intro point' hpoint' t ht hof hactive
      rcases (Table.mem_insert hins).mp ht with hold | rfl
      · exact hw point' hpoint' t hold hof hactive
      · have hsame : point' = point := by
          rw [← Option.some.injEq, ← Table.find_key hpoint', ← hpoint]
          exact congrArg w.db.chargePoints.find hof.symm
        rw [hsame]
        exact havailable b hb hconfirmed hversion hwindow point hpoint hcontrols hidle
          (Table.insert_eq_some.mp hins).1

/-- A session is at a charge point that is stored. -/
theorem World.Reachable.session_placed {w : World} (h : w.Reachable env) {s : ChargingSession}
    (hs : s ∈ w.db.chargingSessions) :
    ∃ point, w.db.chargePoints.find s.chargePointId = some point := by
  obtain ⟨b, hb, huses⟩ := h.sessionsSound.uses s.id s (Table.find_key hs)
  obtain ⟨point, _, hpoint, _⟩ := h.placed b (Table.mem_of_find hb)
  exact ⟨point, by rwa [huses.chargePointId]⟩

/-- No session is at a charge point that is new. -/
theorem World.Reachable.usedAvailable_createStation {w : World} (h : w.Reachable env)
    (hw : w.db.UsedAvailable) (owner : User) (payload : StationCreateRequest) (stationId : Uuid)
    (pointIds : List Uuid) :
    (createStation owner payload stationId pointIds w.db).2.UsedAvailable := by
  have hfind := (createStation_find owner payload stationId pointIds w.db).2
  rcases createStation_kept owner payload stationId pointIds w.db with
    heq | ⟨stations, chargePoints, heq, _⟩
  · rwa [heq]
  · rw [heq] at hfind ⊢
    intro point hpoint s hs hof hactive
    obtain ⟨old, hold⟩ := h.session_placed hs
    rw [hof] at hold
    have hsame : point = old :=
      Option.some.inj ((Table.find_key hpoint).symm.trans (hfind point.id old hold))
    rw [hsame]
    exact hw old (Table.mem_of_find hold) s hs (hof.trans (Table.key_of_find hold).symm) hactive

/-- Nothing but a start on a charge point out of service breaks the property. -/
theorem World.Reachable.usedAvailable_iff {w : World} (h : w.Reachable env)
    (hw : w.db.UsedAvailable) (a : Action Body) :
    (w.step env a).db.UsedAvailable ↔ w.StartsAvailable a := by
  by_cases hplain : a.Plain
  · by_cases hedits : a.EditsStation
    · cases a with
      | createStation owner payload stationId pointIds =>
          exact iff_of_true (h.usedAvailable_createStation hw owner payload stationId pointIds)
            trivial
      | updateStation operator stationId payload =>
          obtain ⟨stations, heq⟩ := updateStation_kept operator stationId payload w.db
          refine iff_of_true ?_ trivial
          rw [World.step, heq]
          exact hw
      | updateChargePoint operator stationId chargePointId payload =>
          exact iff_of_true (hw.updateChargePoint operator stationId chargePointId payload) trivial
      | _ => exact hedits.elim
    · refine iff_of_true (hw.congr (w.step_view env apart_usage hplain hedits)) ?_
      cases a with
      | startChargingSession => exact hplain.elim
      | _ => trivial
  · cases a with
    | storeDelivery deliveryId eventRowId now =>
        refine iff_of_true (hw.congr ?_) trivial
        simp only [World.step, World.storeDelivery]
        split
        · exact related_storeDelivery apart_usage.respected.preserved (fun _ _ => rfl) _ eventRowId now w.db
        · rfl
    | startChargingSession operator payload sessionId now =>
        exact h.start_available_iff hw operator payload sessionId now
    | completeChargingSession operator sessionId payload now =>
        exact iff_of_true (hw.completeChargingSession operator sessionId payload now) trivial
    | _ => exact absurd trivial hplain

end

/-- In a run every charge point in use is available throughout, exactly when each start of the run
finds its charge point available. -/
theorem no_charging_out_of_service {Body : Type} (env : Env Body) {w : World} (h : w.Initial)
    (actions : List (Action Body)) :
    (∀ before, before <+: actions → (w.run env before).db.UsedAvailable) ↔
      Transition.Along (World.step env) World.StartsAvailable w actions := by
  refine Transition.Along.exact (P := fun w : World => w.db.UsedAvailable)
    (fun w a hreach hw => World.Reachable.usedAvailable_iff hreach hw a)
    (Transition.Reachable.initial h) ?_ actions
  intro point _ s hs
  rw [h.chargingSessions] at hs
  exact absurd hs (Table.notMem_empty s)

/-- The operator takes a paid charge point out of service and starts the booking on it. -/
def sampleOutOfService : List (Action Json) :=
  sampleConfirmed ++
    [.updateChargePoint sampleOperator 1 3
      { version := 1
        maxPowerKw := none
        bookingFee := none
        nonNegativeBookingFee := sampleUnset_nonneg
        isBookable := none
        status := some .outOfService },
    .startChargingSession sampleOperator (sampleStart 20) 70 (minutes 60)]

theorem no_charging_out_of_service_counterexample :
    (sampleWorld.run sampleEnv sampleOutOfService).Reachable sampleEnv ∧
      ∃ point ∈ (sampleWorld.run sampleEnv sampleOutOfService).db.chargePoints,
        ∃ s ∈ (sampleWorld.run sampleEnv sampleOutOfService).db.chargingSessions,
          s.chargePointId = point.id ∧ s.status = .active ∧ point.status = .outOfService :=
  ⟨sampleWorld_reachable _, by decide +kernel⟩

/-- The paid booking is started, and then the charge point cannot be taken out of service. -/
theorem no_charging_out_of_service_sample :
    (sampleWorld.run sampleEnv (sampleConfirmed ++
      [.startChargingSession sampleOperator (sampleStart 20) 70 (minutes 60)])).db.UsedAvailable :=
  (no_charging_out_of_service sampleEnv sampleWorld_initial (sampleConfirmed ++
    [.startChargingSession sampleOperator (sampleStart 20) 70 (minutes 60)])).mpr
      (by decide +kernel) _ List.prefix_rfl

end ChargeMate
