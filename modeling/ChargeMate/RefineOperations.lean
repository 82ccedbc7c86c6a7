import ChargeMate.RefineDatabase

/-! The transactions on bookings, charging sessions, stations and charge points, each with exactly
what it checks and what it commits. -/

namespace ChargeMate

open Relational

/-! ### Bookings -/

/-- The row of a granted hold, at the current fee of its charge point. -/
def BookingHoldRequest.booking (payload : BookingHoldRequest) (holdMinutes : Int) (user : User)
    (chargePoint : ChargePoint) (bookingId : Uuid) (now : Timestamp) : Booking where
  id := bookingId
  userId := user.id
  chargePointId := chargePoint.id
  startsAt := payload.startsAt
  endsAt := payload.endsAt
  positiveDuration := payload.endsLater
  holdExpiresAt := some (now + minutes holdMinutes)
  status := .held
  totalAmount := some chargePoint.bookingFee
  currency := "INR"
  version := 1
  cancelledAt := none

theorem createBookingHold_eq_ok {holdMinutes : Int} {user : User} {payload : BookingHoldRequest}
    {bookingId : Uuid} {now : Timestamp} {db db' : Database} {b : Booking} :
    createBookingHold holdMinutes user payload bookingId now db = (.ok b, db') ↔
      now < payload.startsAt ∧ ∃ point, db.chargePoints.find payload.chargePointId = some point ∧
        chargePointAcceptsBookings db point = true ∧
        ¬hasOverlappingBooking (expireStaleHolds point.id now db) point.id payload.startsAt
          payload.endsAt = true ∧
        b = payload.booking holdMinutes user point bookingId now ∧
        (expireStaleHolds point.id now db).insertBooking b = .ok db' := by
  unfold createBookingHold
  split
  · next hpast => simp [not_lt.mpr hpast]
  · next hfuture =>
    rw [transaction_eq_ok]
    simp only [bind_eq_ok, orRaise_eq_ok, ensure_eq_ok, pure_eq_ok, Prod.mk.injEq]
    constructor
    · rintro ⟨point, hpoint, _, haccepts, _, hfree, db₁, hins, rfl, rfl⟩
      exact ⟨not_le.mp hfuture, point, hpoint, haccepts, hfree, rfl, hins⟩
    · rintro ⟨_, point, hpoint, haccepts, hfree, rfl, hins⟩
      exact ⟨point, hpoint, (), haccepts, (), hfree, db', hins, rfl, rfl⟩

theorem createBookingHold_commits (holdMinutes : Int) (user : User) (payload : BookingHoldRequest)
    (bookingId : Uuid) (now : Timestamp) (db : Database) :
    (createBookingHold holdMinutes user payload bookingId now db).2 = db ∨
      ∃ b, createBookingHold holdMinutes user payload bookingId now db =
        (.ok b, (createBookingHold holdMinutes user payload bookingId now db).2) := by
  unfold createBookingHold
  split
  · exact Or.inl rfl
  · exact transaction_commits

theorem cancelUserBooking_eq_ok {userId bookingId : Uuid} {expectedVersion : Nat} {now : Timestamp}
    {db db' : Database} {b' : Option Booking} :
    cancelUserBooking userId bookingId expectedVersion now db = (.ok b', db') ↔
      ∃ b, db.bookings.find bookingId = some b ∧ b.userId = userId ∧ b.version = expectedVersion ∧
        b.status ∈ cancellableBookingStatuses ∧
        (b.status ≠ .held ∨ timestampIsAfter b.holdExpiresAt now = true) ∧
        db' = db.updateBooking (b.cancel now) ∧ b' = db'.bookings.find bookingId := by
  rw [cancelUserBooking, transaction_eq_ok]
  simp only [bind_eq_ok, orRaise_eq_ok, ensure_eq_ok, pure_eq_ok, Prod.mk.injEq]
  constructor
  · rintro ⟨b, hb, _, ⟨huser, hversion, hstatus, hunexpired⟩, rfl, rfl⟩
    exact ⟨b, hb, huser, hversion, hstatus, hunexpired, rfl, rfl⟩
  · rintro ⟨b, hb, huser, hversion, hstatus, hunexpired, rfl, rfl⟩
    exact ⟨b, hb, (), ⟨huser, hversion, hstatus, hunexpired⟩, rfl, rfl⟩

theorem cancelUserBooking_commits (userId bookingId : Uuid) (expectedVersion : Nat)
    (now : Timestamp) (db : Database) :
    (cancelUserBooking userId bookingId expectedVersion now db).2 = db ∨
      ∃ b, cancelUserBooking userId bookingId expectedVersion now db =
        (.ok b, (cancelUserBooking userId bookingId expectedVersion now db).2) :=
  transaction_commits

/-! ### Charging sessions -/

/-- The session that a start inserts. -/
def StartChargingSessionRequest.session (payload : StartChargingSessionRequest) (b : Booking)
    (sessionId : Uuid) (now : Timestamp) : ChargingSession where
  id := sessionId
  bookingId := b.id
  userId := b.userId
  chargePointId := b.chargePointId
  status := .active
  startedAt := now
  endedAt := none
  meterStartKwh := payload.meterStartKwh
  meterEndKwh := none
  energyConsumedKwh := none
  version := 1

/-- The session as a completion leaves it. -/
def ChargingSession.complete (s : ChargingSession) (meterEndKwh : Decimal) (now : Timestamp) :
    ChargingSession :=
  { s with
    status := .completed
    endedAt := some now
    meterEndKwh := some meterEndKwh
    energyConsumedKwh := some (meterEndKwh - s.meterStartKwh)
    version := s.version + 1 }

/-- The operator passes `_operator_controls_charge_point` for the charge point of the booking. -/
def Database.Controls (db : Database) (operator : User) (b : Booking) : Prop :=
  ∃ point, db.chargePoints.find b.chargePointId = some point ∧
    operatorControlsChargePoint db operator point = true

theorem checkStart_eq_ok {operator : User} {payload : StartChargingSessionRequest}
    {now : Timestamp} {db : Database} {b : Booking} :
    checkStart operator payload now db = .ok b ↔
      db.bookings.find payload.bookingId = some b ∧ b.status = .confirmed ∧
        b.version = payload.bookingVersion ∧ insideStartWindow b now = true ∧
        db.Controls operator b := by
  simp only [checkStart, bind_eq_ok, orRaise_eq_ok, ensure_eq_ok, pure_eq_ok]
  constructor
  · rintro ⟨_, hb, _, ⟨hconfirmed, hversion⟩, _, hwindow, point, hpoint, _, hcontrols, rfl⟩
    exact ⟨hb, hconfirmed, hversion, hwindow, point, hpoint, hcontrols⟩
  · rintro ⟨hb, hconfirmed, hversion, hwindow, point, hpoint, hcontrols⟩
    exact ⟨b, hb, (), ⟨hconfirmed, hversion⟩, (), hwindow, point, hpoint, (), hcontrols, rfl⟩

theorem startChargingSession_eq_ok {operator : User} {payload : StartChargingSessionRequest}
    {sessionId : Uuid} {now : Timestamp} {db db' : Database} {s : ChargingSession} :
    startChargingSession operator payload sessionId now db = (.ok s, db') ↔
      ∃ b point, db.bookings.find payload.bookingId = some b ∧ b.status = .confirmed ∧
        b.version = payload.bookingVersion ∧ insideStartWindow b now = true ∧
        db.chargePoints.find b.chargePointId = some point ∧
        operatorControlsChargePoint db operator point = true ∧
        ¬hasActiveChargingSession db b.chargePointId = true ∧
        s = payload.session b sessionId now ∧
        (db.updateBooking (b.advance .active)).insertChargingSession s = .ok db' := by
  rw [startChargingSession, transaction_eq_ok]
  simp only [bind_eq_ok, checkStart_eq_ok, ensure_eq_ok, pure_eq_ok, Prod.mk.injEq]
  constructor
  · rintro ⟨b, ⟨hb, hconfirmed, hversion, hwindow, point, hpoint, hcontrols⟩, _, hidle, db₁, hins,
      rfl, rfl⟩
    exact ⟨b, point, hb, hconfirmed, hversion, hwindow, hpoint, hcontrols, hidle, rfl, hins⟩
  · rintro ⟨b, point, hb, hconfirmed, hversion, hwindow, hpoint, hcontrols, hidle, rfl, hins⟩
    exact ⟨b, ⟨hb, hconfirmed, hversion, hwindow, point, hpoint, hcontrols⟩, (), hidle, db', hins,
      rfl, rfl⟩

theorem startChargingSession_commits (operator : User) (payload : StartChargingSessionRequest)
    (sessionId : Uuid) (now : Timestamp) (db : Database) :
    (startChargingSession operator payload sessionId now db).2 = db ∨
      ∃ s, startChargingSession operator payload sessionId now db =
        (.ok s, (startChargingSession operator payload sessionId now db).2) :=
  transaction_commits

theorem completeChargingSession_eq_ok {operator : User} {sessionId : Uuid}
    {payload : CompleteChargingSessionRequest} {now : Timestamp} {db db' : Database}
    {s' : ChargingSession} :
    completeChargingSession operator sessionId payload now db = (.ok s', db') ↔
      ∃ s b point db₁, db.chargingSessions.find sessionId = some s ∧ s.status = .active ∧
        s.version = payload.version ∧ s.meterStartKwh ≤ payload.meterEndKwh ∧
        db.bookings.find s.bookingId = some b ∧ b.status = .active ∧
        db.chargePoints.find s.chargePointId = some point ∧
        operatorControlsChargePoint db operator point = true ∧
        s' = s.complete payload.meterEndKwh now ∧ db.updateChargingSession s' = .ok db₁ ∧
        db' = db₁.updateBooking (b.advance .completed) := by
  rw [completeChargingSession, transaction_eq_ok]
  simp only [bind_eq_ok, orRaise_eq_ok, ensure_eq_ok, pure_eq_ok, Prod.mk.injEq]
  constructor
  · rintro ⟨s, hs, _, ⟨hsactive, hversion⟩, _, hmeter, b, hb, _, hactive, point, hpoint, _, hcontrols,
      db₁, hupd, rfl, rfl⟩
    exact ⟨s, b, point, db₁, hs, hsactive, hversion, hmeter, hb, hactive, hpoint, hcontrols, rfl,
      hupd, rfl⟩
  · rintro ⟨s, b, point, db₁, hs, hsactive, hversion, hmeter, hb, hactive, hpoint, hcontrols, rfl,
      hupd, rfl⟩
    exact ⟨s, hs, (), ⟨hsactive, hversion⟩, (), hmeter, b, hb, (), hactive, point, hpoint, (),
      hcontrols, db₁, hupd, rfl, rfl⟩

theorem completeChargingSession_commits (operator : User) (sessionId : Uuid)
    (payload : CompleteChargingSessionRequest) (now : Timestamp) (db : Database) :
    (completeChargingSession operator sessionId payload now db).2 = db ∨
      ∃ s, completeChargingSession operator sessionId payload now db =
        (.ok s, (completeChargingSession operator sessionId payload now db).2) :=
  transaction_commits

/-! ### Stations and charge points -/

/-- The rule for activation: a bookable and available charge point of the station. -/
def Database.CanActivate (db : Database) (stationId : Uuid) : Prop :=
  ∃ point ∈ db.chargePoints.rows, point.stationId = stationId ∧ point.isBookable = true ∧
    point.status = .available

instance (db : Database) (stationId : Uuid) : Decidable (db.CanActivate stationId) := by
  unfold Database.CanActivate
  infer_instance

theorem updateStation_eq_ok {operator : User} {stationId : Uuid} {payload : StationUpdateRequest}
    {db db' : Database} {station' : ChargingStation} :
    updateStation operator stationId payload db = (.ok station', db') ↔
      ∃ station, db.stations.find stationId = some station ∧
        operatorControlsStation operator station = true ∧ station.version = payload.version ∧
        (payload.status = some .active → db.CanActivate station.id) ∧
        station' = station.patch payload ∧
        db' = { db with stations := db.stations.set (station.patch payload) } := by
  rw [updateStation, transaction_eq_ok]
  simp only [bind_eq_ok, orRaise_eq_ok, ensure_eq_ok, pure_eq_ok, Prod.mk.injEq]
  constructor
  · rintro ⟨station, hstation, _, hcontrols, _, hversion, _, hactive, rfl, rfl⟩
    exact ⟨station, hstation, hcontrols, hversion, hactive, rfl, rfl⟩
  · rintro ⟨station, hstation, hcontrols, hversion, hactive, rfl, rfl⟩
    exact ⟨station, hstation, (), hcontrols, (), hversion, (), hactive, rfl, rfl⟩

theorem updateStation_commits (operator : User) (stationId : Uuid) (payload : StationUpdateRequest)
    (db : Database) : (updateStation operator stationId payload db).2 = db ∨
      ∃ station, updateStation operator stationId payload db =
        (.ok station, (updateStation operator stationId payload db).2) :=
  transaction_commits

/-- It writes stations only. -/
theorem updateStation_kept (operator : User) (stationId : Uuid) (payload : StationUpdateRequest)
    (db : Database) : ∃ stations,
      (updateStation operator stationId payload db).2 = { db with stations } := by
  rcases updateStation_commits operator stationId payload db with hkept | ⟨station', hok⟩
  · exact ⟨db.stations, hkept⟩
  · obtain ⟨station, _, _, _, _, _, hdb⟩ := updateStation_eq_ok.mp hok
    exact ⟨_, hdb⟩

theorem updateChargePoint_eq_ok {operator : User} {stationId chargePointId : Uuid}
    {payload : ChargePointUpdateRequest} {db db' : Database} {point' : ChargePoint} :
    updateChargePoint operator stationId chargePointId payload db = (.ok point', db') ↔
      ∃ station point, db.stations.find stationId = some station ∧
        operatorControlsStation operator station = true ∧
        db.chargePoints.find chargePointId = some point ∧ point.stationId = stationId ∧
        point.version = payload.version ∧
        ¬(payload.Disables ∧ hasActiveChargingSession db point.id = true) ∧
        point' = point.patch payload ∧
        db' = { db with chargePoints := db.chargePoints.set (point.patch payload) } := by
  rw [updateChargePoint, transaction_eq_ok]
  simp only [bind_eq_ok, orRaise_eq_ok, ensure_eq_ok, pure_eq_ok, Prod.mk.injEq,
    Option.filter_eq_some_iff, decide_eq_true_eq]
  constructor
  · rintro ⟨station, hstation, _, hcontrols, point, ⟨hpoint, hof⟩, _, hversion, _, hfree, rfl, rfl⟩
    exact ⟨station, point, hstation, hcontrols, hpoint, hof, hversion, hfree, rfl, rfl⟩
  · rintro ⟨station, point, hstation, hcontrols, hpoint, hof, hversion, hfree, rfl, rfl⟩
    exact ⟨station, hstation, (), hcontrols, point, ⟨hpoint, hof⟩, (), hversion, (), hfree, rfl, rfl⟩

theorem updateChargePoint_commits (operator : User) (stationId chargePointId : Uuid)
    (payload : ChargePointUpdateRequest) (db : Database) :
    (updateChargePoint operator stationId chargePointId payload db).2 = db ∨
      ∃ point, updateChargePoint operator stationId chargePointId payload db =
        (.ok point, (updateChargePoint operator stationId chargePointId payload db).2) :=
  transaction_commits

/-- It writes charge points only. -/
theorem updateChargePoint_kept (operator : User) (stationId chargePointId : Uuid)
    (payload : ChargePointUpdateRequest) (db : Database) : ∃ chargePoints,
      (updateChargePoint operator stationId chargePointId payload db).2 =
        { db with chargePoints } := by
  rcases updateChargePoint_commits operator stationId chargePointId payload db with
    hkept | ⟨point', hok⟩
  · exact ⟨db.chargePoints, hkept⟩
  · obtain ⟨_, point, _, _, _, _, _, _, _, hdb⟩ := updateChargePoint_eq_ok.mp hok
    exact ⟨_, hdb⟩

/-! ### New stations -/

theorem Database.mem_insertChargePoint {db db' : Database} {p : ChargePoint}
    (h : db.insertChargePoint p = .ok db') {q : ChargePoint} :
    q ∈ db'.chargePoints ↔ q ∈ db.chargePoints ∨ q = p := by
  simp only [insertChargePoint, bind_eq_ok, ensure_eq_ok, orRaise_eq_ok, pure_eq_ok] at h
  obtain ⟨_, -, t, hins, rfl⟩ := h
  exact Table.mem_insert hins

theorem Database.foldlM_insertChargePoint_kept {points : List ChargePoint} {db db' : Database}
    (h : points.foldlM Database.insertChargePoint db = .ok db') :
    ∃ chargePoints, db' = { db with chargePoints } ∧
      ∀ p, p ∈ chargePoints ↔ p ∈ db.chargePoints ∨ p ∈ points := by
  induction points generalizing db with
  | nil =>
      simp only [List.foldlM_nil, pure_eq_ok] at h
      subst h
      exact ⟨db.chargePoints, rfl, fun p => by simp⟩
  | cons point points ih =>
      rw [List.foldlM_cons, bind_eq_ok] at h
      obtain ⟨db₁, hins, hrest⟩ := h
      have hmem := fun p => Database.mem_insertChargePoint hins (q := p)
      obtain ⟨chargePoints, hdb, hpoints⟩ := ih hrest
      simp only [insertChargePoint, bind_eq_ok, ensure_eq_ok, orRaise_eq_ok, pure_eq_ok] at hins
      obtain ⟨_, -, t, _, rfl⟩ := hins
      refine ⟨chargePoints, hdb, fun p => ?_⟩
      rw [hpoints, hmem, List.mem_cons, or_assoc]

theorem StationCreateRequest.stationId_of_mem_points {payload : StationCreateRequest}
    {stationId : Uuid} {pointIds : List Uuid} {p : ChargePoint}
    (hp : p ∈ payload.points stationId pointIds) : p.stationId = stationId := by
  obtain ⟨_, -, rfl⟩ := List.mem_map.mp hp
  rfl

/-- It writes stations and charge points only, and these only by new rows. -/
theorem createStation_kept (owner : User) (payload : StationCreateRequest) (stationId : Uuid)
    (pointIds : List Uuid) (db : Database) :
    (createStation owner payload stationId pointIds db).2 = db ∨
      ∃ stations chargePoints, (createStation owner payload stationId pointIds db).2 =
          { db with stations, chargePoints } ∧
        db.stations.insert (payload.station owner stationId) = some stations ∧
        ∀ p, p ∈ chargePoints ↔ p ∈ db.chargePoints ∨ p ∈ payload.points stationId pointIds := by
  rcases transaction_cases .stationConflictError _ db with ⟨e, he⟩ | ⟨station, db', hblock, heq⟩
  · exact Or.inl (congrArg Prod.snd he)
  · simp only [Database.insertStation, bind_eq_ok, orRaise_eq_ok, pure_eq_ok, Prod.mk.injEq]
      at hblock
    obtain ⟨_, ⟨stations, hins, rfl⟩, _, hfold, _, rfl⟩ := hblock
    obtain ⟨chargePoints, rfl, hpoints⟩ := Database.foldlM_insertChargePoint_kept hfold
    exact Or.inr ⟨stations, chargePoints, congrArg Prod.snd heq, hins, hpoints⟩

theorem ledger_createStation (owner : User) (payload : StationCreateRequest) (stationId : Uuid)
    (pointIds : List Uuid) (db : Database) :
    (createStation owner payload stationId pointIds db).2.ledger = db.ledger := by
  rcases createStation_kept owner payload stationId pointIds db with heq | ⟨_, _, heq, _⟩ <;> rw [heq]
  rfl

/-- The rows that are there stay. -/
theorem createStation_find (owner : User) (payload : StationCreateRequest) (stationId : Uuid)
    (pointIds : List Uuid) (db : Database) :
    (∀ id station, db.stations.find id = some station →
      (createStation owner payload stationId pointIds db).2.stations.find id = some station) ∧
    ∀ id point, db.chargePoints.find id = some point →
      (createStation owner payload stationId pointIds db).2.chargePoints.find id = some point := by
  rcases createStation_kept owner payload stationId pointIds db with
    heq | ⟨stations, chargePoints, heq, hins, hpoints⟩
  · rw [heq]
    exact ⟨fun _ _ h => h, fun _ _ h => h⟩
  · rw [heq]
    constructor
    · intro id station h
      have hfound := Table.find_insert_of_mem hins (Table.mem_of_find h)
      rwa [Table.key_of_find h] at hfound
    · intro id point h
      have hmem := (hpoints point).mpr (Or.inl (Table.mem_of_find h))
      rw [← Table.key_of_find h]
      exact Table.find_key hmem

end ChargeMate
