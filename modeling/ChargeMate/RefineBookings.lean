import ChargeMate.RefineOperations

/-! The transactions of bookings and charging sessions are moves. -/

namespace ChargeMate

open Relational

theorem ledger_expireHolds (among : Booking → Bool) (now : Timestamp) (db : Database) :
    (expireHolds among now db).ledger = db.ledger.expire among now := by
  have hrows := db.bookings.register_updateWhere (fun b => among b && b.holdLapsed now)
    Booking.expire fun _ => rfl
  exact congrArg (fun bookings => { db.ledger with bookings }) hrows

theorem expireHolds_move (among : Booking → Bool) (now : Timestamp) (db : Database) :
    Move db.ledger .other (expireHolds among now db).ledger := by
  rw [ledger_expireHolds]
  exact Move.expire among now

/-- The overlap check reads every stored booking. -/
theorem hasOverlappingBooking_eq_false {db : Database} {chargePointId : Uuid}
    {startsAt endsAt : Timestamp}
    (h : ¬hasOverlappingBooking db chargePointId startsAt endsAt = true) {id : Uuid} {c : Booking}
    (hc : db.bookings.find id = some c) (hblock : c.Blocking)
    (hpoint : c.chargePointId = chargePointId) : ¬(c.startsAt < endsAt ∧ startsAt < c.endsAt) := by
  intro hover
  apply h
  refine List.any_eq_true.mpr ⟨c, Table.mem_of_find hc, ?_⟩
  exact decide_eq_true ⟨hpoint, hblock, hover⟩

theorem createBookingHold_move (holdMinutes : Int) (user : User) (payload : BookingHoldRequest)
    (bookingId : Uuid) (now : Timestamp) (db : Database) :
    Move db.ledger .other (createBookingHold holdMinutes user payload bookingId now db).2.ledger := by
  rcases createBookingHold_commits holdMinutes user payload bookingId now db with hkept | ⟨b, hok⟩
  · rw [hkept]
    exact Move.stay
  · obtain ⟨_, point, hpoint, _, hfree, rfl, hins⟩ := createBookingHold_eq_ok.mp hok
    obtain ⟨hnew, hledger⟩ := Database.ledger_insertBooking hins
    rw [hledger, expireStaleHolds, ledger_expireHolds]
    refine Move.hold _ now _ ?_ ⟨rfl, rfl, rfl, Option.some_ne_none _⟩ ?_
    · -- the insertion was checked after the expiry, which deletes nothing
      rw [expireStaleHolds, ← Database.bookings_ledger, ledger_expireHolds,
        Ledger.bookings_expire, Option.map_eq_none_iff] at hnew
      exact hnew
    · intro id c hc hblock hover
      rw [← ledger_expireHolds] at hc
      exact hasOverlappingBooking_eq_false hfree hc hblock hover.1 hover.2

theorem findUserBookings_move (userId : Uuid) (query : BookingListQuery) (now : Timestamp)
    (db : Database) : Move db.ledger .other (findUserBookings userId query now db).2.ledger :=
  expireHolds_move _ now db

theorem getUserBooking_move (userId bookingId : Uuid) (now : Timestamp) (db : Database) :
    Move db.ledger .other (getUserBooking userId bookingId now db).2.ledger :=
  expireHolds_move _ now db

theorem expireStaleBookingHolds_move (now : Timestamp) (batchSize : Nat) (locked : List Uuid)
    (db : Database) :
    Move db.ledger .other (expireStaleBookingHolds now batchSize locked db).2.ledger :=
  expireHolds_move _ now db

/-- A stored booking is stored under its identifier. -/
theorem Database.find_booking_id {db : Database} {id : Uuid} {b : Booking}
    (hb : db.bookings.find id = some b) : db.bookings.find b.id = some b := by
  rwa [show b.id = id from Table.key_of_find hb]

theorem Database.find_payment_id {db : Database} {id : Uuid} {p : Payment}
    (hp : db.payments.find id = some p) : db.payments.find p.id = some p := by
  rwa [show p.id = id from Table.key_of_find hp]

theorem Database.find_refund_id {db : Database} {id : Uuid} {r : Refund}
    (hr : db.refunds.find id = some r) : db.refunds.find r.id = some r := by
  rwa [show r.id = id from Table.key_of_find hr]

theorem Database.find_session_id {db : Database} {id : Uuid} {s : ChargingSession}
    (hs : db.chargingSessions.find id = some s) : db.chargingSessions.find s.id = some s := by
  rwa [show s.id = id from Table.key_of_find hs]

/-- The confirmed booking that a cancellation with this owner and version finds. -/
def Database.confirmedBooking (db : Database) (userId bookingId : Uuid) (expectedVersion : Nat) :
    Option Booking :=
  (db.bookings.find bookingId).filter fun b =>
    b.userId = userId ∧ b.version = expectedVersion ∧ b.status = .confirmed

theorem Database.confirmedBooking_eq_some {db : Database} {userId bookingId : Uuid}
    {expectedVersion : Nat} {b : Booking} :
    db.confirmedBooking userId bookingId expectedVersion = some b ↔
      db.bookings.find bookingId = some b ∧ b.userId = userId ∧ b.version = expectedVersion ∧
        b.status = .confirmed := by
  simp only [confirmedBooking, Option.filter_eq_some_iff, decide_eq_true_eq]

theorem cancelUserBooking_move (userId bookingId : Uuid) (expectedVersion : Nat) (now : Timestamp)
    (db : Database) : ∃ c, (c = .other ∨ (c = .cancel bookingId ∧ ∀ b,
        db.bookings.find bookingId = some b → b.status = .confirmed →
          db.confirmedBooking userId bookingId expectedVersion = some b)) ∧
      Move db.ledger c (cancelUserBooking userId bookingId expectedVersion now db).2.ledger := by
  rcases cancelUserBooking_commits userId bookingId expectedVersion now db with h | ⟨b', hok⟩
  · rw [h]
    exact ⟨.other, Or.inl rfl, Move.stay⟩
  · obtain ⟨b, hb, huser, hversion, hstatus, _, h, _⟩ := cancelUserBooking_eq_ok.mp hok
    have hid := Database.find_booking_id hb
    have hbid : b.id = bookingId := Table.key_of_find hb
    rw [h, Database.ledger_updateBooking (b := b.cancel now) hid, ← hbid]
    refine ⟨.cancel b.id, Or.inr ⟨rfl, fun d hd hconfirmed => ?_⟩, Move.cancel b now hid hstatus⟩
    rw [hid] at hd
    cases hd
    exact Database.confirmedBooking_eq_some.mpr ⟨hid, huser, hversion, hconfirmed⟩

/-! ### Charging sessions -/

theorem hasActiveChargingSession_eq_false {db : Database} {chargePointId : Uuid}
    (h : ¬hasActiveChargingSession db chargePointId = true) {id : Uuid} {s : ChargingSession}
    (hs : db.chargingSessions.find id = some s) (hactive : s.status = .active) :
    s.chargePointId ≠ chargePointId := by
  intro hpoint
  apply h
  exact List.any_eq_true.mpr ⟨s, Table.mem_of_find hs, decide_eq_true ⟨hpoint, hactive⟩⟩

theorem startChargingSession_move (operator : User) (payload : StartChargingSessionRequest)
    (sessionId : Uuid) (now : Timestamp) (db : Database) :
    Move db.ledger .other (startChargingSession operator payload sessionId now db).2.ledger := by
  rcases startChargingSession_commits operator payload sessionId now db with h | ⟨s, hok⟩
  · rw [h]
    exact Move.stay
  · obtain ⟨b, _, hb, hconfirmed, _, _, _, _, hidle, rfl, hins⟩ := startChargingSession_eq_ok.mp hok
    have hid := Database.find_booking_id hb
    obtain ⟨hnew, hfirst, hledger⟩ := Database.ledger_insertChargingSession hins
    rw [hledger, Database.ledger_updateBooking (b := b.advance .active) hid]
    refine Move.start b _ hid hconfirmed hnew rfl rfl rfl rfl rfl ?_ ?_
    · exact fun id s' hs' => hfirst id s' hs'
    · intro id s' hs' hs'active
      exact hasActiveChargingSession_eq_false hidle hs' hs'active

theorem completeChargingSession_move (operator : User) (sessionId : Uuid)
    (payload : CompleteChargingSessionRequest) (now : Timestamp) (db : Database) :
    Move db.ledger .other (completeChargingSession operator sessionId payload now db).2.ledger := by
  rcases completeChargingSession_commits operator sessionId payload now db with h | ⟨s', hok⟩
  · rw [h]
    exact Move.stay
  · obtain ⟨s, b, _, db₁, hs, hsactive, _, _, hb, hactive, _, _, rfl, hupd, h⟩ :=
      completeChargingSession_eq_ok.mp hok
    have hsid := Database.find_session_id hs
    have hbid := Database.find_booking_id hb
    have hledger := Database.ledger_updateChargingSession hupd hsid
    have hb₁ : db₁.bookings.find b.id = some b := by
      rw [← Database.bookings_ledger, hledger]
      exact hbid
    have hbooking : b.id = s.bookingId := Table.key_of_find hb
    rw [h, Database.ledger_updateBooking (b := b.advance .completed) hb₁, hledger]
    exact Move.complete b s _ hbid hactive hsid hsactive hbooking.symm rfl rfl rfl rfl rfl rfl

/-! ### Stations and charge points -/

theorem ledger_updateStation (operator : User) (stationId : Uuid) (payload : StationUpdateRequest)
    (db : Database) : (updateStation operator stationId payload db).2.ledger = db.ledger := by
  obtain ⟨stations, heq⟩ := updateStation_kept operator stationId payload db
  rw [heq]
  rfl

theorem ledger_updateChargePoint (operator : User) (stationId chargePointId : Uuid)
    (payload : ChargePointUpdateRequest) (db : Database) :
    (updateChargePoint operator stationId chargePointId payload db).2.ledger = db.ledger := by
  obtain ⟨chargePoints, heq⟩ := updateChargePoint_kept operator stationId chargePointId payload db
  rw [heq]
  rfl

end ChargeMate
