import ChargeMate.RefineOperations
import ChargeMate.RefineOwners
import ChargeMate.SafetySessions

/-! Whose rows a call reads and writes. A customer's call writes rows of that customer and returns
no other; an operator's call writes rows of stations that the operator owns. -/

namespace ChargeMate

open Relational

/-! ### Customers -/

/-- The customer for whom an action runs. -/
def World.callerOf {Body : Type} (w : World) : Action Body → Option Uuid
  | .createBookingHold user _ _ _ => some user.id
  | .findUserBookings userId _ _ => some userId
  | .getUserBooking userId _ _ => some userId
  | .cancelUserBooking userId _ _ _ => some userId
  | .requestOrder _ user _ => some user.id
  | .beginOrder requestId _ _ => (w.orderRequests.find requestId).map fun r => r.user.id
  | .callOrder requestId => (w.orderRequests.find requestId).map fun r => r.user.id
  | .closeOrder requestId _ _ => (w.orderRequests.find requestId).map fun r => r.user.id
  | .verifyCheckoutPayment user _ => some user.id
  | .requestCancellation _ userId _ _ _ _ _ _ => some userId
  | .callRefund requestId =>
      (w.cancellationRequests.find requestId).map CancellationRequest.userId
  | .closeCancellation requestId _ _ =>
      (w.cancellationRequests.find requestId).map CancellationRequest.userId
  | .readCancellation requestId =>
      (w.cancellationRequests.find requestId).map CancellationRequest.userId
  | _ => none

section

variable {Body : Type} {env : Env Body} {w : World}

/-- The rows that the settlement of a request in flight is about. -/
theorem World.Reachable.cancellation_rows (h : w.Reachable env) {id : Uuid}
    {r : CancellationRequest} {snapshot : RefundRequestSnapshot}
    (hr : w.cancellationRequests.find id = some r) (hflight : r.InFlight snapshot) :
    ∃ f p, w.db.refunds.find snapshot.refundId = some f ∧
      w.db.payments.find snapshot.paymentId = some p ∧ f.paymentId = snapshot.paymentId ∧
      p.userId = r.userId := by
  obtain ⟨f, _, hf, _, hdesc⟩ := (h.sound.cancellations.requests id r snapshot hr hflight.carries).2
  obtain ⟨p, hp, huser⟩ := (h.cancellations_own id r hr).attempt snapshot hflight.carries
  exact ⟨f, p, hf, hp, hdesc.paymentId, huser⟩

theorem World.Reachable.keepsOthers (h : w.Reachable env) {userId : Uuid} (a : Action Body)
    (hcaller : w.callerOf a = some userId) :
    w.db.ledger.KeepsOthers userId (w.step env a).db.ledger ∨
      ∃ user payload bookingId now, a = .createBookingHold user payload bookingId now ∧
        (expireStaleHolds payload.chargePointId now w.db).ledger.KeepsOthers userId
          (w.step env a).db.ledger := by
  cases a with
  | createBookingHold user payload bookingId now =>
      cases hcaller
      rcases keepsOthers_createBookingHold env.bookingHoldMinutes user payload bookingId now w.db
        with heq | hkept
      · refine Or.inl ?_
        rw [World.step, heq]
        exact .refl _ _
      · exact Or.inr ⟨user, payload, bookingId, now, rfl, hkept⟩
  | findUserBookings userId query now =>
      cases hcaller
      exact Or.inl (keepsOthers_expireHolds now fun b hb => of_decide_eq_true hb)
  | getUserBooking userId bookingId now =>
      cases hcaller
      exact Or.inl (keepsOthers_expireHolds now fun b hb => of_decide_eq_true hb)
  | cancelUserBooking userId bookingId expectedVersion now =>
      cases hcaller
      exact Or.inl (keepsOthers_cancelUserBooking _ bookingId expectedVersion now w.db)
  | requestOrder requestId user payload =>
      refine Or.inl ?_
      simp only [World.step, World.requestOrder]
      split <;> exact .refl _ _
  | beginOrder requestId paymentId now =>
      refine Or.inl ?_
      simp only [World.step, World.beginOrder]
      split
      · next id user payload hr =>
        simp only [World.callerOf, hr, Option.map_some, Option.some.injEq] at hcaller
        subst hcaller
        exact keepsOthers_beginPaymentAttempt user payload paymentId now w.db
      · exact .refl _ _
  | callOrder requestId =>
      refine Or.inl ?_
      simp only [World.step, World.callOrder]
      split <;> exact .refl _ _
  | closeOrder requestId answer now =>
      refine Or.inl ?_
      rcases w.closeOrder_cases env h.sound.ledger h.sound.orders requestId answer now with
        heq | ⟨r, attempt, p, b, hr, _, hp, _, hdesc, hasks, hb, heq⟩
      · rw [World.step, heq]
        exact .refl _ _
      · simp only [World.callerOf, hr, Option.map_some, Option.some.injEq] at hcaller
        subst hcaller
        obtain ⟨d, hd, hcharges⟩ := h.sound.ledger.payments.charges _ p hp
        cases hd.symm.trans hb
        rw [World.step, heq]
        exact keepsOthers_closeAttempt env answer now hp (hdesc.bookingId ▸ hb) hasks.userId
          (hcharges.userId.symm.trans hasks.userId)
  | verifyCheckoutPayment user payload =>
      cases hcaller
      exact Or.inl (keepsOthers_verifyCheckoutPayment env user payload w.db)
  | requestCancellation requestId userId bookingId expectedVersion refundId choice now createdAt =>
      cases hcaller
      refine Or.inl ?_
      simp only [World.step, World.requestCancellation]
      split
      · exact .refl _ _
      · exact keepsOthers_prepareCancellation h.sound.ledger _ bookingId expectedVersion refundId
          choice now createdAt
  | callRefund requestId =>
      refine Or.inl ?_
      simp only [World.step, World.callRefund]
      split
      · next id userId bookingId expectedVersion snapshot hr =>
        split
        · simp only [World.callerOf, hr, Option.map_some, Option.some.injEq] at hcaller
          subst hcaller
          obtain ⟨f, p, hf, hp, hpayment, huser⟩ := h.cancellation_rows hr (Or.inl rfl)
          exact keepsOthers_recordRefundFailure hf hp hpayment huser _
        · exact .refl _ _
      · exact .refl _ _
  | closeCancellation requestId answer now =>
      refine Or.inl ?_
      simp only [World.step, World.closeCancellation]
      split
      · next id userId bookingId expectedVersion snapshot hr =>
        simp only [World.callerOf, hr, Option.map_some, Option.some.injEq] at hcaller
        subst hcaller
        obtain ⟨f, p, hf, hp, hpayment, huser⟩ := h.cancellation_rows hr (Or.inr rfl)
        exact keepsOthers_settleRefund hf hp hpayment huser answer now
      · exact .refl _ _
  | readCancellation requestId =>
      refine Or.inl ?_
      obtain ⟨cancellationRequests, heq⟩ := w.readCancellation_eq requestId
      rw [World.step, heq]
      exact .refl _ _
  | _ => cases hcaller

end

/-! ### Operators -/

def Database.OwnsStation (db : Database) (operatorId stationId : Uuid) : Prop :=
  ∃ station ∈ db.stations.find stationId, station.ownerId = operatorId

def Database.OwnsPoint (db : Database) (operatorId chargePointId : Uuid) : Prop :=
  ∃ point ∈ db.chargePoints.find chargePointId, db.OwnsStation operatorId point.stationId

/-- Nothing has changed but rows of stations that the operator owns. -/
structure Database.KeepsForeign (operatorId : Uuid) (db db' : Database) : Prop where
  stations : Register.Agree (fun station : ChargingStation => station.ownerId ≠ operatorId)
    db.stations.register db'.stations.register
  chargePoints : Register.Agree
    (fun point : ChargePoint => ¬db.OwnsStation operatorId point.stationId)
    db.chargePoints.register db'.chargePoints.register
  bookings : Register.Agree (fun b : Booking => ¬db.OwnsPoint operatorId b.chargePointId)
    db.bookings.register db'.bookings.register
  chargingSessions : Register.Agree
    (fun s : ChargingSession => ¬db.OwnsPoint operatorId s.chargePointId)
    db.chargingSessions.register db'.chargingSessions.register
  payments : db'.payments = db.payments
  refunds : db'.refunds = db.refunds
  paymentWebhookEvents : db'.paymentWebhookEvents = db.paymentWebhookEvents

theorem Database.KeepsForeign.refl (operatorId : Uuid) (db : Database) :
    db.KeepsForeign operatorId db where
  stations := .refl _ _
  chargePoints := .refl _ _
  bookings := .refl _ _
  chargingSessions := .refl _ _
  payments := rfl
  refunds := rfl
  paymentWebhookEvents := rfl

section

variable {operator : User} (hrole : operator.role ≠ .systemAdmin)

include hrole

theorem ownsPoint_of_controls {db : Database} {id : Uuid} {point : ChargePoint}
    (hpoint : db.chargePoints.find id = some point)
    (hcontrols : operatorControlsChargePoint db operator point = true) :
    db.OwnsPoint operator.id id := by
  simp only [operatorControlsChargePoint, decide_eq_true_eq] at hcontrols
  exact ⟨point, hpoint, hcontrols.resolve_left hrole⟩

theorem owner_of_controls {station : ChargingStation}
    (hcontrols : operatorControlsStation operator station = true) :
    station.ownerId = operator.id := by
  simp only [operatorControlsStation, decide_eq_true_eq] at hcontrols
  exact hcontrols.resolve_left hrole

theorem keepsForeign_updateStation (stationId : Uuid) (payload : StationUpdateRequest)
    (db : Database) :
    db.KeepsForeign operator.id (updateStation operator stationId payload db).2 := by
  rcases updateStation_commits operator stationId payload db with hkept | ⟨station', hok⟩
  · rw [hkept]
    exact .refl _ _
  · obtain ⟨station, hstation, hcontrols, _, _, _, hdb⟩ := updateStation_eq_ok.mp hok
    have howner := owner_of_controls hrole hcontrols
    have hid : db.stations.find (station.patch payload).id = some station :=
      Table.find_key (Table.mem_of_find hstation)
    rw [hdb]
    refine { Database.KeepsForeign.refl operator.id db with stations := ?_ }
    simp only [Table.register_set (r := station.patch payload) hid]
    refine Register.Agree.put (not_not.mpr howner) fun q hq => ?_
    cases hid.symm.trans hq
    exact not_not.mpr howner

theorem keepsForeign_updateChargePoint (stationId chargePointId : Uuid)
    (payload : ChargePointUpdateRequest) (db : Database) :
    db.KeepsForeign operator.id
      (updateChargePoint operator stationId chargePointId payload db).2 := by
  rcases updateChargePoint_commits operator stationId chargePointId payload db with
    hkept | ⟨point', hok⟩
  · rw [hkept]
    exact .refl _ _
  · obtain ⟨station, point, hstation, hcontrols, hpoint, hof, _, _, _, hdb⟩ :=
      updateChargePoint_eq_ok.mp hok
    have howns : db.OwnsStation operator.id point.stationId := by
      rw [hof]
      exact ⟨station, hstation, owner_of_controls hrole hcontrols⟩
    have hid : db.chargePoints.find (point.patch payload).id = some point :=
      Table.find_key (Table.mem_of_find hpoint)
    rw [hdb]
    refine { Database.KeepsForeign.refl operator.id db with chargePoints := ?_ }
    simp only [Table.register_set (r := point.patch payload) hid]
    refine Register.Agree.put (not_not.mpr howns) fun q hq => ?_
    cases hid.symm.trans hq
    exact not_not.mpr howns

theorem keepsForeign_startChargingSession (payload : StartChargingSessionRequest)
    (sessionId : Uuid) (now : Timestamp) (db : Database) :
    db.KeepsForeign operator.id (startChargingSession operator payload sessionId now db).2 := by
  rcases startChargingSession_commits operator payload sessionId now db with hkept | ⟨s, hok⟩
  · rw [hkept]
    exact .refl _ _
  · obtain ⟨b, point, hb, _, _, _, hpoint, hcontrols, _, rfl, hins⟩ :=
      startChargingSession_eq_ok.mp hok
    have howns := ownsPoint_of_controls hrole hpoint hcontrols
    have hid : db.bookings.find (b.advance .active).id = some b := Database.find_booking_id hb
    obtain ⟨_, _, t, hins, hdb⟩ := Database.insertChargingSession_eq_ok.mp hins
    rw [hdb]
    refine { Database.KeepsForeign.refl operator.id db with bookings := ?_, chargingSessions := ?_ }
    · simp only [Database.updateBooking, Table.register_set (r := b.advance .active) hid]
      refine Register.Agree.put (not_not.mpr howns) fun q hq => ?_
      cases hid.symm.trans hq
      exact not_not.mpr howns
    · simp only [Table.register_insert hins]
      refine Register.Agree.put (not_not.mpr howns) fun q hq => ?_
      cases (Table.insert_eq_some.mp hins).1.symm.trans hq

theorem keepsForeign_completeChargingSession {db : Database} (hsound : db.ledger.SessionsSound)
    (sessionId : Uuid) (payload : CompleteChargingSessionRequest) (now : Timestamp) :
    db.KeepsForeign operator.id (completeChargingSession operator sessionId payload now db).2 := by
  rcases completeChargingSession_commits operator sessionId payload now db with
    hkept | ⟨s', hok⟩
  · rw [hkept]
    exact .refl _ _
  · obtain ⟨s, b, point, db₁, hs, _, _, _, hb, _, hpoint, hcontrols, rfl, hupd, hdb⟩ :=
      completeChargingSession_eq_ok.mp hok
    have howns := ownsPoint_of_controls hrole hpoint hcontrols
    have hsid : db.chargingSessions.find (s.complete payload.meterEndKwh now).id = some s :=
      Database.find_session_id hs
    have hid : db.bookings.find (b.advance .completed).id = some b := Database.find_booking_id hb
    -- the booking is at the charge point of its session
    have hbooking : b.chargePointId = s.chargePointId := by
      obtain ⟨d, hd, huses⟩ := hsound.uses sessionId s hs
      rw [← huses.bookingId] at hd
      cases hd.symm.trans hb
      exact huses.chargePointId.symm
    have hdb₁ := Database.updateChargingSession_ok hupd
    rw [hdb, hdb₁]
    refine { Database.KeepsForeign.refl operator.id db with bookings := ?_, chargingSessions := ?_ }
    · simp only [Database.updateBooking, Table.register_set (r := b.advance .completed) hid]
      refine Register.Agree.put (not_not.mpr (hbooking ▸ howns)) fun q hq => ?_
      cases hid.symm.trans hq
      exact not_not.mpr (hbooking ▸ howns)
    · simp only [Database.updateBooking,
        Table.register_set (r := s.complete payload.meterEndKwh now) hsid]
      refine Register.Agree.put (not_not.mpr howns) fun q hq => ?_
      cases hsid.symm.trans hq
      exact not_not.mpr howns

end

/-! ### Both -/

/-- A customer's call leaves the rows of other customers alone, but for lapsed holds of the charge
point that it asks for, and returns rows of that customer; an operator's call changes rows of the
operator's own stations only. -/
theorem users_kept_apart {Body : Type} (env : Env Body) {w : World} (h : w.Reachable env) :
    (∀ (a : Action Body) userId, w.callerOf a = some userId →
      w.db.ledger.KeepsOthers userId (w.step env a).db.ledger ∨
      ∃ user payload bookingId now, a = .createBookingHold user payload bookingId now ∧
        (expireStaleHolds payload.chargePointId now w.db).ledger.KeepsOthers userId
          (w.step env a).db.ledger) ∧
    (∀ user payload bookingId now b, (createBookingHold env.bookingHoldMinutes user payload
      bookingId now w.db).1 = .ok b → b.userId = user.id) ∧
    (∀ userId query now page, (findUserBookings userId query now w.db).1 = .ok page →
      ∀ b ∈ page.items, b.userId = userId) ∧
    (∀ userId bookingId now, ∀ b ∈ (getUserBooking userId bookingId now w.db).1,
      b.userId = userId) ∧
    (∀ user payload p, (verifyCheckoutPayment env user payload w.db).1 = .ok p →
      p.userId = user.id) ∧
    (∀ r ∈ w.orderRequests, ∀ checkout, r.phase = .answered (.ok checkout) →
      checkout.payment.userId = r.user.id ∧ ∀ b ∈ checkout.booking, b.userId = r.user.id) ∧
    (∀ r ∈ w.cancellationRequests, ∀ outcome, r.phase = .answered (.ok outcome) →
      (∀ b ∈ outcome.booking, b.userId = r.userId) ∧
      ∀ refund ∈ outcome.refund, ∃ p ∈ w.db.payments.find refund.paymentId,
        p.userId = r.userId) ∧
    (∀ userId query page, findUserChargingSessions userId query w.db = .ok page →
      ∀ s ∈ page.items, s.userId = userId) ∧
    (∀ userId sessionId, ∀ s ∈ getUserChargingSession userId sessionId w.db, s.userId = userId) ∧
    ∀ operator : User, operator.role ≠ .systemAdmin →
      (∀ stationId payload, w.db.KeepsForeign operator.id
        (updateStation operator stationId payload w.db).2) ∧
      (∀ stationId chargePointId payload, w.db.KeepsForeign operator.id
        (updateChargePoint operator stationId chargePointId payload w.db).2) ∧
      (∀ payload sessionId now, w.db.KeepsForeign operator.id
        (startChargingSession operator payload sessionId now w.db).2) ∧
      ∀ sessionId payload now, w.db.KeepsForeign operator.id
        (completeChargingSession operator sessionId payload now w.db).2 := by
  refine ⟨fun a userId hcaller => h.keepsOthers a hcaller, ?_, ?_, ?_, ?_, ?_, ?_, ?_, ?_, ?_⟩
  · intro user payload bookingId now b hb
    obtain ⟨_, point, _, _, _, rfl, _⟩ := createBookingHold_eq_ok.mp (Prod.ext hb rfl)
    rfl
  · intro userId query now page hpage b hb
    obtain ⟨items, hitems, rfl⟩ := map_eq_ok.mp hpage
    have hmem := mem_of_pageOf hitems hb
    rw [List.mem_insertionSort, List.mem_filter] at hmem
    exact (of_decide_eq_true hmem.2).1
  · intro userId bookingId now b hb
    exact of_decide_eq_true (Option.filter_eq_some_iff.mp hb).2
  · intro user payload p hp
    rcases verifyCheckoutPayment_cases env user payload w.db with
      ⟨e, heq⟩ | ⟨q, _, huser, _, heq | ⟨q', db', hauth, _, heq⟩⟩
    · rw [heq] at hp
      cases hp
    · rw [heq] at hp
      cases hp
      exact huser
    · rw [heq] at hp
      cases hp
      rw [hauth.row]
      exact huser
  · exact fun r hr checkout hphase => h.orders_own r.id r (Table.find_key hr) checkout hphase
  · intro r hr outcome hphase
    have hown := h.cancellations_own r.id r (Table.find_key hr)
    exact ⟨hown.booking outcome hphase, hown.refund outcome hphase⟩
  · intro userId query page hpage s hs
    obtain ⟨items, hitems, rfl⟩ := map_eq_ok.mp hpage
    have hmem := mem_of_pageOf hitems hs
    rw [List.mem_insertionSort, List.mem_filter] at hmem
    exact (of_decide_eq_true hmem.2).1
  · intro userId sessionId s hs
    exact of_decide_eq_true (Option.filter_eq_some_iff.mp hs).2
  · intro operator hrole
    exact ⟨fun stationId payload => keepsForeign_updateStation hrole stationId payload w.db,
      fun stationId chargePointId payload =>
        keepsForeign_updateChargePoint hrole stationId chargePointId payload w.db,
      fun payload sessionId now =>
        keepsForeign_startChargingSession hrole payload sessionId now w.db,
      fun sessionId payload now =>
        keepsForeign_completeChargingSession hrole h.sessionsSound sessionId payload now⟩

/-- The checkout that a request has returned. -/
def OrderPhase.checkout : OrderPhase → Option CheckoutOrder
  | .answered (.ok checkout) => some checkout
  | _ => none

theorem OrderPhase.answered_of_checkout {phase : OrderPhase} {checkout : CheckoutOrder}
    (h : phase.checkout = some checkout) : phase = .answered (.ok checkout) := by
  unfold OrderPhase.checkout at h
  split at h
  · rw [Option.some.inj h]
  · cases h

/-- Another customer cannot cancel a confirmed booking, an operator of other stations cannot take
its charge point out of service, and the order for it has been answered to its customer. -/
theorem users_kept_apart_sample :
    (∃ b ∈ ((sampleWorld.run sampleEnv sampleConfirmed).step sampleEnv
      (.cancelUserBooking 11 20 3 0)).db.bookings.find 20, b.status = .confirmed) ∧
    (∃ point ∈ (updateChargePoint ⟨9, .stationAdmin⟩ 1 3
      { version := 1
        maxPowerKw := none
        bookingFee := none
        nonNegativeBookingFee := sampleUnset_nonneg
        isBookable := none
        status := some .outOfService }
      (sampleWorld.run sampleEnv sampleConfirmed).db).2.chargePoints.find 3,
      point.status = .available) ∧
    ∃ r ∈ (sampleWorld.run sampleEnv sampleConfirmed).orderRequests,
      ∃ checkout, r.phase = .answered (.ok checkout) ∧ checkout.payment.userId = 10 := by
  have hreach := sampleWorld_reachable sampleConfirmed
  refine ⟨?_, ?_, ?_⟩
  · have hb : ∃ b ∈ (sampleWorld.run sampleEnv sampleConfirmed).db.bookings.find 20,
        b.status = .confirmed ∧ b.userId ≠ 11 := by decide +kernel
    obtain ⟨b, hb, hconfirmed, hother⟩ := hb
    rcases (users_kept_apart sampleEnv hreach).1 (.cancelUserBooking 11 20 3 0) 11 rfl with
      hkept | ⟨user, payload, bookingId, now, heq, _⟩
    · exact ⟨b, (hkept.bookings 20 b hother).mpr hb, hconfirmed⟩
    · cases heq
  · have hpoint : ∃ point ∈ (sampleWorld.run sampleEnv sampleConfirmed).db.chargePoints.find 3,
        point.status = .available ∧ ¬∃ station ∈ (sampleWorld.run sampleEnv
          sampleConfirmed).db.stations.find point.stationId, station.ownerId = 9 := by
      decide +kernel
    obtain ⟨point, hpoint, havailable, hforeign⟩ := hpoint
    have hkept := ((users_kept_apart sampleEnv hreach).2.2.2.2.2.2.2.2.2 ⟨9, .stationAdmin⟩
      (by decide)).2.1 1 3
        { version := 1
          maxPowerKw := none
          bookingFee := none
          nonNegativeBookingFee := sampleUnset_nonneg
          isBookable := none
          status := some .outOfService }
    exact ⟨point, (hkept.chargePoints 3 point hforeign).mpr hpoint, havailable⟩
  · have hr : ∃ r ∈ (sampleWorld.run sampleEnv sampleConfirmed).orderRequests.find 30,
        r.user.id = 10 ∧ r.phase.checkout.isSome = true := by decide +kernel
    obtain ⟨r, hr, huser, hphase⟩ := hr
    have hmem := Table.mem_of_find hr
    obtain ⟨checkout, hcheckout⟩ := Option.isSome_iff_exists.mp hphase
    have hanswered := OrderPhase.answered_of_checkout hcheckout
    have hown := (users_kept_apart sampleEnv hreach).2.2.2.2.2.1 r hmem checkout hanswered
    exact ⟨r, hmem, checkout, hanswered, hown.1.trans huser⟩

end ChargeMate
