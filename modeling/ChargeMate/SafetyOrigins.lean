import ChargeMate.SafetyAuthority
import ChargeMate.SafetyBalances
import ChargeMate.SafetyPlaces
import ChargeMate.SafetySessions
import ChargeMate.SafetyQueue

/-! Where the rows of the system come from. What an action has done that makes a row appear or take
a final status, and, for the whole backend, the admitted request behind that action. -/

namespace ChargeMate

open Relational

section

variable {Body : Type} (env : Env Body)

/-! ### Bookings -/

theorem Database.bookingIds_of_preserved {db db' : Database}
    (h : db'.bookings.rows.map key = db.bookings.rows.map key) {id : Uuid}
    (hnew : db.bookings.find id = none) : db'.bookings.find id = none := by
  cases hfind : db'.bookings.find id with
  | none => rfl
  | some b =>
      obtain ⟨b', hb'⟩ := Table.exists_find_of_map_key h hfind
      rw [hnew] at hb'
      cases hb'

/-- A new booking is what a hold asked for. -/
theorem World.booking_held (w : World) (a : Action Body) {id : Uuid} {b : Booking}
    (hnew : w.db.bookings.find id = none) (hb : (w.step env a).db.bookings.find id = some b) :
    ∃ user payload now, a = .createBookingHold user payload id now ∧ user.id = b.userId ∧
      payload.chargePointId = b.chargePointId ∧ payload.startsAt = b.startsAt ∧
      payload.endsAt = b.endsAt := by
  by_cases hholds : a.Holds
  · cases a with
    | createBookingHold user payload bookingId now =>
        rw [World.step] at hb
        rcases createBookingHold_commits env.bookingHoldMinutes user payload bookingId now w.db with
          hkept | ⟨b₀, hok⟩
        · rw [hkept, hnew] at hb
          cases hb
        · obtain ⟨_, point, hpoint, _, _, hrow, hins⟩ := createBookingHold_eq_ok.mp hok
          obtain ⟨_, t, ht, hdb⟩ := Database.insertBooking_eq_ok.mp hins
          have hexpired : (expireStaleHolds point.id now w.db).bookings.find id = none :=
            Database.bookingIds_of_preserved (preserved_bookingIds.expireHolds _ now w.db) hnew
          rw [hdb] at hb
          rcases (Table.mem_insert ht).mp (Table.mem_of_find hb) with hold | rfl
          · have hfound := Table.find_key hold
            rw [show key b = id from Table.key_of_find hb, hexpired] at hfound
            cases hfound
          · have hid : b.id = id := Table.key_of_find hb
            have hpointId : point.id = payload.chargePointId := Table.key_of_find hpoint
            subst hrow
            exact ⟨user, payload, now, by rw [← hid]; rfl, rfl, hpointId.symm, rfl, rfl⟩
    | _ => exact hholds.elim
  · have hids := w.step_preserved_all env preserved_bookingIds (fun _ _ _ _ _ => rfl) hholds
    rw [Database.bookingIds_of_preserved hids hnew] at hb
    cases hb

/-- The actions that cancel bookings. -/
def Action.Cancels {Body : Type} : Action Body → Prop
  | .cancelUserBooking .. | .requestCancellation .. => True
  | _ => False

/-- The move of any other action is not due to a cancellation. -/
theorem World.Sound.step_uncancelling {w : World} (h : w.Sound) {a : Action Body}
    (ha : ¬a.Cancels) : ∃ c : Cause, (∀ id, c ≠ .cancel id) ∧ (∀ id p, c ≠ .refund id p) ∧
      Move w.db.ledger c (w.step env a).db.ledger := by
  have hother : ∀ {w' : World}, Move w.db.ledger .other w'.db.ledger →
      ∃ c : Cause, (∀ id, c ≠ .cancel id) ∧ (∀ id p, c ≠ .refund id p) ∧
        Move w.db.ledger c w'.db.ledger :=
    fun hmove => ⟨.other, by simp, by simp, hmove⟩
  have hstay : ∀ {w' : World}, w'.db = w.db → Move w.db.ledger .other w'.db.ledger := by
    intro w' hdb
    rw [hdb]
    exact Move.stay
  cases a with
  | cancelUserBooking | requestCancellation => exact absurd trivial ha
  | createBookingHold user payload bookingId now =>
      exact hother (createBookingHold_move _ user payload bookingId now w.db)
  | findUserBookings userId query now => exact hother (findUserBookings_move userId query now w.db)
  | getUserBooking userId bookingId now => exact hother (getUserBooking_move userId bookingId now w.db)
  | expireStaleBookingHolds now batchSize locked =>
      exact hother (expireStaleBookingHolds_move now batchSize locked w.db)
  | requestOrder requestId user payload =>
      refine hother (hstay ?_)
      simp only [World.step, World.requestOrder]
      split <;> rfl
  | beginOrder requestId paymentId now => exact hother (w.beginOrder_move requestId paymentId now)
  | callOrder requestId =>
      refine hother (hstay ?_)
      simp only [World.step, World.callOrder]
      split <;> rfl
  | closeOrder requestId answer now =>
      obtain ⟨c, hc, hmove⟩ := World.closeOrder_move env h.ledger h.orders requestId answer now
      refine ⟨c, ?_, ?_, hmove⟩ <;> rcases hc with rfl | ⟨id, rfl⟩ <;> simp
  | verifyCheckoutPayment user payload => exact hother (verifyCheckoutPayment_move env user payload w.db)
  | receiveDelivery deliveryId request =>
      obtain ⟨deliveries, heq⟩ := w.receiveDelivery_eq env deliveryId request
      exact hother (hstay (by rw [World.step, heq]))
  | storeDelivery deliveryId eventRowId now =>
      rcases w.storing_cases deliveryId eventRowId now with heq | ⟨d, _, heq⟩
      · exact hother (hstay (by rw [heq]))
      · obtain ⟨c, hc, hmove⟩ := ChargeMate.storeDelivery_move d eventRowId now w.db
        rw [heq]
        refine ⟨c, ?_, ?_, hmove⟩ <;>
          rcases hc with rfl | ⟨_, n, p, _, _, rfl | ⟨rfl, _⟩ | ⟨rfl, _⟩⟩ <;> simp
  | callRefund requestId => exact hother (w.callRefund_move env requestId)
  | closeCancellation requestId answer now =>
      exact hother (World.closeCancellation_move h.cancellations requestId answer now)
  | readCancellation requestId =>
      obtain ⟨cancellationRequests, heq⟩ := w.readCancellation_eq requestId
      exact hother (hstay (by rw [World.step, heq]))
  | startReconciliation runId batchSize =>
      obtain ⟨reconciliations, heq⟩ := w.startReconciliation_eq env runId batchSize
      exact hother (hstay (by rw [World.step, heq]))
  | reconcileNext runId answer now => exact hother (w.reconcileNext_move runId answer now)
  | startChargingSession operator payload sessionId now =>
      exact hother (startChargingSession_move operator payload sessionId now w.db)
  | completeChargingSession operator sessionId payload now =>
      exact hother (completeChargingSession_move operator sessionId payload now w.db)
  | createStation owner payload stationId pointIds =>
      refine hother ?_
      rw [World.step, ledger_createStation]
      exact Move.stay
  | updateStation operator stationId payload =>
      refine hother ?_
      rw [World.step, ledger_updateStation]
      exact Move.stay
  | updateChargePoint operator stationId chargePointId payload =>
      refine hother ?_
      rw [World.step, ledger_updateChargePoint]
      exact Move.stay

/-- The row that a write has changed is the written one. -/
theorem Table.changed_of_set {R K : Type} [DecidableEq K] [Keyed R K] {t : Table R} (old new : R)
    {r' : R} {k : K} (hkey : key new = key old) (hold : t.find (key old) = some old)
    (hr' : (t.set new).find k = some r') (hne : t.find k ≠ some r') : key old = k ∧ r' = new := by
  rcases Table.find_set_cases hr' (hkey ▸ hold) with ⟨hk, rfl⟩ | ⟨_, hkept⟩
  · exact ⟨hkey ▸ hk, rfl⟩
  · exact absurd hkept hne

/-- The row that an insert has brought is the inserted one. -/
theorem Table.changed_of_insert {R K : Type} [DecidableEq K] [Keyed R K] {t t' : Table R} {r r' : R}
    {k : K} (hins : t.insert r = some t') (hr' : t'.find k = some r') (hne : t.find k ≠ some r') :
    key r = k ∧ r' = r := by
  rw [Table.find_insert hins] at hr'
  split at hr'
  · next hk => exact ⟨hk, (Option.some.inj hr').symm⟩
  · exact absurd hr' hne

/-- A booking is cancelled by its user. -/
theorem World.Sound.booking_cancelled {w : World} (h : w.Sound) (a : Action Body) {id : Uuid}
    {b : Booking} (hb : (w.step env a).db.bookings.find id = some b) (hcancelled : b.status = .cancelled)
    (hne : w.db.bookings.find id ≠ some b) :
    (∃ requestId version refundId choice now createdAt,
      a = .requestCancellation requestId b.userId id version refundId choice now createdAt) ∨
    ∃ version now, a = .cancelUserBooking b.userId id version now := by
  by_cases ha : a.Cancels
  · have hwritten : ∀ (now : Timestamp) {b₀ : Booking} {bookingId userId : Uuid},
        w.db.bookings.find bookingId = some b₀ → b₀.userId = userId →
        (w.step env a).db.bookings = w.db.bookings.set (b₀.cancel now) →
        bookingId = id ∧ userId = b.userId := by
      intro now b₀ bookingId userId hb₀ huser hset
      rw [hset] at hb
      obtain ⟨hid, rfl⟩ := Table.changed_of_set b₀ (b₀.cancel now) rfl
        (Database.find_booking_id hb₀) hb hne
      exact ⟨(Table.key_of_find hb₀).symm.trans hid, huser.symm⟩
    cases a with
    | cancelUserBooking userId bookingId version now =>
        rcases cancelUserBooking_commits userId bookingId version now w.db with hkept | ⟨b', hok⟩
        · rw [World.step, hkept] at hb
          exact absurd hb hne
        · obtain ⟨b₀, hb₀, huser, _, _, _, hdb, _⟩ := cancelUserBooking_eq_ok.mp hok
          obtain ⟨rfl, rfl⟩ := hwritten now hb₀ huser (by rw [World.step, hdb]; rfl)
          exact Or.inr ⟨version, now, rfl⟩
    | requestCancellation requestId userId bookingId version refundId choice now createdAt =>
        refine Or.inl ⟨requestId, version, refundId, choice, now, createdAt, ?_⟩
        rcases w.requestCancellation_cases requestId userId bookingId version refundId choice now
          createdAt with heq | ⟨_, _, _, _, _, _, _, _, heq⟩
        · rw [World.step, heq] at hb
          exact absurd hb hne
        · have hstep : (w.step env (.requestCancellation requestId userId bookingId version refundId
              choice now createdAt)).db = (prepareCancellation userId bookingId version refundId
                choice now createdAt w.db).2 := by rw [World.step, heq]
          rcases prepareCancellation_cases userId bookingId version refundId choice now createdAt
            w.db with ⟨_, hkept⟩ | ⟨_, _, _, _, _, hkept⟩ | ⟨b₀, hb₀, huser, _, _, hdb⟩ |
              ⟨b₀, _, _, _, hb₀, huser, _, _, _, _, hins, hdb⟩
          · rw [hstep, hkept] at hb
            exact absurd hb hne
          · rw [hstep, hkept] at hb
            exact absurd hb hne
          · obtain ⟨rfl, rfl⟩ := hwritten now hb₀ huser (by rw [hstep, hdb]; rfl)
            rfl
          · obtain ⟨_, t, _, hdb'⟩ := Database.insertRefund_ok hins
            obtain ⟨rfl, rfl⟩ := hwritten now hb₀ huser (by rw [hstep, hdb, hdb']; rfl)
            rfl
    | _ => exact ha.elim
  · obtain ⟨c, hcancel, hrefund, hmove⟩ := h.step_uncancelling env ha
    have hgrounds := hmove.grounds hb hne
    simp only [Ledger.Grounds, hcancelled] at hgrounds
    rcases hgrounds with hc | ⟨p, _, hc, _⟩
    · exact absurd hc (hcancel _)
    · exact absurd hc (hrefund _ p)

/-! ### Charging sessions -/

/-- The operator controls the station of the charge point. -/
def Database.OperatedBy (db : Database) (operator : User) (chargePointId : Uuid) : Prop :=
  ∃ point ∈ db.chargePoints.find chargePointId, operatorControlsChargePoint db operator point = true

/-- The actions that write charging sessions. -/
def Action.Charges {Body : Type} : Action Body → Prop
  | .startChargingSession .. | .completeChargingSession .. => True
  | _ => False

theorem World.step_chargingSessions (w : World) {a : Action Body} (ha : ¬a.Charges) :
    (w.step env a).db.chargingSessions = w.db.chargingSessions := by
  by_cases hplain : a.Plain
  · exact (w.step_spares env hplain).chargingSessions
  · cases a with
    | storeDelivery deliveryId eventRowId now =>
        rcases w.storing_cases deliveryId eventRowId now with heq | ⟨d, _, heq⟩
        · rw [heq]
        · rw [heq]
          rcases storeDelivery_events d eventRowId now w.db with ⟨_, hkept⟩ | ⟨_, _, _, _, hkept, _⟩
          · simp only [hkept]
          · exact hkept
    | startChargingSession | completeChargingSession => exact absurd trivial ha
    | _ => exact absurd trivial hplain

/-- A new session was started by an operator of its charge point. -/
theorem World.session_started (w : World) (a : Action Body) {id : Uuid} {s : ChargingSession}
    (hnew : w.db.chargingSessions.find id = none)
    (hs : (w.step env a).db.chargingSessions.find id = some s) :
    ∃ operator payload now, a = .startChargingSession operator payload id now ∧
      payload.bookingId = s.bookingId ∧ w.db.OperatedBy operator s.chargePointId := by
  by_cases ha : a.Charges
  · cases a with
    | startChargingSession operator payload sessionId now =>
        rw [World.step] at hs
        rcases startChargingSession_commits operator payload sessionId now w.db with
          hkept | ⟨s₀, hok⟩
        · rw [hkept, hnew] at hs
          cases hs
        · obtain ⟨b, point, hb, _, _, _, hpoint, hcontrols, _, hrow, hins⟩ :=
            startChargingSession_eq_ok.mp hok
          obtain ⟨_, _, t, ht, hdb⟩ := Database.insertChargingSession_eq_ok.mp hins
          rw [hdb] at hs
          have hne : w.db.chargingSessions.find id ≠ some s := by
            rw [hnew]
            exact (Option.some_ne_none s).symm
          obtain ⟨hid, rfl⟩ := Table.changed_of_insert ht hs hne
          have hbooking : b.id = payload.bookingId := Table.key_of_find hb
          subst hrow
          exact ⟨operator, payload, now, by rw [← hid]; rfl, hbooking.symm, point, hpoint, hcontrols⟩
    | completeChargingSession operator sessionId payload now =>
        rw [World.step] at hs
        rcases completeChargingSession_commits operator sessionId payload now w.db with
          hkept | ⟨s', hok⟩
        · rw [hkept, hnew] at hs
          cases hs
        · obtain ⟨s₀, _, _, db₁, hs₀, _, _, _, _, _, _, _, rfl, hupd, hdb⟩ :=
            completeChargingSession_eq_ok.mp hok
          obtain rfl := Database.updateChargingSession_ok hupd
          rw [hdb] at hs
          have hkeys := w.db.chargingSessions.map_key_set (s₀.complete payload.meterEndKwh now)
          obtain ⟨s₁, hs₁⟩ := Table.exists_find_of_map_key hkeys hs
          rw [hnew] at hs₁
          cases hs₁
    | _ => exact ha.elim
  · rw [w.step_chargingSessions env ha, hnew] at hs
    cases hs

/-- A session is completed by an operator of its charge point, who has read the meter. -/
theorem World.session_completed (w : World) (a : Action Body) {id : Uuid} {s : ChargingSession}
    (hs : (w.step env a).db.chargingSessions.find id = some s) (hcompleted : s.status = .completed)
    (hne : w.db.chargingSessions.find id ≠ some s) :
    ∃ operator payload now, a = .completeChargingSession operator id payload now ∧
      s.meterEndKwh = some payload.meterEndKwh ∧ w.db.OperatedBy operator s.chargePointId := by
  by_cases ha : a.Charges
  · cases a with
    | startChargingSession operator payload sessionId now =>
        rw [World.step] at hs
        rcases startChargingSession_commits operator payload sessionId now w.db with
          hkept | ⟨s₀, hok⟩
        · rw [hkept] at hs
          exact absurd hs hne
        · obtain ⟨b, point, _, _, _, _, _, _, _, hrow, hins⟩ := startChargingSession_eq_ok.mp hok
          obtain ⟨_, _, t, ht, hdb⟩ := Database.insertChargingSession_eq_ok.mp hins
          rw [hdb] at hs
          obtain ⟨_, rfl⟩ := Table.changed_of_insert ht hs hne
          subst hrow
          cases hcompleted
    | completeChargingSession operator sessionId payload now =>
        rw [World.step] at hs
        rcases completeChargingSession_commits operator sessionId payload now w.db with
          hkept | ⟨s', hok⟩
        · rw [hkept] at hs
          exact absurd hs hne
        · obtain ⟨s₀, _, point, db₁, hs₀, _, _, _, _, _, hpoint, hcontrols, rfl, hupd, hdb⟩ :=
            completeChargingSession_eq_ok.mp hok
          obtain rfl := Database.updateChargingSession_ok hupd
          rw [hdb] at hs
          have hid₀ : s₀.id = sessionId := Table.key_of_find hs₀
          obtain ⟨hid, rfl⟩ := Table.changed_of_set s₀ (s₀.complete payload.meterEndKwh now) rfl
            (by rw [show key s₀ = sessionId from hid₀]; exact hs₀) hs hne
          have hsession : sessionId = id := hid₀.symm.trans hid
          subst hsession
          exact ⟨operator, payload, now, rfl, rfl, point, hpoint, hcontrols⟩
    | _ => exact ha.elim
  · rw [w.step_chargingSessions env ha] at hs
    exact absurd hs hne

/-- A session keeps its booking and its charge point. -/
theorem World.Reachable.session_next {w : World} (h : w.Reachable env) (a : Action Body) {id : Uuid}
    {s : ChargingSession} (hs : w.db.chargingSessions.find id = some s) :
    ∃ s', (w.step env a).db.chargingSessions.find id = some s' ∧ s'.bookingId = s.bookingId ∧
      s'.chargePointId = s.chargePointId := by
  obtain ⟨c, _, hmove⟩ := h.move a
  have hput : ∀ {s₀ s' : ChargingSession}, w.db.ledger.sessions s₀.id = some s₀ → s'.id = s₀.id →
      s'.bookingId = s₀.bookingId → s'.chargePointId = s₀.chargePointId →
      ∃ s'', (w.db.ledger.sessions.put s') id = some s'' ∧ s''.bookingId = s.bookingId ∧
        s''.chargePointId = s.chargePointId := by
    intro s₀ s' hs₀ hid hbooking hcharge
    rw [Register.get_put]
    split
    · next hk =>
      rw [show key s' = s₀.id from hid] at hk
      rw [hk, Database.sessions_ledger, hs, Option.some.injEq] at hs₀
      subst hs₀
      exact ⟨s', rfl, hbooking, hcharge⟩
    · exact ⟨s, hs, rfl, rfl⟩
  rw [← Database.sessions_ledger]
  rcases hmove.sessions_cases with ⟨hsame, _⟩ | ⟨b, s', _, hsessions, _, _, hnew, _⟩ |
    ⟨b, s₀, s', _, hsessions, _, _, hs₀, _, hid, hbooking, _, hcharge, _⟩
  · rw [hsame]
    exact ⟨s, hs, rfl, rfl⟩
  · rw [hsessions, Register.get_put]
    split
    · next hk =>
      rw [show s'.id = id from hk, Database.sessions_ledger, hs] at hnew
      cases hnew
    · exact ⟨s, hs, rfl, rfl⟩
  · rw [hsessions]
    exact hput hs₀ hid hbooking hcharge

/-! ### Order requests -/

/-- A request for an order keeps its user and payload, and is new only when it is made. -/
theorem World.order_entered (w : World) (a : Action Body) {id : Uuid} {r' : OrderRequest}
    (hr' : (w.step env a).orderRequests.find id = some r') :
    (∃ r, w.orderRequests.find id = some r ∧ r'.user = r.user ∧ r'.payload = r.payload) ∨
      a = .requestOrder id r'.user r'.payload := by
  have hkept : (w.step env a).orderRequests = w.orderRequests →
      ∃ r, w.orderRequests.find id = some r ∧ r'.user = r.user ∧ r'.payload = r.payload := by
    intro heq
    rw [heq] at hr'
    exact ⟨r', hr', rfl, rfl⟩
  -- an action that takes a request to its next phase
  have hwritten : ((w.step env a).orderRequests = w.orderRequests ∨
      ∃ requestId r phase, w.orderRequests.find requestId = some r ∧
        (w.step env a).orderRequests = w.orderRequests.set { r with phase }) →
      ∃ r, w.orderRequests.find id = some r ∧ r'.user = r.user ∧ r'.payload = r.payload := by
    rintro (heq | ⟨requestId, r, phase, hr, heq⟩)
    · exact hkept heq
    have hrow : r.id = requestId := Table.key_of_find hr
    subst hrow
    rw [heq] at hr'
    rcases Table.find_set_cases hr' hr with ⟨hid, rfl⟩ | ⟨_, hold⟩
    · have hid : r.id = id := hid
      subst hid
      exact ⟨r, hr, rfl, rfl⟩
    · exact ⟨r', hold, rfl, rfl⟩
  cases a with
  | requestOrder requestId user payload =>
      simp only [World.step, World.requestOrder] at hr'
      split at hr'
      · next hnone => exact Or.inl ⟨r', hr', rfl, rfl⟩
      · next orderRequests hins =>
        rcases (Table.mem_insert hins).mp (Table.mem_of_find hr') with hold | rfl
        · have hid : key r' = id := Table.key_of_find hr'
          have hfound := Table.find_key hold
          rw [hid] at hfound
          exact Or.inl ⟨r', hfound, rfl, rfl⟩
        · have hid : requestId = id := Table.key_of_find hr'
          rw [hid]
          exact Or.inr rfl
  | beginOrder requestId paymentId now =>
      refine Or.inl (hwritten ?_)
      simp only [World.step, World.beginOrder]
      split
      · next hr => exact Or.inr ⟨requestId, _, _, hr, rfl⟩
      · exact Or.inl rfl
  | callOrder requestId =>
      refine Or.inl (hwritten ?_)
      simp only [World.step, World.callOrder]
      split
      · next hr => exact Or.inr ⟨requestId, _, _, hr, rfl⟩
      · exact Or.inl rfl
  | closeOrder requestId answer now =>
      refine Or.inl (hwritten ?_)
      simp only [World.step, World.closeOrder]
      split
      · next hr => exact Or.inr ⟨requestId, _, _, hr, rfl⟩
      · exact Or.inl rfl
  | receiveDelivery deliveryId request =>
      obtain ⟨deliveries, heq⟩ := w.receiveDelivery_eq env deliveryId request
      exact Or.inl (hkept (by rw [World.step, heq]))
  | storeDelivery deliveryId eventRowId now =>
      refine Or.inl (hkept ?_)
      simp only [World.step, World.storeDelivery]
      split <;> rfl
  | requestCancellation requestId userId bookingId version refundId choice now createdAt =>
      refine Or.inl (hkept ?_)
      simp only [World.step, World.requestCancellation]
      split <;> rfl
  | callRefund requestId =>
      refine Or.inl (hkept ?_)
      simp only [World.step, World.callRefund]
      split
      · split <;> rfl
      · rfl
  | closeCancellation requestId answer now =>
      refine Or.inl (hkept ?_)
      simp only [World.step, World.closeCancellation]
      split <;> rfl
  | readCancellation requestId =>
      obtain ⟨cancellationRequests, heq⟩ := w.readCancellation_eq requestId
      exact Or.inl (hkept (by rw [World.step, heq]))
  | startReconciliation runId batchSize =>
      obtain ⟨reconciliations, heq⟩ := w.startReconciliation_eq env runId batchSize
      exact Or.inl (hkept (by rw [World.step, heq]))
  | reconcileNext runId answer now =>
      refine Or.inl (hkept ?_)
      simp only [World.step, World.reconcileNext]
      split
      · rfl
      · split <;> rfl
  | _ => exact Or.inl (hkept rfl)

/-! ### Stations -/

/-- The station belongs to the user. -/
def Database.OwnedBy (db : Database) (owner : User) (stationId : Uuid) : Prop :=
  ∃ station ∈ db.stations.find stationId, station.ownerId = owner.id

/-- A station is created by its owner, and changed by an operator who controls it. -/
theorem World.station_written (w : World) (a : Action Body) {id : Uuid} {station : ChargingStation}
    (hfind : (w.step env a).db.stations.find id = some station)
    (hne : w.db.stations.find id ≠ some station) :
    (∃ owner payload pointIds, a = .createStation owner payload id pointIds ∧
      station = payload.station owner id) ∨
    ∃ operator payload, a = .updateStation operator id payload ∧
      operatorControlsStation operator station = true := by
  by_cases ha : a.EditsStation
  · cases a with
    | createStation owner payload stationId pointIds =>
        rw [World.step] at hfind
        rcases createStation_kept owner payload stationId pointIds w.db with
          heq | ⟨stations, chargePoints, heq, hins, _⟩
        · rw [heq] at hfind
          exact absurd hfind hne
        rw [heq] at hfind
        obtain ⟨hid, rfl⟩ := Table.changed_of_insert hins hfind hne
        have hstation : stationId = id := hid
        subst hstation
        exact Or.inl ⟨owner, payload, pointIds, rfl, rfl⟩
    | updateStation operator stationId payload =>
        rw [World.step] at hfind
        rcases updateStation_commits operator stationId payload w.db with hkept | ⟨station', hok⟩
        · rw [hkept] at hfind
          exact absurd hfind hne
        · obtain ⟨old, hold, hcontrols, _, _, _, hdb⟩ := updateStation_eq_ok.mp hok
          have hid : old.id = stationId := Table.key_of_find hold
          rw [hdb] at hfind
          obtain ⟨hkey, rfl⟩ := Table.changed_of_set old (old.patch payload) rfl
            (by rw [show key old = stationId from hid]; exact hold) hfind hne
          have hstation : stationId = id := hid.symm.trans hkey
          subst hstation
          exact Or.inr ⟨operator, payload, rfl, hcontrols⟩
    | updateChargePoint operator stationId chargePointId payload =>
        obtain ⟨chargePoints, heq⟩ :=
          updateChargePoint_kept operator stationId chargePointId payload w.db
        rw [World.step, heq] at hfind
        exact absurd hfind hne
    | _ => exact ha.elim
  · obtain ⟨hstations, _⟩ := Prod.mk.inj (w.step_places env ha)
    rw [hstations] at hfind
    exact absurd hfind hne

/-- A charge point is created with its station, and changed by an operator who controls it. -/
theorem World.point_written (w : World) (a : Action Body) {id : Uuid} {point : ChargePoint}
    (hfind : (w.step env a).db.chargePoints.find id = some point)
    (hne : w.db.chargePoints.find id ≠ some point) :
    (∃ owner payload pointIds, a = .createStation owner payload point.stationId pointIds ∧
      point ∈ payload.points point.stationId pointIds ∧
      (w.step env a).db.OwnedBy owner point.stationId) ∨
    ∃ operator payload, a = .updateChargePoint operator point.stationId id payload ∧
      (w.step env a).db.OperatedBy operator id := by
  by_cases ha : a.EditsStation
  · cases a with
    | createStation owner payload stationId pointIds =>
        rw [World.step] at hfind ⊢
        rcases createStation_kept owner payload stationId pointIds w.db with
          heq | ⟨stations, chargePoints, heq, hins, hpoints⟩
        · rw [heq] at hfind
          exact absurd hfind hne
        rw [heq] at hfind ⊢
        rcases (hpoints point).mp (Table.mem_of_find hfind) with hold | hnew
        · have hfound := Table.find_key hold
          rw [show key point = id from Table.key_of_find hfind] at hfound
          exact absurd hfound hne
        · obtain rfl := StationCreateRequest.stationId_of_mem_points hnew
          exact Or.inl ⟨owner, payload, pointIds, rfl, hnew,
            payload.station owner point.stationId, Table.find_insert_self hins, rfl⟩
    | updateStation operator stationId payload =>
        obtain ⟨stations, heq⟩ := updateStation_kept operator stationId payload w.db
        rw [World.step, heq] at hfind
        exact absurd hfind hne
    | updateChargePoint operator stationId chargePointId payload =>
        rw [World.step] at hfind ⊢
        rcases updateChargePoint_commits operator stationId chargePointId payload w.db with
          hkept | ⟨point', hok⟩
        · rw [hkept] at hfind
          exact absurd hfind hne
        · obtain ⟨station, old, hstation, hcontrols, hold, hof, _, _, _, hdb⟩ :=
            updateChargePoint_eq_ok.mp hok
          have hid : old.id = chargePointId := Table.key_of_find hold
          rw [hdb] at hfind ⊢
          obtain ⟨hkey, rfl⟩ := Table.changed_of_set old (old.patch payload) rfl
            (by rw [show key old = chargePointId from hid]; exact hold) hfind hne
          have hpoint : chargePointId = id := hid.symm.trans hkey
          subst hpoint
          have hstationId : stationId = (old.patch payload).stationId := hof.symm
          subst hstationId
          refine Or.inr ⟨operator, payload, rfl, old.patch payload, hfind, ?_⟩
          simp only [operatorControlsStation, decide_eq_true_eq] at hcontrols
          simp only [operatorControlsChargePoint, decide_eq_true_eq]
          exact hcontrols.imp_right fun howner => ⟨station, hstation, howner⟩
    | _ => exact ha.elim
  · obtain ⟨_, hpoints⟩ := Prod.mk.inj (w.step_places env ha)
    rw [hpoints] at hfind
    exact absurd hfind hne

/-- A charge point stays with its station, and a station with its owner. -/
theorem World.operated_step {w : World} {operator : User} {chargePointId : Uuid}
    (h : w.db.OperatedBy operator chargePointId) (a : Action Body) :
    (w.step env a).db.OperatedBy operator chargePointId := by
  obtain ⟨point, hpoint, hcontrols⟩ := h
  obtain ⟨point', hpoint', hsame⟩ := w.point_kept env a hpoint
  refine ⟨point', hpoint', ?_⟩
  simp only [operatorControlsChargePoint, decide_eq_true_eq] at hcontrols ⊢
  refine hcontrols.imp_right ?_
  rintro ⟨station, hstation, howner⟩
  obtain ⟨station', hstation', hkept⟩ := w.station_kept env a hstation
  exact ⟨station', by rwa [hsame], hkept.trans howner⟩

theorem World.owned_run {w : World} {owner : User} {stationId : Uuid}
    (h : w.db.OwnedBy owner stationId) (actions : List (Action Body)) :
    (w.run env actions).db.OwnedBy owner stationId := by
  induction actions generalizing w with
  | nil => exact h
  | cons a actions ih =>
      obtain ⟨station, hstation, howner⟩ := h
      obtain ⟨station', hstation', hkept⟩ := w.station_kept env a hstation
      exact ih ⟨station', hstation', hkept.trans howner⟩

theorem World.operated_run {w : World} {operator : User} {chargePointId : Uuid}
    (h : w.db.OperatedBy operator chargePointId) (actions : List (Action Body)) :
    (w.run env actions).db.OperatedBy operator chargePointId := by
  induction actions generalizing w with
  | nil => exact h
  | cons a actions ih => exact ih (World.operated_step env h a)

end

/-! ### Requests -/

/-- Serving the call for the user begins with the action. -/
def Action.Requests {Body : Type} (user : User) (call : RouteCall) : Action Body → Prop
  | .createBookingHold user' payload _ _ => user' = user ∧ call = .createBooking payload
  | .findUserBookings userId query _ => userId = user.id ∧ call = .listMyBookings query
  | .getUserBooking userId bookingId _ => userId = user.id ∧ call = .getMyBooking bookingId
  | .requestCancellation _ userId bookingId version .. =>
      userId = user.id ∧ call = .cancelMyBooking bookingId version
  | .requestOrder _ user' payload => user' = user ∧ call = .createCheckoutOrder payload
  | .verifyCheckoutPayment user' payload => user' = user ∧ call = .verifyCheckout payload
  | .startChargingSession operator payload .. => operator = user ∧ call = .startSession payload
  | .completeChargingSession operator sessionId payload _ =>
      operator = user ∧ call = .completeSession sessionId payload
  | .createStation owner payload .. => owner = user ∧ call = .createChargingStation payload
  | .updateStation operator stationId payload =>
      operator = user ∧ call = .updateMyStation stationId payload
  | .updateChargePoint operator stationId chargePointId payload =>
      operator = user ∧ call = .updateMyChargePoint stationId chargePointId payload
  | _ => False

theorem RouteCall.requests_of_action {Body : Type} {call : RouteCall} {user : User}
    {draws : ServiceDraws} {a : Action Body} (h : call.action user draws = some a) :
    a.Requests user call := by
  cases call <;> cases h <;> exact ⟨rfl, rfl⟩

/-- What an action is due to: a request that was served, or none that its user could have sent. -/
def Site.Due {Body : Type} (s : Site) (action : Action Body) : Prop :=
  action.Background ∨
    ∃ a ∈ s.admissions, a.served = true ∧ action.Requests a.user.principal a.call

theorem Site.Due.served {Body : Type} {s : Site} {action : Action Body} (h : s.Due action)
    (hasked : ¬action.Background) :
    ∃ a ∈ s.admissions, a.served = true ∧ action.Requests a.user.principal a.call :=
  h.resolve_left hasked

section

variable {Body : Type} (env : Env Body) (auth : Auth.Environment) (text : Auth.TextEnv)

/-- A request that was served stays in the history. -/
theorem Site.served_step (s : Site) (action : SiteAction Body) {a : Admission}
    (hmem : a ∈ s.admissions) (hserved : a.served = true) :
    a ∈ (s.step env auth text action).admissions := by
  cases action with
  | register payload draws seen =>
      simp only [Site.step, Site.register]
      split <;> exact hmem
  | authenticate data now =>
      simp only [Site.step, Site.authenticate]
      split <;> exact hmem
  | createSession login draws now issuedAt =>
      simp only [Site.step, Site.createSession]
      split
      · exact hmem
      · split <;> exact hmem
  | refresh raw draws now =>
      simp only [Site.step, Site.refresh]
      split <;> exact hmem
  | setActive userId isActive => exact hmem
  | letIn authorization call now =>
      simp only [Site.step, Site.letIn]
      split
      · split
        · exact List.mem_append_left _ hmem
        · exact hmem
      · exact hmem
  | serve i draws =>
      simp only [Site.step, Site.serve]
      split
      · exact hmem
      next a' ha' =>
      split
      · exact hmem
      next hunserved =>
      obtain ⟨j, hj⟩ := List.mem_iff_getElem?.mp hmem
      have hij : i ≠ j := by
        rintro rfl
        rw [ha', Option.some.injEq] at hj
        rw [hj] at hunserved
        exact hunserved hserved
      refine List.mem_of_getElem? (i := j) ?_
      rw [List.getElem?_set_ne hij, hj]
  | background action =>
      simp only [Site.step]
      split <;> exact hmem

theorem Site.served_run (s : Site) (actions : List (SiteAction Body)) {a : Admission}
    (hmem : a ∈ s.admissions) (hserved : a.served = true) :
    a ∈ (s.run env auth text actions).admissions := by
  induction actions generalizing s with
  | nil => exact hmem
  | cons action actions ih => exact ih _ (s.served_step env auth text action hmem hserved)

/-- A step of the backend leaves the system alone, or is an action that it is due to. -/
theorem Site.step_world (s : Site) (action : SiteAction Body) :
    (s.step env auth text action).world = s.world ∨
      ∃ a, (s.step env auth text action).world = s.world.step env a ∧
        (s.step env auth text action).Due a := by
  cases action with
  | register payload draws seen =>
      refine Or.inl ?_
      simp only [Site.step, Site.register]
      split <;> rfl
  | authenticate data now =>
      refine Or.inl ?_
      simp only [Site.step, Site.authenticate]
      split <;> rfl
  | createSession login draws now issuedAt =>
      refine Or.inl ?_
      simp only [Site.step, Site.createSession]
      split
      · rfl
      · split <;> rfl
  | refresh raw draws now =>
      refine Or.inl ?_
      simp only [Site.step, Site.refresh]
      split <;> rfl
  | setActive userId isActive => exact Or.inl rfl
  | letIn authorization call now =>
      refine Or.inl ?_
      simp only [Site.step, Site.letIn]
      split
      · split <;> rfl
      · rfl
  | serve i draws =>
      simp only [Site.step, Site.serve]
      split
      · exact Or.inl rfl
      next a ha =>
      split
      · exact Or.inl rfl
      cases haction : (a.call.action a.user.principal draws : Option (Action Body)) with
      | none => exact Or.inl rfl
      | some action =>
          refine Or.inr ⟨action, rfl, Or.inr ⟨{ a with served := true }, ?_, rfl, ?_⟩⟩
          · exact List.mem_set (List.getElem?_eq_some_iff.mp ha).1 _
          · exact RouteCall.requests_of_action haction
  | background action =>
      simp only [Site.step]
      split
      · next hbackground => exact Or.inr ⟨action, rfl, Or.inl hbackground⟩
      · exact Or.inl rfl

/-- The system runs under the backend. -/
theorem Site.world_run (s : Site) (actions : List (SiteAction Body)) :
    ∃ later, (s.run env auth text actions).world = s.world.run env later := by
  induction actions generalizing s with
  | nil => exact ⟨[], rfl⟩
  | cons action actions ih =>
      obtain ⟨later, hlater⟩ := ih (s.step env auth text action)
      rcases s.step_world env auth text action with hsame | ⟨a, hstep, _⟩
      · exact ⟨later, hlater.trans (by rw [hsame])⟩
      · exact ⟨a :: later, hlater.trans (by rw [hstep]; rfl)⟩

variable {env auth text} {s : Site} {actions : List (SiteAction Body)}

theorem Site.Due.run {action : Action Body} (h : s.Due action)
    (actions : List (SiteAction Body)) : (s.run env auth text actions).Due action := by
  refine h.imp_right ?_
  rintro ⟨a, hmem, hserved, hrequests⟩
  exact ⟨a, s.served_run env auth text actions hmem hserved, hserved, hrequests⟩

theorem Site.Initial.reachable (h : s.Initial) (actions : List (SiteAction Body)) :
    (s.run env auth text actions).world.Reachable env := by
  obtain ⟨later, hlater⟩ := s.world_run env auth text actions
  rw [hlater]
  exact (Transition.Reachable.initial h.world).run later

/-- What becomes true of the system does so in an action, and the backend knows what it is due to. -/
theorem Site.exists_entry {Q : World → Prop} (hstart : ¬Q s.world)
    (hend : Q (s.run env auth text actions).world) :
    ∃ before after action, actions = before ++ after ∧ ¬Q (s.run env auth text before).world ∧
      Q ((s.run env auth text before).world.step env action) ∧
      (s.run env auth text actions).Due action ∧
      ∃ later, (s.run env auth text actions).world =
        ((s.run env auth text before).world.step env action).run env later := by
  obtain ⟨before, a, after, rfl, hnot, henter⟩ :=
    Transition.exists_entry (Q := fun t : Site => Q t.world) hstart hend
  have hrun : s.run env auth text (before ++ a :: after) =
      ((s.run env auth text before).step env auth text a).run env auth text after :=
    Transition.run_append (Site.step env auth text) s before (a :: after)
  rcases (s.run env auth text before).step_world env auth text a with hsame | ⟨action, hstep, hdue⟩
  · exact absurd (hsame ▸ henter) hnot
  · obtain ⟨later, hlater⟩ := ((s.run env auth text before).step env auth text a).world_run env auth text after
    refine ⟨before, a :: after, action, rfl, hnot, hstep ▸ henter, ?_, later, ?_⟩
    · rw [hrun]
      exact hdue.run after
    · rw [hrun, hlater, hstep]

/-- A request for an order that the system knows was served. -/
theorem Site.Initial.order_served (h : s.Initial) {id : Uuid} {r : OrderRequest}
    (hr : (s.run env auth text actions).world.orderRequests.find id = some r) :
    ∃ a ∈ (s.run env auth text actions).admissions, a.served = true ∧ a.user.principal = r.user ∧
      a.call = .createCheckoutOrder r.payload := by
  let Q : World → Prop := fun w => ∃ r', w.orderRequests.find id = some r' ∧ r'.user = r.user ∧
    r'.payload = r.payload
  have hstart : ¬Q s.world := by
    rintro ⟨r', hr', _⟩
    rw [h.world.orderRequests, Table.find_empty] at hr'
    cases hr'
  obtain ⟨before, _, action, _, hnot, ⟨r', hr', huser, hpayload⟩, hdue, _⟩ :=
    Site.exists_entry (Q := Q) hstart ⟨r, hr, rfl, rfl⟩
  rcases (s.run env auth text before).world.order_entered env action hr' with
    ⟨r₀, hr₀, huser₀, hpayload₀⟩ | rfl
  · exact absurd ⟨r₀, hr₀, huser₀.symm.trans huser, hpayload₀.symm.trans hpayload⟩ hnot
  · obtain ⟨a, hmem, hserved, hprincipal, hcall⟩ := hdue.served not_false
    exact ⟨a, hmem, hserved, hprincipal.symm.trans huser, by rw [hcall, hpayload]⟩

theorem Site.Initial.payment_due (h : s.Initial) {p : Payment}
    (hp : (s.run env auth text actions).world.db.payments.find p.id = some p) :
    ∃ a ∈ (s.run env auth text actions).admissions, a.served = true ∧ a.user.id = p.userId ∧
      ∃ payload, a.call = .createCheckoutOrder payload ∧ payload.bookingId = p.bookingId ∧
        payload.idempotencyKey = p.idempotencyKey := by
  let Q : World → Prop := fun w => ∃ q, w.db.payments.find p.id = some q
  have hstart : ¬Q s.world := by
    rintro ⟨q, hq⟩
    rw [h.world.payments, Table.find_empty] at hq
    cases hq
  obtain ⟨before, after, action, rfl, hnot, ⟨q, hq⟩, _, later, hlater⟩ :=
    Site.exists_entry (Q := Q) hstart ⟨p, hp⟩
  have hreach : (s.run env auth text before).world.Reachable env := h.reachable before
  have hqid : q.id = p.id := Table.key_of_find hq
  have hnew : (s.run env auth text before).world.db.payments.find q.id = none := by
    rw [hqid]
    exact Option.eq_none_iff_forall_ne_some.mpr fun q' hq' => hnot ⟨q', hq'⟩
  obtain ⟨r, b, _, _, _, _, hr, _, hb, huser, hopens, hkey, _⟩ :=
    hreach.sound.payment_begun env action hnew (Table.mem_of_find hq)
  obtain ⟨a, hmem, hserved, hprincipal, hcall⟩ := h.order_served hr
  rw [hlater] at hp
  obtain ⟨p', hp', hcont⟩ := World.Reachable.payment_run (hreach.next action) later hq
  rw [hp] at hp'
  obtain rfl : p = p' := Option.some.inj hp'
  have hbooking : b.id = r.payload.bookingId := Table.key_of_find hb
  have hrun : s.run env auth text (before ++ after) =
      (s.run env auth text before).run env auth text after :=
    Transition.run_append (Site.step env auth text) s before after
  refine ⟨a, ?_, hserved, ?_, r.payload, hcall, ?_, ?_⟩
  · rw [hrun]
    exact (s.run env auth text before).served_run env auth text after hmem hserved
  · rw [hcont.userId, hopens.userId, huser, ← hprincipal]
    rfl
  · rw [hcont.bookingId, hopens.bookingId, hbooking]
  · rw [hcont.idempotencyKey, hkey]

theorem Site.Initial.booking_due (h : s.Initial) {b : Booking}
    (hb : (s.run env auth text actions).world.db.bookings.find b.id = some b) :
    ∃ a ∈ (s.run env auth text actions).admissions, a.served = true ∧ a.user.id = b.userId ∧
      ∃ payload, a.call = .createBooking payload ∧ payload.chargePointId = b.chargePointId ∧
        payload.startsAt = b.startsAt ∧ payload.endsAt = b.endsAt := by
  let Q : World → Prop := fun w => ∃ d, w.db.bookings.find b.id = some d
  have hstart : ¬Q s.world := by
    rintro ⟨d, hd⟩
    rw [h.world.bookings, Table.find_empty] at hd
    cases hd
  obtain ⟨before, _, action, _, hnot, ⟨d, hd⟩, hdue, later, hlater⟩ :=
    Site.exists_entry (Q := Q) hstart ⟨b, hb⟩
  have hreach : (s.run env auth text before).world.Reachable env := h.reachable before
  have hnew : (s.run env auth text before).world.db.bookings.find b.id = none :=
    Option.eq_none_iff_forall_ne_some.mpr fun d' hd' => hnot ⟨d', hd'⟩
  obtain ⟨user, payload, now, rfl, huser, hcharge, hstarts, hends⟩ :=
    (s.run env auth text before).world.booking_held env action hnew hd
  rw [hlater] at hb
  obtain ⟨b', hb', hfollows⟩ := World.Reachable.booking_run (hreach.next _) later hd
  rw [hb] at hb'
  obtain rfl : b = b' := Option.some.inj hb'
  obtain ⟨a, hmem, hserved, hprincipal, hcall⟩ := hdue.served not_false
  refine ⟨a, hmem, hserved, ?_, payload, hcall, ?_, ?_, ?_⟩
  · rw [hfollows.userId, ← huser, hprincipal]
    rfl
  · rw [hcharge, hfollows.chargePointId]
  · rw [hstarts, hfollows.startsAt]
  · rw [hends, hfollows.endsAt]

theorem Site.Initial.cancellation_due (h : s.Initial) {b : Booking}
    (hb : (s.run env auth text actions).world.db.bookings.find b.id = some b)
    (hcancelled : b.status = .cancelled) :
    ∃ a ∈ (s.run env auth text actions).admissions, a.served = true ∧ a.user.id = b.userId ∧
      ∃ version, a.call = .cancelMyBooking b.id version := by
  have hstart : s.world.db.bookings.find b.id ≠ some b := by
    rw [h.world.bookings, Table.find_empty]
    exact Option.some_ne_none b |>.symm
  obtain ⟨before, _, action, _, hnot, henter, hdue, _⟩ :=
    Site.exists_entry (Q := fun w => w.db.bookings.find b.id = some b) hstart hb
  rcases World.Sound.booking_cancelled env (World.Reachable.sound (h.reachable before)) action henter
    hcancelled hnot with ⟨_, version, _, _, _, _, rfl⟩ | ⟨_, _, rfl⟩
  · obtain ⟨a, hmem, hserved, huser, hcall⟩ := hdue.served not_false
    exact ⟨a, hmem, hserved, huser.symm, version, hcall⟩
  · obtain ⟨_, _, _, hrequests⟩ := hdue.served not_false
    exact hrequests.elim

theorem Site.Initial.session_due (h : s.Initial) {c : ChargingSession}
    (hc : (s.run env auth text actions).world.db.chargingSessions.find c.id = some c) :
    ∃ a ∈ (s.run env auth text actions).admissions, a.served = true ∧
      (s.run env auth text actions).world.db.OperatedBy a.user.principal c.chargePointId ∧
      ∃ payload, a.call = .startSession payload ∧ payload.bookingId = c.bookingId := by
  let Q : World → Prop := fun w => ∃ d, w.db.chargingSessions.find c.id = some d ∧
    d.bookingId = c.bookingId ∧ d.chargePointId = c.chargePointId
  have hstart : ¬Q s.world := by
    rintro ⟨d, hd, _⟩
    rw [h.world.chargingSessions, Table.find_empty] at hd
    cases hd
  obtain ⟨before, _, action, _, hnot, ⟨d, hd, hbooking, hcharge⟩, hdue, later, hlater⟩ :=
    Site.exists_entry (Q := Q) hstart ⟨c, hc, rfl, rfl⟩
  have hreach : (s.run env auth text before).world.Reachable env := h.reachable before
  have hnew : (s.run env auth text before).world.db.chargingSessions.find c.id = none := by
    refine Option.eq_none_iff_forall_ne_some.mpr fun d₀ hd₀ => ?_
    obtain ⟨d', hd', hbooking', hcharge'⟩ := hreach.session_next env action hd₀
    rw [hd, Option.some.injEq] at hd'
    subst hd'
    exact hnot ⟨d₀, hd₀, hbooking'.symm.trans hbooking, hcharge'.symm.trans hcharge⟩
  obtain ⟨operator, payload, now, rfl, hpayload, hoperated⟩ :=
    (s.run env auth text before).world.session_started env action hnew hd
  obtain ⟨a, hmem, hserved, hprincipal, hcall⟩ := hdue.served not_false
  refine ⟨a, hmem, hserved, ?_, payload, hcall, hpayload.trans hbooking⟩
  rw [hlater, ← hprincipal, ← hcharge]
  exact World.operated_run env (World.operated_step env hoperated _) later

theorem Site.Initial.completion_due (h : s.Initial) {c : ChargingSession}
    (hc : (s.run env auth text actions).world.db.chargingSessions.find c.id = some c)
    (hcompleted : c.status = .completed) :
    ∃ a ∈ (s.run env auth text actions).admissions, a.served = true ∧
      (s.run env auth text actions).world.db.OperatedBy a.user.principal c.chargePointId ∧
      ∃ payload, a.call = .completeSession c.id payload ∧
        c.meterEndKwh = some payload.meterEndKwh := by
  have hstart : s.world.db.chargingSessions.find c.id ≠ some c := by
    rw [h.world.chargingSessions, Table.find_empty]
    exact Option.some_ne_none c |>.symm
  obtain ⟨before, _, action, _, hnot, henter, hdue, later, hlater⟩ :=
    Site.exists_entry (Q := fun w => w.db.chargingSessions.find c.id = some c) hstart hc
  obtain ⟨operator, payload, now, rfl, hmeter, hoperated⟩ :=
    (s.run env auth text before).world.session_completed env action henter hcompleted hnot
  obtain ⟨a, hmem, hserved, hprincipal, hcall⟩ := hdue.served not_false
  refine ⟨a, hmem, hserved, ?_, payload, hcall, hmeter⟩
  rw [hlater, ← hprincipal]
  exact World.operated_run env (World.operated_step env hoperated _) later

theorem Site.station_due {station : ChargingStation}
    (hfind : (s.run env auth text actions).world.db.stations.find station.id = some station) :
    s.world.db.stations.find station.id = some station ∨
    (∃ a ∈ (s.run env auth text actions).admissions, a.served = true ∧
      ∃ payload, a.call = .createChargingStation payload ∧
        station = payload.station a.user.principal station.id) ∨
    ∃ a ∈ (s.run env auth text actions).admissions, a.served = true ∧
      operatorControlsStation a.user.principal station = true ∧
      ∃ payload, a.call = .updateMyStation station.id payload := by
  by_cases hstart : s.world.db.stations.find station.id = some station
  · exact Or.inl hstart
  obtain ⟨before, _, action, _, hnot, henter, hdue, _⟩ :=
    Site.exists_entry (Q := fun w => w.db.stations.find station.id = some station) hstart hfind
  rcases (s.run env auth text before).world.station_written env action henter hnot with
    ⟨owner, payload, pointIds, rfl, hrow⟩ | ⟨operator, payload, rfl, hcontrols⟩
  · obtain ⟨a, hmem, hserved, hprincipal, hcall⟩ := hdue.served not_false
    exact Or.inr (Or.inl ⟨a, hmem, hserved, payload, hcall, hprincipal ▸ hrow⟩)
  · obtain ⟨a, hmem, hserved, hprincipal, hcall⟩ := hdue.served not_false
    exact Or.inr (Or.inr ⟨a, hmem, hserved, hprincipal ▸ hcontrols, payload, hcall⟩)

theorem Site.point_due {point : ChargePoint}
    (hfind : (s.run env auth text actions).world.db.chargePoints.find point.id = some point) :
    s.world.db.chargePoints.find point.id = some point ∨
    (∃ a ∈ (s.run env auth text actions).admissions, a.served = true ∧
      (s.run env auth text actions).world.db.OwnedBy a.user.principal point.stationId ∧
      ∃ payload pointIds, a.call = .createChargingStation payload ∧
        point ∈ payload.points point.stationId pointIds) ∨
    ∃ a ∈ (s.run env auth text actions).admissions, a.served = true ∧
      (s.run env auth text actions).world.db.OperatedBy a.user.principal point.id ∧
      ∃ payload, a.call = .updateMyChargePoint point.stationId point.id payload := by
  by_cases hstart : s.world.db.chargePoints.find point.id = some point
  · exact Or.inl hstart
  obtain ⟨before, _, action, _, hnot, henter, hdue, later, hlater⟩ :=
    Site.exists_entry (Q := fun w => w.db.chargePoints.find point.id = some point) hstart hfind
  rw [hlater]
  rcases (s.run env auth text before).world.point_written env action henter hnot with
    ⟨owner, payload, pointIds, rfl, hrow, howned⟩ | ⟨operator, payload, rfl, hoperated⟩
  · obtain ⟨a, hmem, hserved, hprincipal, hcall⟩ := hdue.served not_false
    subst hprincipal
    exact Or.inr (Or.inl ⟨a, hmem, hserved, World.owned_run env howned later, payload, pointIds,
      hcall, hrow⟩)
  · obtain ⟨a, hmem, hserved, hprincipal, hcall⟩ := hdue.served not_false
    subst hprincipal
    exact Or.inr (Or.inr ⟨a, hmem, hserved, World.operated_run env hoperated later, payload,
      hcall⟩)

end

/-- A request that was let through on a token that its user has earned, and was served. -/
def Site.Served (auth : Auth.Environment) (s : Site) (P : User → RouteCall → Prop) : Prop :=
  ∃ a ∈ s.admissions, a.served = true ∧ a.Backed auth s.grants ∧ P a.user.principal a.call

/-- Every row of the system goes back to a request of who may make it. In every run of the backend
from the start in which no access token is forged, each booking was asked for by its user and each
cancelled one was cancelled by its user; each payment was asked for by its user with its idempotency
key; each charging session was started, and each completed one completed with its reading, by an
operator of its charge point; and each station and each charge point is as it was at the start, is as
the station's owner created it or was patched by an operator who controls it. Each of these requests
was let through its decorator on an access token that goes back to the password of the one who is
said to have made it. -/
theorem rows_authorized {Body : Type} (env : Env Body) {auth : Auth.Environment}
    (hjwt : auth.SoundJwt) (text : Auth.TextEnv) {s : Site} (hinit : s.Initial) {actions : List (SiteAction Body)}
    (hunforged : Transition.Along (Site.step env auth text) (Site.Unforged auth) s actions) :
    let site := s.run env auth text actions
    (∀ b ∈ site.world.db.bookings, site.Served auth fun user call => user.id = b.userId ∧
      ∃ payload, call = .createBooking payload ∧ payload.chargePointId = b.chargePointId ∧
        payload.startsAt = b.startsAt ∧ payload.endsAt = b.endsAt) ∧
    (∀ b ∈ site.world.db.bookings, b.status = .cancelled → site.Served auth fun user call =>
      user.id = b.userId ∧ ∃ version, call = .cancelMyBooking b.id version) ∧
    (∀ p ∈ site.world.db.payments, site.Served auth fun user call => user.id = p.userId ∧
      ∃ payload, call = .createCheckoutOrder payload ∧ payload.bookingId = p.bookingId ∧
        payload.idempotencyKey = p.idempotencyKey) ∧
    (∀ c ∈ site.world.db.chargingSessions, site.Served auth fun operator call =>
      site.world.db.OperatedBy operator c.chargePointId ∧
      ∃ payload, call = .startSession payload ∧ payload.bookingId = c.bookingId) ∧
    (∀ c ∈ site.world.db.chargingSessions, c.status = .completed →
      site.Served auth fun operator call => site.world.db.OperatedBy operator c.chargePointId ∧
        ∃ payload, call = .completeSession c.id payload ∧
          c.meterEndKwh = some payload.meterEndKwh) ∧
    (∀ station ∈ site.world.db.stations, station ∈ s.world.db.stations ∨
      (site.Served auth fun owner call => ∃ payload, call = .createChargingStation payload ∧
        station = payload.station owner station.id) ∨
      site.Served auth fun operator call => operatorControlsStation operator station = true ∧
        ∃ payload, call = .updateMyStation station.id payload) ∧
    ∀ point ∈ site.world.db.chargePoints, point ∈ s.world.db.chargePoints ∨
      (site.Served auth fun owner call => site.world.db.OwnedBy owner point.stationId ∧
        ∃ payload pointIds, call = .createChargingStation payload ∧
          point ∈ payload.points point.stationId pointIds) ∨
      site.Served auth fun operator call => site.world.db.OperatedBy operator point.id ∧
        ∃ payload, call = .updateMyChargePoint point.stationId point.id payload := by
  have htraced : (s.run env auth text actions).Traced auth :=
    Transition.Along.kept (fun _ _ hs ha => hs.step env text hjwt ha) (Site.Traced.start hinit) hunforged
  have hbacked : ∀ {P : User → RouteCall → Prop}, (∃ a ∈ (s.run env auth text actions).admissions,
      a.served = true ∧ P a.user.principal a.call) → (s.run env auth text actions).Served auth P := by
    rintro P ⟨a, hmem, hserved, hP⟩
    exact ⟨a, hmem, hserved, htraced.admissions a hmem, hP⟩
  refine ⟨?_, ?_, ?_, ?_, ?_, ?_, ?_⟩
  · intro b hb
    exact hbacked (hinit.booking_due (Table.find_key hb))
  · intro b hb hcancelled
    exact hbacked (hinit.cancellation_due (Table.find_key hb) hcancelled)
  · intro p hp
    exact hbacked (hinit.payment_due (Table.find_key hp))
  · intro c hc
    exact hbacked (hinit.session_due (Table.find_key hc))
  · intro c hc hcompleted
    exact hbacked (hinit.completion_due (Table.find_key hc) hcompleted)
  · intro station hstation
    exact (Site.station_due (Table.find_key hstation)).imp Table.mem_of_find (Or.imp hbacked hbacked)
  · intro point hpoint
    exact (Site.point_due (Table.find_key hpoint)).imp Table.mem_of_find (Or.imp hbacked hbacked)

/-- The sample visit goes on to ask for an order, and the payment is begun. -/
def sampleCheckout : List (SiteAction Json) :=
  sampleVisit ++ [.letIn (some ⟨"Bearer", sampleToken⟩) (.createCheckoutOrder ⟨20, 1, 31⟩) 120000000,
    .serve 1 ⟨30, 30, [], "", 0, 120000000, 120000000⟩, .background (.beginOrder 30 32 120000000)]

theorem sampleCheckout_unforged : Transition.Along (Site.step sampleEnv Auth.sampleEnvironment Auth.asciiText)
    (Site.Unforged Auth.sampleEnvironment) sampleSite sampleCheckout := by
  refine ⟨trivial, trivial, trivial, ?_, trivial, ?_, trivial, trivial, trivial⟩ <;>
    exact fun _ => by decide +kernel

theorem rows_authorized_sample :
    let site := sampleSite.run sampleEnv Auth.sampleEnvironment Auth.asciiText sampleCheckout
    ∃ p ∈ site.world.db.payments, p.id = 32 ∧ p.userId = 10 ∧
      site.Served Auth.sampleEnvironment fun user call => user.id = p.userId ∧
        ∃ payload, call = .createCheckoutOrder payload ∧ payload.bookingId = p.bookingId ∧
          payload.idempotencyKey = p.idempotencyKey := by
  have hpayment : ∃ p ∈ (sampleSite.run sampleEnv Auth.sampleEnvironment Auth.asciiText
      sampleCheckout).world.db.payments, p.id = 32 ∧ p.userId = 10 := by decide +kernel
  obtain ⟨p, hmem, hid, huser⟩ := hpayment
  refine ⟨p, hmem, hid, huser, ?_⟩
  exact (rows_authorized sampleEnv Auth.sampleEnvironment_soundJwt Auth.asciiText sampleSite_initial
    sampleCheckout_unforged).2.2.1 p hmem

end ChargeMate
