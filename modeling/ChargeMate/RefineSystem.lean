import ChargeMate.RefineRefunds

/-! The system refines the ledger: in every reachable state, each action is one move, whatever
the requests in flight. -/

namespace ChargeMate

open Relational

structure World.Sound (w : World) : Prop where
  ledger : w.db.ledger.Sound
  orders : OrdersSound w.db.ledger w.orderRequests w.orderCalls
  cancellations : CancellationsSound w.db.ledger w.cancellationRequests w.refundCalls

/-- A transaction of no request in flight. -/
theorem World.Sound.commit {w w' : World} {c : Cause} (h : w.Sound)
    (hmove : Move w.db.ledger c w'.db.ledger) (hc : ∀ id, c ≠ .answer id)
    (horders : w'.orderRequests = w.orderRequests) (hocalls : w'.orderCalls = w.orderCalls)
    (hcancels : w'.cancellationRequests = w.cancellationRequests)
    (hrcalls : w'.refundCalls = w.refundCalls) : w'.Sound where
  ledger := hmove.sound h.ledger
  orders := by
    rw [horders, hocalls]
    exact h.orders.move h.ledger hmove hc
  cancellations := by
    rw [hcancels, hrcalls]
    exact h.cancellations.move h.ledger hmove

/-- A transaction of an order request. -/
theorem World.Sound.order {w w' : World} {c : Cause} (h : w.Sound)
    (hmove : Move w.db.ledger c w'.db.ledger)
    (horders : OrdersSound w'.db.ledger w'.orderRequests w'.orderCalls)
    (hcancels : w'.cancellationRequests = w.cancellationRequests)
    (hrcalls : w'.refundCalls = w.refundCalls) : w'.Sound where
  ledger := hmove.sound h.ledger
  orders := horders
  cancellations := by
    rw [hcancels, hrcalls]
    exact h.cancellations.move h.ledger hmove

/-- A transaction of a cancellation request. -/
theorem World.Sound.cancellation {w w' : World} {c : Cause} (h : w.Sound)
    (hmove : Move w.db.ledger c w'.db.ledger) (hc : ∀ id, c ≠ .answer id)
    (hcancels : CancellationsSound w'.db.ledger w'.cancellationRequests w'.refundCalls)
    (horders : w'.orderRequests = w.orderRequests) (hocalls : w'.orderCalls = w.orderCalls) :
    w'.Sound where
  ledger := hmove.sound h.ledger
  orders := by
    rw [horders, hocalls]
    exact h.orders.move h.ledger hmove hc
  cancellations := hcancels

/-! ### What an action is about -/

/-- The payment notice of a delivery that is stored as new, with the payment under its order. -/
def World.noticeOf {Body : Type} (w : World) : Action Body → Option (PaymentNotice × Payment)
  | .storeDelivery deliveryId eventRowId _ =>
      match w.deliveries.find deliveryId with
      | some ⟨_, .accepted delivery⟩ =>
          match delivery.flush eventRowId w.db with
          | .ok _ => delivery.notice.bind fun n => (n.subject w.db).map fun p => (n, p)
          | .error _ => none
      | _ => none
  | _ => none

/-- The payment of which the action records a capture. -/
def World.capturing {Body : Type} (w : World) (a : Action Body) : Option Payment :=
  ((w.noticeOf a).filter fun x => x.1.Captures x.2 w.db).map Prod.snd

/-- The payment of which the action records a notice with another amount or provider payment. -/
def World.mismatching {Body : Type} (w : World) (a : Action Body) : Option Payment :=
  ((w.noticeOf a).filter fun x => ¬(x.1.Matches x.2 ∧ x.1.Agrees x.2)).map Prod.snd

/-- The captured payment that the cancellation of a confirmed booking refunds. -/
def World.refundedBy {Body : Type} (w : World) : Action Body → Option Payment
  | .requestCancellation _ userId bookingId expectedVersion _ choice _ _ =>
      (w.db.confirmedBooking userId bookingId expectedVersion).bind fun _ =>
        firstReturned choice (capturedPayments w.db bookingId)
  | _ => none

/-- The confirmed booking that is cancelled without a refund. -/
def World.droppedBy {Body : Type} (w : World) : Action Body → Option Booking
  | .cancelUserBooking userId bookingId expectedVersion _ =>
      w.db.confirmedBooking userId bookingId expectedVersion
  | _ => none

/-- What the cause of a move says about the action behind it. -/
def Cause.Explained {Body : Type} (w : World) (a : Action Body) : Cause → Prop
  | .other | .answer _ => True
  | .capture id => ∃ p, w.capturing a = some p ∧ p.id = id
  | .mismatch id => ∃ p, w.mismatching a = some p ∧ p.id = id
  | .cancel id => ∀ b, w.db.bookings.find id = some b → b.status = .confirmed →
      w.droppedBy a = some b
  | .refund bookingId paymentId => ∃ p, w.refundedBy a = some p ∧ p.id = paymentId ∧
      p.bookingId = bookingId

theorem World.noticeOf_subject {Body : Type} {w : World} {a : Action Body} {n : PaymentNotice}
    {p : Payment} (h : w.noticeOf a = some (n, p)) : n.subject w.db = some p := by
  unfold World.noticeOf at h
  split at h
  · split at h
    · split at h
      · simp only [Option.bind_eq_some_iff, Option.map_eq_some_iff, Prod.mk.injEq] at h
        obtain ⟨_, _, _, hp, rfl, rfl⟩ := h
        exact hp
      · cases h
    · cases h
  · cases h

theorem World.capturing_eq_some {Body : Type} {w : World} {a : Action Body} {p : Payment} :
    w.capturing a = some p ↔ ∃ n, w.noticeOf a = some (n, p) ∧ n.Captures p w.db := by
  simp [World.capturing, Option.filter_eq_some_iff]

theorem World.mismatching_eq_some {Body : Type} {w : World} {a : Action Body} {p : Payment} :
    w.mismatching a = some p ↔ ∃ n, w.noticeOf a = some (n, p) ∧ ¬(n.Matches p ∧ n.Agrees p) := by
  simp [World.mismatching, Option.filter_eq_some_iff, imp_iff_not_or]

/-- A payment that an action is about is stored. -/
theorem World.find_capturing {Body : Type} {w : World} {a : Action Body} {p : Payment}
    (h : w.capturing a = some p) : w.db.payments.find p.id = some p := by
  obtain ⟨n, hn, _⟩ := World.capturing_eq_some.mp h
  exact (PaymentNotice.find_subject (World.noticeOf_subject hn)).1

theorem World.find_mismatching {Body : Type} {w : World} {a : Action Body} {p : Payment}
    (h : w.mismatching a = some p) : w.db.payments.find p.id = some p := by
  obtain ⟨n, hn, _⟩ := World.mismatching_eq_some.mp h
  exact (PaymentNotice.find_subject (World.noticeOf_subject hn)).1

/-! ### What each action leaves alone -/

theorem World.receiveDelivery_eq {Body : Type} (env : Env Body) (w : World) (deliveryId : Uuid)
    (request : WebhookRequest Body) :
    ∃ deliveries, w.receiveDelivery env deliveryId request = { w with deliveries } := by
  unfold World.receiveDelivery
  split
  · exact ⟨w.deliveries, rfl⟩
  · split
    · exact ⟨w.deliveries, rfl⟩
    · exact ⟨_, rfl⟩

theorem World.startReconciliation_eq {Body : Type} (env : Env Body) (w : World) (runId : Uuid)
    (batchSize : Nat) :
    ∃ reconciliations, w.startReconciliation env runId batchSize = { w with reconciliations } := by
  unfold World.startReconciliation
  split
  · exact ⟨w.reconciliations, rfl⟩
  · split
    · exact ⟨w.reconciliations, rfl⟩
    · exact ⟨_, rfl⟩

theorem World.readCancellation_eq (w : World) (requestId : Uuid) : ∃ cancellationRequests,
    w.readCancellation requestId = { w with cancellationRequests } := by
  unfold World.readCancellation
  split
  · exact ⟨_, rfl⟩
  · exact ⟨_, rfl⟩
  · exact ⟨w.cancellationRequests, rfl⟩

theorem World.beginOrder_move (w : World) (requestId paymentId : Uuid) (now : Timestamp) :
    Move w.db.ledger .other (w.beginOrder requestId paymentId now).db.ledger := by
  unfold World.beginOrder
  split
  · exact beginPaymentAttempt_move _ _ paymentId now w.db
  · exact Move.stay

theorem World.storeDelivery_move {Body : Type} (w : World) (deliveryId eventRowId : Uuid)
    (now : Timestamp) : ∃ c : Cause, (∀ id, c ≠ .answer id) ∧
      c.Explained w (.storeDelivery deliveryId eventRowId now : Action Body) ∧
      Move w.db.ledger c (w.storeDelivery deliveryId eventRowId now).db.ledger := by
  unfold World.storeDelivery
  split
  · next id d hd =>
    obtain ⟨c, hc, hmove⟩ := ChargeMate.storeDelivery_move d eventRowId now w.db
    refine ⟨c, ?_, ?_, hmove⟩
    · rcases hc with rfl | ⟨_, n, p, _, _, rfl | ⟨rfl, _⟩ | ⟨rfl, _⟩⟩ <;> simp
    · rcases hc with rfl | ⟨⟨flushed, hflush⟩, n, p, hn, hp, hexp⟩
      · trivial
      have hnotice : w.noticeOf (.storeDelivery deliveryId eventRowId now : Action Body) =
          some (n, p) := by
        simp only [World.noticeOf, hd, hflush, hn, Option.bind_some, hp, Option.map_some]
      rcases hexp with rfl | ⟨rfl, hcaptures⟩ | ⟨rfl, hboth⟩
      · trivial
      · exact ⟨p, World.capturing_eq_some.mpr ⟨n, hnotice, hcaptures⟩, rfl⟩
      · exact ⟨p, World.mismatching_eq_some.mpr ⟨n, hnotice, hboth⟩, rfl⟩
  · exact ⟨.other, by simp, trivial, Move.stay⟩

/-- The cause of a cancellation's move, by the action. -/
theorem World.requestCancellation_explained {Body : Type} (w : World)
    (requestId userId bookingId : Uuid) (expectedVersion : Nat) (refundId : Uuid) (choice : Nat)
    (now createdAt : Timestamp) : ∃ c : Cause, (∀ id, c ≠ .answer id) ∧
      c.Explained w (.requestCancellation requestId userId bookingId expectedVersion refundId choice
        now createdAt : Action Body) ∧
      Move w.db.ledger c (w.requestCancellation requestId userId bookingId expectedVersion refundId
        choice now createdAt).db.ledger := by
  obtain ⟨c, hc, hmove⟩ := w.requestCancellation_move requestId userId bookingId expectedVersion
    refundId choice now createdAt
  refine ⟨c, ?_, ?_, hmove⟩
  · rcases hc with rfl | ⟨rfl, _⟩ | ⟨_, _, _, _, rfl⟩ <;> simp
  · rcases hc with rfl | ⟨rfl, hstatus⟩ | ⟨b, p, hb, hp, rfl⟩
    · trivial
    · exact fun b hb hconfirmed => absurd hconfirmed (hstatus b hb)
    · refine ⟨p, ?_, rfl, (mem_capturedPayments.mp (mem_of_firstReturned hp)).2.1⟩
      simp only [World.refundedBy, hb, Option.bind_some, hp]

theorem World.reconcileNext_move (w : World) (runId : Uuid) (answer : ProviderAnswer)
    (now : Timestamp) : Move w.db.ledger .other (w.reconcileNext runId answer now).db.ledger := by
  unfold World.reconcileNext
  split
  · exact Move.stay
  · split
    · exact Move.stay
    · exact reconcileSnapshot_move _ answer now w.db

section

variable {Body : Type} (env : Env Body)

/-- Every action of the system is a move of the ledger, for a cause that the action explains, and
keeps the system sound. -/
theorem World.step_refines {w : World} (h : w.Sound) (a : Action Body) :
    (∃ c : Cause, c.Explained w a ∧ Move w.db.ledger c (w.step env a).db.ledger) ∧
      (w.step env a).Sound := by
  -- an action that only commits a transaction
  have hcause : ∀ {c : Cause} {w' : World}, c.Explained w a → (∀ id, c ≠ .answer id) →
      Move w.db.ledger c w'.db.ledger →
      w'.orderRequests = w.orderRequests → w'.orderCalls = w.orderCalls →
      w'.cancellationRequests = w.cancellationRequests → w'.refundCalls = w.refundCalls →
      (∃ c : Cause, c.Explained w a ∧ Move w.db.ledger c w'.db.ledger) ∧ w'.Sound :=
    fun hexp hc hmove horders hocalls hcancels hrcalls =>
      ⟨⟨_, hexp, hmove⟩, h.commit hmove hc horders hocalls hcancels hrcalls⟩
  have hcommit : ∀ {w' : World}, Move w.db.ledger .other w'.db.ledger →
      w'.orderRequests = w.orderRequests → w'.orderCalls = w.orderCalls →
      w'.cancellationRequests = w.cancellationRequests → w'.refundCalls = w.refundCalls →
      (∃ c : Cause, c.Explained w a ∧ Move w.db.ledger c w'.db.ledger) ∧ w'.Sound :=
    hcause (c := .other) trivial (by simp)
  cases a with
  | createBookingHold user payload bookingId now =>
      exact hcommit (createBookingHold_move _ user payload bookingId now w.db) rfl rfl rfl rfl
  | findUserBookings userId query now =>
      exact hcommit (findUserBookings_move userId query now w.db) rfl rfl rfl rfl
  | getUserBooking userId bookingId now =>
      exact hcommit (getUserBooking_move userId bookingId now w.db) rfl rfl rfl rfl
  | cancelUserBooking userId bookingId expectedVersion now =>
      obtain ⟨c, hc, hmove⟩ := cancelUserBooking_move userId bookingId expectedVersion now w.db
      rcases hc with rfl | ⟨rfl, hconfirmed⟩
      · exact hcommit hmove rfl rfl rfl rfl
      · exact hcause (c := .cancel bookingId) hconfirmed (by simp) hmove rfl rfl rfl rfl
  | expireStaleBookingHolds now batchSize locked =>
      exact hcommit (expireStaleBookingHolds_move now batchSize locked w.db) rfl rfl rfl rfl
  | requestOrder requestId user payload =>
      have hmove : Move w.db.ledger .other (w.requestOrder env requestId user payload).db.ledger := by
        simp only [World.requestOrder]
        split <;> exact Move.stay
      refine ⟨⟨.other, trivial, hmove⟩, h.order hmove
        (World.requestOrder_sound env h.ledger h.orders requestId user payload) ?_ ?_⟩ <;>
        · simp only [World.step, World.requestOrder]
          split <;> rfl
  | beginOrder requestId paymentId now =>
      have hmove := w.beginOrder_move requestId paymentId now
      refine ⟨⟨.other, trivial, hmove⟩, h.order hmove
        (World.beginOrder_sound h.ledger h.orders requestId paymentId now) ?_ ?_⟩ <;>
        · simp only [World.step, World.beginOrder]
          split <;> rfl
  | callOrder requestId =>
      have hmove : Move w.db.ledger .other (w.callOrder requestId).db.ledger := by
        unfold World.callOrder
        split <;> exact Move.stay
      refine ⟨⟨.other, trivial, hmove⟩, h.order hmove
        (World.callOrder_sound h.ledger h.orders requestId) ?_ ?_⟩ <;>
        · simp only [World.step, World.callOrder]
          split <;> rfl
  | closeOrder requestId answer now =>
      obtain ⟨c, hc, hmove⟩ := World.closeOrder_move env h.ledger h.orders requestId answer now
      have hexp : c.Explained w (.closeOrder requestId answer now : Action Body) := by
        rcases hc with rfl | ⟨id, rfl⟩ <;> trivial
      refine ⟨⟨c, hexp, hmove⟩, h.order hmove
        (World.closeOrder_sound env h.ledger h.orders requestId answer now) ?_ ?_⟩ <;>
        · simp only [World.step, World.closeOrder]
          split <;> rfl
  | verifyCheckoutPayment user payload =>
      exact hcommit (verifyCheckoutPayment_move env user payload w.db) rfl rfl rfl rfl
  | receiveDelivery deliveryId request =>
      obtain ⟨deliveries, heq⟩ := w.receiveDelivery_eq env deliveryId request
      rw [World.step, heq]
      exact hcommit Move.stay rfl rfl rfl rfl
  | storeDelivery deliveryId eventRowId now =>
      obtain ⟨c, hc, hexp, hmove⟩ := w.storeDelivery_move deliveryId eventRowId now
      refine hcause hexp hc hmove ?_ ?_ ?_ ?_ <;>
        · simp only [World.step, World.storeDelivery]
          split <;> rfl
  | requestCancellation requestId userId bookingId expectedVersion refundId choice now createdAt =>
      obtain ⟨c, hc, hexp, hmove⟩ := w.requestCancellation_explained requestId userId bookingId
        expectedVersion refundId choice now createdAt
      refine ⟨⟨c, hexp, hmove⟩, h.cancellation hmove hc (World.requestCancellation_sound h.ledger
        h.cancellations requestId userId bookingId expectedVersion refundId choice now createdAt)
        ?_ ?_⟩ <;>
        · simp only [World.step, World.requestCancellation]
          split <;> rfl
  | callRefund requestId =>
      have hmove := w.callRefund_move env requestId
      refine ⟨⟨.other, trivial, hmove⟩, h.cancellation hmove (by simp)
        (World.callRefund_sound env h.ledger h.cancellations requestId) ?_ ?_⟩ <;>
        · simp only [World.step, World.callRefund]
          split
          · split <;> rfl
          · rfl
  | closeCancellation requestId answer now =>
      have hmove := World.closeCancellation_move h.cancellations requestId answer now
      refine ⟨⟨.other, trivial, hmove⟩, h.cancellation hmove (by simp)
        (World.closeCancellation_sound h.ledger h.cancellations requestId answer now) ?_ ?_⟩ <;>
        · simp only [World.step, World.closeCancellation]
          split <;> rfl
  | readCancellation requestId =>
      obtain ⟨cancellationRequests, heq⟩ := w.readCancellation_eq requestId
      have hcancels := World.readCancellation_sound h.ledger h.cancellations requestId
      rw [heq] at hcancels
      rw [World.step, heq]
      exact ⟨⟨.other, trivial, Move.stay⟩, h.cancellation Move.stay (by simp) hcancels rfl rfl⟩
  | startReconciliation runId batchSize =>
      obtain ⟨reconciliations, heq⟩ := w.startReconciliation_eq env runId batchSize
      rw [World.step, heq]
      exact hcommit Move.stay rfl rfl rfl rfl
  | reconcileNext runId answer now =>
      refine hcommit (w.reconcileNext_move runId answer now) ?_ ?_ ?_ ?_ <;>
        · simp only [World.step, World.reconcileNext]
          split
          · rfl
          · split <;> rfl
  | startChargingSession operator payload sessionId now =>
      exact hcommit (startChargingSession_move operator payload sessionId now w.db) rfl rfl rfl rfl
  | completeChargingSession operator sessionId payload now =>
      exact hcommit (completeChargingSession_move operator sessionId payload now w.db) rfl rfl rfl rfl
  | createStation owner payload stationId pointIds =>
      refine hcommit ?_ rfl rfl rfl rfl
      rw [World.step, ledger_createStation]
      exact Move.stay
  | updateStation operator stationId payload =>
      refine hcommit ?_ rfl rfl rfl rfl
      rw [World.step, ledger_updateStation]
      exact Move.stay
  | updateChargePoint operator stationId chargePointId payload =>
      refine hcommit ?_ rfl rfl rfl rfl
      rw [World.step, ledger_updateChargePoint]
      exact Move.stay

theorem World.step_move {w : World} (h : w.Sound) (a : Action Body) :
    ∃ c : Cause, c.Explained w a ∧ Move w.db.ledger c (w.step env a).db.ledger :=
  (World.step_refines env h a).1

theorem World.step_sound {w : World} (h : w.Sound) (a : Action Body) : (w.step env a).Sound :=
  (World.step_refines env h a).2

omit env in
theorem World.Initial.sound {w : World} (h : w.Initial) : w.Sound := by
  have hbs : ∀ id b, w.db.ledger.bookings id ≠ some b := by simp [h.bookings]
  have hps : ∀ id p, w.db.ledger.payments id ≠ some p := by simp [h.payments]
  have hrs : ∀ id r, w.db.ledger.refunds id ≠ some r := by simp [h.refunds]
  refine ⟨⟨⟨?_, ?_, ?_⟩, ⟨?_, ?_, ?_, ?_, ?_, ?_, ?_, ?_⟩, ⟨?_, ?_, ?_⟩, ⟨?_, ?_⟩⟩,
    ⟨?_, ?_, ?_⟩, ⟨?_, ?_, ?_⟩⟩
  · exact fun id b hget => absurd hget (hbs id b)
  · exact fun id b hget => absurd hget (hbs id b)
  · exact fun i j b c hget => absurd hget (hbs i b)
  · exact fun id p hget => absurd hget (hps id p)
  · exact fun id p hget => absurd hget (hps id p)
  · exact fun id p hget => absurd hget (hps id p)
  · exact fun id p hget => absurd hget (hps id p)
  · exact fun id p hget => absurd hget (hps id p)
  · exact fun i j p q v hget => absurd hget (hps i p)
  · exact fun i j p q v hget => absurd hget (hps i p)
  · exact fun i j p q v hget => absurd hget (hps i p)
  · exact fun id r hget => absurd hget (hrs id r)
  · exact fun i j r s v hget => absurd hget (hrs i r)
  · exact fun i j r s p q hget => absurd hget (hrs i r)
  · exact fun id b hget => absurd hget (hbs id b)
  · exact fun id b hget => absurd hget (hbs id b)
  · rw [h.orderCalls, show orderHolder w.orderRequests = fun _ => none by
      funext id
      simp [orderHolder, h.orderRequests]]
    exact Ticket.Sound.empty
  · simp [h.orderRequests]
  · simp [h.orderCalls]
  · rw [h.refundCalls, show cancellationHolder w.cancellationRequests = fun _ => none by
      funext id
      simp [cancellationHolder, h.cancellationRequests]]
    exact Ticket.Sound.empty
  · simp [h.cancellationRequests]
  · simp [h.refundCalls]

variable {env}

theorem World.Reachable.sound {w : World} (h : w.Reachable env) : w.Sound :=
  Transition.Reachable.invariant (P := World.Sound) (fun _ hinit => hinit.sound)
    (fun _ a _ hw => World.step_sound env hw a) h

theorem World.Reachable.move {w : World} (h : w.Reachable env) (a : Action Body) :
    ∃ c : Cause, c.Explained w a ∧ Move w.db.ledger c (w.step env a).db.ledger :=
  World.step_move env h.sound a

end

end ChargeMate
