import ChargeMate.RefineSystem

/-! What a step does to the tables of order and cancellation requests, each case with what has been
computed for the request. -/

namespace ChargeMate

open Relational

section

variable {Body : Type} (env : Env Body)

/-- An action opens a request, takes one from a phase to the next, or leaves all of them alone. -/
inductive World.OrderStep (w w' : World) : Prop where
  | kept (hrequests : w'.orderRequests = w.orderRequests) (hcalls : w'.orderCalls = w.orderCalls)
  | opened (r : OrderRequest) (hins : w.orderRequests.insert r = some w'.orderRequests)
      (hphase : r.phase = .lookedUp ∨ ∃ result, r.phase = .answered result ∧
        lookUpOrder env r.user r.payload w.db = some result)
      (hcalls : w'.orderCalls = w.orderCalls)
  | begun (r : OrderRequest) (phase : OrderPhase) (hr : w.orderRequests.find r.id = some r)
      (hlooked : r.phase = .lookedUp)
      (hphase : (∃ attempt, phase = .begun attempt) ∨ ∃ e, phase = .answered (.error e))
      (hrequests : w'.orderRequests = w.orderRequests.set { r with phase })
      (hcalls : w'.orderCalls = w.orderCalls)
  | called (r : OrderRequest) (attempt : PaymentAttemptSnapshot) (call : OrderCall)
      (hr : w.orderRequests.find r.id = some r) (hbegun : r.phase = .begun attempt)
      (hrequests : w'.orderRequests = w.orderRequests.set { r with phase := .called attempt })
      (hcalls : w'.orderCalls = w.orderCalls ++ [call]) (hcall : call.request = r.id)
  | closed (r : OrderRequest) (attempt : PaymentAttemptSnapshot) (answer : ProviderAnswer)
      (now : Timestamp) (hr : w.orderRequests.find r.id = some r)
      (hcalled : r.phase = .called attempt)
      (hrequests : w'.orderRequests = w.orderRequests.set
        { r with phase := .answered (closeAttempt env attempt answer now w.db).1 })
      (hcalls : w'.orderCalls = w.orderCalls)

inductive World.CancellationStep (w w' : World) : Prop where
  | kept (hrequests : w'.cancellationRequests = w.cancellationRequests)
  | opened (r : CancellationRequest) (refundId : Uuid) (choice : Nat) (now createdAt : Timestamp)
      (hins : w.cancellationRequests.insert r = some w'.cancellationRequests)
      (hphase : match (prepareCancellation r.userId r.bookingId r.expectedVersion refundId choice
          now createdAt w.db).1 with
        | .error e => r.phase = .answered (.error e)
        | .ok (.inl outcome) => r.phase = .answered (.ok outcome)
        | .ok (.inr snapshot) => r.phase = .prepared snapshot)
      (hdb : w'.db = (prepareCancellation r.userId r.bookingId r.expectedVersion refundId choice now
        createdAt w.db).2)
  | called (r : CancellationRequest) (snapshot : RefundRequestSnapshot)
      (hr : w.cancellationRequests.find r.id = some r) (hprepared : r.phase = .prepared snapshot)
      (hrequests : w'.cancellationRequests = w.cancellationRequests.set
        { r with phase := .called snapshot })
  | settled (r : CancellationRequest) (snapshot : RefundRequestSnapshot)
      (result : Except Raised ReportedError) (hr : w.cancellationRequests.find r.id = some r)
      (hflight : r.InFlight snapshot)
      (hrequests : w'.cancellationRequests = w.cancellationRequests.set
        { r with phase := .settled snapshot result })
  | readBooking (r : CancellationRequest) (snapshot : RefundRequestSnapshot)
      (reported : ReportedError) (hr : w.cancellationRequests.find r.id = some r)
      (hcommitted : r.phase = .committed snapshot reported)
      (hrequests : w'.cancellationRequests = w.cancellationRequests.set { r with
        phase := .bookingRead snapshot reported (w.db.bookings.find snapshot.bookingId) })
  | readRefund (r : CancellationRequest) (snapshot : RefundRequestSnapshot)
      (reported : ReportedError) (booking : Option Booking)
      (hr : w.cancellationRequests.find r.id = some r)
      (hread : r.phase = .bookingRead snapshot reported booking)
      (hrequests : w'.cancellationRequests = w.cancellationRequests.set { r with
        phase := .answered (.ok {
          booking
          refund := w.db.refunds.find snapshot.refundId
          providerError := reported.providerError (w.db.refunds.find snapshot.refundId) }) })

/-! ### Order requests -/

theorem World.requestOrder_step (w : World) (requestId : Uuid) (user : User)
    (payload : CreatePaymentOrderRequest) :
    w.OrderStep env (w.requestOrder env requestId user payload) := by
  unfold World.requestOrder
  simp only
  split
  · exact .kept rfl rfl
  · next hins =>
    refine .opened _ hins ?_ rfl
    cases hlook : lookUpOrder env user payload w.db with
    | none => exact Or.inl rfl
    | some result => exact Or.inr ⟨result, rfl, rfl⟩

theorem World.beginOrder_step (w : World) (requestId paymentId : Uuid) (now : Timestamp) :
    w.OrderStep env (w.beginOrder requestId paymentId now) := by
  unfold World.beginOrder
  split
  · next id user payload hr =>
    have hid : id = requestId := Table.key_of_find hr
    subst hid
    refine .begun ⟨id, user, payload, .lookedUp⟩ _ hr rfl ?_ rfl rfl
    cases (beginPaymentAttempt user payload paymentId now w.db).1 with
    | ok attempt => exact Or.inl ⟨attempt, rfl⟩
    | error e => exact Or.inr ⟨e, rfl⟩
  · exact .kept rfl rfl

theorem World.callOrder_step (w : World) (requestId : Uuid) :
    w.OrderStep env (w.callOrder requestId) := by
  unfold World.callOrder
  split
  · next id user payload attempt hr =>
    have hid : id = requestId := Table.key_of_find hr
    subst hid
    exact .called ⟨id, user, payload, .begun attempt⟩ attempt _ hr rfl rfl rfl rfl
  · exact .kept rfl rfl

theorem World.closeOrder_step (w : World) (requestId : Uuid) (answer : ProviderAnswer)
    (now : Timestamp) : w.OrderStep env (w.closeOrder env requestId answer now) := by
  unfold World.closeOrder
  split
  · next id user payload attempt hr =>
    have hid : id = requestId := Table.key_of_find hr
    subst hid
    exact .closed ⟨id, user, payload, .called attempt⟩ attempt answer now hr rfl rfl rfl
  · exact .kept rfl rfl

/-! ### Cancellation requests -/

theorem World.requestCancellation_step (w : World) (requestId userId bookingId : Uuid)
    (expectedVersion : Nat) (refundId : Uuid) (choice : Nat) (now createdAt : Timestamp) :
    w.CancellationStep (w.requestCancellation requestId userId bookingId expectedVersion refundId
      choice now createdAt) := by
  unfold World.requestCancellation
  simp only
  split
  · exact .kept rfl
  · next hins =>
    refine .opened _ refundId choice now createdAt hins ?_ rfl
    rcases (prepareCancellation userId bookingId expectedVersion refundId choice now createdAt
      w.db).1 with e | outcome | snapshot <;> rfl

theorem World.callRefund_step (w : World) (requestId : Uuid) :
    w.CancellationStep (w.callRefund env requestId) := by
  unfold World.callRefund
  split
  · next id userId bookingId expectedVersion snapshot hr =>
    have hid : id = requestId := Table.key_of_find hr
    subst hid
    split
    · exact .settled ⟨id, userId, bookingId, expectedVersion, .prepared snapshot⟩ snapshot _ hr
        (Or.inl rfl) rfl
    · exact .called ⟨id, userId, bookingId, expectedVersion, .prepared snapshot⟩ snapshot hr rfl rfl
  · exact .kept rfl

theorem World.closeCancellation_step (w : World) (requestId : Uuid) (answer : ProviderAnswer)
    (now : Timestamp) : w.CancellationStep (w.closeCancellation requestId answer now) := by
  unfold World.closeCancellation
  split
  · next id userId bookingId expectedVersion snapshot hr =>
    have hid : id = requestId := Table.key_of_find hr
    subst hid
    exact .settled ⟨id, userId, bookingId, expectedVersion, .called snapshot⟩ snapshot _ hr
      (Or.inr rfl) rfl
  · exact .kept rfl

theorem World.readCancellation_step (w : World) (requestId : Uuid) :
    w.CancellationStep (w.readCancellation requestId) := by
  unfold World.readCancellation
  split
  · next id userId bookingId expectedVersion snapshot reported hr =>
    have hid : id = requestId := Table.key_of_find hr
    subst hid
    exact .readBooking ⟨id, userId, bookingId, expectedVersion, .committed snapshot reported⟩
      snapshot reported hr rfl rfl
  · next id userId bookingId expectedVersion snapshot reported booking hr =>
    have hid : id = requestId := Table.key_of_find hr
    subst hid
    exact .readRefund ⟨id, userId, bookingId, expectedVersion, .bookingRead snapshot reported booking⟩
      snapshot reported booking hr rfl rfl
  · exact .kept rfl

/-! ### Every action -/

theorem World.step_requests (w : World) (a : Action Body) :
    w.OrderStep env (w.step env a) ∧ w.CancellationStep (w.step env a) := by
  -- an action that leaves both tables alone
  have hkept : ∀ {w' : World}, w'.orderRequests = w.orderRequests → w'.orderCalls = w.orderCalls →
      w'.cancellationRequests = w.cancellationRequests →
      w.OrderStep env w' ∧ w.CancellationStep w' :=
    fun horders hcalls hcancels => ⟨.kept horders hcalls, .kept hcancels⟩
  cases a with
  | requestOrder requestId user payload =>
      refine ⟨w.requestOrder_step env requestId user payload, .kept ?_⟩
      simp only [World.step, World.requestOrder]
      split <;> rfl
  | beginOrder requestId paymentId now =>
      refine ⟨w.beginOrder_step env requestId paymentId now, .kept ?_⟩
      simp only [World.step, World.beginOrder]
      split <;> rfl
  | callOrder requestId =>
      refine ⟨w.callOrder_step env requestId, .kept ?_⟩
      simp only [World.step, World.callOrder]
      split <;> rfl
  | closeOrder requestId answer now =>
      refine ⟨w.closeOrder_step env requestId answer now, .kept ?_⟩
      simp only [World.step, World.closeOrder]
      split <;> rfl
  | requestCancellation requestId userId bookingId expectedVersion refundId choice now createdAt =>
      refine ⟨?_, w.requestCancellation_step requestId userId bookingId expectedVersion refundId
        choice now createdAt⟩
      simp only [World.step, World.requestCancellation]
      split <;> exact .kept rfl rfl
  | callRefund requestId =>
      refine ⟨?_, w.callRefund_step env requestId⟩
      simp only [World.step, World.callRefund]
      split
      · split <;> exact .kept rfl rfl
      · exact .kept rfl rfl
  | closeCancellation requestId answer now =>
      refine ⟨?_, w.closeCancellation_step requestId answer now⟩
      simp only [World.step, World.closeCancellation]
      split <;> exact .kept rfl rfl
  | readCancellation requestId =>
      refine ⟨?_, w.readCancellation_step requestId⟩
      obtain ⟨cancellationRequests, heq⟩ := w.readCancellation_eq requestId
      rw [World.step, heq]
      exact .kept rfl rfl
  | receiveDelivery deliveryId request =>
      obtain ⟨deliveries, heq⟩ := w.receiveDelivery_eq env deliveryId request
      rw [World.step, heq]
      exact hkept rfl rfl rfl
  | storeDelivery deliveryId eventRowId now =>
      simp only [World.step, World.storeDelivery]
      split <;> exact hkept rfl rfl rfl
  | startReconciliation runId batchSize =>
      obtain ⟨reconciliations, heq⟩ := w.startReconciliation_eq env runId batchSize
      rw [World.step, heq]
      exact hkept rfl rfl rfl
  | reconcileNext runId answer now =>
      simp only [World.step, World.reconcileNext]
      split
      · exact hkept rfl rfl rfl
      · split <;> exact hkept rfl rfl rfl
  | _ => exact hkept rfl rfl rfl

end

end ChargeMate
