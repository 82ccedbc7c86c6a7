import ChargeMate.RefineRequests
import ChargeMate.SafetyAnswers

/-! Payment orders to their end: every attempt that a request begins is closed by its answer, and
a request that begins none calls the provider at no time. -/

namespace ChargeMate

open Relational

section

variable {Body : Type} {env : Env Body} {w w' : World}

/-! ### Requests that call nobody -/

/-- The request has been answered. -/
def OrderRequest.Done (r : OrderRequest) : Prop := ∃ result, r.phase = .answered result

/-- The request is past the point at which it calls the provider. -/
def OrderRequest.Sent (r : OrderRequest) : Prop :=
  (∃ attempt, r.phase = .called attempt) ∨ r.Done

/-- Every call of the provider belongs to a request that has made it. -/
def World.CallsSent (w : World) : Prop :=
  ∀ call ∈ w.orderCalls, ∃ r ∈ w.orderRequests.find call.request, r.Sent

theorem World.CallsSent.set {r : OrderRequest} (hw : w.CallsSent) (r' : OrderRequest)
    (hr : w.orderRequests.find r'.id = some r) (hsent : r.Sent → r'.Sent) :
    ∀ call ∈ w.orderCalls, ∃ s ∈ (w.orderRequests.set r').find call.request, s.Sent := by
  intro call hcall
  obtain ⟨s, hs, hssent⟩ := hw call hcall
  rcases Table.find_set_of_find hr hs with ⟨hfind, rfl⟩ | hfind
  · exact ⟨r', hfind, hsent hssent⟩
  · exact ⟨s, hfind, hssent⟩

theorem World.CallsSent.step (hw : w.CallsSent) (h : w.OrderStep env w') : w'.CallsSent := by
  unfold World.CallsSent
  cases h with
  | kept hrequests hcalls =>
      rw [hcalls, hrequests]
      exact hw
  | opened r hins _ hcalls =>
      rw [hcalls]
      intro call hcall
      obtain ⟨s, hs, hsent⟩ := hw call hcall
      refine ⟨s, ?_, hsent⟩
      rw [← Table.key_of_find hs]
      exact Table.find_insert_of_mem hins (Table.mem_of_find hs)
  | begun r phase hr hlooked _ hrequests hcalls =>
      rw [hcalls, hrequests]
      refine hw.set { r with phase } hr ?_
      rintro (⟨attempt, hcalled⟩ | ⟨result, hdone⟩)
      · rw [hlooked] at hcalled
        cases hcalled
      · rw [hlooked] at hdone
        cases hdone
  | called r attempt call hr hbegun hrequests hcalls hcall =>
      rw [hcalls, hrequests]
      intro c hc
      rcases List.mem_append.mp hc with hold | hnew
      · exact hw.set { r with phase := .called attempt } hr
          (fun _ => Or.inl ⟨attempt, rfl⟩) c hold
      · rw [List.mem_singleton.mp hnew, hcall]
        exact ⟨_, Table.find_set_self (r := { r with phase := .called attempt }) hr,
          Or.inl ⟨attempt, rfl⟩⟩
  | closed r attempt answer now hr hcalled hrequests hcalls =>
      rw [hcalls, hrequests]
      exact hw.set _ hr fun _ => Or.inr ⟨_, rfl⟩

theorem World.Reachable.callsSent (h : w.Reachable env) : w.CallsSent := by
  refine Transition.Reachable.invariant (P := World.CallsSent) ?_
    (fun w a _ hw => hw.step (w.step_requests env a).1) h
  intro w hinit call hcall
  rw [hinit.orderCalls] at hcall
  cases hcall

/-- The request is answered and has called nobody. -/
structure World.Silent (w : World) (requestId : Uuid) : Prop where
  done : ∃ r ∈ w.orderRequests.find requestId, r.Done
  calls : ∀ call ∈ w.orderCalls, call.request ≠ requestId

/-- A write of a request that is not answered yet is not about this one. -/
theorem World.Silent.set {requestId : Uuid} {r : OrderRequest} (hw : w.Silent requestId)
    (r' : OrderRequest) (hr : w.orderRequests.find r'.id = some r) (hopen : ¬r.Done) :
    r'.id ≠ requestId ∧ ∃ s ∈ (w.orderRequests.set r').find requestId, s.Done := by
  obtain ⟨s, hs, hdone⟩ := hw.done
  have hne : r'.id ≠ requestId := by
    rintro rfl
    rw [hr] at hs
    cases hs
    exact hopen hdone
  refine ⟨hne, ?_⟩
  rcases Table.find_set_of_find hr hs with ⟨_, rfl⟩ | hfind
  · exact absurd hdone hopen
  · exact ⟨s, hfind, hdone⟩

theorem World.Silent.step {requestId : Uuid} (hw : w.Silent requestId) (h : w.OrderStep env w') :
    w'.Silent requestId := by
  have hopen : ∀ {r : OrderRequest} {phase : OrderPhase}, r.phase = phase →
      (∀ result, phase ≠ .answered result) → ¬r.Done := by
    rintro r phase hr hne ⟨result, hdone⟩
    exact hne result (hr.symm.trans hdone)
  cases h with
  | kept hrequests hcalls => exact ⟨hrequests ▸ hw.done, hcalls ▸ hw.calls⟩
  | opened r hins _ hcalls =>
      obtain ⟨s, hs, hdone⟩ := hw.done
      refine ⟨⟨s, ?_, hdone⟩, hcalls ▸ hw.calls⟩
      rw [← Table.key_of_find hs]
      exact Table.find_insert_of_mem hins (Table.mem_of_find hs)
  | begun r phase hr hlooked _ hrequests hcalls =>
      exact ⟨hrequests ▸ (hw.set { r with phase } hr (hopen hlooked (by simp))).2,
        hcalls ▸ hw.calls⟩
  | called r attempt call hr hbegun hrequests hcalls hcall =>
      obtain ⟨hne, hdone⟩ := hw.set { r with phase := .called attempt } hr
        (hopen hbegun (by simp))
      refine ⟨hrequests ▸ hdone, ?_⟩
      rw [hcalls]
      intro c hc
      rcases List.mem_append.mp hc with hold | hnew
      · exact hw.calls c hold
      · rw [List.mem_singleton.mp hnew, hcall]
        exact hne
  | closed r attempt answer now hr hcalled hrequests hcalls =>
      obtain ⟨_, hdone⟩ := hw.set
        { r with phase := .answered (closeAttempt env attempt answer now w.db).1 } hr
        (hopen hcalled (by simp))
      exact ⟨hrequests ▸ hdone, hcalls ▸ hw.calls⟩

theorem World.Reachable.silent_run {requestId : Uuid} (h : w.Reachable env)
    (hw : w.Silent requestId) (actions : List (Action Body)) :
    (w.run env actions).Silent requestId :=
  Transition.Reachable.stable (P := fun w : World => w.Silent requestId)
    (fun w a _ hw => hw.step (w.step_requests env a).1) h hw actions

end

/-! ### Closing an attempt -/

/-- What the provider is relied on for: its order identifiers are short, and none is given to two
payments. -/
def ProviderAnswer.OrdersOnly (answer : ProviderAnswer) (db : Database) (paymentId : Uuid) : Prop :=
  ∀ id ∈ answer.entityId, id.length ≤ 100 ∧
    ∀ p ∈ db.payments, ∀ stored ∈ p.providerOrderId, id = .text stored → p.id = paymentId

instance (answer : ProviderAnswer) (db : Database) (paymentId : Uuid) :
    Decidable (answer.OrdersOnly db paymentId) := by
  unfold ProviderAnswer.OrdersOnly
  infer_instance

/-- The answer is an order as it was asked for, with this identifier. -/
def ProviderAnswer.Orders (amountSubunits : Int) (currency : String) (id : PyStr) :
    ProviderAnswer → Prop
  | .failure | .uncaught => False
  | .body payload => ∃ fields ∈ payload.asDict,
      (getEntry fields "id").asStr = some id ∧ id.startsWith "order_" = true ∧
      (getEntry fields "amount").eqInt amountSubunits = true ∧
      (getEntry fields "currency").eqStr currency = true ∧
      (getEntry fields "status").eqStr "created" = true

/-- The call ends in no exception but those that the `except` clause names, and the column takes the
identifier of an order. -/
def ProviderAnswer.Closes (amountSubunits : Int) (currency : String) (answer : ProviderAnswer) :
    Prop :=
  answer ≠ .uncaught ∧ ∀ id, answer.Orders amountSubunits currency id → id.Storable

/-- Asking for an order raises what nobody handles, or is refused, or returns the order. -/
theorem createRazorpayOrder_cases (amountSubunits : Int) (currency : String)
    (answer : ProviderAnswer) :
    (answer = .uncaught ∧
      createRazorpayOrder amountSubunits currency answer = .error .uncaughtError) ∨
    answer ≠ .uncaught ∧
      (((∀ id, ¬answer.Orders amountSubunits currency id) ∧
        createRazorpayOrder amountSubunits currency answer = .error .razorpayOrderError) ∨
      ∃ order, createRazorpayOrder amountSubunits currency answer = .ok order ∧
        answer.entityId = some order.id ∧
        ∀ id, answer.Orders amountSubunits currency id ↔ id = order.id) := by
  cases answer with
  | failure => exact Or.inr ⟨ProviderAnswer.noConfusion, Or.inl ⟨fun _ => id, rfl⟩⟩
  | uncaught => exact Or.inl ⟨rfl, rfl⟩
  | body payload =>
      refine Or.inr ⟨ProviderAnswer.noConfusion, ?_⟩
      cases hvalid : validOrderPayload payload amountSubunits currency with
      | none =>
          refine Or.inl ⟨?_, by rw [createRazorpayOrder, hvalid]; rfl⟩
          rintro id ⟨fields, hfields, hid, hagrees⟩
          rw [Option.mem_def] at hfields
          simp [validOrderPayload, hfields, hid, hagrees] at hvalid
      | some order =>
          refine Or.inr ⟨order, by rw [createRazorpayOrder, hvalid]; rfl, ?_⟩
          simp only [validOrderPayload, bind, Option.bind_eq_some_iff] at hvalid
          obtain ⟨fields, hfields, id, hid, hvalid⟩ := hvalid
          split at hvalid
          · next hagrees =>
            cases hvalid
            refine ⟨by simp only [ProviderAnswer.entityId, hfields, Option.bind_some, hid], ?_⟩
            intro id'
            constructor
            · rintro ⟨fields', hfields', hid', _⟩
              obtain rfl : fields = fields' := Option.some.inj (hfields.symm.trans hfields')
              exact Option.some.inj (hid'.symm.trans hid)
            · rintro rfl
              exact ⟨fields, hfields, hid, hagrees⟩
          · cases hvalid

/-- An open attempt can be given any order identifier of its own. -/
theorem acceptsPayment_of_open {db : Database} {p p' : Payment}
    (hpayment : p'.providerPaymentId = none) (hid : p'.id = p.id)
    (horder : ∀ o ∈ p'.providerOrderId, varchar 100 o = true ∧
      ∀ q ∈ db.payments, q.providerOrderId = some o → q.id = p.id) : db.AcceptsPayment p' where
  orderFits := by
    cases ho : p'.providerOrderId with
    | none => rfl
    | some o => exact (horder o ho).1
  paymentFits := by
    rw [hpayment]
    rfl
  order := uniqueColumn_eq_true.mpr fun o ho q hq hqo => ((horder o ho).2 q hq hqo).trans hid.symm
  payment := uniqueColumn_eq_true.mpr fun x hx => by
    rw [hpayment] at hx
    cases hx

section

variable {db : Database} {p : Payment} {b : Booking}

theorem finalizeProviderOrder_settles {order : RazorpayOrder} {orderId : String}
    (hp : db.payments.find p.id = some p) (hb : db.bookings.find p.bookingId = some b)
    (hinitiated : p.status = .initiated) (hid : order.id = .text orderId)
    (haccepts : ∀ status lastErrorCode, db.AcceptsPayment { p with
      providerOrderId := some orderId, status, lastErrorCode }) :
    (finalizeProviderOrder p.id p.bookingId order db).2.bookings = db.bookings ∧
    ∃ p' ∈ (finalizeProviderOrder p.id p.bookingId order db).2.payments.find p.id,
      (p'.status = .orderCreated ∧ b.status = .paymentPending) ∨ p'.status = .failed := by
  by_cases hpending : b.status = .paymentPending
  · let created : Payment := { p with providerOrderId := some orderId, status := .orderCreated }
    have hupd : db.updatePayment created = .ok { db with payments := db.payments.set created } :=
      Database.updatePayment_eq_ok.mpr ⟨haccepts .orderCreated p.lastErrorCode, rfl⟩
    have hrun : (finalizeProviderOrder p.id p.bookingId order db).2 =
        { db with payments := db.payments.set created } := by
      simp only [finalizeProviderOrder, transaction, hp, hb, orRaise, bind, Except.bind,
        finalizeLockedOrder, hid, PyStr.encoded, hinitiated, hpending, ne_eq, not_true, or_self,
        if_false]
      rw [hupd]
      rfl
    rw [hrun]
    exact ⟨rfl, created, Database.find_updatePayment hupd rfl hp, Or.inl ⟨rfl, hpending⟩⟩
  · let refused : Payment := { p with
      providerOrderId := some orderId
      status := .failed
      lastErrorCode := some "booking_state_changed" }
    have hupd : db.updatePayment refused = .ok { db with payments := db.payments.set refused } :=
      Database.updatePayment_eq_ok.mpr ⟨haccepts .failed _, rfl⟩
    have hrun : (finalizeProviderOrder p.id p.bookingId order db).2 =
        { db with payments := db.payments.set refused } := by
      simp only [finalizeProviderOrder, transaction, hp, hb, orRaise, bind, Except.bind,
        finalizeLockedOrder, hid, PyStr.encoded, hinitiated, hpending, ne_eq, not_true,
        not_false_iff, or_true, if_true]
      rw [hupd]
      rfl
    rw [hrun]
    exact ⟨rfl, refused, Database.find_updatePayment hupd rfl hp, Or.inr rfl⟩

/-- The flush of either branch raises for an identifier that the column does not take. -/
theorem finalizeProviderOrder_of_not_storable {paymentId bookingId : Uuid} {order : RazorpayOrder}
    (hstorable : ¬order.id.Storable) :
    (finalizeProviderOrder paymentId bookingId order db).2 = db := by
  simp only [finalizeProviderOrder]
  refine transaction_commits.resolve_right ?_
  rintro ⟨a, hok⟩
  rw [transaction_eq_ok] at hok
  simp only [bind_eq_ok, finalizeLockedOrder, PyStr.encoded_eq_ok] at hok
  obtain ⟨p, _, b, _, orderId, hid, hblock⟩ := hok
  have hfits : varchar 100 orderId = true := by
    split at hblock
    all_goals
      obtain ⟨_, hupd, _⟩ := bind_eq_ok.mp hblock
      exact (Database.updatePayment_eq_ok.mp hupd).1.orderFits
  exact absurd ⟨orderId, hid, (varchar_iff.mp hfits).2⟩ hstorable

theorem compensateProviderFailure_settles (now : Timestamp) (hp : db.payments.find p.id = some p)
    (hb : db.bookings.find p.bookingId = some b) (hinitiated : p.status = .initiated)
    (haccepts : ∀ status lastErrorCode, db.AcceptsPayment { p with status, lastErrorCode }) :
    (∃ p' ∈ (compensateProviderFailure p.id p.bookingId now db).2.payments.find p.id,
      p'.status = .failed) ∧
    (compensateProviderFailure p.id p.bookingId now db).2.bookings.find p.bookingId =
      some (b.release now) := by
  let failed : Payment := { p with
    status := .failed
    lastErrorCode := some "provider_order_failed" }
  have hupd : db.updatePayment failed = .ok { db with payments := db.payments.set failed } :=
    Database.updatePayment_eq_ok.mpr ⟨haccepts .failed _, rfl⟩
  have hrun : (compensateProviderFailure p.id p.bookingId now db).2 =
      Database.updateBooking { db with payments := db.payments.set failed } (b.release now) := by
    simp only [compensateProviderFailure, transaction, hp, hb, orRaise, bind, Except.bind,
      compensateLockedFailure, hinitiated, if_true]
    rw [hupd]
    rfl
  have hfailed := Database.find_updatePayment hupd rfl hp
  rw [hrun]
  refine ⟨⟨failed, hfailed, rfl⟩, ?_⟩
  have hid : (b.release now).id = p.bookingId := (b.id_release now).trans (Table.key_of_find hb)
  rw [← hid] at hb ⊢
  exact Table.find_set_self (r := b.release now) hb

end

/-- The payment is ORDER_CREATED for a booking that waits for it, or FAILED. -/
def Database.AttemptClosed (db : Database) (attempt : PaymentAttemptSnapshot) : Prop :=
  ∃ p ∈ db.payments.find attempt.paymentId,
    (p.status = .orderCreated ∧
      ∃ b ∈ db.bookings.find attempt.bookingId, b.status = .paymentPending) ∨ p.status = .failed

/-- A request in flight closes its attempt with the provider's answer. -/
theorem World.Reachable.closeOrder_settles {Body : Type} {env : Env Body} {w : World}
    (h : w.Reachable env) {requestId : Uuid} {r : OrderRequest} {attempt : PaymentAttemptSnapshot}
    {answer : ProviderAnswer} (now : Timestamp) (hr : w.orderRequests.find requestId = some r)
    (hcalled : r.phase = .called attempt) (hown : answer.OrdersOnly w.db attempt.paymentId) :
    ∃ b ∈ w.db.bookings.find attempt.bookingId,
      ((w.closeOrder env requestId answer now).db.AttemptClosed attempt ↔
        answer.Closes attempt.amountSubunits attempt.currency) ∧
      (createRazorpayOrder attempt.amountSubunits attempt.currency answer =
          .error .razorpayOrderError →
        (w.closeOrder env requestId answer now).db.bookings.find attempt.bookingId =
          some (b.release now)) := by
  have hsound := h.sound
  obtain ⟨p, hp, hinitiated, hdesc, _⟩ := (hsound.orders.requests requestId r hr).1 attempt
    (Or.inr hcalled)
  obtain ⟨hnoorder, hnopayment⟩ := hsound.ledger.payments.initiated _ p hp hinitiated
  obtain ⟨b, hb, _⟩ := hsound.ledger.payments.charges _ p hp
  rw [Database.payments_ledger] at hp
  rw [Database.bookings_ledger] at hb
  have hclose : (w.closeOrder env requestId answer now).db =
      (closeAttempt env attempt answer now w.db).2 := by
    obtain ⟨id, user, payload, phase⟩ := r
    cases hcalled
    simp only [World.closeOrder, hr]
  rw [hclose]
  unfold closeAttempt Database.AttemptClosed
  rw [← hdesc.paymentId] at hp hown ⊢
  rw [← hdesc.bookingId]
  refine ⟨b, hb, ?_⟩
  have hopen : ¬∃ p' ∈ w.db.payments.find p.id, (p'.status = .orderCreated ∧
      ∃ b ∈ w.db.bookings.find p.bookingId, b.status = .paymentPending) ∨ p'.status = .failed := by
    rintro ⟨p', hp', hclosed⟩
    obtain rfl : p = p' := Option.some.inj (hp.symm.trans hp')
    rw [hinitiated] at hclosed
    rcases hclosed with ⟨hcreated, _⟩ | hfailed
    · cases hcreated
    · cases hfailed
  rcases createRazorpayOrder_cases attempt.amountSubunits attempt.currency answer with
    ⟨huncaught, hcreate⟩ | ⟨hcaught, ⟨hnone, hcreate⟩ | ⟨order, hcreate, hentity, horders⟩⟩
  · simp only [hcreate]
    exact ⟨iff_of_false hopen fun hcloses => hcloses.1 huncaught, fun herror => by cases herror⟩
  · obtain ⟨⟨p', hp', hfailed⟩, hb'⟩ := compensateProviderFailure_settles now hp hb hinitiated
      fun status lastErrorCode => acceptsPayment_of_open hnopayment rfl fun o ho => by
        rw [show _ = none from hnoorder] at ho
        cases ho
    simp only [hcreate]
    exact ⟨iff_of_true ⟨p', hp', Or.inr hfailed⟩ ⟨hcaught, fun id hid => absurd hid (hnone id)⟩,
      fun _ => hb'⟩
  · simp only [hcreate]
    refine ⟨?_, fun herror => by cases herror⟩
    by_cases hstorable : order.id.Storable
    · refine iff_of_true ?_ ⟨hcaught, fun id hid => (horders id).mp hid ▸ hstorable⟩
      obtain ⟨hlength, hunique⟩ := hown order.id hentity
      obtain ⟨orderId, hid, hfits⟩ := hstorable.varchar hlength
      obtain ⟨hkept, p', hp', hsettled⟩ := @finalizeProviderOrder_settles w.db p b order orderId hp
        hb hinitiated hid fun status lastErrorCode =>
          acceptsPayment_of_open hnopayment rfl fun o ho => by
            cases ho
            exact ⟨hfits, fun q hq hqo => hunique q hq _ hqo hid⟩
      refine ⟨p', hp', hsettled.imp_left fun hcreated => ⟨hcreated.1, b, ?_, hcreated.2⟩⟩
      rw [hkept]
      exact hb
    · rw [finalizeProviderOrder_of_not_storable hstorable]
      exact iff_of_false hopen fun hcloses =>
        hstorable (hcloses.2 order.id ((horders order.id).mpr rfl))

/-! ### Every attempt is closed -/

theorem Booking.releasedStatus_eq (b : Booking) (now : Timestamp) :
    b.releasedStatus now =
      if ∃ expiry ∈ b.holdExpiresAt, now < expiry then .held else .expired := by
  unfold Booking.releasedStatus
  cases b.holdExpiresAt with
  | none => simp [timestampIsAfter]
  | some expiry => simp [timestampIsAfter]

/-- The answer to the provider call leaves the attempt's payment with an order for a booking that
waits for it, or failed, unless it ends in an exception that nobody handles or the order has an
identifier that the column does not take; a refused attempt leaves nothing and calls nobody. -/
theorem order_attempts_closed {Body : Type} (env : Env Body) {w : World} (h : w.Reachable env) :
    (∀ requestId r attempt answer now, w.orderRequests.find requestId = some r →
      r.phase = .called attempt → answer.OrdersOnly w.db attempt.paymentId →
      ((w.closeOrder env requestId answer now).db.AttemptClosed attempt ↔
        answer.Closes attempt.amountSubunits attempt.currency)) ∧
    (∀ requestId r attempt answer now, w.orderRequests.find requestId = some r →
      r.phase = .called attempt → answer.OrdersOnly w.db attempt.paymentId →
      createRazorpayOrder attempt.amountSubunits attempt.currency answer =
        .error .razorpayOrderError →
      ∃ b ∈ w.db.bookings.find attempt.bookingId,
        ∃ b' ∈ (w.closeOrder env requestId answer now).db.bookings.find attempt.bookingId,
          (b.status = .paymentPending → b' = { b with
            status := if ∃ expiry ∈ b.holdExpiresAt, now < expiry then .held else .expired
            version := b.version + 1 }) ∧
          (b.status ≠ .paymentPending → b' = b)) ∧
    (∀ requestId user payload result, w.orderRequests.find requestId = none →
      lookUpOrder env user payload w.db = some result →
      (w.requestOrder env requestId user payload).db = w.db ∧
      ∀ (actions : List (Action Body)), ∀ call ∈ ((w.requestOrder env requestId user
        payload).run env actions).orderCalls, call.request ≠ requestId) ∧
    ∀ requestId r paymentId now e, w.orderRequests.find requestId = some r →
      r.phase = .lookedUp →
      (beginPaymentAttempt r.user r.payload paymentId now w.db).1 = .error e →
      (w.beginOrder requestId paymentId now).db = w.db ∧
      ∀ (actions : List (Action Body)), ∀ call ∈ ((w.beginOrder requestId paymentId
        now).run env actions).orderCalls, call.request ≠ requestId := by
  refine ⟨?_, ?_, ?_, ?_⟩
  · intro requestId r attempt answer now hr hcalled hown
    obtain ⟨_, _, hsettled, _⟩ := h.closeOrder_settles now hr hcalled hown
    exact hsettled
  · intro requestId r attempt answer now hr hcalled hown herror
    obtain ⟨b, hb, _, hfailure⟩ := h.closeOrder_settles now hr hcalled hown
    refine ⟨b, hb, b.release now, hfailure herror, ?_, ?_⟩
    · intro hpending
      rw [Booking.release, if_pos hpending, b.releasedStatus_eq]
    · intro hother
      exact if_neg hother
  · intro requestId user payload result hfree hanswer
    obtain ⟨requests, hins⟩ := Table.exists_insert
      (r := (⟨requestId, user, payload, .answered result⟩ : OrderRequest)) hfree
    have hstep : w.requestOrder env requestId user payload =
        { w with orderRequests := requests } := by
      simp only [World.requestOrder, hanswer, hins]
    refine ⟨by rw [hstep], fun actions => ?_⟩
    have hnext : (w.requestOrder env requestId user payload).Reachable env :=
      h.next (.requestOrder requestId user payload)
    refine (hnext.silent_run ?_ actions).calls
    rw [hstep]
    refine ⟨⟨_, Table.find_insert_self hins, result, rfl⟩, fun call hcall heq => ?_⟩
    obtain ⟨s, hs, _⟩ := h.callsSent call hcall
    rw [heq, hfree] at hs
    cases hs
  · rintro requestId ⟨id, user, payload, phase⟩ paymentId now e hr hlooked herror
    simp only at hlooked herror
    subst hlooked
    have hid : id = requestId := Table.key_of_find hr
    subst hid
    have hstep : w.beginOrder id paymentId now = { w with
        orderRequests := w.orderRequests.set ⟨id, user, payload, .answered (.error e)⟩ } := by
      simp only [World.beginOrder, hr, herror]
      rw [beginPaymentAttempt, transaction_error herror]
    refine ⟨by rw [hstep], fun actions => ?_⟩
    have hnext : (w.beginOrder id paymentId now).Reachable env :=
      h.next (.beginOrder id paymentId now)
    refine (hnext.silent_run ?_ actions).calls
    rw [hstep]
    refine ⟨⟨_, Table.find_set_self (r := (⟨id, user, payload, _⟩ : OrderRequest)) hr, _, rfl⟩,
      fun call hcall heq => ?_⟩
    obtain ⟨s, hs, hsent⟩ := h.callsSent call hcall
    rw [heq, hr] at hs
    cases hs
    rcases hsent with ⟨attempt, hcalled⟩ | ⟨result, hdone⟩
    · cases hcalled
    · cases hdone

deriving instance DecidableEq for OrderPhase, OrderRequest

/-- An order request up to its provider call. -/
def sampleOpenOrder : List (Action Json) :=
  [sampleHold 20 1, .requestOrder 30 sampleUser ⟨20, 1, 30⟩, .beginOrder 30 30 0, .callOrder 30]

/-- The order as it was asked for, with a NUL or a lone surrogate in its identifier, or a body that
is nested too deep, leaves the payment INITIATED and the booking PAYMENT_PENDING. -/
theorem order_attempts_closed_counterexample :
    (sampleWorld.run sampleEnv sampleOpenOrder).Reachable sampleEnv ∧
    ∀ answer ∈ [sampleOrderAnswer "order_\x00",
        .body (.obj [("id", .str (.lone "order_" 0 [])), ("amount", .int 10000),
          ("currency", .str "INR"), ("status", .str "created")]), .uncaught],
      answer.OrdersOnly (sampleWorld.run sampleEnv sampleOpenOrder).db 30 ∧
      ((sampleWorld.run sampleEnv (sampleOpenOrder ++
        [.closeOrder 30 answer 0])).db.payments.find 30).map Payment.status = some .initiated ∧
      ((sampleWorld.run sampleEnv (sampleOpenOrder ++
        [.closeOrder 30 answer 0])).db.bookings.find 20).map Booking.status =
          some .paymentPending :=
  ⟨sampleWorld_reachable _, by decide +kernel⟩

/-- Beside an answered call: a call that fails after the hold has run out, a replay, and a request
that comes too late. -/
theorem order_attempts_closed_sample :
    (∃ p ∈ ((sampleWorld.run sampleEnv sampleOpenOrder).closeOrder sampleEnv 30
      (sampleOrderAnswer "order_A") 0).db.payments.find 30,
      p.status = .orderCreated ∨ p.status = .failed) ∧
    (∃ b ∈ ((sampleWorld.run sampleEnv sampleOpenOrder).closeOrder sampleEnv 30
      .failure (minutes 20)).db.bookings.find 20, b.status = .expired) ∧
    ((sampleWorld.run sampleEnv sampleOpenOrder).requestOrder sampleEnv 31 sampleUser
      ⟨20, 1, 30⟩).db = (sampleWorld.run sampleEnv sampleOpenOrder).db ∧
    ((sampleWorld.run sampleEnv (sampleOpenOrder ++
      [.requestOrder 31 sampleUser ⟨20, 1, 31⟩])).beginOrder 31 31 0).db =
        (sampleWorld.run sampleEnv (sampleOpenOrder ++
          [.requestOrder 31 sampleUser ⟨20, 1, 31⟩])).db := by
  have hcalled : (sampleWorld.run sampleEnv sampleOpenOrder).orderRequests.find 30 =
      some ⟨30, sampleUser, ⟨20, 1, 30⟩, .called ⟨30, 20, 10000, "INR"⟩⟩ := by decide +kernel
  have hown : (sampleOrderAnswer "order_A").OrdersOnly
      (sampleWorld.run sampleEnv sampleOpenOrder).db 30 := by decide +kernel
  have hcloses : (sampleOrderAnswer "order_A").Closes 10000 "INR" := by
    refine ⟨ProviderAnswer.noConfusion, ?_⟩
    rintro id ⟨fields, hfields, hid, _⟩
    cases hfields
    cases hid
    exact ⟨"order_A", rfl, by decide +kernel⟩
  have hpending : ∃ b ∈ (sampleWorld.run sampleEnv sampleOpenOrder).db.bookings.find 20,
      b.status = .paymentPending ∧ ¬∃ expiry ∈ b.holdExpiresAt, minutes 20 < expiry := by
    decide +kernel
  have hlooked : (sampleWorld.run sampleEnv (sampleOpenOrder ++
      [.requestOrder 31 sampleUser ⟨20, 1, 31⟩])).orderRequests.find 31 =
        some ⟨31, sampleUser, ⟨20, 1, 31⟩, .lookedUp⟩ := by decide +kernel
  have hrefused : (beginPaymentAttempt sampleUser ⟨20, 1, 31⟩ 31 0 (sampleWorld.run sampleEnv
      (sampleOpenOrder ++ [.requestOrder 31 sampleUser ⟨20, 1, 31⟩])).db).1 =
        .error .paymentStateConflictError := by decide +kernel
  have hfree : (sampleWorld.run sampleEnv sampleOpenOrder).orderRequests.find 31 = none := by
    decide +kernel
  have hused : ∃ p ∈ (sampleWorld.run sampleEnv sampleOpenOrder).db.payments,
      p.idempotencyKey = 30 := by decide +kernel
  have hreplay : ∃ result, lookUpOrder sampleEnv sampleUser ⟨20, 1, 30⟩
      (sampleWorld.run sampleEnv sampleOpenOrder).db = some result :=
    lookUpOrder_of_keyUsed sampleEnv sampleUser hused
  obtain ⟨result, hreplay⟩ := hreplay
  refine ⟨?_, ?_, ?_, ?_⟩
  · obtain ⟨p, hp, hsettled⟩ := ((order_attempts_closed sampleEnv
      (sampleWorld_reachable sampleOpenOrder)).1 30 _ _ _ 0 hcalled rfl hown).mpr hcloses
    exact ⟨p, hp, hsettled.imp_left And.left⟩
  · obtain ⟨b, hb, b', hb', hreleased, _⟩ := (order_attempts_closed sampleEnv
      (sampleWorld_reachable sampleOpenOrder)).2.1 30 _ _ .failure (minutes 20) hcalled rfl
        (fun id hid => by cases hid) rfl
    obtain ⟨c, hc, hstatus, hlapsed⟩ := hpending
    rw [Option.mem_def.mp hb] at hc
    cases hc
    refine ⟨b', hb', ?_⟩
    rw [hreleased hstatus, if_neg hlapsed]
  · exact ((order_attempts_closed sampleEnv (sampleWorld_reachable sampleOpenOrder)).2.2.1 31
      sampleUser ⟨20, 1, 30⟩ result hfree hreplay).1
  · exact ((order_attempts_closed sampleEnv (sampleWorld_reachable _)).2.2.2 31 _ 31 0 _ hlooked rfl
      hrefused).1

end ChargeMate
