import Mathlib.Logic.Equiv.Basic
import ChargeMate.SafetyDeliveries

/-! Webhook events in every run: each provider event is accepted once, its row stays, and every
further delivery of it is a duplicate or refused. -/

namespace ChargeMate

open Relational

/-! ### Stored events -/

theorem apart_events : Database.Apart Database.paymentWebhookEvents where
  bookings _ _ := rfl
  payments _ _ := rfl
  refunds _ _ := rfl

theorem events_startChargingSession (operator : User) (payload : StartChargingSessionRequest)
    (sessionId : Uuid) (now : Timestamp) (db : Database) :
    (startChargingSession operator payload sessionId now db).2.paymentWebhookEvents =
      db.paymentWebhookEvents :=
  related_startChargingSession apart_events.respected.preserved.billed (fun _ _ => rfl) operator
    payload sessionId now db

theorem events_completeChargingSession (operator : User) (sessionId : Uuid)
    (payload : CompleteChargingSessionRequest) (now : Timestamp) (db : Database) :
    (completeChargingSession operator sessionId payload now db).2.paymentWebhookEvents =
      db.paymentWebhookEvents :=
  related_completeChargingSession apart_events.respected.preserved.billed (fun _ _ => rfl) operator
    sessionId payload now db

/-- A delivery is what its body parses to. -/
def Delivery.ParsedFrom {Body : Type} (env : Env Body) (d : Delivery) (rawBody : Body) : Prop :=
  parseDelivery env d.providerEventId rawBody = .ok d

/-- An event row as a body has been accepted with. -/
structure PaymentWebhookEvent.Records {Body : Type} (env : Env Body) (e : PaymentWebhookEvent)
    (rawBody : Body) : Prop where
  parsed : ∃ d, parseDelivery env e.providerEventId rawBody = .ok d ∧
    d.eventType = .text e.eventType
  payloadHash : e.payloadHash = env.sha256Hex rawBody
  settled : (e.status = .processed ∨ e.status = .ignored) ∧ e.processedAt ≠ none
  fits : varchar 100 e.providerEventId = true ∧ varchar 100 e.eventType = true

theorem parseDelivery_eq_ok {Body : Type} {env : Env Body} {providerEventId : String}
    {rawBody : Body} {d : Delivery} (h : parseDelivery env providerEventId rawBody = .ok d) :
    d.providerEventId = providerEventId ∧ d.payloadHash = env.sha256Hex rawBody := by
  simp only [parseDelivery, bind_eq_ok, pure_eq_ok] at h
  obtain ⟨loaded, _, payload, _, eventType, _, rfl⟩ := h
  exact ⟨rfl, rfl⟩

/-! ### What a delivery is answered -/

section

variable {Body : Type} {env : Env Body}

/-- The start of the handler: a request that is not authentic or does not parse is answered at
once, any other by what is stored under its event identifier. -/
theorem receiveWebhook_cases (env : Env Body) (webhookSecret : String)
    (request : WebhookRequest Body) (db : Database) :
    (∃ e, authenticate env webhookSecret request = .error e ∧
      receiveWebhook env webhookSecret request db = .answered (.error e)) ∨
    ∃ eventId, authenticate env webhookSecret request = .ok eventId ∧
      ((∃ e, parseDelivery env eventId request.rawBody = .error e ∧
        receiveWebhook env webhookSecret request db = .answered (.error e)) ∨
      ∃ d, parseDelivery env eventId request.rawBody = .ok d ∧
        receiveWebhook env webhookSecret request db =
          match existingEvent eventId (env.sha256Hex request.rawBody) db with
          | .error e => .answered (.error e)
          | .ok true => .answered (.ok .duplicate)
          | .ok false => .accepted d) := by
  unfold receiveWebhook
  cases hauth : authenticate env webhookSecret request with
  | error e => exact Or.inl ⟨e, rfl, rfl⟩
  | ok eventId =>
      refine Or.inr ⟨eventId, rfl, ?_⟩
      cases hparse : parseDelivery env eventId request.rawBody with
      | error e => exact Or.inl ⟨e, rfl, by simp [bind, Except.bind, hparse]⟩
      | ok d =>
          refine Or.inr ⟨d, rfl, ?_⟩
          obtain ⟨hid, hhash⟩ := parseDelivery_eq_ok hparse
          simp only [bind, Except.bind, hparse, hid, hhash]
          cases existingEvent eventId (env.sha256Hex request.rawBody) db with
          | error e => rfl
          | ok duplicate => cases duplicate <;> rfl

/-- A request with a missing header or a signature that does not verify is refused. -/
theorem authenticate_eq_error {webhookSecret : String} {request : WebhookRequest Body}
    (h : ∀ signature eventId, truthy request.suppliedSignature = some signature →
      truthy request.providerEventId = some eventId →
      verifyWebhookSignature env request.rawBody signature webhookSecret = false) :
    authenticate env webhookSecret request = .error .webhookAuthenticationError := by
  unfold authenticate
  cases hsig : truthy request.suppliedSignature with
  | none => rfl
  | some signature =>
      cases hid : truthy request.providerEventId with
      | none => rfl
      | some eventId =>
          simp [orRaise, bind, Except.bind, ensure, h signature eventId hsig hid]

theorem existingEvent_of_new {eventId : String} {db : Database} (payloadHash : String)
    (h : ∀ e ∈ db.paymentWebhookEvents, e.providerEventId ≠ eventId) :
    existingEvent eventId payloadHash db = .ok false := by
  have hnone : (db.paymentWebhookEvents.scalar fun e => e.providerEventId = eventId) = none :=
    Table.scalar_eq_none.mpr fun e he => decide_eq_false (h e he)
  simp only [existingEvent, hnone]

theorem existingEvent_of_mem {e : PaymentWebhookEvent} {db : Database} (payloadHash : String)
    (he : e ∈ db.paymentWebhookEvents)
    (hunique : ∀ f ∈ db.paymentWebhookEvents, f.providerEventId = e.providerEventId → f = e) :
    existingEvent e.providerEventId payloadHash db =
      if e.payloadHash = payloadHash then .ok true else .error .webhookAuthenticationError := by
  have hsome : (db.paymentWebhookEvents.scalar fun f => f.providerEventId = e.providerEventId) =
      some e :=
    Table.scalar_eq_some_of_unique he (decide_eq_true rfl)
      fun f hf hfe => hunique f hf (of_decide_eq_true hfe)
  simp only [existingEvent, hsome, ensure]
  by_cases hhash : e.payloadHash = payloadHash
  · rw [if_pos hhash, if_pos hhash]
    rfl
  · rw [if_neg hhash, if_neg hhash]
    rfl

/-- A row under a stored event identifier is refused by the constraint, if its texts fit. -/
theorem insertWebhookEvent_of_mem {e f : PaymentWebhookEvent} {db : Database}
    (he : e ∈ db.paymentWebhookEvents) (hid : e.providerEventId = f.providerEventId) :
    db.insertWebhookEvent f = .error (if varchar 100 f.providerEventId = true ∧
      varchar 100 f.eventType = true then .integrityError else .dataError) := by
  unfold Database.insertWebhookEvent
  by_cases hfits : varchar 100 f.providerEventId = true ∧ varchar 100 f.eventType = true
  · rw [if_pos hfits]
    refine bind_eq_error.mpr (Or.inr ⟨(), ensure_eq_ok.mpr hfits, ?_⟩)
    by_cases hunique :
        uniqueColumn db.paymentWebhookEvents (fun e => some e.providerEventId) f = true
    · -- the row has the key of the stored one
      refine bind_eq_error.mpr (Or.inr ⟨(), ensure_eq_ok.mpr hunique, ?_⟩)
      refine bind_eq_error.mpr (Or.inl (orRaise_eq_error.mpr ⟨?_, rfl⟩))
      have hkey : e.id = f.id :=
        uniqueColumn_eq_true.mp hunique _ rfl e he (congrArg some hid)
      cases hins : db.paymentWebhookEvents.insert f with
      | none => rfl
      | some t => exact absurd hkey (Table.find_eq_none.mp (Table.insert_eq_some.mp hins).1 e he)
    · exact bind_eq_error.mpr (Or.inl (ensure_eq_error.mpr ⟨hunique, rfl⟩))
  · rw [if_neg hfits]
    exact bind_eq_error.mpr (Or.inl (ensure_eq_error.mpr ⟨hfits, rfl⟩))

/-- The row of a stored event cannot be flushed again. -/
theorem Delivery.flush_of_mem {e : PaymentWebhookEvent} {d : Delivery} {db : Database}
    (rowId : Uuid) (he : e ∈ db.paymentWebhookEvents)
    (hid : d.providerEventId = e.providerEventId) :
    (∀ eventType, d.Fits eventType → d.flush rowId db = .error .integrityError) ∧
      ∃ err, d.flush rowId db = .error err := by
  constructor
  · rintro eventType ⟨htype, hfits⟩
    have hins := insertWebhookEvent_of_mem (f := d.eventRow rowId eventType) he hid.symm
    rw [if_pos (show varchar 100 (d.eventRow rowId eventType).providerEventId = true ∧
      varchar 100 (d.eventRow rowId eventType).eventType = true from hfits)] at hins
    exact bind_eq_error.mpr (Or.inr ⟨eventType, PyStr.encoded_eq_ok.mpr htype,
      bind_eq_error.mpr (Or.inl hins)⟩)
  · cases htype : d.eventType with
    | text eventType =>
        have hins := insertWebhookEvent_of_mem (f := d.eventRow rowId eventType) he hid.symm
        exact ⟨_, bind_eq_error.mpr (Or.inr ⟨eventType, PyStr.encoded_eq_ok.mpr htype,
          bind_eq_error.mpr (Or.inl hins)⟩)⟩
    | lone start surrogate rest =>
        exact ⟨.unicodeEncodeError, bind_eq_error.mpr (Or.inl (by rw [htype]; rfl))⟩

/-- A second delivery of a stored event changes nothing: with the body of the first one it is a
duplicate, with another body it is refused. -/
theorem storeDelivery_of_mem {e : PaymentWebhookEvent} {d : Delivery} {db : Database}
    (rowId : Uuid) (now : Timestamp) (he : e ∈ db.paymentWebhookEvents)
    (hunique : ∀ f ∈ db.paymentWebhookEvents, f.providerEventId = e.providerEventId → f = e)
    (hid : d.providerEventId = e.providerEventId) :
    (d.payloadHash = e.payloadHash → ∀ eventType, d.Fits eventType →
      storeDelivery d rowId now db = (.ok .duplicate, db)) ∧
    (d.payloadHash ≠ e.payloadHash → ∃ err, storeDelivery d rowId now db = (.error err, db)) := by
  obtain ⟨hfits, err, herr⟩ := Delivery.flush_of_mem rowId he hid
  have hexisting := existingEvent_of_mem d.payloadHash he hunique
  constructor
  · intro hhash eventType hd
    rw [if_pos hhash.symm, ← hid] at hexisting
    simp only [storeDelivery, hfits eventType hd, hexisting]
  · intro hhash
    rw [if_neg (fun heq => hhash heq.symm), ← hid] at hexisting
    cases err <;> simp only [storeDelivery, herr, hexisting] <;> exact ⟨_, rfl⟩

end

section

variable {Body : Type} (env : Env Body)

structure World.DeliveriesSound (w : World) : Prop where
  accepted : ∀ id r d, w.deliveries.find id = some r → r.phase = .accepted d →
    ∃ rawBody, d.ParsedFrom env rawBody
  stored : ∀ e ∈ w.db.paymentWebhookEvents, ∃ rawBody, e.Records env rawBody
  unique : ∀ e ∈ w.db.paymentWebhookEvents, ∀ f ∈ w.db.paymentWebhookEvents,
    e.providerEventId = f.providerEventId → e = f

omit env in
/-- The delivery that an action is about to store. -/
def World.storing (w : World) : Action Body → Option Delivery
  | .storeDelivery deliveryId _ _ =>
      match (w.deliveries.find deliveryId).map DeliveryRequest.phase with
      | some (.accepted d) => some d
      | _ => none
  | _ => none

omit env in
theorem World.storing_eq_some {w : World} {a : Action Body} {d : Delivery} :
    w.storing a = some d ↔ ∃ deliveryId eventRowId now r, a = .storeDelivery deliveryId eventRowId now ∧
      w.deliveries.find deliveryId = some r ∧ r.phase = .accepted d := by
  constructor
  · intro h
    unfold World.storing at h
    split at h
    · next deliveryId eventRowId now =>
      split at h
      · next d' hd =>
        cases h
        obtain ⟨r, hr, hphase⟩ := Option.map_eq_some_iff.mp hd
        exact ⟨deliveryId, eventRowId, now, r, rfl, hr, hphase⟩
      · cases h
    · cases h
  · rintro ⟨deliveryId, eventRowId, now, r, rfl, hr, hphase⟩
    simp only [World.storing, hr, Option.map_some, hphase]

/-- Whether an action accepts a delivery of a provider event. -/
def World.accepts (providerEventId : String) (w : World) (a : Action Body) : Bool :=
  match w.storing a, a.delivery with
  | some d, some deliveryId =>
      d.providerEventId = providerEventId ∧ (w.step env a).hasAccepted deliveryId
  | _, _ => false

/-- The event rows after a delivery has been accepted: those before, and its own. -/
structure World.Stores (w : World) (d : Delivery) (events : Table PaymentWebhookEvent) : Prop where
  new : ∀ e ∈ w.db.paymentWebhookEvents, e.providerEventId ≠ d.providerEventId
  row : ∃ eventType rowId status now, d.Fits eventType ∧ status ≠ .received ∧
    ∀ e, e ∈ events ↔
      e = d.storedRow rowId eventType status now ∨ e ∈ w.db.paymentWebhookEvents

/-- An action that stores a delivery: refused, with nothing changed, or accepted. -/
theorem World.step_storing {w : World} {a : Action Body} {d : Delivery}
    (h : w.storing a = some d) :
    ((w.step env a).db = w.db ∧ ∀ eventId, w.accepts env eventId a = false) ∨
    (w.accepts env d.providerEventId a = true ∧
      w.Stores d (w.step env a).db.paymentWebhookEvents) := by
  obtain ⟨deliveryId, eventRowId, now, r, rfl, hr, hphase⟩ := World.storing_eq_some.mp h
  have hdb : (w.step env (.storeDelivery deliveryId eventRowId now)).db =
      (ChargeMate.storeDelivery d eventRowId now w.db).2 := by
    rw [World.step, World.db_storeDelivery, hr]
    simp only [Option.map_some, hphase]
  have hfind : (w.step env (.storeDelivery deliveryId eventRowId now)).deliveries.find deliveryId =
      some ⟨r.id, .answered (ChargeMate.storeDelivery d eventRowId now w.db).1⟩ := by
    rw [World.step, World.find_storeDelivery, hr]
    simp [DeliveryRequest.store, hphase]
  rcases storeDelivery_events d eventRowId now w.db with
    ⟨hnone, heq⟩ | ⟨eventType, status, hanswer, hreceived, _, hfits, hnew, hrow⟩
  · refine Or.inl ⟨by rw [hdb, heq], fun eventId => ?_⟩
    simp only [World.accepts, h, Action.delivery]
    rw [decide_eq_false_iff_not]
    rintro ⟨_, haccepted⟩
    obtain ⟨r', status, hr', hevent⟩ := World.hasAccepted_iff.mp haccepted
    rw [hfind] at hr'
    cases hr'
    exact hnone status (Reception.answered.inj hevent)
  · refine Or.inr ⟨?_, hnew, eventType, eventRowId, status, now, hfits, hreceived, ?_⟩
    · simp only [World.accepts, h, Action.delivery, true_and, decide_eq_true_eq]
      exact World.hasAccepted_iff.mpr ⟨_, status, hfind, by rw [hanswer]⟩
    · rw [hdb]
      exact hrow

/-- Only an accepted delivery changes the events, and it adds its row to them. -/
theorem World.step_events (w : World) (a : Action Body) :
    ((w.step env a).db.paymentWebhookEvents = w.db.paymentWebhookEvents ∧
      ∀ eventId, w.accepts env eventId a = false) ∨
    ∃ d, w.storing a = some d ∧ w.accepts env d.providerEventId a = true ∧
      w.Stores d (w.step env a).db.paymentWebhookEvents := by
  cases hstoring : w.storing a with
  | some d =>
      rcases w.step_storing env hstoring with ⟨hdb, hquiet⟩ | ⟨haccepts, hstores⟩
      · exact Or.inl ⟨by rw [hdb], hquiet⟩
      · exact Or.inr ⟨d, rfl, haccepts, hstores⟩
  | none =>
      refine Or.inl ⟨?_, fun eventId => by simp only [World.accepts, hstoring]⟩
      by_cases hplain : a.Plain
      · exact (w.step_spares env hplain).paymentWebhookEvents
      cases a with
      | startChargingSession operator payload sessionId now =>
          exact events_startChargingSession operator payload sessionId now w.db
      | completeChargingSession operator sessionId payload now =>
          exact events_completeChargingSession operator sessionId payload now w.db
      | storeDelivery deliveryId eventRowId now =>
          rw [World.step, World.db_storeDelivery]
          split
          · next d hd =>
            obtain ⟨r, hr, hphase⟩ := Option.map_eq_some_iff.mp hd
            rw [World.storing_eq_some.mpr ⟨deliveryId, eventRowId, now, r, rfl, hr, hphase⟩]
              at hstoring
            cases hstoring
          · rfl
      | _ => exact absurd trivial hplain

/-! ### The invariant of deliveries -/

theorem World.DeliveriesSound.step {w : World} (h : w.DeliveriesSound env) (a : Action Body) :
    (w.step env a).DeliveriesSound env := by
  have haccepted : ∀ id r d, (w.step env a).deliveries.find id = some r → r.phase = .accepted d →
      ∃ rawBody, d.ParsedFrom env rawBody := by
    intro id r d hr hphase
    cases ha : a.delivery with
    | none =>
        rw [w.deliveries_step env ha] at hr
        exact h.accepted id r d hr hphase
    | some deliveryId =>
        cases a with
        | receiveDelivery k request =>
            rw [World.step, World.find_receiveDelivery, Option.or_eq_some_iff] at hr
            rcases hr with hr | ⟨_, hr⟩
            · exact h.accepted id r d hr hphase
            split at hr
            · obtain ⟨webhookSecret, _, rfl⟩ := Option.map_eq_some_iff.mp hr
              rcases receiveWebhook_cases env webhookSecret request w.db with
                ⟨e, _, heq⟩ | ⟨eventId, _, ⟨e, _, heq⟩ | ⟨d', hparse, heq⟩⟩
              · rw [heq] at hphase
                cases hphase
              · rw [heq] at hphase
                cases hphase
              · simp only [heq] at hphase
                split at hphase
                · cases hphase
                · cases hphase
                · cases hphase
                  refine ⟨request.rawBody, ?_⟩
                  rw [Delivery.ParsedFrom, (parseDelivery_eq_ok hparse).1]
                  exact hparse
            · cases hr
        | storeDelivery k eventRowId now =>
            rw [World.step, World.find_storeDelivery] at hr
            obtain ⟨r', hr', rfl⟩ := Option.map_eq_some_iff.mp hr
            refine h.accepted id r' d hr' ?_
            split at hphase
            · unfold DeliveryRequest.store at hphase
              split at hphase
              · cases hphase
              · exact hphase
            · exact hphase
        | _ => cases ha
  rcases w.step_events env a with ⟨hevents, _⟩ | ⟨d, hstoring, _, hstores⟩
  · refine ⟨haccepted, ?_, ?_⟩ <;> rw [hevents]
    · exact h.stored
    · exact h.unique
  · obtain ⟨eventType, rowId, status, now, hfits, hreceived, hrow⟩ := hstores.row
    obtain ⟨deliveryId, _, _, r, _, hr, hphase⟩ := World.storing_eq_some.mp hstoring
    obtain ⟨rawBody, hparsed⟩ := h.accepted deliveryId r d hr hphase
    refine ⟨haccepted, ?_, ?_⟩
    · intro e he
      rcases (hrow e).mp he with rfl | he
      · refine ⟨rawBody, ⟨d, hparsed, hfits.1⟩, (parseDelivery_eq_ok hparsed).2, ⟨?_, ?_⟩, hfits.2⟩
        · cases hs : status <;> simp_all [Delivery.storedRow]
        · exact Option.some_ne_none now
      · exact h.stored e he
    · intro e he f hf hef
      rcases (hrow e).mp he with rfl | he <;> rcases (hrow f).mp hf with rfl | hf
      · rfl
      · exact absurd hef.symm (hstores.new f hf)
      · exact absurd hef (hstores.new e he)
      · exact h.unique e he f hf hef

omit env in
theorem World.Initial.deliveriesSound {w : World} (h : w.Initial) (env : Env Body) :
    w.DeliveriesSound env := by
  refine ⟨?_, ?_, ?_⟩
  · intro id r d hr
    rw [h.deliveries, Table.find_empty] at hr
    cases hr
  · intro e he
    rw [h.paymentWebhookEvents] at he
    exact absurd he (Table.notMem_empty e)
  · intro e he
    rw [h.paymentWebhookEvents] at he
    exact absurd he (Table.notMem_empty e)

variable {env}

theorem World.Reachable.deliveriesSound {w : World} (h : w.Reachable env) : w.DeliveriesSound env :=
  Transition.Reachable.invariant (P := fun w : World => w.DeliveriesSound env)
    (fun _ hinit => hinit.deliveriesSound env) (fun _ a _ hw => hw.step env a) h

/-- An event row is never deleted or written again. -/
theorem World.event_kept {w : World} (a : Action Body) {e : PaymentWebhookEvent}
    (he : e ∈ w.db.paymentWebhookEvents) : e ∈ (w.step env a).db.paymentWebhookEvents := by
  rcases w.step_events env a with ⟨hevents, _⟩ | ⟨d, _, _, hstores⟩
  · rw [hevents]
    exact he
  · obtain ⟨_, _, _, _, _, _, hrow⟩ := hstores.row
    exact (hrow e).mpr (Or.inr he)

/-- The row of an accepted delivery is stored in every later state. -/
theorem World.Reachable.event_run {w : World} (h : w.Reachable env) (actions : List (Action Body))
    {e : PaymentWebhookEvent} (he : e ∈ w.db.paymentWebhookEvents) :
    e ∈ (w.run env actions).db.paymentWebhookEvents :=
  Transition.Reachable.stable (P := fun w : World => e ∈ w.db.paymentWebhookEvents)
    (fun _ a _ he => World.event_kept a he) h he actions

theorem World.accepts_eq_true {w : World} {a : Action Body} {eventId : String}
    (h : w.accepts env eventId a = true) : ∃ d, w.storing a = some d ∧
      d.providerEventId = eventId ∧ w.Stores d (w.step env a).db.paymentWebhookEvents := by
  rcases w.step_events env a with ⟨_, hquiet⟩ | ⟨d, hstoring, _, hstores⟩
  · rw [hquiet eventId] at h
    cases h
  · refine ⟨d, hstoring, ?_, hstores⟩
    unfold World.accepts at h
    rw [hstoring] at h
    split at h
    · next d' _ hd _ =>
      cases hd
      exact (of_decide_eq_true h).1
    · cases h

/-- A run accepts at most one delivery of each provider event. -/
theorem World.Reachable.accepts_once {w : World} (h : w.Reachable env) (eventId : String)
    (actions : List (Action Body)) :
    Transition.firings (World.step env) (World.accepts env eventId) w actions ≤ 1 := by
  refine Transition.firings_le_one
    (D := fun w : World => ∃ e ∈ w.db.paymentWebhookEvents, e.providerEventId = eventId) ?_ ?_ ?_ h
    actions
  · intro s a _ hfires
    obtain ⟨d, _, hid, hstores⟩ := World.accepts_eq_true hfires
    obtain ⟨eventType, rowId, status, now, _, _, hrow⟩ := hstores.row
    exact ⟨d.storedRow rowId eventType status now, (hrow _).mpr (Or.inl rfl), hid⟩
  · rintro s a _ ⟨e, he, hid⟩
    exact ⟨e, World.event_kept a he, hid⟩
  · rintro s a _ ⟨e, he, hid⟩
    rw [Bool.eq_false_iff]
    intro hfires
    obtain ⟨d, _, hdid, hstores⟩ := World.accepts_eq_true hfires
    exact hstores.new e he (hid.trans hdid.symm)

/-! ### Main result -/

/-- What a further delivery of a stored event meets, the first one having had the body `rawBody`. -/
structure PaymentWebhookEvent.Closes (env : Env Body) (e : PaymentWebhookEvent) (rawBody : Body)
    (w : World) : Prop where
  lookup : ∀ webhookSecret request,
    authenticate env webhookSecret request = .ok e.providerEventId →
    (request.rawBody = rawBody →
      receiveWebhook env webhookSecret request w.db = .answered (.ok .duplicate)) ∧
    (request.rawBody ≠ rawBody →
      ∃ err, receiveWebhook env webhookSecret request w.db = .answered (.error err))
  transaction : ∀ deliveryId r d eventRowId now, w.deliveries.find deliveryId = some r →
    r.phase = .accepted d → d.providerEventId = e.providerEventId →
    (d.payloadHash = env.sha256Hex rawBody →
      storeDelivery d eventRowId now w.db = (.ok .duplicate, w.db)) ∧
    (d.payloadHash ≠ env.sha256Hex rawBody →
      ∃ err, storeDelivery d eventRowId now w.db = (.error err, w.db))

theorem World.DeliveriesSound.closes {w : World} (h : w.DeliveriesSound env)
    (hsha : Function.Injective env.sha256Hex) {e : PaymentWebhookEvent}
    (he : e ∈ w.db.paymentWebhookEvents) {rawBody : Body} (hrecords : e.Records env rawBody) :
    e.Closes env rawBody w := by
  have hunique : ∀ f ∈ w.db.paymentWebhookEvents, f.providerEventId = e.providerEventId → f = e :=
    fun f hf hfe => h.unique f hf e he hfe
  obtain ⟨d₀, hparse₀, htype₀⟩ := hrecords.parsed
  refine ⟨?_, ?_⟩
  · intro webhookSecret request hauth
    have hexisting := existingEvent_of_mem (env.sha256Hex request.rawBody) he hunique
    rcases receiveWebhook_cases env webhookSecret request w.db with
      ⟨err, herr, _⟩ | ⟨eventId, hid, hcases⟩
    · rw [hauth] at herr
      cases herr
    rw [hauth] at hid
    cases hid
    constructor
    · intro hbody
      rw [hbody, hrecords.payloadHash, if_pos rfl] at hexisting
      rcases hcases with ⟨err, hparse, _⟩ | ⟨d, _, heq⟩
      · rw [hbody, hparse₀] at hparse
        cases hparse
      · rw [heq, hbody, hexisting]
    · intro hbody
      have hne : e.payloadHash ≠ env.sha256Hex request.rawBody := by
        rw [hrecords.payloadHash]
        exact fun heq => hbody (hsha heq).symm
      rw [if_neg hne] at hexisting
      rcases hcases with ⟨err, _, heq⟩ | ⟨d, _, heq⟩
      · exact ⟨err, heq⟩
      · exact ⟨_, by rw [heq, hexisting]⟩
  · intro deliveryId r d eventRowId now hr hphase hid
    obtain ⟨hsame, hother⟩ := storeDelivery_of_mem eventRowId now he hunique hid
    rw [← hrecords.payloadHash]
    refine ⟨fun hhash => hsame hhash e.eventType ⟨?_, hid ▸ hrecords.fits.1, hrecords.fits.2⟩,
      hother⟩
    -- the hash gives the body, and the body the event type that has been stored
    obtain ⟨rawBody', hparsed⟩ := h.accepted deliveryId r d hr hphase
    have hbody : rawBody' = rawBody := by
      apply hsha
      rw [← (parseDelivery_eq_ok hparsed).2, hhash, hrecords.payloadHash]
    rw [hbody, Delivery.ParsedFrom, hid, hparse₀] at hparsed
    cases hparsed
    exact htype₀

/-- A delivery of an event that is not stored is handled as its first one. -/
theorem storeDelivery_of_new {d : Delivery} {rowId : Uuid} {db : Database} (now : Timestamp)
    (hnew : ∀ e ∈ db.paymentWebhookEvents, e.providerEventId ≠ d.providerEventId)
    (hrow : db.paymentWebhookEvents.find rowId = none) {eventType : String}
    (hfits : d.Fits eventType) :
    ∃ event flushed, d.flush rowId db = .ok (event, flushed) ∧
      storeDelivery d rowId now db = transaction .integrityError
        (fun _ => applyDelivery d event now flushed) db := by
  have hunique : uniqueColumn db.paymentWebhookEvents (fun e => some e.providerEventId)
      (d.eventRow rowId eventType) = true := by
    refine uniqueColumn_eq_true.mpr fun v hv e he hev => absurd ?_ (hnew e he)
    exact Option.some.inj (hev.trans hv.symm)
  obtain ⟨t, ht⟩ := Table.exists_insert (r := d.eventRow rowId eventType) hrow
  have hins : db.insertWebhookEvent (d.eventRow rowId eventType) =
      .ok { db with paymentWebhookEvents := t } :=
    Database.insertWebhookEvent_eq_ok.mpr ⟨hfits.2, hunique, t, ht, rfl⟩
  have hflush := Delivery.flush_eq_ok.mpr ⟨eventType, hfits.1, rfl, hins⟩
  exact ⟨_, _, hflush, by simp only [storeDelivery, hflush]⟩

end

/-- Webhook deliveries are idempotent and atomic. A run leaves the database that it would leave
without the deliveries it does not accept, and it accepts each provider event once. The row of an
accepted delivery stays; further deliveries of its event are duplicates or refused, by the body.
A delivery that is refused in any way changes nothing, and the next one of its event is handled as
the first. Every row has its outcome. -/
theorem webhook_deliveries_idempotent {Body : Type} (env : Env Body)
    (hsha : Function.Injective env.sha256Hex) {w : World} (h : w.Reachable env) :
    (∀ actions : List (Action Body),
      (w.run env (actions.filter fun a => a.keptBy (w.run env actions))).db =
        (w.run env actions).db) ∧
    (∀ eventId (actions : List (Action Body)),
      Transition.firings (World.step env) (World.accepts env eventId) w actions ≤ 1) ∧
    (∀ eventId (a : Action Body), w.accepts env eventId a = true → ∃ d rawBody,
      w.storing a = some d ∧ parseDelivery env eventId rawBody = .ok d ∧
      ∀ actions : List (Action Body), ∃ e ∈ ((w.step env a).run env actions).db.paymentWebhookEvents,
        e.providerEventId = eventId ∧ e.Closes env rawBody ((w.step env a).run env actions)) ∧
    (∀ webhookSecret request, (∀ signature eventId, truthy request.suppliedSignature = some signature →
        truthy request.providerEventId = some eventId →
        verifyWebhookSignature env request.rawBody signature webhookSecret = false) →
      receiveWebhook env webhookSecret request w.db =
        .answered (.error .webhookAuthenticationError)) ∧
    (∀ deliveryId request, (w.step env (.receiveDelivery deliveryId request)).db = w.db) ∧
    (∀ d eventRowId now e, (storeDelivery d eventRowId now w.db).1 = .error e →
      (storeDelivery d eventRowId now w.db).2 = w.db) ∧
    (∀ webhookSecret request eventId d, authenticate env webhookSecret request = .ok eventId →
      parseDelivery env eventId request.rawBody = .ok d →
      (∀ e ∈ w.db.paymentWebhookEvents, e.providerEventId ≠ eventId) →
      receiveWebhook env webhookSecret request w.db = .accepted d ∧
      ∀ eventRowId now eventType, w.db.paymentWebhookEvents.find eventRowId = none →
        d.eventType = .text eventType → varchar 100 d.providerEventId = true →
        varchar 100 eventType = true →
        ∃ event flushed, d.flush eventRowId w.db = .ok (event, flushed) ∧
          storeDelivery d eventRowId now w.db = transaction .integrityError
            (fun _ => applyDelivery d event now flushed) w.db) ∧
    ∀ e ∈ w.db.paymentWebhookEvents,
      (e.status = .processed ∨ e.status = .ignored) ∧ e.processedAt ≠ none := by
  have hsound := h.deliveriesSound
  refine ⟨w.run_accepted, fun eventId => h.accepts_once eventId, ?_, ?_, ?_, ?_, ?_, ?_⟩
  · intro eventId a haccepts
    obtain ⟨d, hstoring, rfl, hstores⟩ := World.accepts_eq_true haccepts
    obtain ⟨deliveryId, _, _, r, _, hr, hphase⟩ := World.storing_eq_some.mp hstoring
    obtain ⟨rawBody, hparsed⟩ := hsound.accepted deliveryId r d hr hphase
    refine ⟨d, rawBody, hstoring, hparsed, fun actions => ?_⟩
    obtain ⟨eventType, rowId, status, now, hfits, hreceived, hrow⟩ := hstores.row
    have hnext := h.next a
    have he := World.Reachable.event_run hnext actions ((hrow _).mpr (Or.inl rfl))
    refine ⟨_, he, rfl, (World.Reachable.deliveriesSound (hnext.run actions)).closes hsha he ?_⟩
    refine ⟨⟨d, hparsed, hfits.1⟩, (parseDelivery_eq_ok hparsed).2, ⟨?_, Option.some_ne_none now⟩,
      hfits.2⟩
    cases hs : status <;> simp_all [Delivery.storedRow]
  · intro webhookSecret request hbad
    have hauth := authenticate_eq_error hbad
    rcases receiveWebhook_cases env webhookSecret request w.db with ⟨e, he, heq⟩ | ⟨_, hok, _⟩
    · rw [hauth] at he
      cases he
      exact heq
    · rw [hauth] at hok
      cases hok
  · intro deliveryId request
    obtain ⟨deliveries, heq⟩ := w.receiveDelivery_eq env deliveryId request
    rw [World.step, heq]
  · intro d eventRowId now e herror
    rcases storeDelivery_events d eventRowId now w.db with ⟨_, heq⟩ | ⟨_, status, hanswer, _⟩
    · exact heq
    · rw [hanswer] at herror
      cases herror
  · intro webhookSecret request eventId d hauth hparse hnew
    have hid := (parseDelivery_eq_ok hparse).1
    refine ⟨?_, fun eventRowId now eventType hrow htype hidFits htypeFits =>
      storeDelivery_of_new now (hid ▸ hnew) hrow ⟨htype, hidFits, htypeFits⟩⟩
    rcases receiveWebhook_cases env webhookSecret request w.db with
      ⟨e, herr, _⟩ | ⟨eventId', hid', ⟨e, herr, _⟩ | ⟨d', hd', heq⟩⟩
    · rw [hauth] at herr
      cases herr
    · rw [hauth] at hid'
      cases hid'
      rw [hparse] at herr
      cases herr
    · rw [hauth] at hid'
      cases hid'
      rw [hparse] at hd'
      cases hd'
      rw [heq, existingEvent_of_new _ hnew]
  · intro e he
    obtain ⟨rawBody, hrecords⟩ := hsound.stored e he
    exact hrecords.settled

/-! ### A sample event

Bodies are texts here, and of one of them the digests are the real ones. -/

def sampleText : String := "\x7b\"event\":\"invoice.paid\"\x7d"

def sampleTextDigest : String := "f6d49dd1315f4c018214f1fc32779d67e9b405067485964028f8dc49ddab7ca2"

def sampleTextSignature : String :=
  "e7fef739a213685b1afdacd35ace8b6ca09edf1deaff7b2f48afb4270cf118cb"

def sampleTextEnv : Env String where
  razorpayKeyId := some "rzp_test_key"
  razorpayKeySecret := some "key_secret"
  razorpayWebhookSecret := some "webhook_secret"
  bookingHoldMinutes := 15
  encode := id
  hmacSha256Hex secret body :=
    if secret = "webhook_secret" ∧ body = sampleText then sampleTextSignature else ""
  sha256Hex := Equiv.swap sampleText sampleTextDigest
  jsonLoads body :=
    if body = sampleText then .ok (.obj [("event", .str "invoice.paid")]) else .error .decode

/-- The event, received and stored under one identifier. -/
def sampleTextDelivery (id : Uuid) : List (Action String) :=
  [.receiveDelivery id ⟨sampleText, some sampleTextSignature, some "evt_1"⟩, .storeDelivery id id 0]

/-- A redelivery leaves the database as the first delivery has. -/
theorem webhook_deliveries_idempotent_sample :
    (sampleWorld.run sampleTextEnv (sampleTextDelivery 40 ++ sampleTextDelivery 41)).db =
      (sampleWorld.run sampleTextEnv (sampleTextDelivery 40)).db := by
  have hkept : (sampleWorld.run sampleTextEnv
      (sampleTextDelivery 40 ++ sampleTextDelivery 41)).hasAccepted 40 = true := by decide +kernel
  have hdropped : (sampleWorld.run sampleTextEnv
      (sampleTextDelivery 40 ++ sampleTextDelivery 41)).hasAccepted 41 = false := by decide +kernel
  have hrun := (webhook_deliveries_idempotent sampleTextEnv (Equiv.injective _)
    (Transition.Reachable.initial sampleWorld_initial)).1
      (sampleTextDelivery 40 ++ sampleTextDelivery 41)
  have hfilter : ∀ final : World, final.hasAccepted 40 = true → final.hasAccepted 41 = false →
      ((sampleTextDelivery 40 ++ sampleTextDelivery 41).filter fun a => a.keptBy final) =
        sampleTextDelivery 40 := by
    intro final h40 h41
    simp only [sampleTextDelivery, List.cons_append, List.nil_append, List.filter_cons,
      Action.keptBy, Action.delivery, Option.all_some, h40, h41]
    rfl
  rw [hfilter _ hkept hdropped] at hrun
  exact hrun.symm

end ChargeMate
