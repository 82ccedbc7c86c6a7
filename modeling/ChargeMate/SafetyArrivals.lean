import ChargeMate.SafetyWebhooks

/-! The order in which the payment events of one order arrive. While the hold is live, the statuses
of payment and booking follow a small automaton, `PaymentEvent.next`; its events commute except for
a capture and a failure. -/

namespace ChargeMate

open Relational

/-! ### The automaton of payment and booking -/

/-- The statuses of a payment and of its booking after a payment event, the hold being live. -/
def PaymentEvent.next (s : PaymentStatus × BookingStatus) :
    PaymentEvent → PaymentStatus × BookingStatus
  | .authorized => (if s.1 = .orderCreated then .authorized else s.1, s.2)
  | .captured =>
      if s.1 = .refunded then s
      else (.captured, if s.2 = .paymentPending then .confirmed else s.2)
  | .failed =>
      if s.1 = .captured ∨ s.1 = .refunded then s
      else (.failed, if s.2 = .paymentPending then .held else s.2)

/-- Two events commute unless one is a capture and the other a failure. -/
theorem PaymentEvent.next_comm {e f : PaymentEvent} (hef : ¬(e = .captured ∧ f = .failed))
    (hfe : ¬(f = .captured ∧ e = .failed)) (s : PaymentStatus × BookingStatus) :
    next (next s e) f = next (next s f) e := by
  obtain ⟨p, b⟩ := s
  cases e <;> cases f
  case captured.failed => exact absurd ⟨rfl, rfl⟩ hef
  case failed.captured => exact absurd ⟨rfl, rfl⟩ hfe
  all_goals cases p <;> simp [next]

/-- A booking that does not await the payment is left alone. -/
theorem PaymentEvent.next_booking {s : PaymentStatus × BookingStatus} (h : s.2 ≠ .paymentPending)
    (e : PaymentEvent) : (next s e).2 = s.2 := by
  cases e with
  | authorized => rfl
  | captured =>
      simp only [next, if_neg h]
      split <;> rfl
  | failed =>
      simp only [next, if_neg h]
      split <;> rfl

theorem PaymentEvent.foldl_next_booking {s : PaymentStatus × BookingStatus}
    (h : s.2 ≠ .paymentPending) (events : List PaymentEvent) : (events.foldl next s).2 = s.2 := by
  induction events generalizing s with
  | nil => rfl
  | cons e events ih =>
      have hstep := next_booking h e
      rw [List.foldl_cons, ih (by rwa [hstep]), hstep]

/-- Without both a capture and a failure, the order of the events does not matter. -/
theorem PaymentEvent.foldl_next_perm {xs ys : List PaymentEvent} (hperm : xs.Perm ys)
    (hboth : ¬(.captured ∈ xs ∧ .failed ∈ xs)) (s : PaymentStatus × BookingStatus) :
    xs.foldl next s = ys.foldl next s := by
  refine hperm.foldl_eq' (fun e he f hf z => next_comm ?_ ?_ z) s
  · rintro ⟨rfl, rfl⟩
    exact hboth ⟨he, hf⟩
  · rintro ⟨rfl, rfl⟩
    exact hboth ⟨hf, he⟩

/-! ### One event on the database -/

section

variable {q : Payment} {b : Booking} {db : Database}

theorem applyCapturedPayment_of_refunded (hs : q.status = .refunded) :
    applyCapturedPayment q db = db.updatePayment q := if_pos hs

theorem applyCapturedPayment_of_pending (hs : q.status ≠ .refunded)
    (hb : db.bookings.find q.bookingId = some b) (hpending : b.status = .paymentPending) :
    applyCapturedPayment q db = (db.updatePayment { q with status := .captured }).map
      fun db => db.updateBooking (b.advance .confirmed) := by
  simp only [applyCapturedPayment, if_neg hs, hb, orRaise, bind, Except.bind, if_pos hpending]
  cases db.updatePayment { q with status := .captured } <;> rfl

theorem applyCapturedPayment_of_confirmed (hs : q.status ≠ .refunded)
    (hb : db.bookings.find q.bookingId = some b) (hconfirmed : b.status = .confirmed) :
    applyCapturedPayment q db = db.updatePayment { q with status := .captured } := by
  simp [applyCapturedPayment, hs, hb, orRaise, bind, Except.bind, hconfirmed]

theorem applyCapturedPayment_of_closed (hs : q.status ≠ .refunded)
    (hb : db.bookings.find q.bookingId = some b) (hpending : b.status ≠ .paymentPending)
    (hconfirmed : b.status ≠ .confirmed) : applyCapturedPayment q db = db.updatePayment { q with
      status := .captured
      lastErrorCode := some "captured_after_booking_closed" } := by
  simp [applyCapturedPayment, hs, hb, orRaise, bind, Except.bind, hpending, hconfirmed]

theorem applyFailedPayment_of_collected {now : Timestamp} (hs : q.Collected) :
    applyFailedPayment q now db = db.updatePayment q := if_pos hs

theorem applyFailedPayment_of_open {now : Timestamp} (hs : ¬q.Collected)
    (hb : db.bookings.find q.bookingId = some b) :
    applyFailedPayment q now db = (db.updatePayment { q with status := .failed }).map
      fun db => db.updateBooking (b.release now) := by
  change ¬(q.status = .captured ∨ q.status = .refunded) at hs
  simp only [applyFailedPayment, if_neg hs, hb, orRaise, bind, Except.bind]
  cases db.updatePayment { q with status := .failed } <;> rfl

end

/-- A hold that is live is what a release goes back to. -/
theorem Booking.status_release {b : Booking} {now t : Timestamp} (ht : b.holdExpiresAt = some t)
    (hlive : now < t) :
    (b.release now).status = (if b.status = .paymentPending then .held else b.status) := by
  rcases b.release_cases now with ⟨hs, heq⟩ | ⟨hs, heq⟩
  · rw [heq, if_neg hs]
  · rw [heq, if_pos hs]
    have hafter : timestampIsAfter b.holdExpiresAt now = true := by
      rw [ht]
      exact decide_eq_true hlive
    exact if_pos hafter

theorem Booking.holdExpiresAt_release (b : Booking) (now : Timestamp) :
    (b.release now).holdExpiresAt = b.holdExpiresAt := by
  rcases b.advances_release now with heq | hadv
  · rw [heq]
  · exact hadv.holdExpiresAt

/-- The handler follows the automaton. -/
theorem PaymentNotice.applied_next {n : PaymentNotice} {p : Payment} {b : Booking}
    {now t : Timestamp} {db : Database} (hb : db.bookings.find p.bookingId = some b)
    (ht : b.holdExpiresAt = some t) (hlive : now < t) {paymentId : String}
    (htext : n.paymentId = .text paymentId) (haccepts : db.AcceptsPayment (p.pinned paymentId)) :
    ∃ db' q c, n.applied p now db = .ok db' ∧ db'.payments = db.payments.set q ∧
      q = { p.pinned paymentId with status := q.status, lastErrorCode := q.lastErrorCode } ∧
      db'.bookings.find p.bookingId = some c ∧ c.holdExpiresAt = some t ∧
      (q.status, c.status) = PaymentEvent.next (p.status, b.status) n.event ∧
      db'.paymentWebhookEvents = db.paymentWebhookEvents := by
  have hupdate : ∀ q : Payment, q = { p.pinned paymentId with
      status := q.status
      lastErrorCode := q.lastErrorCode } →
      db.updatePayment q = .ok { db with payments := db.payments.set q } := by
    intro q hq
    refine Database.updatePayment_eq_ok.mpr ⟨haccepts.congr rfl ?_ ?_ ?_, rfl⟩ <;> rw [hq]
  have hid : b.id = p.bookingId := Table.key_of_find hb
  -- the booking that is written is found again
  have hset : ∀ c : Booking, c.id = b.id → (db.bookings.set c).find p.bookingId = some c := by
    intro c hc
    have hkey : key c = p.bookingId := by rw [Booking.key_eq, hc, hid]
    rw [← hkey]
    exact Table.find_set_self (r := c) (by rw [hkey]; exact hb)
  have happlied : n.applied p now db = n.appliedTo (p.pinned paymentId) now db := by
    rw [PaymentNotice.applied, htext]
    rfl
  rw [happlied, PaymentNotice.appliedTo]
  cases n.event with
  | authorized =>
      have hstatus : (p.pinned paymentId).status = p.status := rfl
      by_cases hs : p.status = .orderCreated
      · simp only [hstatus, if_pos hs]
        exact ⟨_, _, b, hupdate { p.pinned paymentId with status := .authorized } rfl, rfl, rfl, hb, ht,
          by simp [PaymentEvent.next, hs], rfl⟩
      · simp only [hstatus, if_neg hs]
        exact ⟨_, _, b, hupdate (p.pinned paymentId) rfl, rfl, rfl, hb, ht,
          by simp [PaymentEvent.next, hs, Payment.pinned], rfl⟩
  | captured =>
      by_cases hs : p.status = .refunded
      · simp only [applyCapturedPayment_of_refunded (q := p.pinned paymentId) hs]
        exact ⟨_, _, b, hupdate (p.pinned paymentId) rfl, rfl, rfl, hb, ht,
          by simp [PaymentEvent.next, hs, Payment.pinned], rfl⟩
      by_cases hpending : b.status = .paymentPending
      · simp only [applyCapturedPayment_of_pending (q := p.pinned paymentId) hs hb hpending,
          hupdate { p.pinned paymentId with status := .captured } rfl, Except.map]
        exact ⟨_, _, _, rfl, rfl, rfl, hset (b.advance .confirmed) rfl, ht,
          by simp [PaymentEvent.next, hs, hpending, Booking.advance], rfl⟩
      by_cases hconfirmed : b.status = .confirmed
      · simp only [applyCapturedPayment_of_confirmed (q := p.pinned paymentId) hs hb hconfirmed]
        exact ⟨_, _, b, hupdate { p.pinned paymentId with status := .captured } rfl, rfl, rfl, hb, ht,
          by simp [PaymentEvent.next, hs, hpending], rfl⟩
      · simp only [applyCapturedPayment_of_closed (q := p.pinned paymentId) hs hb hpending hconfirmed]
        exact ⟨_, _, b, hupdate { p.pinned paymentId with
          status := .captured
          lastErrorCode := some "captured_after_booking_closed" } rfl, rfl, rfl, hb, ht,
          by simp [PaymentEvent.next, hs, hpending], rfl⟩
  | failed =>
      by_cases hs : p.Collected
      · simp only [applyFailedPayment_of_collected (q := p.pinned paymentId) hs]
        exact ⟨_, _, b, hupdate (p.pinned paymentId) rfl, rfl, rfl, hb, ht, (if_pos hs).symm, rfl⟩
      · simp only [applyFailedPayment_of_open (q := p.pinned paymentId) hs hb,
          hupdate { p.pinned paymentId with status := .failed } rfl, Except.map]
        refine ⟨_, _, _, rfl, rfl, rfl, hset (b.release now) (b.id_release now), ?_, ?_, rfl⟩
        · rw [b.holdExpiresAt_release now, ht]
        · rw [Booking.status_release ht hlive]
          exact (if_neg hs).symm

/-! ### One delivery on the database -/

/-- A supported event name fits its column. -/
theorem SupportedEvent.fits {sent : PyStr} {e : SupportedEvent}
    (h : SupportedEvent.ofStr sent = some e) : ∃ s, sent = .text s ∧ varchar 100 s = true := by
  unfold SupportedEvent.ofStr at h
  split at h <;> first | exact ⟨_, rfl, by decide⟩ | cases h

theorem applyPaymentEvent_processed {n : PaymentNotice} {p : Payment} {now : Timestamp}
    {db db' : Database} (hn : PaymentNotice.ofEntity n.event n.entity = some n)
    (hp : n.subject db = some p) (hmatch : n.Matches p) (hagrees : n.Agrees p)
    (happlied : n.applied p now db = .ok db') :
    applyPaymentEvent n.event n.entity now db = .ok (.processed, db') := by
  obtain ⟨_, _, ho, hfree, hx⟩ := PaymentNotice.ofEntity_eq_some.mp hn
  obtain ⟨paymentId, htext, happlied⟩ := PaymentNotice.applied_eq_ok.mp happlied
  have hparameter : (PyStr.text n.orderId).parameter = .ok n.orderId :=
    PyStr.parameter_eq_ok.mpr ⟨rfl, hfree⟩
  have hscalar : db.payments.scalar (fun p => p.providerOrderId = some n.orderId) = some p := hp
  have hamount : ¬¬providerAmountMatches p n.entity = true := not_not.mpr hmatch
  have hpinned : ¬∃ pinned ∈ p.providerPaymentId, .text pinned ≠ n.paymentId := by
    rintro ⟨pinned, hpinned, hne⟩
    exact hne (hagrees pinned hpinned)
  simp only [applyPaymentEvent, ho, hx, orRaise, bind, Except.bind, hparameter, hscalar]
  rw [if_neg hamount, if_neg hpinned, htext]
  unfold PaymentNotice.appliedTo Payment.pinned at happlied
  simp only [PyStr.encoded]
  cases hevent : n.event <;> simp only [hevent] at happlied <;>
    simp only [happlied, pure, Except.pure]

/-- A new event of the right size is stored. -/
theorem Database.insertWebhookEvent_ok {db : Database} {e : PaymentWebhookEvent}
    (hid : varchar 100 e.providerEventId = true) (htype : varchar 100 e.eventType = true)
    (hnew : ∀ f ∈ db.paymentWebhookEvents, f.providerEventId ≠ e.providerEventId)
    (hrow : ∀ f ∈ db.paymentWebhookEvents, f.id ≠ e.id) :
    ∃ t, db.paymentWebhookEvents.insert e = some t ∧
      db.insertWebhookEvent e = .ok { db with paymentWebhookEvents := t } := by
  obtain ⟨t, ht⟩ := Table.exists_insert (r := e) (Table.find_eq_none.mpr hrow)
  refine ⟨t, ht, ?_⟩
  refine Database.insertWebhookEvent_eq_ok.mpr ⟨⟨hid, htype⟩, ?_, t, ht, rfl⟩
  refine uniqueColumn_eq_true.mpr ?_
  intro v hv f hf hfv
  cases hv
  exact absurd (Option.some.inj hfv) (hnew f hf)

/-- The rows of events once a flushed event has its outcome. -/
theorem Database.mem_updateWebhookEvent {db db' : Database} {t : Table PaymentWebhookEvent}
    {e e' f : PaymentWebhookEvent} (hins : db.paymentWebhookEvents.insert e = some t)
    (hevents : db'.paymentWebhookEvents = t) (hid : e'.id = e.id)
    (hf : f ∈ (db'.updateWebhookEvent e').paymentWebhookEvents) :
    f ∈ db.paymentWebhookEvents ∨ f = e' := by
  have hrow : t.find (key e') = some e := by
    rw [PaymentWebhookEvent.key_eq, hid]
    exact Table.find_insert_self hins
  rw [Database.updateWebhookEvent, hevents] at hf
  rcases (Table.mem_set hrow).mp hf with rfl | ⟨hf, hne⟩
  · exact Or.inr rfl
  · rcases (Table.mem_insert hins).mp hf with hf | rfl
    · exact Or.inl hf
    · exact absurd hid.symm hne

theorem storeDelivery_processed {d : Delivery} {rowId : Uuid} {now : Timestamp}
    {db flushed db' : Database} {event : PaymentWebhookEvent} {n : PaymentNotice} {p : Payment}
    (hflush : d.flush rowId db = .ok (event, flushed)) (hn : d.notice = some n)
    (hp : n.subject flushed = some p) (hmatch : n.Matches p) (hagrees : n.Agrees p)
    (happlied : n.applied p now flushed = .ok db') :
    (storeDelivery d rowId now db).2 = db'.updateWebhookEvent { event with
      status := .processed
      processedAt := some now } := by
  obtain ⟨hsup, hentity, hof⟩ := Delivery.notice_eq_some.mp hn
  simp only [storeDelivery, hflush, transaction, applyDelivery, hsup, hentity,
    applyPaymentEvent_processed hof hp hmatch hagrees happlied, bind, Except.bind, pure, Except.pure]

/-- A delivery whose notice cannot be pinned leaves the database alone. -/
theorem storeDelivery_refused {d : Delivery} {rowId : Uuid} {now : Timestamp} {db : Database}
    {n : PaymentNotice} {p : Payment} (hn : d.notice = some n) (hp : n.subject db = some p)
    (hmatch : n.Matches p) (hagrees : n.Agrees p) (hrefused : ¬db.CanPin p n.paymentId) :
    (storeDelivery d rowId now db).2 = db := by
  rcases storeDelivery_cases d rowId now db with ⟨_, h⟩ | ⟨_, _, _, status, _, hanswer, _⟩
  · exact h
  obtain ⟨_, flushed, db₁, hflush, _, ⟨_, hnot, _⟩ | ⟨_, _, _, happlied⟩⟩ :=
    storeDelivery_notice hn hp hanswer
  · exact absurd ⟨hmatch, hagrees⟩ hnot
  · have hpins := PaymentNotice.canPin_of_applied happlied
    exact absurd (hpins.congr (Delivery.payments_flush hflush).symm) hrefused

/-- A delivery whose event identifier does not fit leaves the database alone. -/
theorem storeDelivery_unfit {d : Delivery} {rowId : Uuid} {now : Timestamp} {db : Database}
    (h : ¬varchar 100 d.providerEventId = true) : (storeDelivery d rowId now db).2 = db := by
  rcases storeDelivery_cases d rowId now db with ⟨_, hdb⟩ | ⟨_, flushed, _, _, hflush, _⟩
  · exact hdb
  · obtain ⟨_, _, rfl, hins⟩ := Delivery.flush_eq_ok.mp hflush
    exact absurd (Database.insertWebhookEvent_eq_ok.mp hins).1.1 h

/-! ### Arrivals -/

/-- A webhook request, with the row identifier and the time of its processing. -/
structure Arrival (Body : Type) where
  request : WebhookRequest Body
  eventRowId : Uuid
  now : Timestamp

section

variable {Body : Type} (env : Env Body) (webhookSecret : String)

/-- What an authentic and well-formed request carries. -/
def WebhookRequest.delivery (request : WebhookRequest Body) : Option Delivery :=
  match authenticate env webhookSecret request with
  | .error _ => none
  | .ok providerEventId => (parseDelivery env providerEventId request.rawBody).toOption

/-- The payment event of a request whose event identifier fits its column. -/
def WebhookRequest.event (request : WebhookRequest Body) : Option PaymentEvent :=
  (request.delivery env webhookSecret).bind fun d =>
    if varchar 100 d.providerEventId then d.notice.map PaymentNotice.event else none

/-- The payment events of a list of arrivals, in order. -/
def paymentEvents (arrivals : List (Arrival Body)) : List PaymentEvent :=
  (arrivals.map Arrival.request).filterMap (WebhookRequest.event env webhookSecret)

/-- One request processed from its receipt to its transaction. -/
def Database.receive (db : Database) (a : Arrival Body) : Database :=
  (processRazorpayWebhook env webhookSecret a.request a.eventRowId a.now db).2

/-- The requests processed one after the other, with nothing in between. -/
abbrev Database.receiveAll (db : Database) (arrivals : List (Arrival Body)) : Database :=
  Transition.run (Database.receive env webhookSecret) db arrivals

/-- Authentic payment events about one order and one provider payment, with the amount and currency
of its payment and event identifiers of their own, all before the hold expires. -/
structure Arrivals (db : Database) (p : Payment) (paymentId : PyStr) (expiry : Timestamp)
    (arrivals : List (Arrival Body)) : Prop where
  notices : ∀ a ∈ arrivals, ∃ d ∈ a.request.delivery env webhookSecret, ∃ n ∈ d.notice,
    p.providerOrderId = some n.orderId ∧ n.paymentId = paymentId ∧ n.Matches p
  eventIds : (arrivals.map fun a => a.request.providerEventId).Nodup
  newEvents : ∀ a ∈ arrivals, ∀ e ∈ db.paymentWebhookEvents,
    a.request.providerEventId ≠ some e.providerEventId
  rowIds : (arrivals.map Arrival.eventRowId).Nodup
  newRows : ∀ a ∈ arrivals, ∀ e ∈ db.paymentWebhookEvents, a.eventRowId ≠ e.id
  live : ∀ a ∈ arrivals, a.now < expiry

instance (db : Database) (p : Payment) (paymentId : PyStr) (expiry : Timestamp)
    (arrivals : List (Arrival Body)) :
    Decidable (Arrivals env webhookSecret db p paymentId expiry arrivals) :=
  decidable_of_iff
    ((∀ a ∈ arrivals, ∃ d ∈ a.request.delivery env webhookSecret, ∃ n ∈ d.notice,
        p.providerOrderId = some n.orderId ∧ n.paymentId = paymentId ∧ n.Matches p) ∧
      (arrivals.map fun a => a.request.providerEventId).Nodup ∧
      (∀ a ∈ arrivals, ∀ e ∈ db.paymentWebhookEvents,
        a.request.providerEventId ≠ some e.providerEventId) ∧
      (arrivals.map Arrival.eventRowId).Nodup ∧
      (∀ a ∈ arrivals, ∀ e ∈ db.paymentWebhookEvents, a.eventRowId ≠ e.id) ∧
      ∀ a ∈ arrivals, a.now < expiry)
    ⟨fun ⟨hnotices, hids, hnew, hrows, hnewRows, hlive⟩ =>
      ⟨hnotices, hids, hnew, hrows, hnewRows, hlive⟩,
      fun h => ⟨h.notices, h.eventIds, h.newEvents, h.rowIds, h.newRows, h.live⟩⟩

variable {env webhookSecret}

theorem Arrivals.perm {db : Database} {p : Payment} {paymentId : PyStr} {expiry : Timestamp}
    {xs ys : List (Arrival Body)} (h : Arrivals env webhookSecret db p paymentId expiry xs)
    (hperm : xs.Perm ys) : Arrivals env webhookSecret db p paymentId expiry ys where
  notices a ha := h.notices a (hperm.mem_iff.mpr ha)
  eventIds := (hperm.map _).nodup_iff.mp h.eventIds
  newEvents a ha := h.newEvents a (hperm.mem_iff.mpr ha)
  rowIds := (hperm.map _).nodup_iff.mp h.rowIds
  newRows a ha := h.newRows a (hperm.mem_iff.mpr ha)
  live a ha := h.live a (hperm.mem_iff.mpr ha)

/-- The later requests are as new to the database as they were, once the first has been stored. -/
theorem Arrivals.tail {db db' : Database} {p : Payment} {paymentId : PyStr} {expiry : Timestamp}
    {a : Arrival Body} {xs : List (Arrival Body)}
    (h : Arrivals env webhookSecret db p paymentId expiry (a :: xs))
    (hevents : ∀ e ∈ db'.paymentWebhookEvents, e ∈ db.paymentWebhookEvents ∨
      (e.id = a.eventRowId ∧ a.request.providerEventId = some e.providerEventId)) :
    Arrivals env webhookSecret db' p paymentId expiry xs where
  notices b hb := h.notices b (List.mem_cons_of_mem a hb)
  eventIds := (List.nodup_cons.mp h.eventIds).2
  newEvents := by
    intro b hb e he hbe
    rcases hevents e he with hold | ⟨_, hae⟩
    · exact h.newEvents b (List.mem_cons_of_mem a hb) e hold hbe
    · exact (List.nodup_cons.mp h.eventIds).1
        (List.mem_map.mpr ⟨b, hb, hbe.trans hae.symm⟩)
  rowIds := (List.nodup_cons.mp h.rowIds).2
  newRows := by
    intro b hb e he hbe
    rcases hevents e he with hold | ⟨hae, _⟩
    · exact h.newRows b (List.mem_cons_of_mem a hb) e hold hbe
    · exact (List.nodup_cons.mp h.rowIds).1 (List.mem_map.mpr ⟨b, hb, hbe.trans hae⟩)
  live b hb := h.live b (List.mem_cons_of_mem a hb)

/-- The event identifier of a delivery is the one of its header. -/
theorem WebhookRequest.providerEventId_of_delivery {request : WebhookRequest Body} {d : Delivery}
    (h : request.delivery env webhookSecret = some d) :
    request.providerEventId = some d.providerEventId := by
  unfold WebhookRequest.delivery at h
  split at h
  · cases h
  next providerEventId hauth =>
  simp only [authenticate, bind_eq_ok, orRaise_eq_ok, ensure_eq_ok, pure_eq_ok, truthy,
    Option.filter_eq_some_iff] at hauth
  obtain ⟨_, _, id, ⟨hid, _⟩, _, _, rfl⟩ := hauth
  have hparse : parseDelivery env id request.rawBody = .ok d := by
    cases hp : parseDelivery env id request.rawBody with
    | error e => simp [hp, Except.toOption] at h
    | ok d' =>
        simp only [hp, Except.toOption, Option.some.injEq] at h
        rw [h]
  simp only [parseDelivery, bind_eq_ok, orRaise_eq_ok, pure_eq_ok] at hparse
  obtain ⟨_, _, _, _, _, _, rfl⟩ := hparse
  exact hid

/-- A request that is new to the database comes to its transaction. -/
theorem Database.receive_of_delivery {db : Database} {a : Arrival Body} {d : Delivery}
    (h : a.request.delivery env webhookSecret = some d)
    (hnew : ∀ e ∈ db.paymentWebhookEvents, e.providerEventId ≠ d.providerEventId) :
    db.receive env webhookSecret a = (storeDelivery d a.eventRowId a.now db).2 := by
  have hexisting : existingEvent d.providerEventId d.payloadHash db = .ok false := by
    have hnone : db.paymentWebhookEvents.scalar
        (fun e => e.providerEventId = d.providerEventId) = none := by
      refine Table.scalar_eq_none.mpr fun e he => ?_
      simpa using hnew e he
    simp only [existingEvent, hnone]
  unfold WebhookRequest.delivery at h
  split at h
  · cases h
  next providerEventId hauth =>
  cases hparse : parseDelivery env providerEventId a.request.rawBody with
  | error e => simp [hparse, Except.toOption] at h
  | ok d' =>
      simp only [hparse, Except.toOption, Option.some.injEq] at h
      subst h
      simp only [Database.receive, processRazorpayWebhook, receiveWebhook, hauth, hparse, hexisting,
        bind, Except.bind, pure, Except.pure]

/-! ### Runs of arrivals -/

/-- The payment and its booking are stored with given statuses, the hold has not expired, and the
provider payment is or may be pinned. -/
def Database.Tracks (db : Database) (p : Payment) (paymentId : String) (expiry : Timestamp)
    (s : PaymentStatus × BookingStatus) : Prop :=
  ∃ q b, db.payments.find p.id = some q ∧ q = { p with
      status := q.status
      providerPaymentId := q.providerPaymentId
      lastErrorCode := q.lastErrorCode } ∧
    (∀ pinned, q.providerPaymentId = some pinned → pinned = paymentId) ∧
    db.AcceptsPayment (q.pinned paymentId) ∧
    db.bookings.find p.bookingId = some b ∧ b.holdExpiresAt = some expiry ∧ (q.status, b.status) = s

/-- The statuses of a payment and of its booking. -/
def Database.statuses (db : Database) (p : Payment) : Option PaymentStatus × Option BookingStatus :=
  ((db.payments.find p.id).map Payment.status, (db.bookings.find p.bookingId).map Booking.status)

theorem Database.Tracks.statuses {db : Database} {p : Payment} {paymentId : String}
    {expiry : Timestamp} {s : PaymentStatus × BookingStatus} (h : db.Tracks p paymentId expiry s) :
    db.statuses p = (some s.1, some s.2) := by
  obtain ⟨q, b, hq, _, _, _, hb, _, rfl⟩ := h
  simp only [Database.statuses, hq, hb, Option.map_some]

/-- The payment under an order that passes the checks on it is the only one. -/
theorem PaymentNotice.subject_of_accepts {n : PaymentNotice} {q : Payment} {db : Database}
    (hq : db.payments.find q.id = some q) (horder : q.providerOrderId = some n.orderId)
    {paymentId : String} (haccepts : db.AcceptsPayment (q.pinned paymentId)) :
    n.subject db = some q := by
  refine Table.scalar_eq_some_of_unique (Table.mem_of_find hq) (by simpa using horder) ?_
  intro r hr hro
  have hkey : key r = key (q.pinned paymentId) :=
    uniqueColumn_eq_true.mp haccepts.order n.orderId horder r hr (by simpa using hro)
  exact Table.eq_of_key_eq hr (Table.mem_of_find hq) hkey

/-- A stored payment that has been checked may be written again. -/
theorem Database.AcceptsPayment.set {db db' : Database} {q old : Payment} (h : db.AcceptsPayment q)
    (hold : db.payments.find q.id = some old) (hdb : db'.payments = db.payments.set q) :
    db'.AcceptsPayment q where
  orderFits := h.orderFits
  paymentFits := h.paymentFits
  order := by
    rw [hdb]
    refine uniqueColumn_eq_true.mpr fun v hv s hs hsv => ?_
    rcases (Table.mem_set (r := q) hold).mp hs with rfl | ⟨hs, _⟩
    · rfl
    · exact uniqueColumn_eq_true.mp h.order v hv s hs hsv
  payment := by
    rw [hdb]
    refine uniqueColumn_eq_true.mpr fun v hv s hs hsv => ?_
    rcases (Table.mem_set (r := q) hold).mp hs with rfl | ⟨hs, _⟩
    · rfl
    · exact uniqueColumn_eq_true.mp h.payment v hv s hs hsv

/-- One arrival takes the statuses one step along the automaton, and adds one event row. -/
theorem Database.Tracks.receive {db : Database} {p : Payment} {paymentId : String}
    {expiry : Timestamp} {s : PaymentStatus × BookingStatus} (h : db.Tracks p paymentId expiry s)
    {a : Arrival Body} {xs : List (Arrival Body)}
    (harr : Arrivals env webhookSecret db p (.text paymentId) expiry (a :: xs)) {e : PaymentEvent}
    (hevent : a.request.event env webhookSecret = some e) :
    (db.receive env webhookSecret a).Tracks p paymentId expiry (PaymentEvent.next s e) ∧
      ∀ f ∈ (db.receive env webhookSecret a).paymentWebhookEvents, f ∈ db.paymentWebhookEvents ∨
        (f.id = a.eventRowId ∧ a.request.providerEventId = some f.providerEventId) := by
  have ha : a ∈ a :: xs := List.mem_cons_self
  obtain ⟨d, hd, n, hn, horder, htext, hmatch⟩ := harr.notices a ha
  rw [Option.mem_def] at hd hn
  have hid := WebhookRequest.providerEventId_of_delivery hd
  have hnew : ∀ f ∈ db.paymentWebhookEvents, f.providerEventId ≠ d.providerEventId := by
    intro f hf hfd
    exact harr.newEvents a ha f hf (by rw [hid, hfd])
  simp only [WebhookRequest.event, hd, Option.bind_some] at hevent
  split at hevent
  swap
  · cases hevent
  next hfits =>
  simp only [hn, Option.map_some, Option.some.injEq] at hevent
  subst hevent
  obtain ⟨q, b, hq, hsame, hagrees, haccepts, hb, ht, rfl⟩ := h
  have hqid : q.id = p.id := by rw [hsame]
  have hqb : q.bookingId = p.bookingId := by rw [hsame]
  have hqo : q.providerOrderId = some n.orderId := by rw [hsame]; exact horder
  have hqagrees : n.Agrees q := fun pinned hpinned => by rw [htext, hagrees pinned hpinned]
  have hqmatch : n.Matches q := by
    have hamount : q.amountSubunits = p.amountSubunits := by rw [hsame]
    have hcurrency : q.currency = p.currency := by rw [hsame]
    unfold PaymentNotice.Matches providerAmountMatches at hmatch ⊢
    rwa [hamount, hcurrency]
  -- the event row is new, and the handler finds the payment
  obtain ⟨eventType, htype, htypeFits⟩ := SupportedEvent.fits (Delivery.notice_eq_some.mp hn).1
  obtain ⟨t, hins, hinserted⟩ := Database.insertWebhookEvent_ok
    (e := d.eventRow a.eventRowId eventType) hfits htypeFits hnew
    (fun f hf hfa => harr.newRows a ha f hf hfa.symm)
  have hflush := Delivery.flush_eq_ok.mpr ⟨eventType, htype, rfl, hinserted⟩
  let stored : Database := { db with paymentWebhookEvents := t }
  have haccepts' : stored.AcceptsPayment (q.pinned paymentId) := haccepts.congr rfl rfl rfl rfl
  have hsubject : n.subject stored = some q :=
    PaymentNotice.subject_of_accepts (by rw [hqid]; exact hq) hqo haccepts'
  have hbooking : stored.bookings.find q.bookingId = some b := by
    rw [hqb]
    exact hb
  obtain ⟨db', r, c, happlied, hpayments, hr, hc, hct, hstatus, hevents⟩ :=
    PaymentNotice.applied_next hbooking ht (harr.live a ha) htext haccepts'
  rw [Database.receive_of_delivery hd hnew,
    storeDelivery_processed hflush hn hsubject hqmatch hqagrees happlied]
  have hrid : r.id = p.id := by rw [hr]; exact hqid
  have hold : db.payments.find r.id = some q := by rw [hrid]; exact hq
  constructor
  · refine ⟨r, c, ?_, ?_, ?_, ?_, ?_, hct, hstatus⟩
    · show db'.payments.find p.id = some r
      rw [hpayments, ← hrid]
      exact Table.find_set_self (r := r) hold
    · rw [hr, hsame]
      rfl
    · intro pinned hpinned
      rw [hr] at hpinned
      exact (Option.some.inj hpinned).symm
    · have hrx : r.pinned paymentId = r := by
        rw [hr]
        rfl
      rw [hrx]
      have hrefits : db.AcceptsPayment r := by
        refine haccepts.congr rfl ?_ ?_ ?_ <;> rw [hr]
      exact hrefits.set hold hpayments
    · show db'.bookings.find p.bookingId = some c
      rw [← hqb]
      exact hc
  · intro f hf
    rcases Database.mem_updateWebhookEvent hins hevents (by rfl) hf with hf | rfl
    · exact Or.inl hf
    · exact Or.inr ⟨rfl, hid⟩

/-- A request whose event identifier does not fit changes nothing. -/
theorem Database.receive_of_no_event {db : Database} {p : Payment} {paymentId : PyStr}
    {expiry : Timestamp} {a : Arrival Body} {xs : List (Arrival Body)}
    (harr : Arrivals env webhookSecret db p paymentId expiry (a :: xs))
    (hevent : a.request.event env webhookSecret = none) : db.receive env webhookSecret a = db := by
  have ha : a ∈ a :: xs := List.mem_cons_self
  obtain ⟨d, hd, n, hn, _⟩ := harr.notices a ha
  rw [Option.mem_def] at hd hn
  have hid := WebhookRequest.providerEventId_of_delivery hd
  rw [Database.receive_of_delivery hd fun f hf hfd => harr.newEvents a ha f hf (by rw [hid, hfd])]
  refine storeDelivery_unfit fun hfits => ?_
  simp [WebhookRequest.event, hd, hn, hfits] at hevent

theorem paymentEvents_cons {a : Arrival Body} {e : PaymentEvent}
    (h : a.request.event env webhookSecret = some e) (arrivals : List (Arrival Body)) :
    paymentEvents env webhookSecret (a :: arrivals) =
      e :: paymentEvents env webhookSecret arrivals := by
  rw [paymentEvents, List.map_cons, List.filterMap_cons_some h, paymentEvents]

theorem mem_paymentEvents {arrivals : List (Arrival Body)} {e : PaymentEvent} :
    e ∈ paymentEvents env webhookSecret arrivals ↔
      ∃ a ∈ arrivals, a.request.event env webhookSecret = some e := by
  simp [paymentEvents]

/-- The events depend on nothing but the requests. -/
theorem paymentEvents_perm {xs ys : List (Arrival Body)}
    (h : (xs.map Arrival.request).Perm (ys.map Arrival.request)) :
    (paymentEvents env webhookSecret xs).Perm (paymentEvents env webhookSecret ys) :=
  h.filterMap _

/-- A run of arrivals takes the statuses along the automaton. -/
theorem Database.Tracks.receiveAll {p : Payment} {paymentId : String} {expiry : Timestamp}
    (arrivals : List (Arrival Body)) : ∀ {db : Database} {s : PaymentStatus × BookingStatus},
      db.Tracks p paymentId expiry s →
      Arrivals env webhookSecret db p (.text paymentId) expiry arrivals →
      (db.receiveAll env webhookSecret arrivals).Tracks p paymentId expiry
        ((paymentEvents env webhookSecret arrivals).foldl PaymentEvent.next s) := by
  induction arrivals with
  | nil => exact fun h _ => h
  | cons a arrivals ih =>
      intro db s h harr
      rw [Database.receiveAll, Transition.run_cons]
      cases hevent : a.request.event env webhookSecret with
      | none =>
          rw [Database.receive_of_no_event harr hevent, paymentEvents, List.map_cons,
            List.filterMap_cons_none hevent]
          exact ih h (harr.tail fun e he => Or.inl he)
      | some e =>
          obtain ⟨hnext, hevents⟩ := h.receive harr hevent
          rw [paymentEvents_cons hevent, List.foldl_cons]
          exact ih hnext (harr.tail hevents)

/-- A provider payment that cannot be pinned is refused every time. -/
theorem Database.receiveAll_refused {db : Database} {p : Payment} {paymentId : PyStr}
    {expiry : Timestamp} (hL : db.ledger.PaymentsSound) (hp : db.payments.find p.id = some p)
    (hnone : p.providerPaymentId = none)
    (hrefused : ¬db.CanPin p paymentId)
    (arrivals : List (Arrival Body))
    (harr : Arrivals env webhookSecret db p paymentId expiry arrivals) :
    db.receiveAll env webhookSecret arrivals = db := by
  induction arrivals with
  | nil => rfl
  | cons a arrivals ih =>
      have ha : a ∈ a :: arrivals := List.mem_cons_self
      obtain ⟨d, hd, n, hn, horder, rfl, hmatch⟩ := harr.notices a ha
      rw [Option.mem_def] at hd hn
      have hid := WebhookRequest.providerEventId_of_delivery hd
      have hsubject : n.subject db = some p := by
        refine Table.scalar_eq_some_of_unique (Table.mem_of_find hp) (by simpa using horder) ?_
        intro r hr hro
        exact Table.eq_of_key_eq hr (Table.mem_of_find hp) (hL.orders r.id p.id r p n.orderId
          (Table.find_key hr) hp (by simpa using hro) horder)
      have hagrees : n.Agrees p := by
        intro pinned hpinned
        rw [hnone] at hpinned
        cases hpinned
      have hsame : db.receive env webhookSecret a = db := by
        rw [Database.receive_of_delivery hd fun f hf hfd =>
          harr.newEvents a ha f hf (by rw [hid, hfd])]
        exact storeDelivery_refused hn hsubject hmatch hagrees hrefused
      rw [Database.receiveAll, Transition.run_cons, hsame]
      exact ih (harr.tail fun e he => Or.inl he)

/-- A list of arrivals with a given event can be delivered with this event first. -/
theorem exists_event_first {arrivals : List (Arrival Body)} {e : PaymentEvent}
    (he : ∃ a ∈ arrivals, a.request.event env webhookSecret = some e) :
    ∃ a xs, arrivals.Perm (a :: xs) ∧ a.request.event env webhookSecret = some e := by
  obtain ⟨a, ha, hae⟩ := he
  obtain ⟨before, after, rfl⟩ := List.append_of_mem ha
  exact ⟨a, before ++ after, List.perm_middle, hae⟩

end

/-- The outcome of a set of payment events does not depend on their order exactly when the set does
not hold both a capture and a failure, or the provider payment cannot be pinned at all. -/
theorem webhook_order_irrelevant_iff {Body : Type} (env : Env Body) (webhookSecret : String)
    {w : World} (h : w.Reachable env) {p : Payment} {b : Booking} {paymentId : PyStr}
    {expiry : Timestamp} {arrivals : List (Arrival Body)}
    (hp : w.db.payments.find p.id = some p) (hcreated : p.status = .orderCreated)
    (hb : w.db.bookings.find p.bookingId = some b) (hpending : b.status = .paymentPending)
    (hexpiry : b.holdExpiresAt = some expiry)
    (harr : Arrivals env webhookSecret w.db p paymentId expiry arrivals) :
    (∀ xs ys : List (Arrival Body), Arrivals env webhookSecret w.db p paymentId expiry xs →
      Arrivals env webhookSecret w.db p paymentId expiry ys →
      (xs.map Arrival.request).Perm (arrivals.map Arrival.request) →
      (ys.map Arrival.request).Perm (arrivals.map Arrival.request) →
      (w.db.receiveAll env webhookSecret xs).statuses p =
        (w.db.receiveAll env webhookSecret ys).statuses p) ↔
    ¬((∃ a ∈ arrivals, a.request.event env webhookSecret = some .captured) ∧
      (∃ a ∈ arrivals, a.request.event env webhookSecret = some .failed) ∧
      w.db.CanPin p paymentId) := by
  have hL := h.sound.ledger.payments
  have hnone : p.providerPaymentId = none := hL.created p.id p hp hcreated
  by_cases hpins : w.db.CanPin p paymentId
  swap
  · refine ⟨fun _ hall => hpins hall.2.2, fun _ xs ys hxs hys _ _ => ?_⟩
    rw [Database.receiveAll_refused hL hp hnone hpins xs hxs,
      Database.receiveAll_refused hL hp hnone hpins ys hys]
  obtain ⟨id, rfl, haccepts⟩ := hpins
  have htracks : w.db.Tracks p id expiry (.orderCreated, .paymentPending) := by
    refine ⟨p, b, hp, rfl, ?_, haccepts, hb, hexpiry, by rw [hcreated, hpending]⟩
    simp [hnone]
  constructor
  · rintro hall ⟨hcap, hfail, _⟩
    obtain ⟨a, xs, hxs, hae⟩ := exists_event_first hcap
    obtain ⟨c, ys, hys, hce⟩ := exists_event_first hfail
    have hsame := hall (a :: xs) (c :: ys) (harr.perm hxs) (harr.perm hys) (hxs.symm.map _)
      (hys.symm.map _)
    rw [(htracks.receiveAll _ (harr.perm hxs)).statuses,
      (htracks.receiveAll _ (harr.perm hys)).statuses, Prod.mk.injEq, Option.some.injEq,
      Option.some.injEq] at hsame
    -- what comes first settles the booking
    have hbooking := hsame.2
    rw [paymentEvents_cons hae, paymentEvents_cons hce, List.foldl_cons, List.foldl_cons,
      PaymentEvent.foldl_next_booking (by decide),
      PaymentEvent.foldl_next_booking (by decide)] at hbooking
    exact absurd hbooking (by decide)
  · intro hnot xs ys hxs hys hxp hyp
    rw [(htracks.receiveAll xs hxs).statuses, (htracks.receiveAll ys hys).statuses,
      PaymentEvent.foldl_next_perm (paymentEvents_perm (hxp.trans hyp.symm))]
    rintro ⟨hcap, hfail⟩
    have hevents : (paymentEvents env webhookSecret xs).Perm
        (paymentEvents env webhookSecret arrivals) := paymentEvents_perm hxp
    exact hnot ⟨mem_paymentEvents.mp (hevents.mem_iff.mp hcap),
      mem_paymentEvents.mp (hevents.mem_iff.mp hfail), id, rfl, haccepts⟩

/-- The booking of the sample awaits its payment. -/
def sampleOrdered : World :=
  sampleWorld.run sampleEnv (sampleHold 20 1 :: sampleOrder 30 1 "order_A")

def sampleArrival (id : Uuid) (eventId event : String) : Arrival Json :=
  ⟨sampleRequest eventId event "order_A" "pay_1", id, 0⟩

theorem webhook_order_irrelevant_iff_counterexample :
    sampleOrdered.Reachable sampleEnv ∧
      ∃ p ∈ sampleOrdered.db.payments.find 30, ∃ b ∈ sampleOrdered.db.bookings.find p.bookingId,
        p.status = .orderCreated ∧ b.status = .paymentPending ∧
        ∃ expiry ∈ b.holdExpiresAt,
        Arrivals sampleEnv "webhook_secret" sampleOrdered.db p "pay_1" expiry
          [sampleArrival 40 "evt_1" "payment.captured",
            sampleArrival 41 "evt_2" "payment.failed"] ∧
        (sampleOrdered.db.receiveAll sampleEnv "webhook_secret"
          [sampleArrival 40 "evt_1" "payment.captured",
            sampleArrival 41 "evt_2" "payment.failed"]).statuses p =
          (some .captured, some .confirmed) ∧
        (sampleOrdered.db.receiveAll sampleEnv "webhook_secret"
          [sampleArrival 41 "evt_2" "payment.failed",
            sampleArrival 40 "evt_1" "payment.captured"]).statuses p =
          (some .captured, some .held) :=
  ⟨sampleWorld_reachable _, by decide +kernel⟩

/-- An authorization and a capture in both orders. -/
theorem webhook_order_irrelevant_iff_sample :
    ∃ p, sampleOrdered.db.payments.find 30 = some p ∧
      (sampleOrdered.db.receiveAll sampleEnv "webhook_secret"
        [sampleArrival 40 "evt_1" "payment.authorized",
          sampleArrival 41 "evt_2" "payment.captured"]).statuses p =
      (sampleOrdered.db.receiveAll sampleEnv "webhook_secret"
        [sampleArrival 41 "evt_2" "payment.captured",
          sampleArrival 40 "evt_1" "payment.authorized"]).statuses p := by
  have hsample : ∃ p ∈ sampleOrdered.db.payments.find 30,
      ∃ b ∈ sampleOrdered.db.bookings.find p.bookingId, ∃ expiry ∈ b.holdExpiresAt,
      p.id = 30 ∧ p.status = .orderCreated ∧ b.status = .paymentPending ∧
      Arrivals sampleEnv "webhook_secret" sampleOrdered.db p "pay_1" expiry
        [sampleArrival 40 "evt_1" "payment.authorized",
          sampleArrival 41 "evt_2" "payment.captured"] := by decide +kernel
  obtain ⟨p, hp, b, hb, expiry, hexpiry, hid, hcreated, hpending, harr⟩ := hsample
  have hfailed : ¬∃ a ∈ [sampleArrival 40 "evt_1" "payment.authorized",
      sampleArrival 41 "evt_2" "payment.captured"],
      a.request.event sampleEnv "webhook_secret" = some .failed := by decide +kernel
  exact ⟨p, hp, (webhook_order_irrelevant_iff sampleEnv "webhook_secret" (sampleWorld_reachable _)
    (by rw [hid]; exact hp) hcreated hb hpending hexpiry harr).mpr
    (fun hall => hfailed hall.2.1) _ _ harr (harr.perm (List.Perm.swap _ _ _))
    (List.Perm.refl _) ((List.Perm.swap _ _ _).map _)⟩

end ChargeMate
