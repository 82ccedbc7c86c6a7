import ChargeMate.FoundationTickets
import ChargeMate.RefinePayments

/-! Payment orders in flight. A begun attempt is a ticket for one provider call, held by one
request; until that request closes it, its payment stays `INITIATED`. -/

namespace ChargeMate

open Relational

/-- The request has begun an attempt and has not closed it. -/
def OrderRequest.InFlight (r : OrderRequest) (attempt : PaymentAttemptSnapshot) : Prop :=
  r.phase = .begun attempt ∨ r.phase = .called attempt

/-- The attempt of a request as a ticket for the provider call. -/
def OrderRequest.ticket (r : OrderRequest) : Option (Uuid × Bool) :=
  match r.phase with
  | .begun attempt => some (attempt.paymentId, false)
  | .called attempt => some (attempt.paymentId, true)
  | _ => none

def orderHolder (requests : Table OrderRequest) (id : Uuid) : Option (Uuid × Bool) :=
  (requests.find id).bind OrderRequest.ticket

/-- The payment is the one that the request asked for. -/
structure OrderRequest.Asks (r : OrderRequest) (p : Payment) : Prop where
  idempotencyKey : p.idempotencyKey = r.payload.idempotencyKey
  userId : p.userId = r.user.id
  bookingId : p.bookingId = r.payload.bookingId

structure PaymentAttemptSnapshot.Describes (attempt : PaymentAttemptSnapshot) (p : Payment) :
    Prop where
  paymentId : p.id = attempt.paymentId
  bookingId : p.bookingId = attempt.bookingId
  amountSubunits : p.amountSubunits = attempt.amountSubunits
  currency : p.currency = attempt.currency

/-- What the ledger holds for a request in flight. -/
def OrderRequest.AttemptHolds (r : OrderRequest) (L : Ledger) : Prop :=
  ∀ attempt, r.InFlight attempt → ∃ p, L.payments attempt.paymentId = some p ∧
    p.status = .initiated ∧ attempt.Describes p ∧ r.Asks p

/-- What the ledger holds for a request that has succeeded: the returned payment, or a later
version of it. -/
def OrderRequest.AnswerHolds (r : OrderRequest) (L : Ledger) : Prop :=
  ∀ checkout, r.phase = .answered (.ok checkout) → r.Asks checkout.payment ∧
    checkout.payment.providerOrderId ≠ none ∧
    ∃ p, L.payments checkout.payment.id = some p ∧ checkout.payment.Continues p

structure OrdersSound (L : Ledger) (requests : Table OrderRequest) (calls : List OrderCall) :
    Prop where
  tickets : Ticket.Sound (fun x => L.payments x ≠ none) (orderHolder requests)
    (calls.map fun call => call.attempt.paymentId)
  requests : ∀ id r, requests.find id = some r → r.AttemptHolds L ∧ r.AnswerHolds L
  calls : ∀ call ∈ calls, ∃ p, L.payments call.attempt.paymentId = some p ∧
    p.idempotencyKey = call.idempotencyKey

theorem OrderRequest.InFlight.ticket {r : OrderRequest} {attempt : PaymentAttemptSnapshot}
    (h : r.InFlight attempt) : ∃ u, r.ticket = some (attempt.paymentId, u) := by
  unfold OrderRequest.ticket
  rcases h with h | h
  · exact ⟨false, by rw [h]⟩
  · exact ⟨true, by rw [h]⟩

theorem OrderRequest.AttemptHolds.move {r : OrderRequest} {c : Cause} {L L' : Ledger}
    (h : r.AttemptHolds L) (hL : L.Sound) (hmove : Move L c L')
    (hother : ∀ x u, c = .answer x → r.ticket ≠ some (x, u)) : r.AttemptHolds L' := by
  intro attempt hflight
  obtain ⟨p, hp, hinitiated, hdesc, hasks⟩ := h attempt hflight
  refine ⟨p, hmove.initiated_kept hL hp hinitiated ?_, hinitiated, hdesc, hasks⟩
  intro hc
  obtain ⟨u, hu⟩ := hflight.ticket
  exact hother _ u hc hu

theorem OrderRequest.AnswerHolds.move {r : OrderRequest} {c : Cause} {L L' : Ledger}
    (h : r.AnswerHolds L) (hL : L.Sound) (hmove : Move L c L') : r.AnswerHolds L' := by
  intro checkout hphase
  obtain ⟨hasks, horder, p, hp, hcont⟩ := h checkout hphase
  obtain ⟨p', hp', hcont'⟩ := hmove.payment_next hL.payments hL.refunds hp
  exact ⟨hasks, horder, p', hp', hcont.trans hcont'⟩

theorem Move.payment_known {c : Cause} {L L' : Ledger} (h : Move L c L') (hL : L.Sound)
    (x : Uuid) (hx : L.payments x ≠ none) : L'.payments x ≠ none := by
  obtain ⟨p, hp⟩ := Option.ne_none_iff_exists'.mp hx
  obtain ⟨p', hp', _⟩ := h.payment_next hL.payments hL.refunds hp
  simp [hp']

/-- A step of the system keeps the orders sound if it keeps the tickets, and gives what is due to
the requests and calls that are new. -/
theorem OrdersSound.next {c : Cause} {L L' : Ledger} {requests requests' : Table OrderRequest}
    {calls calls' : List OrderCall} (h : OrdersSound L requests calls) (hL : L.Sound)
    (hmove : Move L c L')
    (htickets : Ticket.Sound (fun x => L'.payments x ≠ none) (orderHolder requests')
      (calls'.map fun call => call.attempt.paymentId))
    (hrequests : ∀ k r, requests'.find k = some r → (r.AttemptHolds L' ∧ r.AnswerHolds L') ∨
      (requests.find k = some r ∧ ∀ x u, c = .answer x → r.ticket ≠ some (x, u)))
    (hcalls : ∀ call ∈ calls', call ∈ calls ∨ ∃ p, L'.payments call.attempt.paymentId = some p ∧
      p.idempotencyKey = call.idempotencyKey) : OrdersSound L' requests' calls' where
  tickets := htickets
  requests := by
    intro k r hr
    rcases hrequests k r hr with hnew | ⟨hold, hother⟩
    · exact hnew
    · obtain ⟨hattempt, hanswer⟩ := h.requests k r hold
      exact ⟨hattempt.move hL hmove hother, hanswer.move hL hmove⟩
  calls := by
    intro call hcall
    rcases hcalls call hcall with hold | hnew
    · obtain ⟨p, hp, hkey⟩ := h.calls call hold
      obtain ⟨p', hp', hcont⟩ := hmove.payment_next hL.payments hL.refunds hp
      exact ⟨p', hp', hcont.idempotencyKey.trans hkey⟩
    · exact hnew

/-- A move that closes no attempt leaves the orders as they are. -/
theorem OrdersSound.move {c : Cause} {L L' : Ledger} {requests : Table OrderRequest}
    {calls : List OrderCall} (h : OrdersSound L requests calls) (hL : L.Sound)
    (hmove : Move L c L') (hc : ∀ id, c ≠ .answer id) : OrdersSound L' requests calls := by
  refine h.next hL hmove (h.tickets.drop (hmove.payment_known hL) fun _ _ ht => ht) ?_ ?_
  · intro k r hr
    exact Or.inr ⟨hr, fun x _ hx => absurd hx (hc x)⟩
  · intro call hcall
    exact Or.inl hcall

/-- The holders after a request has been written. -/
theorem orderHolder_set {requests : Table OrderRequest} {r old : OrderRequest}
    (hold : requests.find r.id = some old) (k : Uuid) :
    orderHolder (requests.set r) k = if k = r.id then r.ticket else orderHolder requests k := by
  unfold orderHolder
  rw [Table.find_set (r := r) hold]
  simp only [OrderRequest.key_eq, eq_comm (a := r.id)]
  split <;> rfl

theorem OrderRequest.attemptHolds_of_ticket {r : OrderRequest} {L : Ledger} (h : r.ticket = none) :
    r.AttemptHolds L := by
  intro attempt hflight
  obtain ⟨u, hu⟩ := hflight.ticket
  rw [h] at hu
  cases hu

/-- A request that is received holds no ticket. -/
theorem OrdersSound.insert {L : Ledger} {requests requests' : Table OrderRequest}
    {calls : List OrderCall} {r : OrderRequest} (h : OrdersSound L requests calls) (hL : L.Sound)
    (hins : requests.insert r = some requests') (hticket : r.ticket = none)
    (hanswer : r.AnswerHolds L) : OrdersSound L requests' calls := by
  have hfind := Table.find_insert hins
  refine h.next hL Move.stay (h.tickets.drop (fun _ hx => hx) fun k t ht => ?_) ?_ fun call hcall =>
    Or.inl hcall
  · rw [orderHolder, hfind] at ht
    split at ht
    · simp [hticket] at ht
    · exact ht
  · intro k r' hr'
    rw [hfind] at hr'
    split at hr'
    · cases hr'
      exact Or.inl ⟨OrderRequest.attemptHolds_of_ticket hticket, hanswer⟩
    · exact Or.inr ⟨hr', by simp⟩

/-- A request that is answered gives its ticket back, and only it may have closed its attempt. -/
theorem OrdersSound.answer {c : Cause} {L L' : Ledger} {requests : Table OrderRequest}
    {calls : List OrderCall} {r old : OrderRequest} (h : OrdersSound L requests calls)
    (hL : L.Sound) (hmove : Move L c L') (hold : requests.find r.id = some old)
    (hc : ∀ x, c = .answer x → ∃ u, old.ticket = some (x, u)) (hticket : r.ticket = none)
    (hanswer : r.AnswerHolds L') : OrdersSound L' (requests.set r) calls := by
  refine h.next hL hmove (h.tickets.drop (hmove.payment_known hL) fun k t ht => ?_) ?_
    fun call hcall => Or.inl hcall
  · rw [orderHolder_set hold, hticket] at ht
    split at ht
    · cases ht
    · exact ht
  · intro k r' hr'
    rcases Table.find_set_cases hr' hold with ⟨_, rfl⟩ | ⟨hk, hr'⟩
    · exact Or.inl ⟨OrderRequest.attemptHolds_of_ticket hticket, hanswer⟩
    · refine Or.inr ⟨hr', fun x u hx hu => hk ?_⟩
      obtain ⟨v, hv⟩ := hc x hx
      exact h.tickets.distinct r.id k x v u (by rw [orderHolder, hold]; exact hv)
        (by rw [orderHolder, hr']; exact hu)

section

variable {Body : Type} (env : Env Body)

/-! ### The four actions of a request -/

/-- The lookup changes nothing, and answers a used key with the payment under it. -/
theorem lookUpOrder_answer {user : User} {payload : CreatePaymentOrderRequest} {db : Database}
    {checkout : CheckoutOrder} (h : lookUpOrder env user payload db = some (.ok checkout)) :
    db.payments.find checkout.payment.id = some checkout.payment ∧
      checkout.payment.idempotencyKey = payload.idempotencyKey ∧
      checkout.payment.userId = user.id ∧ checkout.payment.bookingId = payload.bookingId ∧
      checkout.payment.status = .orderCreated ∧
      checkout.booking = db.bookings.find payload.bookingId := by
  unfold lookUpOrder at h
  split at h
  · cases h
  split at h
  · next existing hexisting =>
    simp only [Option.some.injEq, existingCheckout, bind_eq_ok, ensure_eq_ok, pure_eq_ok] at h
    obtain ⟨_, ⟨huser, hbooking, hcreated⟩, rfl⟩ := h
    have hkey : existing.idempotencyKey = payload.idempotencyKey := by
      simpa using Table.prop_of_scalar hexisting
    exact ⟨Table.find_key (Table.mem_of_scalar hexisting), hkey, huser, hbooking, hcreated, rfl⟩
  · cases h

theorem World.requestOrder_sound {w : World} (hL : w.db.ledger.Sound)
    (h : OrdersSound w.db.ledger w.orderRequests w.orderCalls) (requestId : Uuid) (user : User)
    (payload : CreatePaymentOrderRequest) :
    OrdersSound (w.requestOrder env requestId user payload).db.ledger
      (w.requestOrder env requestId user payload).orderRequests
      (w.requestOrder env requestId user payload).orderCalls := by
  unfold World.requestOrder
  simp only
  split
  · exact h
  next requests hins =>
  cases hlook : lookUpOrder env user payload w.db with
  | none =>
      rw [hlook] at hins
      refine h.insert hL hins rfl ?_
      intro checkout hphase
      cases hphase
  | some result =>
      rw [hlook] at hins
      refine h.insert hL hins rfl ?_
      intro checkout hphase
      cases hphase
      obtain ⟨hp, hkey, huser, hbooking, hcreated, _⟩ := lookUpOrder_answer env hlook
      refine ⟨⟨hkey, huser, hbooking⟩, ?_, checkout.payment, hp, Payment.Continues.refl _⟩
      intro hnone
      rcases hL.payments.ordered _ _ hp hnone with hs | hs <;> simp [hcreated] at hs

omit env in
theorem World.beginOrder_sound {w : World} (hL : w.db.ledger.Sound)
    (h : OrdersSound w.db.ledger w.orderRequests w.orderCalls) (requestId paymentId : Uuid)
    (now : Timestamp) :
    OrdersSound (w.beginOrder requestId paymentId now).db.ledger
      (w.beginOrder requestId paymentId now).orderRequests
      (w.beginOrder requestId paymentId now).orderCalls := by
  unfold World.beginOrder
  split
  · next id user payload hr =>
    have hid : id = requestId := Table.key_of_find hr
    subst hid
    have hmove := beginPaymentAttempt_move user payload paymentId now w.db
    rcases beginPaymentAttempt_cases user payload paymentId now w.db with
      ⟨e, hb⟩ | ⟨b, p, db', hfind, huser, _, _, hopens, hpid, hkey, hins, hb⟩
    · rw [hb] at hmove ⊢
      refine h.answer hL hmove hr (by simp) rfl ?_
      intro checkout hphase
      cases hphase
    · obtain ⟨hnew, _, hledger⟩ := Database.ledger_insertPayment hins
      rw [hb] at hmove ⊢
      have hp : db'.ledger.payments p.id = some p := by rw [hledger]; simp
      have hknown : db'.ledger.payments p.id ≠ none := hp ▸ Option.some_ne_none p
      simp only at hmove ⊢
      refine h.next hL hmove ?_ ?_ fun call hcall => Or.inl hcall
      · exact h.tickets.issue (k := id) (x := p.id) (not_not.mpr hnew) hknown
          (hmove.payment_known hL) fun l => orderHolder_set hr l
      · intro k r' hr'
        rcases Table.find_set_cases hr' hr with ⟨_, rfl⟩ | ⟨_, hr'⟩
        · refine Or.inl ⟨?_, fun checkout hphase => by cases hphase⟩
          rintro attempt (hphase | hphase)
          · cases hphase
            have hbid : b.id = payload.bookingId := Table.key_of_find hfind
            exact ⟨p, hp, hopens.status, ⟨rfl, hopens.bookingId, rfl, rfl⟩,
              ⟨hkey, hopens.userId.trans huser, hopens.bookingId.trans hbid⟩⟩
          · cases hphase
        · exact Or.inr ⟨hr', by simp⟩
  · exact h

omit env in
theorem World.callOrder_sound {w : World} (hL : w.db.ledger.Sound)
    (h : OrdersSound w.db.ledger w.orderRequests w.orderCalls) (requestId : Uuid) :
    OrdersSound (w.callOrder requestId).db.ledger (w.callOrder requestId).orderRequests
      (w.callOrder requestId).orderCalls := by
  unfold World.callOrder
  split
  · next id user payload attempt hr =>
    have hid : id = requestId := Table.key_of_find hr
    subst hid
    obtain ⟨p, hp, hinitiated, hdesc, hasks⟩ := (h.requests id _ hr).1 attempt (Or.inl rfl)
    refine h.next hL Move.stay ?_ ?_ ?_
    · rw [List.map_append]
      refine h.tickets.use (k := id) (x := attempt.paymentId) ?_ fun l => orderHolder_set hr l
      rw [orderHolder, hr]
      rfl
    · intro k r' hr'
      rcases Table.find_set_cases hr' hr with ⟨_, rfl⟩ | ⟨_, hr'⟩
      · refine Or.inl ⟨?_, fun checkout hphase => by cases hphase⟩
        rintro attempt' (hphase | hphase)
        · cases hphase
        · cases hphase
          exact ⟨p, hp, hinitiated, hdesc,
            ⟨hasks.idempotencyKey, hasks.userId, hasks.bookingId⟩⟩
      · exact Or.inr ⟨hr', by simp⟩
    · intro call hcall
      rcases List.mem_append.mp hcall with hold | hnew
      · exact Or.inl hold
      · rw [List.mem_singleton] at hnew
        subst hnew
        exact Or.inr ⟨p, hp, hasks.idempotencyKey⟩
  · exact h

/-- The checkout that a closed attempt returns is the payment as it is stored, with its booking. -/
theorem closeAttempt_answer {attempt : PaymentAttemptSnapshot} {answer : ProviderAnswer}
    {now : Timestamp} {db : Database} {p : Payment} {b : Booking} {checkout : CheckoutOrder}
    (hp : db.payments.find attempt.paymentId = some p)
    (hb : db.bookings.find p.bookingId = some b) (hinitiated : p.status = .initiated)
    (hbooking : attempt.bookingId = p.bookingId)
    (h : (closeAttempt env attempt answer now db).1 = .ok checkout) :
    (∃ o, checkout.payment = { p with providerOrderId := some o, status := .orderCreated }) ∧
      (closeAttempt env attempt answer now db).2.payments.find checkout.payment.id =
        some checkout.payment ∧ checkout.booking = some b := by
  have hid : p.id = attempt.paymentId := Table.key_of_find hp
  rw [← hid] at hp
  unfold closeAttempt at h ⊢
  rw [← hid, hbooking] at h ⊢
  split at h
  · cases hc : (compensateProviderFailure p.id p.bookingId now db).1 <;>
      simp [hc, Except.bind] at h
  · cases h
  · next providerOrder hanswer =>
    rcases finalizeProviderOrder_cases providerOrder hp hb hinitiated with
      ⟨e, hf⟩ | ⟨o, _, ⟨_, db', hupd, hf⟩ | ⟨_, db', hupd, hf⟩⟩
    · simp [hf, Except.map] at h
    · simp [hf, Except.map] at h
    · simp only [hf, Except.map, Except.ok.injEq] at h ⊢
      subst h
      obtain ⟨_, hledger⟩ := Database.ledger_updatePayment hupd hp
      refine ⟨⟨o, rfl⟩, ?_, rfl⟩
      rw [← Database.payments_ledger, hledger]
      simp

theorem World.closeOrder_cases {w : World} (hL : w.db.ledger.Sound)
    (h : OrdersSound w.db.ledger w.orderRequests w.orderCalls) (requestId : Uuid)
    (answer : ProviderAnswer) (now : Timestamp) :
    w.closeOrder env requestId answer now = w ∨
    ∃ r attempt p b, w.orderRequests.find requestId = some r ∧ r.phase = .called attempt ∧
      w.db.payments.find attempt.paymentId = some p ∧ p.status = .initiated ∧
      attempt.Describes p ∧ r.Asks p ∧ w.db.bookings.find p.bookingId = some b ∧
      w.closeOrder env requestId answer now = { w with
        db := (closeAttempt env attempt answer now w.db).2
        orderRequests := w.orderRequests.set { r with
          phase := .answered (closeAttempt env attempt answer now w.db).1 } } := by
  unfold World.closeOrder
  split
  · next id user payload attempt hr =>
    obtain ⟨p, hp, hinitiated, hdesc, hasks⟩ := (h.requests requestId _ hr).1 attempt (Or.inr rfl)
    obtain ⟨b, hb, _⟩ := hL.payments.charges _ p hp
    exact Or.inr ⟨_, attempt, p, b, hr, rfl, hp, hinitiated, hdesc, hasks, hb, rfl⟩
  · exact Or.inl rfl

/-- Closing an attempt is a move of its payment, or leaves the database alone. -/
theorem World.closeOrder_move {w : World} (hL : w.db.ledger.Sound)
    (h : OrdersSound w.db.ledger w.orderRequests w.orderCalls) (requestId : Uuid)
    (answer : ProviderAnswer) (now : Timestamp) :
    ∃ c : Cause, (c = .other ∨ ∃ id, c = .answer id) ∧
      Move w.db.ledger c (w.closeOrder env requestId answer now).db.ledger := by
  rcases w.closeOrder_cases env hL h requestId answer now with
    heq | ⟨r, attempt, p, b, _, _, hp, hinitiated, hdesc, _, hb, heq⟩
  · rw [heq]
    exact ⟨.other, Or.inl rfl, Move.stay⟩
  · obtain ⟨c, hc, hmove⟩ :=
      (closeAttempt_closes env answer now hp hb hinitiated hdesc.bookingId.symm).move
    rw [heq]
    exact ⟨c, hc.imp id fun hid => ⟨_, hid⟩, hmove⟩

theorem World.closeOrder_sound {w : World} (hL : w.db.ledger.Sound)
    (h : OrdersSound w.db.ledger w.orderRequests w.orderCalls) (requestId : Uuid)
    (answer : ProviderAnswer) (now : Timestamp) :
    OrdersSound (w.closeOrder env requestId answer now).db.ledger
      (w.closeOrder env requestId answer now).orderRequests
      (w.closeOrder env requestId answer now).orderCalls := by
  rcases w.closeOrder_cases env hL h requestId answer now with
    heq | ⟨r, attempt, p, b, hr, hphase, hp, hinitiated, hdesc, hasks, hb, heq⟩
  · rw [heq]
    exact h
  · rw [heq]
    have hid : r.id = requestId := Table.key_of_find hr
    subst hid
    obtain ⟨c, hc, hmove⟩ :=
      (closeAttempt_closes env answer now hp hb hinitiated hdesc.bookingId.symm).move
    refine h.answer hL hmove hr ?_ rfl ?_
    · intro x hx
      rcases hc with hc | hc <;> rw [hc] at hx <;> cases hx
      exact ⟨true, by rw [OrderRequest.ticket, hphase]⟩
    · intro checkout hanswer
      simp only [OrderPhase.answered.injEq] at hanswer
      obtain ⟨⟨o, ho⟩, hfind, _⟩ :=
        closeAttempt_answer env hp hb hinitiated hdesc.bookingId.symm hanswer
      refine ⟨⟨?_, ?_, ?_⟩, ?_, _, hfind, Payment.Continues.refl _⟩
      · rw [ho]
        exact hasks.idempotencyKey
      · rw [ho]
        exact hasks.userId
      · rw [ho]
        exact hasks.bookingId
      · rw [ho]
        exact Option.some_ne_none o

end

end ChargeMate
