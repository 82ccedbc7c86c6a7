import ChargeMate.SafetyBookings

/-! Payments in every run: what stands behind a booking, and one payment for each key. -/

namespace ChargeMate

open Relational

section

variable {Body : Type} {env : Env Body}

theorem World.Reachable.payment_next {w : World} (h : w.Reachable env) (a : Action Body) {id : Uuid}
    {p : Payment} (hp : w.db.payments.find id = some p) :
    ∃ p', (w.step env a).db.payments.find id = some p' ∧ p.Continues p' := by
  obtain ⟨c, _, hmove⟩ := h.move a
  exact hmove.payment_next h.sound.ledger.payments h.sound.ledger.refunds hp

theorem World.Reachable.payment_run {w : World} (h : w.Reachable env) (actions : List (Action Body))
    {id : Uuid} {p : Payment} (hp : w.db.payments.find id = some p) :
    ∃ p', (w.run env actions).db.payments.find id = some p' ∧ p.Continues p' := by
  refine h.run_part (f := fun s : World => s.db.payments.find id) Payment.Continues.refl
    Payment.Continues.trans ?_ actions hp
  exact fun s a p hs hp => World.Reachable.payment_next hs a hp

end

/-- Every status of a booking is backed by a payment, every payment charges what its booking
says, and an attempt that is about to be closed is still open: the branch of
`_finalize_provider_order` for another status of the payment is unreachable. -/
theorem booking_status_backed {Body : Type} (env : Env Body) {w : World} (h : w.Reachable env) :
    (∀ b ∈ w.db.bookings, b.status = .paymentPending → ∃ p ∈ w.db.payments, p.bookingId = b.id ∧
      (p.status = .initiated ∨ p.status = .orderCreated ∨ p.status = .authorized)) ∧
    (∀ b ∈ w.db.bookings, b.status = .confirmed ∨ b.status = .active ∨ b.status = .completed →
      ∃ p ∈ w.db.payments, p.bookingId = b.id ∧ p.status = .captured) ∧
    (∀ p ∈ w.db.payments, ∃ b ∈ w.db.bookings, b.id = p.bookingId ∧ b.totalAmount = some p.amount ∧
      (p.amountSubunits : Rat) = 100 * p.amount ∧ p.currency = b.currency ∧ p.userId = b.userId) ∧
    ∀ requestId r attempt, w.orderRequests.find requestId = some r → r.phase = .called attempt →
      ∃ p, w.db.payments.find attempt.paymentId = some p ∧ p.status = .initiated ∧
        p.bookingId = attempt.bookingId := by
  have hsound := h.sound
  refine ⟨?_, ?_, ?_, ?_⟩
  · intro b hb hpending
    obtain ⟨p, hp, hbooking, hopen⟩ := hsound.ledger.backed.pending b.id b (Table.find_key hb) hpending
    exact ⟨p, Table.mem_of_find hp, hbooking, hopen⟩
  · intro b hb hpaid
    obtain ⟨p, hp, hbooking, hcaptured⟩ := hsound.ledger.backed.paid b.id b (Table.find_key hb) hpaid
    exact ⟨p, Table.mem_of_find hp, hbooking, hcaptured⟩
  · intro p hp
    obtain ⟨b, hb, hcharges⟩ := hsound.ledger.payments.charges p.id p (Table.find_key hp)
    exact ⟨b, Table.mem_of_find hb, hcharges.bookingId.symm, hcharges.amount,
      hcharges.amountSubunits, hcharges.currency, hcharges.userId⟩
  · intro requestId r attempt hr hcalled
    obtain ⟨p, hp, hinitiated, hdesc, _⟩ := (hsound.orders.requests requestId r hr).1 attempt
      (Or.inr hcalled)
    exact ⟨p, hp, hinitiated, hdesc.bookingId⟩

/-- The answer of the provider to an order of 100.00 INR. -/
def sampleOrderAnswer (orderId : String) : ProviderAnswer :=
  .body (.obj [("id", .str orderId), ("amount", .int 10000), ("currency", .str "INR"),
    ("status", .str "created")])

/-- An order request from its receipt to the provider's answer, under one identifier. -/
def sampleOrder (id : Uuid) (bookingVersion : Nat) (orderId : String) : List (Action Json) :=
  [.requestOrder id sampleUser ⟨20, bookingVersion, id⟩, .beginOrder id id 0, .callOrder id,
    .closeOrder id (sampleOrderAnswer orderId) 0]

theorem booking_status_backed_sample :
    ∃ p ∈ (sampleWorld.run sampleEnv (sampleHold 20 1 :: sampleOrder 30 1 "order_A")).db.payments,
      p.bookingId = 20 ∧ (p.status = .initiated ∨ p.status = .orderCreated ∨
        p.status = .authorized) := by
  have hstatus : ((sampleWorld.run sampleEnv
      (sampleHold 20 1 :: sampleOrder 30 1 "order_A")).db.bookings.find 20).map Booking.status =
      some .paymentPending := by decide +kernel
  obtain ⟨b, hb, hpending⟩ := Option.map_eq_some_iff.mp hstatus
  obtain ⟨p, hp, hbooking, hopen⟩ :=
    (booking_status_backed sampleEnv (sampleWorld_reachable _)).1 b (Table.mem_of_find hb) hpending
  exact ⟨p, hp, hbooking.trans (Table.key_of_find hb), hopen⟩

/-! ### One payment for each key -/

/-- Whether a payment has been begun under a key. -/
def Database.keyUsed (db : Database) (idempotencyKey : Uuid) : Prop :=
  ∃ p ∈ db.payments, p.idempotencyKey = idempotencyKey

/-- The lookup answers every request with a used key. -/
theorem lookUpOrder_of_keyUsed {Body : Type} (env : Env Body) (user : User)
    {payload : CreatePaymentOrderRequest} {db : Database}
    (h : db.keyUsed payload.idempotencyKey) : ∃ result, lookUpOrder env user payload db = some result := by
  obtain ⟨p, hp, hkey⟩ := h
  unfold lookUpOrder
  split
  · exact ⟨_, rfl⟩
  · split
    · exact ⟨_, rfl⟩
    · next hnone =>
      have hfalse := Table.scalar_eq_none.mp hnone p hp
      simp [hkey] at hfalse

/-- No attempt begins under a used key. -/
theorem beginPaymentAttempt_of_keyUsed (user : User) (paymentId : Uuid) (now : Timestamp)
    {payload : CreatePaymentOrderRequest} {db : Database} (h : db.keyUsed payload.idempotencyKey) :
    ∃ e, beginPaymentAttempt user payload paymentId now db = (.error e, db) := by
  rcases beginPaymentAttempt_cases user payload paymentId now db with
    herror | ⟨b, p, db', hb, _, _, _, _, _, hkey, hins, _⟩
  · exact herror
  · obtain ⟨q, hq, hqkey⟩ := h
    obtain ⟨_, hfresh, _⟩ := Database.ledger_insertPayment hins
    exact absurd (hqkey.trans hkey.symm) (hfresh q.id q (Table.find_key hq))

/-- Two payments under one key are one payment. -/
theorem World.Sound.payment_unique {w : World} (h : w.Sound) {i j : Uuid} {p q : Payment}
    (hp : w.db.payments.find i = some p) (hq : w.db.payments.find j = some q)
    (hkey : p.idempotencyKey = q.idempotencyKey) : i = j :=
  h.ledger.payments.keys i j p q q.idempotencyKey hp hq (congrArg some hkey) rfl

/-- Order creation is idempotent for each key. -/
theorem order_creation_idempotent {Body : Type} (env : Env Body) {w : World}
    (h : w.Reachable env) :
    (∀ p ∈ w.db.payments, ∀ q ∈ w.db.payments, p.idempotencyKey = q.idempotencyKey → p = q) ∧
    (w.orderCalls.map OrderCall.idempotencyKey).Nodup ∧
    (∀ i j r s c d, w.orderRequests.find i = some r → w.orderRequests.find j = some s →
      r.phase = .answered (.ok c) → s.phase = .answered (.ok d) →
      r.payload.idempotencyKey = s.payload.idempotencyKey →
      c.payment.id = d.payment.id ∧ c.payment.providerOrderId = d.payment.providerOrderId ∧
        c.payment.providerOrderId ≠ none ∧ c.payment.amount = d.payment.amount ∧
        c.payment.amountSubunits = d.payment.amountSubunits ∧
        c.payment.currency = d.payment.currency) ∧
    (∀ i r c, w.orderRequests.find i = some r → r.phase = .answered (.ok c) →
      ∃ p ∈ w.db.payments, p.id = c.payment.id ∧ p.idempotencyKey = r.payload.idempotencyKey ∧
        p.userId = r.user.id ∧ p.bookingId = r.payload.bookingId) ∧
    (∀ requestId user payload, w.db.keyUsed payload.idempotencyKey →
      (w.step env (.requestOrder requestId user payload)).db = w.db ∧
        (w.orderRequests.find requestId = none → ∃ result,
          (w.step env (.requestOrder requestId user payload)).orderRequests.find requestId =
            some ⟨requestId, user, payload, .answered result⟩)) ∧
    ∀ requestId r paymentId now, w.orderRequests.find requestId = some r → r.phase = .lookedUp →
      w.db.keyUsed r.payload.idempotencyKey →
      (w.step env (.beginOrder requestId paymentId now)).db = w.db ∧ ∃ e,
        (w.step env (.beginOrder requestId paymentId now)).orderRequests.find requestId =
          some { r with phase := .answered (.error e) } := by
  have hsound := h.sound
  refine ⟨?_, ?_, ?_, ?_, ?_, ?_⟩
  · intro p hp q hq hkey
    exact Table.eq_of_key_eq hp hq
      (hsound.payment_unique (Table.find_key hp) (Table.find_key hq) hkey)
  · refine Ticket.nodup_map_of_determines hsound.orders.tickets.nodup ?_
    intro a ha b hb hab
    obtain ⟨p, hp, hpkey⟩ := hsound.orders.calls a ha
    obtain ⟨q, hq, hqkey⟩ := hsound.orders.calls b hb
    exact hsound.payment_unique hp hq ((hpkey.trans hab).trans hqkey.symm)
  · intro i j r s c d hr hs hrc hsd hkey
    obtain ⟨hcasks, hcorder, p, hp, hcp⟩ := (hsound.orders.requests i r hr).2 c hrc
    obtain ⟨hdasks, hdorder, q, hq, hdq⟩ := (hsound.orders.requests j s hs).2 d hsd
    have hid : c.payment.id = d.payment.id := by
      refine hsound.payment_unique hp hq ?_
      calc p.idempotencyKey = c.payment.idempotencyKey := hcp.idempotencyKey
        _ = r.payload.idempotencyKey := hcasks.idempotencyKey
        _ = s.payload.idempotencyKey := hkey
        _ = d.payment.idempotencyKey := hdasks.idempotencyKey.symm
        _ = q.idempotencyKey := hdq.idempotencyKey.symm
    rw [hid, hq] at hp
    cases hp
    obtain ⟨o, ho⟩ := Option.ne_none_iff_exists'.mp hcorder
    obtain ⟨o', ho'⟩ := Option.ne_none_iff_exists'.mp hdorder
    have hoo : some o = some o' := (hcp.order o ho).symm.trans (hdq.order o' ho')
    exact ⟨hid, by rw [ho, ho', hoo], hcorder, hcp.amount.symm.trans hdq.amount,
      hcp.amountSubunits.symm.trans hdq.amountSubunits, hcp.currency.symm.trans hdq.currency⟩
  · intro i r c hr hrc
    obtain ⟨hasks, _, p, hp, hcont⟩ := (hsound.orders.requests i r hr).2 c hrc
    exact ⟨p, Table.mem_of_find hp, hcont.id, hcont.idempotencyKey.trans hasks.idempotencyKey,
      hcont.userId.trans hasks.userId, hcont.bookingId.trans hasks.bookingId⟩
  · intro requestId user payload hused
    obtain ⟨result, hresult⟩ := lookUpOrder_of_keyUsed env user hused
    rw [World.step, World.requestOrder, hresult]
    simp only
    split
    · next hnone =>
      refine ⟨rfl, fun hfree => ?_⟩
      obtain ⟨requests, hins⟩ := Table.exists_insert
        (r := (⟨requestId, user, payload, .answered result⟩ : OrderRequest)) hfree
      rw [hins] at hnone
      cases hnone
    · next requests hins => exact ⟨rfl, fun _ => ⟨result, Table.find_insert_self hins⟩⟩
  · rintro requestId ⟨id, user, payload, phase⟩ paymentId now hr hphase hused
    simp only at hphase
    subst hphase
    have hid : id = requestId := Table.key_of_find hr
    subst hid
    obtain ⟨e, he⟩ := beginPaymentAttempt_of_keyUsed user paymentId now hused
    rw [World.step, World.beginOrder, hr]
    simp only [he, true_and]
    exact ⟨e, Table.find_set_self (r := (⟨id, user, payload, _⟩ : OrderRequest)) hr⟩

/-- A replay of a created order calls the provider no second time. -/
theorem order_creation_idempotent_sample :
    ((sampleWorld.run sampleEnv (sampleHold 20 1 :: (sampleOrder 30 1 "order_A" ++
      [.requestOrder 31 sampleUser ⟨20, 1, 30⟩, .beginOrder 31 31 0, .callOrder 31]))).orderCalls.map
        OrderCall.idempotencyKey).Nodup :=
  (order_creation_idempotent sampleEnv (sampleWorld_reachable _)).2.1

end ChargeMate
