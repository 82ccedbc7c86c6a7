import ChargeMate.RefineBookings
import ChargeMate.ModelSystem

/-! The transactions of payment orders and of checkout verification are moves. The two that close
an attempt are moves of its payment, given that the attempt is still open. -/

namespace ChargeMate

open Relational

theorem toCurrencySubunits_eq_ok {amount : Decimal} {n : Int}
    (h : toCurrencySubunits amount = .ok n) : (n : Rat) = 100 * amount := by
  simp only [toCurrencySubunits, bind_eq_ok, ensure_eq_ok, pure_eq_ok] at h
  obtain ⟨_, hden, rfl⟩ := h
  rw [(Rat.den_eq_one_iff _).mp hden, mul_comm]
  rfl

/-- The row of a begun attempt. -/
def CreatePaymentOrderRequest.payment (payload : CreatePaymentOrderRequest) (b : Booking)
    (amount : Decimal) (amountSubunits : Int) (paymentId : Uuid) : Payment where
  id := paymentId
  bookingId := b.id
  userId := b.userId
  status := .initiated
  amount := amount
  amountSubunits := amountSubunits
  currency := b.currency
  idempotencyKey := payload.idempotencyKey
  providerOrderId := none
  providerPaymentId := none
  lastErrorCode := none

theorem beginPaymentAttempt_eq_ok {user : User} {payload : CreatePaymentOrderRequest}
    {paymentId : Uuid} {now : Timestamp} {db db' : Database} {attempt : PaymentAttemptSnapshot} :
    beginPaymentAttempt user payload paymentId now db = (.ok attempt, db') ↔
      ∃ b amount amountSubunits, db.bookings.find payload.bookingId = some b ∧
        b.userId = user.id ∧ bookingCanEnterPayment b payload.bookingVersion now = true ∧
        b.totalAmount = some amount ∧ toCurrencySubunits amount = .ok amountSubunits ∧
        (db.updateBooking (b.advance .paymentPending)).insertPayment
          (payload.payment b amount amountSubunits paymentId) = .ok db' ∧
        attempt = ⟨paymentId, b.id, amountSubunits, b.currency⟩ := by
  rw [beginPaymentAttempt, transaction_eq_ok]
  simp only [beginLockedAttempt, bind_eq_ok, orRaise_eq_ok, ensure_eq_ok, pure_eq_ok,
    Prod.mk.injEq, Option.filter_eq_some_iff, decide_eq_true_eq]
  constructor
  · rintro ⟨b, ⟨hb, huser⟩, _, henter, amount, hamount, subunits, hsubunits, db₁, hins, rfl, rfl⟩
    rw [← huser] at hins
    exact ⟨b, amount, subunits, hb, huser, henter, hamount, hsubunits, hins, rfl⟩
  · rintro ⟨b, amount, subunits, hb, huser, henter, hamount, hsubunits, hins, rfl⟩
    refine ⟨b, ⟨hb, huser⟩, (), henter, amount, hamount, subunits, hsubunits, db', ?_, rfl, rfl⟩
    rw [← huser]
    exact hins

/-- What `_begin_payment_attempt` commits: the booking waits for the payment, and the payment is
the first one under its key. -/
theorem beginPaymentAttempt_cases (user : User) (payload : CreatePaymentOrderRequest)
    (paymentId : Uuid) (now : Timestamp) (db : Database) :
    (∃ e, beginPaymentAttempt user payload paymentId now db = (.error e, db)) ∨
    ∃ b p db', db.bookings.find payload.bookingId = some b ∧ b.userId = user.id ∧
      b.status = .held ∧ b.version = payload.bookingVersion ∧ p.Opens b ∧ p.id = paymentId ∧
      p.idempotencyKey = payload.idempotencyKey ∧
      (db.updateBooking (b.advance .paymentPending)).insertPayment p = .ok db' ∧
      beginPaymentAttempt user payload paymentId now db = (.ok {
        paymentId := p.id
        bookingId := b.id
        amountSubunits := p.amountSubunits
        currency := p.currency }, db') := by
  rcases transaction_cases .paymentStateConflictError _ db with ⟨e, he⟩ | ⟨a, db', _, ht⟩
  · exact Or.inl ⟨e, he⟩
  · refine Or.inr ?_
    obtain ⟨b, amount, subunits, hb, huser, henter, hamount, hsubunits, hins, rfl⟩ :=
      beginPaymentAttempt_eq_ok.mp ht
    obtain ⟨hheld, hversion, _, _⟩ := of_decide_eq_true henter
    refine ⟨b, _, db', hb, huser, hheld, hversion, ⟨⟨rfl, rfl, hamount, ?_, rfl⟩, rfl, rfl, rfl⟩,
      rfl, rfl, hins, ht⟩
    exact toCurrencySubunits_eq_ok hsubunits

theorem beginPaymentAttempt_move (user : User) (payload : CreatePaymentOrderRequest)
    (paymentId : Uuid) (now : Timestamp) (db : Database) :
    Move db.ledger .other (beginPaymentAttempt user payload paymentId now db).2.ledger := by
  rcases beginPaymentAttempt_cases user payload paymentId now db with
    ⟨e, h⟩ | ⟨b, p, db', hb, _, hheld, _, hopens, _, _, hins, h⟩
  · rw [h]
    exact Move.stay
  · have hid := Database.find_booking_id hb
    obtain ⟨hnew, hkey, hledger⟩ := Database.ledger_insertPayment hins
    rw [h]
    simp only [hledger, Database.ledger_updateBooking (b := b.advance .paymentPending) hid]
    exact Move.begin b p hid hheld hnew hopens hkey

/-! ### Closing an attempt -/

/-- What a payment transaction leaves behind: nothing, or one move of the payment whose call it
answers. -/
def Closes (db : Database) (id : Uuid) (db' : Database) : Prop :=
  db' = db ∨ Move db.ledger (.answer id) db'.ledger

theorem Closes.move {db db' : Database} {id : Uuid} (h : Closes db id db') :
    ∃ c, (c = .other ∨ c = .answer id) ∧ Move db.ledger c db'.ledger := by
  rcases h with rfl | h
  · exact ⟨.other, Or.inl rfl, Move.stay⟩
  · exact ⟨.answer id, Or.inr rfl, h⟩

/-- The branch of `_finalize_provider_order` on the status of the payment is never taken for an
open attempt; the other one is decided by the booking. -/
theorem finalizeProviderOrder_cases (providerOrder : RazorpayOrder) {db : Database} {p : Payment}
    {b : Booking} (hp : db.payments.find p.id = some p)
    (hb : db.bookings.find p.bookingId = some b) (hinitiated : p.status = .initiated) :
    (∃ e, finalizeProviderOrder p.id p.bookingId providerOrder db = (.error e, db)) ∨
    ∃ providerOrderId, providerOrder.id = .text providerOrderId ∧
      ((b.status ≠ .paymentPending ∧ ∃ db', db.updatePayment { p with
          providerOrderId := some providerOrderId
          status := .failed
          lastErrorCode := some "booking_state_changed" } = .ok db' ∧
        finalizeProviderOrder p.id p.bookingId providerOrder db =
          (.error .paymentStateConflictError, db')) ∨
      (b.status = .paymentPending ∧ ∃ db', db.updatePayment { p with
          providerOrderId := some providerOrderId
          status := .orderCreated } = .ok db' ∧
        finalizeProviderOrder p.id p.bookingId providerOrder db = (.ok ({ p with
          providerOrderId := some providerOrderId
          status := .orderCreated }, b), db'))) := by
  unfold finalizeProviderOrder
  rcases transaction_cases .integrityError _ db with ⟨e, he⟩ | ⟨a, db', hblock, ht⟩
  · exact Or.inl ⟨e, by rw [he]; rfl⟩
  · refine Or.inr ?_
    rw [ht]
    simp only [finalizeLockedOrder, bind_eq_ok, orRaise_eq_ok, hp, hb, Option.some.injEq,
      exists_eq_left', hinitiated, ne_eq, not_true_eq_false, false_or, PyStr.encoded_eq_ok] at hblock
    obtain ⟨providerOrderId, hid, hblock⟩ := hblock
    refine ⟨providerOrderId, hid, ?_⟩
    split at hblock
    · next hpending =>
      simp only [bind_eq_ok, pure_eq_ok, Prod.mk.injEq] at hblock
      obtain ⟨db₁, hupd, rfl, rfl⟩ := hblock
      exact Or.inl ⟨hpending, db₁, hupd, rfl⟩
    · next hpending =>
      simp only [bind_eq_ok, pure_eq_ok, Prod.mk.injEq] at hblock
      obtain ⟨db₁, hupd, rfl, rfl⟩ := hblock
      exact Or.inr ⟨not_not.mp hpending, db₁, hupd, rfl⟩

theorem finalizeProviderOrder_closes {db : Database} {p : Payment} {b : Booking}
    {providerOrder : RazorpayOrder} (hp : db.payments.find p.id = some p)
    (hb : db.bookings.find p.bookingId = some b) (hinitiated : p.status = .initiated) :
    Closes db p.id (finalizeProviderOrder p.id p.bookingId providerOrder db).2 := by
  rcases finalizeProviderOrder_cases providerOrder hp hb hinitiated with
    ⟨e, h⟩ | ⟨orderId, _, ⟨hchanged, db', hupd, h⟩ | ⟨hpending, db', hupd, h⟩⟩
  · exact Or.inl (by rw [h])
  · obtain ⟨hstorable, hledger⟩ := Database.ledger_updatePayment (p := { p with
      providerOrderId := some orderId
      status := .failed
      lastErrorCode := some "booking_state_changed" }) hupd hp
    rw [h]
    refine Or.inr ?_
    rw [hledger]
    exact Move.orderRefused p b orderId hp hb hinitiated hchanged (hstorable.order orderId rfl)
  · obtain ⟨hstorable, hledger⟩ := Database.ledger_updatePayment (p := { p with
      providerOrderId := some orderId
      status := .orderCreated }) hupd hp
    rw [h]
    refine Or.inr ?_
    rw [hledger]
    exact Move.orderCreated p b orderId hp hb hinitiated hpending (hstorable.order orderId rfl)

theorem compensateProviderFailure_closes {db : Database} {p : Payment} {b : Booking}
    (now : Timestamp) (hp : db.payments.find p.id = some p)
    (hb : db.bookings.find p.bookingId = some b) (hinitiated : p.status = .initiated) :
    Closes db p.id (compensateProviderFailure p.id p.bookingId now db).2 := by
  unfold compensateProviderFailure
  rcases transaction_cases .integrityError _ db with ⟨e, he⟩ | ⟨a, db', hblock, ht⟩
  · exact Or.inl (by rw [he])
  · rw [ht]
    simp only [compensateLockedFailure, bind_eq_ok, orRaise_eq_ok, hp, hb, Option.some.injEq,
      exists_eq_left', hinitiated, if_true, pure_eq_ok, Prod.mk.injEq, true_and] at hblock
    obtain ⟨db₁, hupd, rfl⟩ := hblock
    obtain ⟨_, hledger⟩ := Database.ledger_updatePayment (p := { p with
      status := .failed
      lastErrorCode := some "provider_order_failed" }) hupd hp
    have hb₁ : db₁.bookings.find (b.release now).id = some b := by
      rw [b.id_release, ← Database.bookings_ledger, hledger]
      exact Database.find_booking_id hb
    refine Or.inr ?_
    rw [Database.ledger_updateBooking hb₁, hledger]
    exact Move.compensate p b now hp hb hinitiated

theorem closeAttempt_closes {Body : Type} (env : Env Body) {attempt : PaymentAttemptSnapshot}
    (answer : ProviderAnswer) (now : Timestamp) {db : Database} {p : Payment} {b : Booking}
    (hp : db.payments.find attempt.paymentId = some p)
    (hb : db.bookings.find p.bookingId = some b) (hinitiated : p.status = .initiated)
    (hbooking : attempt.bookingId = p.bookingId) :
    Closes db attempt.paymentId (closeAttempt env attempt answer now db).2 := by
  have hid : p.id = attempt.paymentId := Table.key_of_find hp
  rw [← hid] at hp ⊢
  unfold closeAttempt
  rw [← hid, hbooking]
  split
  · exact compensateProviderFailure_closes now hp hb hinitiated
  · exact Or.inl rfl
  · exact finalizeProviderOrder_closes hp hb hinitiated

/-! ### Checkout verification -/

/-- All that a checkout verification can write: the authorization of a created order. -/
structure Payment.Authorizes (p : Payment) (paymentId : String) (p' : Payment) : Prop where
  created : p.status = .orderCreated
  row : p' = { p with providerPaymentId := some paymentId, status := .authorized }

/-- A verification answers with the stored payment, which it has left as it was or authorized. -/
theorem verifyCheckoutPayment_cases {Body : Type} (env : Env Body) (user : User)
    (payload : VerifyCheckoutPaymentRequest) (db : Database) :
    (∃ e, verifyCheckoutPayment env user payload db = (.error e, db)) ∨
    ∃ p, db.payments.find p.id = some p ∧ p.userId = user.id ∧
      (∀ pinned, p.providerPaymentId = some pinned → pinned = payload.razorpayPaymentId) ∧
      (verifyCheckoutPayment env user payload db = (.ok p, db) ∨
        ∃ p' db', p.Authorizes payload.razorpayPaymentId p' ∧ db.updatePayment p' = .ok db' ∧
          verifyCheckoutPayment env user payload db = (.ok p', db')) := by
  unfold verifyCheckoutPayment
  split
  · exact Or.inl ⟨_, rfl⟩
  rcases transaction_cases .paymentVerificationError _ db with ⟨e, he⟩ | ⟨q, db', h, ht⟩
  · exact Or.inl ⟨e, he⟩
  rw [ht]
  simp only [verifyLockedPayment, bind_eq_ok, orRaise_eq_ok, ensure_eq_ok] at h
  obtain ⟨_, _, p, hp, _, _, _, hagrees, h⟩ := h
  have hfound := Table.prop_of_scalar hp
  simp only [decide_eq_true_eq] at hfound
  refine Or.inr ⟨p, Table.find_key (Table.mem_of_scalar hp), hfound.2,
    fun pinned h => hagrees pinned h, ?_⟩
  split at h
  · simp only [pure_eq_ok, Prod.mk.injEq] at h
    obtain ⟨rfl, rfl⟩ := h
    exact Or.inl rfl
  · simp only [bind_eq_ok, ensure_eq_ok, pure_eq_ok, Prod.mk.injEq] at h
    obtain ⟨_, hcreated, db₁, hupd, rfl, rfl⟩ := h
    exact Or.inr ⟨_, db₁, ⟨hcreated, rfl⟩, hupd, rfl⟩

theorem verifyCheckoutPayment_move {Body : Type} (env : Env Body) (user : User)
    (payload : VerifyCheckoutPaymentRequest) (db : Database) :
    Move db.ledger .other (verifyCheckoutPayment env user payload db).2.ledger := by
  rcases verifyCheckoutPayment_cases env user payload db with
    ⟨e, heq⟩ | ⟨p, hp, _, hagrees, heq | ⟨p', db', hauth, hupd, heq⟩⟩
  · rw [heq]
    exact Move.stay
  · rw [heq]
    exact Move.stay
  · have hkey : db.payments.find p'.id = some p := by rw [hauth.row]; exact hp
    obtain ⟨hstorable, hledger⟩ := Database.ledger_updatePayment hupd hkey
    rw [heq]
    simp only [hledger, hauth.row]
    refine Move.authorize p _ hp hauth.created ⟨hagrees, ?_⟩
    have hunique := hstorable.payment payload.razorpayPaymentId (by rw [hauth.row])
    rwa [hauth.row] at hunique

end ChargeMate
