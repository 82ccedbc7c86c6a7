import ChargeMate.FoundationRegister
import ChargeMate.ModelWebhooks
import ChargeMate.ModelCancellation
import ChargeMate.ModelOperations

/-! The ledger: what the transactions do to bookings, payments, refunds and charging sessions,
without the clocks, signatures and provider payloads that decide which of them runs. A move is
one committed transaction; its guards are what the transaction has checked under its locks. -/

namespace ChargeMate

open Relational

structure Ledger where
  bookings : Register Booking
  payments : Register Payment
  refunds : Register Refund
  sessions : Register ChargingSession

def Database.ledger (db : Database) : Ledger where
  bookings := db.bookings.register
  payments := db.payments.register
  refunds := db.refunds.register
  sessions := db.chargingSessions.register

@[simp] theorem Database.bookings_ledger (db : Database) (id : Uuid) :
    db.ledger.bookings id = db.bookings.find id := rfl
@[simp] theorem Database.payments_ledger (db : Database) (id : Uuid) :
    db.ledger.payments id = db.payments.find id := rfl
@[simp] theorem Database.refunds_ledger (db : Database) (id : Uuid) :
    db.ledger.refunds id = db.refunds.find id := rfl
@[simp] theorem Database.sessions_ledger (db : Database) (id : Uuid) :
    db.ledger.sessions id = db.chargingSessions.find id := rfl

/-! ### Rows in a move -/

/-- The booking with its next status and version. -/
def Booking.advance (b : Booking) (status : BookingStatus) : Booking :=
  { b with status, version := b.version + 1 }

/-- A booking that keeps its charger for itself. -/
def Booking.Blocking (b : Booking) : Prop := b.status ∈ blockingBookingStatuses

/-- Two bookings that need one charger at one time: their half-open intervals meet. -/
def Booking.Overlaps (b c : Booking) : Prop :=
  b.chargePointId = c.chargePointId ∧ b.startsAt < c.endsAt ∧ c.startsAt < b.endsAt

instance (b : Booking) : Decidable b.Blocking := by
  unfold Booking.Blocking
  infer_instance

instance (b c : Booking) : Decidable (b.Overlaps c) := by
  unfold Booking.Overlaps
  infer_instance

/-- A booking as `create_booking_hold` creates it. -/
structure Booking.Fresh (b : Booking) : Prop where
  status : b.status = .held
  version : b.version = 1
  cancelledAt : b.cancelledAt = none
  holdExpiresAt : b.holdExpiresAt ≠ none

/-- What the payment of a booking never departs from. -/
structure Payment.Charges (p : Payment) (b : Booking) : Prop where
  bookingId : p.bookingId = b.id
  userId : p.userId = b.userId
  amount : b.totalAmount = some p.amount
  amountSubunits : (p.amountSubunits : Rat) = 100 * p.amount
  currency : p.currency = b.currency

/-- A payment as `_begin_payment_attempt` creates it. -/
structure Payment.Opens (p : Payment) (b : Booking) : Prop extends p.Charges b where
  status : p.status = .initiated
  providerOrderId : p.providerOrderId = none
  providerPaymentId : p.providerPaymentId = none

/-- A provider order identifier that no other payment has. -/
def Payment.MayTakeOrder (p : Payment) (L : Ledger) (orderId : String) : Prop :=
  ∀ id q, L.payments id = some q → q.providerOrderId = some orderId → id = p.id

/-- A provider payment identifier that agrees with the pinned one, if there is one, and that no
other payment has. -/
structure Payment.MayPin (p : Payment) (L : Ledger) (paymentId : String) : Prop where
  agrees : ∀ pinned, p.providerPaymentId = some pinned → pinned = paymentId
  unique : ∀ id q, L.payments id = some q → q.providerPaymentId = some paymentId → id = p.id

/-- What the refund of a payment never departs from. -/
structure Refund.Returns (r : Refund) (p : Payment) : Prop where
  paymentId : r.paymentId = p.id
  amount : r.amount = p.amount
  amountSubunits : r.amountSubunits = p.amountSubunits
  currency : r.currency = p.currency

/-- A refund as `_prepare_cancellation` creates it. -/
structure Refund.Opens (r : Refund) (p : Payment) : Prop extends r.Returns p where
  status : r.status = .requested
  providerRefundId : r.providerRefundId = none
  processedAt : r.processedAt = none

/-- How far the settlement of a refund has come. -/
def RefundStatus.rank : RefundStatus → Nat
  | .requested => 0
  | .pending => 1
  | .failed => 2
  | .processed => 3

/-- A later version of a refund row. -/
structure Refund.Continues (r r' : Refund) : Prop where
  id : r'.id = r.id
  paymentId : r'.paymentId = r.paymentId
  amount : r'.amount = r.amount
  amountSubunits : r'.amountSubunits = r.amountSubunits
  currency : r'.currency = r.currency
  receipt : r'.receipt = r.receipt
  createdAt : r'.createdAt = r.createdAt
  rank : r.status.rank ≤ r'.status.rank

/-! ### Moves -/

def Ledger.expire (L : Ledger) (among : Booking → Bool) (now : Timestamp) : Ledger :=
  { L with
    bookings := L.bookings.map (fun b => if among b && b.holdLapsed now then b.expire else b)
      (by intro b; split <;> rfl) }

@[simp, grind =] theorem Ledger.bookings_expire (L : Ledger) (among : Booking → Bool)
    (now : Timestamp) (id : Uuid) : (L.expire among now).bookings id =
      (L.bookings id).map fun b => if among b && b.holdLapsed now then b.expire else b := rfl
@[simp, grind =] theorem Ledger.payments_expire (L : Ledger) (among : Booking → Bool)
    (now : Timestamp) : (L.expire among now).payments = L.payments := rfl
@[simp, grind =] theorem Ledger.refunds_expire (L : Ledger) (among : Booking → Bool)
    (now : Timestamp) : (L.expire among now).refunds = L.refunds := rfl
@[simp, grind =] theorem Ledger.sessions_expire (L : Ledger) (among : Booking → Bool)
    (now : Timestamp) : (L.expire among now).sessions = L.sessions := rfl

/-- What a move is due to, where it matters to the rest of the system: the answer to the provider
call of a payment, a notice about a payment, or the cancellation of a booking. -/
inductive Cause where
  | other
  | answer (paymentId : Uuid)
  | capture (paymentId : Uuid)
  | mismatch (paymentId : Uuid)
  | cancel (bookingId : Uuid)
  | refund (bookingId paymentId : Uuid)

/-- The moves of the ledger, each with its cause. -/
inductive Move (L : Ledger) : Cause → Ledger → Prop where
  | stay : Move L .other L
  | expire (among : Booking → Bool) (now : Timestamp) : Move L .other (L.expire among now)
  | hold (among : Booking → Bool) (now : Timestamp) (b : Booking)
      (hnew : L.bookings b.id = none) (hfresh : b.Fresh)
      (hfree : ∀ id c, (L.expire among now).bookings id = some c → c.Blocking → ¬c.Overlaps b) :
      Move L .other { L.expire among now with bookings := (L.expire among now).bookings.put b }
  | begin (b : Booking) (p : Payment)
      (hb : L.bookings b.id = some b) (hheld : b.status = .held)
      (hnew : L.payments p.id = none) (hopens : p.Opens b)
      (hkey : ∀ id q, L.payments id = some q → q.idempotencyKey ≠ p.idempotencyKey) :
      Move L .other { L with
        bookings := L.bookings.put (b.advance .paymentPending)
        payments := L.payments.put p }
  | orderCreated (p : Payment) (b : Booking) (orderId : String)
      (hp : L.payments p.id = some p) (hb : L.bookings p.bookingId = some b)
      (hinitiated : p.status = .initiated) (hpending : b.status = .paymentPending)
      (horder : p.MayTakeOrder L orderId) :
      Move L (.answer p.id) { L with payments := L.payments.put { p with
        providerOrderId := some orderId
        status := .orderCreated } }
  | orderRefused (p : Payment) (b : Booking) (orderId : String)
      (hp : L.payments p.id = some p) (hb : L.bookings p.bookingId = some b)
      (hinitiated : p.status = .initiated) (hchanged : b.status ≠ .paymentPending)
      (horder : p.MayTakeOrder L orderId) :
      Move L (.answer p.id) { L with payments := L.payments.put { p with
        providerOrderId := some orderId
        status := .failed
        lastErrorCode := some "booking_state_changed" } }
  | compensate (p : Payment) (b : Booking) (now : Timestamp)
      (hp : L.payments p.id = some p) (hb : L.bookings p.bookingId = some b)
      (hinitiated : p.status = .initiated) :
      Move L (.answer p.id) { L with
        bookings := L.bookings.put (b.release now)
        payments := L.payments.put { p with
          status := .failed
          lastErrorCode := some "provider_order_failed" } }
  | authorize (p : Payment) (paymentId : String)
      (hp : L.payments p.id = some p) (hcreated : p.status = .orderCreated)
      (hpin : p.MayPin L paymentId) :
      Move L .other { L with payments := L.payments.put { p with
        providerPaymentId := some paymentId
        status := .authorized } }
  | pin (p : Payment) (paymentId : String)
      (hp : L.payments p.id = some p) (horder : p.providerOrderId ≠ none)
      (hcreated : p.status ≠ .orderCreated) (hpin : p.MayPin L paymentId) :
      Move L .other { L with payments := L.payments.put { p with
        providerPaymentId := some paymentId } }
  | mismatch (p : Payment) (code : String)
      (hp : L.payments p.id = some p) (horder : p.providerOrderId ≠ none) :
      Move L (.mismatch p.id) { L with payments := L.payments.put { p with lastErrorCode := some code } }
  | confirm (p : Payment) (b : Booking) (paymentId : String)
      (hp : L.payments p.id = some p) (hb : L.bookings p.bookingId = some b)
      (horder : p.providerOrderId ≠ none) (hrefunded : p.status ≠ .refunded)
      (hpin : p.MayPin L paymentId) (hpending : b.status = .paymentPending) :
      Move L (.capture p.id) { L with
        bookings := L.bookings.put (b.advance .confirmed)
        payments := L.payments.put { p with
          providerPaymentId := some paymentId
          status := .captured } }
  | captureAgain (p : Payment) (b : Booking) (paymentId : String)
      (hp : L.payments p.id = some p) (hb : L.bookings p.bookingId = some b)
      (horder : p.providerOrderId ≠ none) (hrefunded : p.status ≠ .refunded)
      (hpin : p.MayPin L paymentId) (hconfirmed : b.status = .confirmed) :
      Move L (.capture p.id) { L with payments := L.payments.put { p with
        providerPaymentId := some paymentId
        status := .captured } }
  | captureLate (p : Payment) (b : Booking) (paymentId : String)
      (hp : L.payments p.id = some p) (hb : L.bookings p.bookingId = some b)
      (horder : p.providerOrderId ≠ none) (hrefunded : p.status ≠ .refunded)
      (hpin : p.MayPin L paymentId) (hpending : b.status ≠ .paymentPending)
      (hconfirmed : b.status ≠ .confirmed) :
      Move L (.capture p.id) { L with payments := L.payments.put { p with
        providerPaymentId := some paymentId
        status := .captured
        lastErrorCode := some "captured_after_booking_closed" } }
  | fail (p : Payment) (b : Booking) (paymentId : String) (now : Timestamp)
      (hp : L.payments p.id = some p) (hb : L.bookings p.bookingId = some b)
      (horder : p.providerOrderId ≠ none) (hcaptured : p.status ≠ .captured)
      (hrefunded : p.status ≠ .refunded) (hpin : p.MayPin L paymentId) :
      Move L .other { L with
        bookings := L.bookings.put (b.release now)
        payments := L.payments.put { p with
          providerPaymentId := some paymentId
          status := .failed } }
  | cancel (b : Booking) (now : Timestamp)
      (hb : L.bookings b.id = some b) (hstatus : b.status ∈ cancellableBookingStatuses) :
      Move L (.cancel b.id) { L with bookings := L.bookings.put (b.cancel now) }
  | cancelRefund (b : Booking) (p : Payment) (r : Refund) (now : Timestamp)
      (hb : L.bookings b.id = some b) (hconfirmed : b.status = .confirmed)
      (hp : L.payments p.id = some p) (hbooking : p.bookingId = b.id)
      (hcaptured : p.status = .captured) (hnew : L.refunds r.id = none) (hopens : r.Opens p)
      (hfirst : ∀ id s, L.refunds id = some s → s.paymentId ≠ p.id) :
      Move L (.refund b.id p.id) { L with
        bookings := L.bookings.put (b.cancel now)
        refunds := L.refunds.put r }
  | refundChange (r r' : Refund)
      (hr : L.refunds r.id = some r) (hcont : r.Continues r')
      (hprocessed : r'.status = .processed ↔ r.status = .processed)
      (hat : r'.processedAt = r.processedAt) :
      Move L .other { L with refunds := L.refunds.put r' }
  | refundProcess (r r' : Refund) (p : Payment)
      (hr : L.refunds r.id = some r) (hp : L.payments p.id = some p) (hreturns : r.paymentId = p.id)
      (hcont : r.Continues r') (hprocessed : r'.status = .processed) (hat : r'.processedAt ≠ none) :
      Move L .other { L with
        payments := L.payments.put { p with status := .refunded }
        refunds := L.refunds.put r' }
  | start (b : Booking) (s : ChargingSession)
      (hb : L.bookings b.id = some b) (hconfirmed : b.status = .confirmed)
      (hnew : L.sessions s.id = none) (hactive : s.status = .active) (hbooking : s.bookingId = b.id)
      (huser : s.userId = b.userId) (hcharge : s.chargePointId = b.chargePointId)
      (hversion : s.version = 1)
      (hfirst : ∀ id s', L.sessions id = some s' → s'.bookingId ≠ b.id)
      (hidle : ∀ id s', L.sessions id = some s' → s'.status = .active →
        s'.chargePointId ≠ b.chargePointId) :
      Move L .other { L with
        bookings := L.bookings.put (b.advance .active)
        sessions := L.sessions.put s }
  | complete (b : Booking) (s s' : ChargingSession)
      (hb : L.bookings b.id = some b) (hactive : b.status = .active)
      (hs : L.sessions s.id = some s) (hsactive : s.status = .active) (hbooking : s.bookingId = b.id)
      (hid : s'.id = s.id) (hsbooking : s'.bookingId = s.bookingId) (huser : s'.userId = s.userId)
      (hcharge : s'.chargePointId = s.chargePointId) (hcompleted : s'.status = .completed)
      (hversion : s'.version = s.version + 1) :
      Move L .other { L with
        bookings := L.bookings.put (b.advance .completed)
        sessions := L.sessions.put s' }

end ChargeMate
