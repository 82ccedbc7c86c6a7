import ChargeMate.ModelPayments

/-! Provider webhooks: `payments/webhooks.py`. A delivery is authenticated, parsed and looked up
first, without a lock; the event row and everything the event changes are then written in one
transaction. -/

namespace ChargeMate

open Relational

inductive PaymentEvent where
  | authorized
  | captured
  | failed
  deriving DecidableEq

inductive RefundEvent where
  | processed
  | failed
  deriving DecidableEq

/-- `SUPPORTED_EVENTS`, split as the dispatch splits them. -/
inductive SupportedEvent where
  | payment (event : PaymentEvent)
  | refund (event : RefundEvent)
  deriving DecidableEq

def SupportedEvent.ofStr : PyStr → Option SupportedEvent
  | .text "payment.authorized" => some (.payment .authorized)
  | .text "payment.captured" => some (.payment .captured)
  | .text "payment.failed" => some (.payment .failed)
  | .text "refund.processed" => some (.refund .processed)
  | .text "refund.failed" => some (.refund .failed)
  | _ => none

/-- The body, the signature header and the event identifier header of a webhook request. -/
structure WebhookRequest (Body : Type) where
  rawBody : Body
  suppliedSignature : Option String
  providerEventId : Option String

/-- The status returned to the provider. -/
inductive WebhookOutcome where
  | duplicate
  | event (status : WebhookEventStatus)
  deriving DecidableEq

/-- An authenticated and parsed delivery that the lookup did not find among the stored events. -/
structure Delivery where
  providerEventId : String
  eventType : PyStr
  payloadHash : String
  payload : List (PyStr × Json)

/-- What a request leads to before its transaction. -/
inductive Reception where
  | answered (result : Except Raised WebhookOutcome)
  | accepted (delivery : Delivery)

/-- Whether the event is stored already; another body under its identifier is refused. -/
def existingEvent (providerEventId payloadHash : String) (db : Database) : Except Raised Bool :=
  match db.paymentWebhookEvents.scalar fun e => e.providerEventId = providerEventId with
  | none => .ok false
  | some existing => do
      ensure (existing.payloadHash = payloadHash) .webhookAuthenticationError
      return true

/-- The two headers of an authentic request: the event identifier is returned. -/
def authenticate {Body : Type} (env : Env Body) (webhookSecret : String)
    (request : WebhookRequest Body) : Except Raised String := do
  let signature ← orRaise (truthy request.suppliedSignature) .webhookAuthenticationError
  let providerEventId ← orRaise (truthy request.providerEventId) .webhookAuthenticationError
  ensure (verifyWebhookSignature env request.rawBody signature webhookSecret)
    .webhookAuthenticationError
  return providerEventId

/-- The `except` clause of `json.loads`, which names `JSONDecodeError` and `UnicodeDecodeError`. -/
def JsonError.raised : JsonError → Raised
  | .decode => .webhookPayloadError
  | .value | .recursion => .uncaughtError

/-- `json.loads` and the checks on the event name. -/
def parseDelivery {Body : Type} (env : Env Body) (providerEventId : String) (rawBody : Body) :
    Except Raised Delivery := do
  let loaded ← (env.jsonLoads rawBody).mapError JsonError.raised
  let payload ← orRaise loaded.asDict .webhookPayloadError
  let eventType ← orRaise (getEntry payload "event").asStr .webhookPayloadError
  return { providerEventId, eventType, payloadHash := env.sha256Hex rawBody, payload }

/-- The start of `process_razorpay_webhook`, up to the lookup of the event. -/
def receiveWebhook {Body : Type} (env : Env Body) (webhookSecret : String)
    (request : WebhookRequest Body) (db : Database) : Reception :=
  let received := do
    let providerEventId ← authenticate env webhookSecret request
    let delivery ← parseDelivery env providerEventId request.rawBody
    let duplicate ← existingEvent delivery.providerEventId delivery.payloadHash db
    return (delivery, duplicate)
  match received with
  | .error e => .answered (.error e)
  | .ok (_, true) => .answered (.ok .duplicate)
  | .ok (delivery, false) => .accepted delivery

def nestedEntity (payload : List (PyStr × Json)) (entityName : String) :
    Except Raised (List (PyStr × Json)) := do
  let providerPayload ← orRaise (getEntry payload "payload").asDict .webhookPayloadError
  let wrapper ← orRaise (getEntry providerPayload entityName).asDict .webhookPayloadError
  orRaise (getEntry wrapper "entity").asDict .webhookPayloadError

def providerAmountMatches (payment : Payment) (entity : List (PyStr × Json)) : Bool :=
  (getEntry entity "amount").eqInt payment.amountSubunits ∧
    (getEntry entity "currency").eqStr payment.currency

/-- A captured payment confirms a booking that awaits it. For a booking in any other state than
`CONFIRMED` it is recorded as late. -/
def applyCapturedPayment (payment : Payment) (db : Database) : Except Raised Database :=
  if payment.status = .refunded then db.updatePayment payment
  else do
    let payment := { payment with status := .captured }
    let booking ← orRaise (db.bookings.find payment.bookingId) .attributeError
    if booking.status = .paymentPending then do
      let db ← db.updatePayment payment
      return db.updateBooking { booking with
        status := .confirmed
        version := booking.version + 1 }
    else if booking.status ≠ .confirmed then
      db.updatePayment { payment with lastErrorCode := some "captured_after_booking_closed" }
    else db.updatePayment payment

def applyFailedPayment (payment : Payment) (now : Timestamp) (db : Database) :
    Except Raised Database :=
  if payment.status = .captured ∨ payment.status = .refunded then db.updatePayment payment
  else do
    let payment := { payment with status := .failed }
    let booking ← orRaise (db.bookings.find payment.bookingId) .attributeError
    let db ← db.updatePayment payment
    return db.updateBooking (booking.release now)

def applyPaymentEvent (eventType : PaymentEvent) (entity : List (PyStr × Json))
    (now : Timestamp) (db : Database) : Except Raised (WebhookEventStatus × Database) := do
  let orderId ← orRaise (getEntry entity "order_id").asStr .webhookPayloadError
  let paymentId ← orRaise (getEntry entity "id").asStr .webhookPayloadError
  let orderId ← orderId.parameter
  match db.payments.scalar fun p => p.providerOrderId = some orderId with
  | none => return (.ignored, db)
  | some payment =>
      if ¬providerAmountMatches payment entity then do
        let db ← db.updatePayment { payment with lastErrorCode := some "provider_amount_mismatch" }
        return (.ignored, db)
      else if ∃ pinned ∈ payment.providerPaymentId, .text pinned ≠ paymentId then do
        let db ← db.updatePayment { payment with
          lastErrorCode := some "provider_payment_id_mismatch" }
        return (.ignored, db)
      else do
        -- encoded at the next flush, which comes before any other statement
        let paymentId ← paymentId.encoded
        let payment := { payment with providerPaymentId := some paymentId }
        let db ← match eventType with
          | .authorized =>
              db.updatePayment (if payment.status = .orderCreated then
                { payment with status := .authorized } else payment)
          | .captured => applyCapturedPayment payment db
          | .failed => applyFailedPayment payment now db
        return (.processed, db)

def applyRefundEvent (eventType : RefundEvent) (entity : List (PyStr × Json))
    (now : Timestamp) (db : Database) : Except Raised (WebhookEventStatus × Database) := do
  let refundId ← orRaise (getEntry entity "id").asStr .webhookPayloadError
  let providerPaymentId ← orRaise (getEntry entity "payment_id").asStr .webhookPayloadError
  let providerPaymentId ← providerPaymentId.parameter
  match db.payments.scalar fun p => p.providerPaymentId = some providerPaymentId with
  | none => return (.ignored, db)
  | some payment =>
    match db.refunds.scalar fun r => r.paymentId = payment.id with
    | none => return (.ignored, db)
    | some refund =>
        if ¬((getEntry entity "amount").eqInt refund.amountSubunits ∧
            (getEntry entity "currency").eqStr refund.currency) then do
          let db ← db.updateRefund { refund with
            lastErrorCode := some "provider_refund_amount_mismatch" }
          return (.ignored, db)
        else if ∃ pinned ∈ refund.providerRefundId, .text pinned ≠ refundId then do
          let db ← db.updateRefund { refund with
            lastErrorCode := some "provider_refund_id_mismatch" }
          return (.ignored, db)
        else do
          let refundId ← refundId.encoded
          let refund := { refund with providerRefundId := some refundId }
          let db ← match eventType with
            | .processed => do
                let db ← db.updateRefund { refund with
                  status := .processed
                  processedAt := some now }
                db.updatePayment { payment with status := .refunded }
            | .failed =>
                db.updateRefund (if refund.status ≠ .processed then { refund with
                  status := .failed
                  lastErrorCode := some "provider_refund_failed" } else refund)
          return (.processed, db)

/-- The second `try` block: what the event changes, and the outcome on its row. -/
def applyDelivery (delivery : Delivery) (event : PaymentWebhookEvent) (now : Timestamp)
    (db : Database) : Except Raised (WebhookOutcome × Database) := do
  let (status, db) ← match SupportedEvent.ofStr delivery.eventType with
    | none => .ok (.ignored, db)
    | some (.refund eventType) => do
        let entity ← nestedEntity delivery.payload "refund"
        applyRefundEvent eventType entity now db
    | some (.payment eventType) => do
        let entity ← nestedEntity delivery.payload "payment"
        applyPaymentEvent eventType entity now db
  let event := { event with status, processedAt := some now }
  return (.event event.status, db.updateWebhookEvent event)

/-- The row of the event before anything is applied. -/
def Delivery.eventRow (delivery : Delivery) (eventRowId : Uuid) (eventType : String) :
    PaymentWebhookEvent where
  id := eventRowId
  providerEventId := delivery.providerEventId
  eventType := eventType
  payloadHash := delivery.payloadHash
  status := .received
  processedAt := none

/-- The row is added and flushed. -/
def Delivery.flush (delivery : Delivery) (eventRowId : Uuid) (db : Database) :
    Except Raised (PaymentWebhookEvent × Database) := do
  let eventType ← delivery.eventType.encoded
  let event := delivery.eventRow eventRowId eventType
  let db ← db.insertWebhookEvent event
  return (event, db)

/-- The transaction of `process_razorpay_webhook`. A delivery that was stored since the lookup
ends as a duplicate. The event row is flushed but not committed before the event is applied:
an exception there rolls it back as well. -/
def storeDelivery (delivery : Delivery) (eventRowId : Uuid) (now : Timestamp) (db : Database) :
    Except Raised WebhookOutcome × Database :=
  match delivery.flush eventRowId db with
  | .error .integrityError =>
      match existingEvent delivery.providerEventId delivery.payloadHash db with
      | .ok true => (.ok .duplicate, db)
      | _ => (.error .webhookAuthenticationError, db)
  | .error e => (.error e, db)
  | .ok (event, flushed) =>
      transaction .integrityError (fun _ => applyDelivery delivery event now flushed) db

/-- `process_razorpay_webhook` with nothing between its lookup and its transaction. -/
def processRazorpayWebhook {Body : Type} (env : Env Body) (webhookSecret : String)
    (request : WebhookRequest Body) (eventRowId : Uuid) (now : Timestamp) (db : Database) :
    Except Raised WebhookOutcome × Database :=
  match receiveWebhook env webhookSecret request db with
  | .answered result => (result, db)
  | .accepted delivery => storeDelivery delivery eventRowId now db

end ChargeMate
