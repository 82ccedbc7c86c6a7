import ChargeMate.RefinePayments

/-! The transaction of a webhook delivery is a move. What it commits is stated event by event, for
the callers that need to know which move it was. -/

namespace ChargeMate

open Relational

/-! ### Payment events -/

theorem applyCapturedPayment_cases {q : Payment} {db db' : Database}
    (h : applyCapturedPayment q db = .ok db') :
    (q.status = .refunded ∧ db.updatePayment q = .ok db') ∨
    (q.status ≠ .refunded ∧ ∃ b, db.bookings.find q.bookingId = some b ∧
      ((b.status = .paymentPending ∧ ∃ db₁, db.updatePayment { q with status := .captured } = .ok db₁ ∧
          db' = db₁.updateBooking (b.advance .confirmed)) ∨
        (b.status = .confirmed ∧ db.updatePayment { q with status := .captured } = .ok db') ∨
        (b.status ≠ .paymentPending ∧ b.status ≠ .confirmed ∧ db.updatePayment { q with
          status := .captured
          lastErrorCode := some "captured_after_booking_closed" } = .ok db'))) := by
  unfold applyCapturedPayment at h
  split at h
  · next hrefunded => exact Or.inl ⟨hrefunded, h⟩
  · next hrefunded =>
    simp only [bind_eq_ok, orRaise_eq_ok] at h
    obtain ⟨b, hb, h⟩ := h
    refine Or.inr ⟨hrefunded, b, hb, ?_⟩
    split at h
    · next hpending =>
      simp only [bind_eq_ok, pure_eq_ok] at h
      obtain ⟨db₁, hupd, rfl⟩ := h
      exact Or.inl ⟨hpending, db₁, hupd, rfl⟩
    · next hpending =>
      split at h
      · next hconfirmed => exact Or.inr (Or.inr ⟨hpending, hconfirmed, h⟩)
      · next hconfirmed => exact Or.inr (Or.inl ⟨not_not.mp hconfirmed, h⟩)

theorem applyFailedPayment_cases {q : Payment} {now : Timestamp} {db db' : Database}
    (h : applyFailedPayment q now db = .ok db') :
    (q.Collected ∧ db.updatePayment q = .ok db') ∨
    (¬q.Collected ∧ ∃ b db₁, db.bookings.find q.bookingId = some b ∧
      db.updatePayment { q with status := .failed } = .ok db₁ ∧
      db' = db₁.updateBooking (b.release now)) := by
  unfold applyFailedPayment at h
  split at h
  · next hcol => exact Or.inl ⟨hcol, h⟩
  · next hcol =>
    simp only [bind_eq_ok, orRaise_eq_ok, pure_eq_ok] at h
    obtain ⟨b, hb, db₁, hupd, rfl⟩ := h
    exact Or.inr ⟨hcol, b, db₁, hb, hupd, rfl⟩

/-- The entity of a payment event, by the fields that the handler reads. The identifier of the
order is the parameter of a query. -/
structure PaymentNotice where
  event : PaymentEvent
  entity : List (PyStr × Json)
  orderId : String
  paymentId : PyStr

def PaymentNotice.ofEntity (event : PaymentEvent) (entity : List (PyStr × Json)) :
    Option PaymentNotice := do
  let sentId ← (getEntry entity "order_id").asStr
  let paymentId ← (getEntry entity "id").asStr
  let orderId ← sentId.parameter.toOption
  return { event, entity, orderId, paymentId }

/-- The payment event that a delivery carries. -/
def Delivery.notice (d : Delivery) : Option PaymentNotice :=
  match SupportedEvent.ofStr d.eventType with
  | some (.payment event) =>
      (nestedEntity d.payload "payment").toOption.bind (PaymentNotice.ofEntity event)
  | _ => none

theorem PaymentNotice.ofEntity_eq_some {event : PaymentEvent} {entity : List (PyStr × Json)}
    {n : PaymentNotice} : PaymentNotice.ofEntity event entity = some n ↔
      n.event = event ∧ n.entity = entity ∧
        (getEntry entity "order_id").asStr = some (.text n.orderId) ∧ nullFree n.orderId = true ∧
        (getEntry entity "id").asStr = some n.paymentId := by
  simp only [PaymentNotice.ofEntity, Option.bind_eq_bind, Option.bind_eq_some_iff, Option.pure_def,
    Option.some.injEq, toOption_eq_some, PyStr.parameter_eq_ok]
  constructor
  · rintro ⟨o, ho, x, hx, orderId, ⟨rfl, hfree⟩, rfl⟩
    exact ⟨rfl, rfl, ho, hfree, hx⟩
  · rintro ⟨rfl, rfl, ho, hfree, hx⟩
    exact ⟨_, ho, _, hx, _, ⟨rfl, hfree⟩, rfl⟩

theorem Delivery.notice_eq_some {d : Delivery} {n : PaymentNotice} : d.notice = some n ↔
    SupportedEvent.ofStr d.eventType = some (.payment n.event) ∧
      nestedEntity d.payload "payment" = .ok n.entity ∧
      PaymentNotice.ofEntity n.event n.entity = some n := by
  unfold Delivery.notice
  constructor
  · intro h
    split at h
    · next event hsup =>
      cases hentity : nestedEntity d.payload "payment" with
      | error e => simp [hentity, Except.toOption] at h
      | ok entity =>
          simp only [hentity, Except.toOption, Option.bind_some] at h
          obtain ⟨hevent, hentity', _⟩ := PaymentNotice.ofEntity_eq_some.mp h
          rw [hevent, hentity']
          exact ⟨hsup, rfl, h⟩
    · cases h
  · rintro ⟨hsup, hentity, hn⟩
    simp only [hsup, hentity, Except.toOption, Option.bind_some, hn]

/-- The payment that the handler finds under the order of a notice. -/
def PaymentNotice.subject (n : PaymentNotice) (db : Database) : Option Payment :=
  db.payments.scalar fun p => p.providerOrderId = some n.orderId

theorem PaymentNotice.find_subject {n : PaymentNotice} {db : Database} {p : Payment}
    (h : n.subject db = some p) :
    db.payments.find p.id = some p ∧ p.providerOrderId = some n.orderId :=
  ⟨Table.find_key (Table.mem_of_scalar h), by simpa using Table.prop_of_scalar h⟩

/-- Right amount and currency. -/
def PaymentNotice.Matches (n : PaymentNotice) (p : Payment) : Prop :=
  providerAmountMatches p n.entity = true

/-- No other provider payment is pinned. -/
def PaymentNotice.Agrees (n : PaymentNotice) (p : Payment) : Prop :=
  ∀ pinned, p.providerPaymentId = some pinned → .text pinned = n.paymentId

instance (n : PaymentNotice) (p : Payment) : Decidable (n.Matches p) := by
  unfold PaymentNotice.Matches
  infer_instance

instance (n : PaymentNotice) (p : Payment) : Decidable (n.Agrees p) :=
  decidable_of_iff (∀ pinned ∈ p.providerPaymentId, .text pinned = n.paymentId) Iff.rfl

/-- The payment with a provider payment pinned. -/
def Payment.pinned (p : Payment) (paymentId : String) : Payment :=
  { p with providerPaymentId := some paymentId }

/-- What the handler does with the payment it has pinned. -/
def PaymentNotice.appliedTo (n : PaymentNotice) (p : Payment) (now : Timestamp) (db : Database) :
    Except Raised Database :=
  match n.event with
  | .authorized =>
      db.updatePayment (if p.status = .orderCreated then { p with status := .authorized } else p)
  | .captured => applyCapturedPayment p db
  | .failed => applyFailedPayment p now db

/-- What the handler does with the payment it has found, once the notice is accepted. -/
def PaymentNotice.applied (n : PaymentNotice) (p : Payment) (now : Timestamp) (db : Database) :
    Except Raised Database := do
  let paymentId ← n.paymentId.encoded
  n.appliedTo (p.pinned paymentId) now db

theorem PaymentNotice.applied_eq_ok {n : PaymentNotice} {p : Payment} {now : Timestamp}
    {db db' : Database} : n.applied p now db = .ok db' ↔
      ∃ paymentId, n.paymentId = .text paymentId ∧
        n.appliedTo (p.pinned paymentId) now db = .ok db' := by
  simp [applied]

/-- What is recorded on the payment of a notice that is not accepted. -/
def PaymentNotice.complaint (n : PaymentNotice) (p : Payment) : String :=
  if n.Matches p then "provider_payment_id_mismatch" else "provider_amount_mismatch"

theorem PaymentNotice.complaint_of_matches {n : PaymentNotice} {p : Payment} (h : n.Matches p) :
    n.complaint p = "provider_payment_id_mismatch" := if_pos h

theorem PaymentNotice.complaint_of_not_matches {n : PaymentNotice} {p : Payment}
    (h : ¬n.Matches p) : n.complaint p = "provider_amount_mismatch" := if_neg h

theorem applyPaymentEvent_cases {event : PaymentEvent} {entity : List (PyStr × Json)}
    {now : Timestamp} {db db' : Database} {status : WebhookEventStatus}
    (h : applyPaymentEvent event entity now db = .ok (status, db')) :
    ∃ n, PaymentNotice.ofEntity event entity = some n ∧
      ((n.subject db = none ∧ status = .ignored ∧ db' = db) ∨
      ∃ p, n.subject db = some p ∧
        ((status = .ignored ∧ ¬(n.Matches p ∧ n.Agrees p) ∧
            db.updatePayment { p with lastErrorCode := some (n.complaint p) } = .ok db') ∨
          (status = .processed ∧ n.Matches p ∧ n.Agrees p ∧ n.applied p now db = .ok db'))) := by
  simp only [applyPaymentEvent, bind_eq_ok, orRaise_eq_ok, PyStr.parameter_eq_ok] at h
  obtain ⟨_, horder, paymentId, hpayment, orderId, ⟨rfl, hfree⟩, h⟩ := h
  refine ⟨⟨event, entity, orderId, paymentId⟩,
    PaymentNotice.ofEntity_eq_some.mpr ⟨rfl, rfl, horder, hfree, hpayment⟩, ?_⟩
  split at h
  · next hnone =>
    simp only [pure_eq_ok, Prod.mk.injEq] at h
    obtain ⟨rfl, rfl⟩ := h
    exact Or.inl ⟨hnone, rfl, rfl⟩
  · next p hp =>
    refine Or.inr ⟨p, hp, ?_⟩
    split at h
    · next hmatch =>
      simp only [bind_eq_ok, pure_eq_ok, Prod.mk.injEq] at h
      obtain ⟨db₁, hupd, rfl, rfl⟩ := h
      refine Or.inl ⟨rfl, fun hboth => hmatch hboth.1, ?_⟩
      rw [PaymentNotice.complaint_of_not_matches (n := ⟨event, entity, orderId, paymentId⟩) hmatch]
      exact hupd
    · next hmatch =>
      split at h
      · next hagree =>
        simp only [bind_eq_ok, pure_eq_ok, Prod.mk.injEq] at h
        obtain ⟨db₁, hupd, rfl, rfl⟩ := h
        refine Or.inl ⟨rfl, fun hboth => ?_, ?_⟩
        · obtain ⟨pinned, hpinned, hne⟩ := hagree
          exact hne (hboth.2 pinned hpinned)
        · rw [PaymentNotice.complaint_of_matches (n := ⟨event, entity, orderId, paymentId⟩)
            (not_not.mp hmatch)]
          exact hupd
      · next hagree =>
        have hagrees : (⟨event, entity, orderId, paymentId⟩ : PaymentNotice).Agrees p := by
          intro pinned hpinned
          by_contra hne
          exact hagree ⟨pinned, hpinned, hne⟩
        simp only [bind_eq_ok, PyStr.encoded_eq_ok] at h
        obtain ⟨id, rfl, h⟩ := h
        refine Or.inr ⟨?_, not_not.mp hmatch, hagrees, PaymentNotice.applied_eq_ok.mpr ⟨id, rfl, ?_⟩⟩ <;>
          cases event <;>
          simp only [bind_eq_ok, pure_eq_ok, Prod.mk.injEq] at h <;>
          obtain ⟨db₁, happlied, rfl, rfl⟩ := h
        all_goals first | rfl | exact happlied

/-- What `updatePayment` checks of a pinned payment is that it may pin the identifier. -/
theorem PaymentNotice.mayPin {n : PaymentNotice} {p q : Payment} {db db' : Database}
    {paymentId : String} (hupd : db.updatePayment q = .ok db') (hagrees : n.Agrees p)
    (htext : n.paymentId = .text paymentId) (hp : db.payments.find p.id = some p) (hid : q.id = p.id)
    (hpid : q.providerPaymentId = some paymentId) :
    p.MayPin db.ledger paymentId ∧
      db'.ledger = { db.ledger with payments := db.ledger.payments.put q } := by
  obtain ⟨hstorable, hledger⟩ := Database.ledger_updatePayment hupd (by rw [hid]; exact hp)
  refine ⟨⟨fun pinned hpinned => ?_, ?_⟩, hledger⟩
  · exact PyStr.text.inj ((hagrees pinned hpinned).trans htext)
  · rw [← hid]
    exact hstorable.payment paymentId hpid

/-- The identifier of a provider payment can be stored on the payment. -/
def Database.CanPin (db : Database) (p : Payment) (sentId : PyStr) : Prop :=
  ∃ paymentId, sentId = .text paymentId ∧ db.AcceptsPayment (p.pinned paymentId)

instance (db : Database) (p : Payment) (sentId : PyStr) : Decidable (db.CanPin p sentId) :=
  decidable_of_iff (∃ paymentId ∈ sentId.encoded.toOption, db.AcceptsPayment (p.pinned paymentId))
    (by simp only [Option.mem_def, toOption_eq_some, PyStr.encoded_eq_ok, Database.CanPin])

theorem Database.CanPin.congr {db db' : Database} {p : Payment} {sentId : PyStr}
    (h : db.CanPin p sentId) (hdb : db'.payments = db.payments) : db'.CanPin p sentId := by
  obtain ⟨paymentId, htext, haccepts⟩ := h
  exact ⟨paymentId, htext, haccepts.congr hdb rfl rfl rfl⟩

/-- What the handler applies has passed the checks on the pinned payment. -/
theorem PaymentNotice.canPin_of_applied {n : PaymentNotice} {p : Payment} {now : Timestamp}
    {db db' : Database} (h : n.applied p now db = .ok db') : db.CanPin p n.paymentId := by
  obtain ⟨paymentId, htext, h⟩ := applied_eq_ok.mp h
  refine ⟨paymentId, htext, ?_⟩
  have hupdate : ∀ {q : Payment} {db₁ : Database}, db.updatePayment q = .ok db₁ → q.id = p.id →
      q.providerOrderId = p.providerOrderId → q.providerPaymentId = some paymentId →
      db.AcceptsPayment (p.pinned paymentId) := by
    intro q db₁ hupd hid ho hx
    exact (Database.updatePayment_eq_ok.mp hupd).1.congr rfl hid.symm ho.symm hx.symm
  unfold PaymentNotice.appliedTo at h
  split at h
  · split at h
    · exact hupdate h rfl rfl rfl
    · exact hupdate h rfl rfl rfl
  · rcases applyCapturedPayment_cases h with ⟨_, hupd⟩ | ⟨_, _, _, ⟨_, _, hupd, _⟩ | ⟨_, hupd⟩ |
      ⟨_, _, hupd⟩⟩ <;> exact hupdate hupd rfl rfl rfl
  · rcases applyFailedPayment_cases h with ⟨_, hupd⟩ | ⟨_, _, _, _, hupd, _⟩ <;>
      exact hupdate hupd rfl rfl rfl

theorem PaymentNotice.applied_move {n : PaymentNotice} {p : Payment} {now : Timestamp}
    {db db' : Database} (hp : db.payments.find p.id = some p) (horder : p.providerOrderId ≠ none)
    (hagrees : n.Agrees p) (h : n.applied p now db = .ok db') :
    ∃ c, (c = .other ∨ (c = .capture p.id ∧ n.event = .captured)) ∧ Move db.ledger c db'.ledger := by
  obtain ⟨paymentId, htext, h⟩ := applied_eq_ok.mp h
  -- the booking row is not touched by the write of the payment
  have hbooking : ∀ {q : Payment} {b : Booking} {db₁ : Database}, db.updatePayment q = .ok db₁ →
      q.id = p.id → db.bookings.find p.bookingId = some b →
      db₁.bookings.find b.id = some b := by
    intro q b db₁ hupd hid hb
    obtain ⟨_, hledger⟩ := Database.ledger_updatePayment hupd (by rw [hid]; exact hp)
    rw [← Database.bookings_ledger, hledger]
    exact Database.find_booking_id hb
  unfold PaymentNotice.appliedTo at h
  split at h
  · refine ⟨.other, Or.inl rfl, ?_⟩
    split at h
    · next hcreated =>
      obtain ⟨hpin, hledger⟩ := mayPin h hagrees htext hp rfl rfl
      rw [hledger]
      exact Move.authorize p paymentId hp hcreated hpin
    · next hcreated =>
      obtain ⟨hpin, hledger⟩ := mayPin h hagrees htext hp rfl rfl
      rw [hledger]
      exact Move.pin p paymentId hp horder hcreated hpin
  · next hevent =>
    rcases applyCapturedPayment_cases h with ⟨hrefunded, hupd⟩ | ⟨hrefunded, b, hb, hcases⟩
    · obtain ⟨hpin, hledger⟩ := mayPin hupd hagrees htext hp rfl rfl
      rw [hledger]
      refine ⟨.other, Or.inl rfl, Move.pin p paymentId hp horder ?_ hpin⟩
      rw [show p.status = .refunded from hrefunded]
      decide
    · refine ⟨.capture p.id, Or.inr ⟨rfl, hevent⟩, ?_⟩
      rcases hcases with ⟨hpending, db₁, hupd, rfl⟩ | ⟨hconfirmed, hupd⟩ |
        ⟨hpending, hconfirmed, hupd⟩
      · obtain ⟨hpin, hledger⟩ := mayPin hupd hagrees htext hp rfl rfl
        have hb₁ : db₁.bookings.find (b.advance .confirmed).id = some b := hbooking hupd rfl hb
        rw [Database.ledger_updateBooking hb₁, hledger]
        exact Move.confirm p b paymentId hp hb horder hrefunded hpin hpending
      · obtain ⟨hpin, hledger⟩ := mayPin hupd hagrees htext hp rfl rfl
        rw [hledger]
        exact Move.captureAgain p b paymentId hp hb horder hrefunded hpin hconfirmed
      · obtain ⟨hpin, hledger⟩ := mayPin hupd hagrees htext hp rfl rfl
        rw [hledger]
        exact Move.captureLate p b paymentId hp hb horder hrefunded hpin hpending hconfirmed
  · refine ⟨.other, Or.inl rfl, ?_⟩
    rcases applyFailedPayment_cases h with ⟨hcol, hupd⟩ | ⟨hcol, b, db₁, hb, hupd, rfl⟩
    · obtain ⟨hpin, hledger⟩ := mayPin hupd hagrees htext hp rfl rfl
      rw [hledger]
      refine Move.pin p paymentId hp horder ?_ hpin
      intro hcreated
      rcases hcol with hs | hs <;> rw [show p.status = _ from hs] at hcreated <;> cases hcreated
    · obtain ⟨hpin, hledger⟩ := mayPin hupd hagrees htext hp rfl rfl
      have hb₁ : db₁.bookings.find (b.release now).id = some b := by
        rw [b.id_release]
        exact hbooking hupd rfl hb
      rw [Database.ledger_updateBooking hb₁, hledger]
      exact Move.fail p b paymentId now hp hb horder (fun hs => hcol (Or.inl hs))
        (fun hs => hcol (Or.inr hs)) hpin

/-- The notice is of a capture of the payment that the handler accepts and the database stores. -/
structure PaymentNotice.Captures (n : PaymentNotice) (p : Payment) (db : Database) : Prop where
  event : n.event = .captured
  isMatch : n.Matches p
  agrees : n.Agrees p
  canPin : db.CanPin p n.paymentId

instance (n : PaymentNotice) (p : Payment) (db : Database) : Decidable (n.Captures p db) :=
  decidable_of_iff (n.event = .captured ∧ n.Matches p ∧ n.Agrees p ∧ db.CanPin p n.paymentId)
    ⟨fun ⟨h₁, h₂, h₃, h₄⟩ => ⟨h₁, h₂, h₃, h₄⟩, fun ⟨h₁, h₂, h₃, h₄⟩ => ⟨h₁, h₂, h₃, h₄⟩⟩

/-- The causes that a notice about a payment accounts for. -/
def PaymentNotice.Explains (n : PaymentNotice) (p : Payment) (db : Database) (c : Cause) : Prop :=
  c = .other ∨ (c = .capture p.id ∧ n.Captures p db) ∨
    (c = .mismatch p.id ∧ ¬(n.Matches p ∧ n.Agrees p))

theorem applyPaymentEvent_move {event : PaymentEvent} {entity : List (PyStr × Json)}
    {now : Timestamp} {db db' : Database} {status : WebhookEventStatus}
    (h : applyPaymentEvent event entity now db = .ok (status, db')) :
    ∃ c, (c = .other ∨ ∃ n p, PaymentNotice.ofEntity event entity = some n ∧
      n.subject db = some p ∧ n.Explains p db c) ∧ Move db.ledger c db'.ledger := by
  obtain ⟨n, hn, hcases⟩ := applyPaymentEvent_cases h
  rcases hcases with ⟨_, _, rfl⟩ | ⟨p, hp, ⟨_, hboth, hupd⟩ | ⟨_, hmatch, hagrees, happlied⟩⟩
  · exact ⟨.other, Or.inl rfl, Move.stay⟩
  · obtain ⟨hfind, horder⟩ := PaymentNotice.find_subject hp
    obtain ⟨_, hledger⟩ := Database.ledger_updatePayment hupd hfind
    rw [hledger]
    exact ⟨.mismatch p.id, Or.inr ⟨n, p, hn, hp, Or.inr (Or.inr ⟨rfl, hboth⟩)⟩,
      Move.mismatch p _ hfind (by simp [horder])⟩
  · obtain ⟨hfind, horder⟩ := PaymentNotice.find_subject hp
    obtain ⟨c, hc, hmove⟩ :=
      PaymentNotice.applied_move hfind (by simp [horder]) hagrees happlied
    refine ⟨c, Or.inr ⟨n, p, hn, hp, ?_⟩, hmove⟩
    rcases hc with rfl | ⟨rfl, hevent⟩
    · exact Or.inl rfl
    · exact Or.inr (Or.inl ⟨rfl, hevent, hmatch, hagrees, PaymentNotice.canPin_of_applied happlied⟩)

/-! ### Refund events -/

theorem RefundStatus.rank_le_processed (s : RefundStatus) : s.rank ≤ RefundStatus.processed.rank := by
  cases s <;> decide

theorem RefundStatus.rank_le_failed {s : RefundStatus} (h : s ≠ .processed) :
    s.rank ≤ RefundStatus.failed.rank := by
  cases s <;> first | exact absurd rfl h | decide

theorem applyRefundEvent_move {event : RefundEvent} {entity : List (PyStr × Json)}
    {now : Timestamp} {db db' : Database} {status : WebhookEventStatus}
    (h : applyRefundEvent event entity now db = .ok (status, db')) :
    Move db.ledger .other db'.ledger := by
  simp only [applyRefundEvent, bind_eq_ok, orRaise_eq_ok] at h
  obtain ⟨refundId, _, _, _, paymentId, _, h⟩ := h
  split at h
  · simp only [pure_eq_ok, Prod.mk.injEq] at h
    rw [← h.2]
    exact Move.stay
  next p hp =>
  split at h
  · simp only [pure_eq_ok, Prod.mk.injEq] at h
    rw [← h.2]
    exact Move.stay
  next r hr =>
  have hpid : db.payments.find p.id = some p := Table.find_key (Table.mem_of_scalar hp)
  have hrid : db.refunds.find r.id = some r := Table.find_key (Table.mem_of_scalar hr)
  have hreturns : r.paymentId = p.id := by simpa using Table.prop_of_scalar hr
  -- a change that leaves `PROCESSED` and the time of processing alone
  have hchange : ∀ {r' : Refund} {db₁ : Database}, db.updateRefund r' = .ok db₁ → r.Continues r' →
      (r'.status = .processed ↔ r.status = .processed) → r'.processedAt = r.processedAt →
      Move db.ledger .other db₁.ledger := by
    intro r' db₁ hupd hcont hprocessed hat
    rw [Database.ledger_updateRefund hupd (hcont.id ▸ hrid)]
    exact Move.refundChange r r' hrid hcont hprocessed hat
  split at h
  · simp only [bind_eq_ok, pure_eq_ok, Prod.mk.injEq] at h
    obtain ⟨db₁, hupd, _, rfl⟩ := h
    exact hchange hupd ⟨rfl, rfl, rfl, rfl, rfl, rfl, rfl, Nat.le_refl _⟩ Iff.rfl rfl
  split at h
  · simp only [bind_eq_ok, pure_eq_ok, Prod.mk.injEq] at h
    obtain ⟨db₁, hupd, _, rfl⟩ := h
    exact hchange hupd ⟨rfl, rfl, rfl, rfl, rfl, rfl, rfl, Nat.le_refl _⟩ Iff.rfl rfl
  simp only [bind_eq_ok, PyStr.encoded_eq_ok] at h
  obtain ⟨refundId, rfl, h⟩ := h
  cases event with
  | processed =>
      simp only [bind_eq_ok, pure_eq_ok, Prod.mk.injEq] at h
      obtain ⟨db₂, hrefund, db₁, hpayment, _, rfl⟩ := h
      have hledger₂ := Database.ledger_updateRefund hrefund hrid
      have hp₂ : db₂.payments.find p.id = some p := by
        rw [← Database.payments_ledger, hledger₂]
        exact hpid
      obtain ⟨_, hledger⟩ := Database.ledger_updatePayment hpayment hp₂
      rw [hledger, hledger₂]
      exact Move.refundProcess r _ p hrid hpid hreturns
        ⟨rfl, rfl, rfl, rfl, rfl, rfl, rfl, RefundStatus.rank_le_processed _⟩ rfl
        (Option.some_ne_none now)
  | failed =>
      simp only [bind_eq_ok, pure_eq_ok, Prod.mk.injEq] at h
      obtain ⟨db₁, hupd, _, rfl⟩ := h
      split at hupd
      · next hstatus =>
        exact hchange hupd ⟨rfl, rfl, rfl, rfl, rfl, rfl, rfl, RefundStatus.rank_le_failed hstatus⟩
          ⟨fun hs => (by cases hs), fun hs => absurd hs hstatus⟩ rfl
      · exact hchange hupd ⟨rfl, rfl, rfl, rfl, rfl, rfl, rfl, Nat.le_refl _⟩ Iff.rfl rfl

/-! ### Deliveries -/

/-- The transaction of a delivery: refused or found a duplicate, or committed with the event row
and what the event did. -/
theorem storeDelivery_cases (d : Delivery) (rowId : Uuid) (now : Timestamp) (db : Database) :
    ((∀ status, (storeDelivery d rowId now db).1 ≠ .ok (.event status)) ∧
      (storeDelivery d rowId now db).2 = db) ∨
    ∃ event flushed db₁ status, d.flush rowId db = .ok (event, flushed) ∧
      (storeDelivery d rowId now db).1 = .ok (.event status) ∧
      (storeDelivery d rowId now db).2 =
        db₁.updateWebhookEvent { event with status, processedAt := some now } ∧
      ((SupportedEvent.ofStr d.eventType = none ∧ status = .ignored ∧ db₁ = flushed) ∨
        (∃ event entity, SupportedEvent.ofStr d.eventType = some (.refund event) ∧
          nestedEntity d.payload "refund" = .ok entity ∧
          applyRefundEvent event entity now flushed = .ok (status, db₁)) ∨
        ∃ event entity, SupportedEvent.ofStr d.eventType = some (.payment event) ∧
          nestedEntity d.payload "payment" = .ok entity ∧
          applyPaymentEvent event entity now flushed = .ok (status, db₁)) := by
  unfold storeDelivery
  split
  · split
    · exact Or.inl ⟨by simp, rfl⟩
    · exact Or.inl ⟨by simp, rfl⟩
  · exact Or.inl ⟨by simp, rfl⟩
  next event flushed hflush =>
  have hblock := transaction_cases .integrityError
    (fun _ => applyDelivery d event now flushed) db
  rcases hblock with ⟨e, he⟩ | ⟨outcome, db', hblock, ht⟩
  · rw [he]
    exact Or.inl ⟨by simp, rfl⟩
  · rw [ht]
    refine Or.inr ⟨event, flushed, ?_⟩
    unfold applyDelivery at hblock
    split at hblock
    · next hsup =>
      simp only [bind_eq_ok, pure_eq_ok, Prod.mk.injEq] at hblock
      obtain ⟨_, hpair, rfl, rfl⟩ := hblock
      cases hpair
      exact ⟨flushed, .ignored, hflush, rfl, rfl, Or.inl ⟨hsup, rfl, rfl⟩⟩
    · next event hsup =>
      simp only [bind_eq_ok, pure_eq_ok, Prod.mk.injEq] at hblock
      obtain ⟨entity, hentity, ⟨status, db₁⟩, happlied, rfl, rfl⟩ := hblock
      exact ⟨db₁, status, hflush, rfl, rfl, Or.inr (Or.inl ⟨event, entity, hsup, hentity, happlied⟩)⟩
    · next event hsup =>
      simp only [bind_eq_ok, pure_eq_ok, Prod.mk.injEq] at hblock
      obtain ⟨entity, hentity, ⟨status, db₁⟩, happlied, rfl, rfl⟩ := hblock
      exact ⟨db₁, status, hflush, rfl, rfl, Or.inr (Or.inr ⟨event, entity, hsup, hentity, happlied⟩)⟩

/-- The row of the event is all that a flush adds. -/
theorem Delivery.flush_eq_ok {d : Delivery} {rowId : Uuid} {db db' : Database}
    {event : PaymentWebhookEvent} : d.flush rowId db = .ok (event, db') ↔
      ∃ eventType, d.eventType = .text eventType ∧ event = d.eventRow rowId eventType ∧
        db.insertWebhookEvent event = .ok db' := by
  simp only [flush, bind_eq_ok, PyStr.encoded_eq_ok, pure_eq_ok, Prod.mk.injEq]
  constructor
  · rintro ⟨eventType, htype, flushed, hflush, rfl, rfl⟩
    exact ⟨eventType, htype, rfl, hflush⟩
  · rintro ⟨eventType, htype, rfl, hflush⟩
    exact ⟨eventType, htype, db', hflush, rfl, rfl⟩

theorem Delivery.flushed {d : Delivery} {rowId : Uuid} {db db' : Database}
    {event : PaymentWebhookEvent} (h : d.flush rowId db = .ok (event, db')) :
    db.insertWebhookEvent event = .ok db' := by
  obtain ⟨_, _, _, hflush⟩ := flush_eq_ok.mp h
  exact hflush

theorem Delivery.payments_flush {d : Delivery} {rowId : Uuid} {db db' : Database}
    {event : PaymentWebhookEvent} (h : d.flush rowId db = .ok (event, db')) :
    db'.payments = db.payments := by
  obtain ⟨_, _, t, _, rfl⟩ := Database.insertWebhookEvent_eq_ok.mp (flushed h)
  rfl

theorem Delivery.refunds_flush {d : Delivery} {rowId : Uuid} {db db' : Database}
    {event : PaymentWebhookEvent} (h : d.flush rowId db = .ok (event, db')) :
    db'.refunds = db.refunds := by
  obtain ⟨_, _, t, _, rfl⟩ := Database.insertWebhookEvent_eq_ok.mp (flushed h)
  rfl

theorem Delivery.ledger_flush {d : Delivery} {rowId : Uuid} {db db' : Database}
    {event : PaymentWebhookEvent} (h : d.flush rowId db = .ok (event, db')) :
    db'.ledger = db.ledger :=
  Database.ledger_insertWebhookEvent (flushed h)

theorem storeDelivery_move (d : Delivery) (rowId : Uuid) (now : Timestamp) (db : Database) :
    ∃ c, (c = .other ∨ (∃ flushed, d.flush rowId db = .ok flushed) ∧
        ∃ n p, d.notice = some n ∧ n.subject db = some p ∧ n.Explains p db c) ∧
      Move db.ledger c (storeDelivery d rowId now db).2.ledger := by
  rcases storeDelivery_cases d rowId now db with
    ⟨_, h⟩ | ⟨row, flushed, db₁, status, hflush, _, h, hcases⟩
  · rw [h]
    exact ⟨.other, Or.inl rfl, Move.stay⟩
  · rw [h, Database.ledger_updateWebhookEvent, ← Delivery.ledger_flush hflush]
    have hpayments := Delivery.payments_flush hflush
    rcases hcases with ⟨_, _, rfl⟩ | ⟨event, entity, _, _, h⟩ | ⟨event, entity, hsup, hentity, h⟩
    · exact ⟨.other, Or.inl rfl, Move.stay⟩
    · exact ⟨.other, Or.inl rfl, applyRefundEvent_move h⟩
    · obtain ⟨c, hc, hmove⟩ := applyPaymentEvent_move h
      refine ⟨c, ?_, hmove⟩
      rcases hc with rfl | ⟨n, p, hn, hp, hexp⟩
      · exact Or.inl rfl
      · refine Or.inr ⟨⟨_, hflush⟩, n, p, ?_, ?_, ?_⟩
        · simp only [Delivery.notice, hsup, hentity, Except.toOption, Option.bind_some, hn]
        · rwa [PaymentNotice.subject, ← hpayments]
        · rcases hexp with rfl | ⟨rfl, hcaptures⟩ | ⟨rfl, hboth⟩
          · exact Or.inl rfl
          · exact Or.inr (Or.inl ⟨rfl, hcaptures.event, hcaptures.isMatch, hcaptures.agrees,
              hcaptures.canPin.congr hpayments.symm⟩)
          · exact Or.inr (Or.inr ⟨rfl, hboth⟩)

end ChargeMate
