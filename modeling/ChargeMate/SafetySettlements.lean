import Mathlib.Data.List.Infix
import ChargeMate.SafetyReconciliation

/-! How a refund is settled: by the answer to its request, by an event of the provider or by the
reconciliation. The three write the same columns but for the error code, which the reconciliation
alone clears. -/

namespace ChargeMate

open Relational

/-- The entity of a refund event, by the fields that the handler reads. The identifier of the
payment is the parameter of a query. -/
structure RefundNotice where
  event : RefundEvent
  refundId : PyStr
  paymentId : String
  amount : Json
  currency : Json

/-- The refund with the identifier of the provider. -/
def Refund.pinned (r : Refund) (refundId : String) : Refund :=
  { r with providerRefundId := some refundId }

/-- The identifier can be stored on the refund. -/
def Database.CanPinRefund (db : Database) (r : Refund) (sentId : PyStr) : Prop :=
  ∃ refundId, sentId = .text refundId ∧ db.AcceptsRefund (r.pinned refundId)

namespace RefundNotice

def ofEntity (event : RefundEvent) (entity : List (PyStr × Json)) : Option RefundNotice := do
  let refundId ← (getEntry entity "id").asStr
  let sentId ← (getEntry entity "payment_id").asStr
  let paymentId ← sentId.parameter.toOption
  return {
    event
    refundId
    paymentId
    amount := getEntry entity "amount"
    currency := getEntry entity "currency" }

variable (n : RefundNotice)

/-- The payment and the refund that the handler finds. -/
def subject (db : Database) : Option (Payment × Refund) := do
  let payment ← db.payments.scalar fun p => p.providerPaymentId = some n.paymentId
  let refund ← db.refunds.scalar fun r => r.paymentId = payment.id
  return (payment, refund)

/-- Right amount and currency, and no other identifier on the refund. -/
structure Matches (r : Refund) : Prop where
  amount : n.amount.eqInt r.amountSubunits = true
  currency : n.currency.eqStr r.currency = true
  id : ∀ pinned ∈ r.providerRefundId, .text pinned = n.refundId

instance (r : Refund) : Decidable (n.Matches r) :=
  decidable_of_iff (n.amount.eqInt r.amountSubunits = true ∧ n.currency.eqStr r.currency = true ∧
      ∀ pinned ∈ r.providerRefundId, .text pinned = n.refundId)
    ⟨fun ⟨h₁, h₂, h₃⟩ => ⟨h₁, h₂, h₃⟩, fun ⟨h₁, h₂, h₃⟩ => ⟨h₁, h₂, h₃⟩⟩

/-- The refund, once it has the identifier of the event, with its verdict. -/
def refund (r : Refund) (now : Timestamp) : Refund :=
  match n.event with
  | .processed => { r with status := .processed, processedAt := some now }
  | .failed =>
      if r.status ≠ .processed then
        { r with status := .failed, lastErrorCode := some "provider_refund_failed" }
      else r

def payment (p : Payment) : Payment :=
  match n.event with
  | .processed => { p with status := .refunded }
  | .failed => p

/-- The error code that a contradicting event leaves. -/
def complaint (r : Refund) : String :=
  if n.amount.eqInt r.amountSubunits ∧ n.currency.eqStr r.currency then
    "provider_refund_id_mismatch"
  else "provider_refund_amount_mismatch"

def complained (r : Refund) : Refund := { r with lastErrorCode := some (n.complaint r) }

variable {n} {event : RefundEvent} {entity : List (PyStr × Json)} {db : Database} {p : Payment}
  {r : Refund}

theorem ofEntity_eq_some : ofEntity event entity = some n ↔
    n.event = event ∧ (getEntry entity "id").asStr = some n.refundId ∧
      (getEntry entity "payment_id").asStr = some (.text n.paymentId) ∧
      nullFree n.paymentId = true ∧
      n.amount = getEntry entity "amount" ∧ n.currency = getEntry entity "currency" := by
  simp only [ofEntity, Option.bind_eq_bind, Option.bind_eq_some_iff, Option.pure_def,
    Option.some.injEq, toOption_eq_some, PyStr.parameter_eq_ok]
  constructor
  · rintro ⟨_, hid, _, hpayment, _, ⟨rfl, hfree⟩, rfl⟩
    exact ⟨rfl, hid, hpayment, hfree, rfl, rfl⟩
  · obtain ⟨event', refundId, paymentId, amount, currency⟩ := n
    rintro ⟨rfl, hid, hpayment, hfree, rfl, rfl⟩
    exact ⟨_, hid, _, hpayment, _, ⟨rfl, hfree⟩, rfl⟩

theorem subject_eq_some (h : n.subject db = some (p, r)) :
    db.payments.scalar (fun p => p.providerPaymentId = some n.paymentId) = some p ∧
      db.refunds.scalar (fun r => r.paymentId = p.id) = some r := by
  simp only [subject, Option.bind_eq_bind, Option.bind_eq_some_iff, Option.pure_def,
    Option.some.injEq] at h
  obtain ⟨p', hp, r', hr, heq⟩ := h
  cases heq
  exact ⟨hp, hr⟩

theorem find_subject (h : n.subject db = some (p, r)) :
    db.payments.find p.id = some p ∧ db.refunds.find r.id = some r ∧ r.paymentId = p.id := by
  obtain ⟨hp, hr⟩ := subject_eq_some h
  exact ⟨Table.find_key (Table.mem_of_scalar hp), Table.find_key (Table.mem_of_scalar hr),
    by simpa using Table.prop_of_scalar hr⟩

theorem id_refund (now : Timestamp) : (n.refund r now).id = r.id := by
  unfold refund
  split
  · rfl
  · split <;> rfl

theorem providerRefundId_refund (now : Timestamp) :
    (n.refund r now).providerRefundId = r.providerRefundId := by
  unfold refund
  split
  · rfl
  · split <;> rfl

theorem payment_columns (p : Payment) : (n.payment p).id = p.id ∧
    (n.payment p).providerOrderId = p.providerOrderId ∧
    (n.payment p).providerPaymentId = p.providerPaymentId := by
  unfold payment
  split <;> exact ⟨rfl, rfl, rfl⟩

end RefundNotice

/-- The database with the verdict of an event in both rows. -/
def Database.notified (db : Database) (n : RefundNotice) (p : Payment) (r : Refund)
    (now : Timestamp) : Database :=
  { db with
    refunds := db.refunds.set (n.refund r now)
    payments := db.payments.set (n.payment p) }

/-- The database with a complaint on the refund. -/
def Database.complained (db : Database) (n : RefundNotice) (r : Refund) : Database :=
  { db with refunds := db.refunds.set (n.complained r) }

section

variable {event : RefundEvent} {entity : List (PyStr × Json)} {n : RefundNotice} {db : Database}
  {p : Payment} {r : Refund} {refundId : String}

theorem applyRefundEvent_of_ofEntity_none (h : RefundNotice.ofEntity event entity = none)
    (now : Timestamp) : ∃ e, applyRefundEvent event entity now db = .error e := by
  unfold applyRefundEvent
  cases hid : (getEntry entity "id").asStr with
  | none => exact ⟨_, rfl⟩
  | some refundId =>
  cases hpayment : (getEntry entity "payment_id").asStr with
  | none => exact ⟨_, rfl⟩
  | some sentId =>
  cases hsent : sentId.parameter with
  | error e => exact ⟨e, by simp only [orRaise, bind, Except.bind, hsent]⟩
  | ok paymentId => simp [RefundNotice.ofEntity, hid, hpayment, hsent, Except.toOption] at h

theorem applyRefundEvent_of_subject_none (hn : RefundNotice.ofEntity event entity = some n)
    (h : n.subject db = none) (now : Timestamp) :
    applyRefundEvent event entity now db = .ok (.ignored, db) := by
  obtain ⟨-, hid, hpayment, hfree, -, -⟩ := RefundNotice.ofEntity_eq_some.mp hn
  have hsent := PyStr.parameter_eq_ok.mpr ⟨rfl, hfree⟩
  simp only [applyRefundEvent, hid, hpayment, orRaise, bind, Except.bind, hsent]
  cases hp : db.payments.scalar fun p => p.providerPaymentId = some n.paymentId with
  | none => rfl
  | some p =>
      cases hr : db.refunds.scalar fun r => r.paymentId = p.id with
      | none => simp only [hr, pure, Except.pure]
      | some r => simp [RefundNotice.subject, hp, hr] at h

/-- What the handler does with a notice about a refund that it has found. -/
theorem applyRefundEvent_of_subject (hn : RefundNotice.ofEntity event entity = some n)
    (hs : n.subject db = some (p, r)) (now : Timestamp) :
    applyRefundEvent event entity now db =
      if n.Matches r then do
        let refundId ← n.refundId.encoded
        let db ← db.updateRefund (n.refund (r.pinned refundId) now)
        let db ← match n.event with
          | .processed => db.updatePayment (n.payment p)
          | .failed => .ok db
        return (.processed, db)
      else do
        let db ← db.updateRefund (n.complained r)
        return (.ignored, db) := by
  obtain ⟨rfl, hid, hpayment, hfree, hamount, hcurrency⟩ := RefundNotice.ofEntity_eq_some.mp hn
  obtain ⟨hp, hr⟩ := RefundNotice.subject_eq_some hs
  have hsent := PyStr.parameter_eq_ok.mpr ⟨rfl, hfree⟩
  simp only [applyRefundEvent, hid, hpayment, orRaise, bind, Except.bind, hsent, ← hamount,
    ← hcurrency]
  rw [hp]
  simp only
  rw [hr]
  simp only
  by_cases hright : n.amount.eqInt r.amountSubunits = true ∧ n.currency.eqStr r.currency = true
  · by_cases hother : ∃ pinned ∈ r.providerRefundId, .text pinned ≠ n.refundId
    · have hmatch : ¬n.Matches r := by
        rintro ⟨-, -, hpinned⟩
        obtain ⟨pinned, hmem, hne⟩ := hother
        exact hne (hpinned pinned hmem)
      rw [if_neg hmatch, if_neg (not_not.mpr hright), if_pos hother, RefundNotice.complained,
        RefundNotice.complaint, if_pos hright]
    · have hmatch : n.Matches r := by
        refine ⟨hright.1, hright.2, fun pinned hmem => ?_⟩
        by_contra hne
        exact hother ⟨pinned, hmem, hne⟩
      rw [if_pos hmatch, if_neg (not_not.mpr hright), if_neg hother]
      cases n.refundId.encoded with
      | error e => rfl
      | ok refundId =>
      simp only [RefundNotice.refund, RefundNotice.payment, Refund.pinned]
      cases n.event with
      | processed => rfl
      | failed =>
        -- the database comes back as it was after the update of the refund
        by_cases hprocessed : r.status = .processed
        · simp only [hprocessed, ne_eq, not_true_eq_false, ↓reduceIte]
        · simp only [hprocessed, ne_eq, not_false_eq_true, ↓reduceIte]
  · have hmatch : ¬n.Matches r := fun h => hright ⟨h.amount, h.currency⟩
    rw [if_neg hmatch, if_pos hright, RefundNotice.complained, RefundNotice.complaint,
      if_neg hright]

/-- A contradicting event leaves its complaint, whatever the status of the refund. -/
theorem Database.Updatable.applyRefundEvent_of_not_matches (h : db.Updatable)
    (hn : RefundNotice.ofEntity event entity = some n) (hs : n.subject db = some (p, r))
    (hmatch : ¬n.Matches r) (now : Timestamp) :
    applyRefundEvent event entity now db = .ok (.ignored, db.complained n r) := by
  have hstored := h.fits.refunds r (Table.mem_of_find (RefundNotice.find_subject hs).2.1)
  have hupdate : db.updateRefund (n.complained r) = .ok (db.complained n r) :=
    Database.updateRefund_eq_ok.mpr ⟨hstored.congr rfl rfl, rfl⟩
  rw [applyRefundEvent_of_subject hn hs, if_neg hmatch, hupdate]
  rfl

/-- The checks of the update read the identifier that the event brings. -/
theorem acceptsRefund_refund_iff (now : Timestamp) :
    db.AcceptsRefund (n.refund r now) ↔ db.AcceptsRefund r :=
  ⟨fun h => h.congr (RefundNotice.id_refund now).symm
      (RefundNotice.providerRefundId_refund now).symm,
    fun h => h.congr (RefundNotice.id_refund now) (RefundNotice.providerRefundId_refund now)⟩

theorem Database.Updatable.applyRefundEvent_of_matches (h : db.Updatable)
    (hn : RefundNotice.ofEntity event entity = some n) (hs : n.subject db = some (p, r))
    (hmatch : n.Matches r) (hid : n.refundId = .text refundId)
    (haccepts : db.AcceptsRefund (r.pinned refundId)) (now : Timestamp) :
    applyRefundEvent event entity now db =
      .ok (.processed, db.notified n p (r.pinned refundId) now) := by
  obtain ⟨hp, -, -⟩ := RefundNotice.find_subject hs
  have hpayment := h.payments p (Table.mem_of_find hp)
  have hupdate := Database.updateRefund_eq_ok.mpr
    ⟨(acceptsRefund_refund_iff (n := n) now).mpr haccepts, rfl⟩
  rw [applyRefundEvent_of_subject hn hs, if_pos hmatch, PyStr.encoded_eq_ok.mpr hid]
  simp only [bind, Except.bind]
  rw [hupdate]
  cases hevent : n.event with
  | processed =>
      obtain ⟨hid, horder, hpin⟩ := RefundNotice.payment_columns (n := n) p
      have hpay : ({ db with refunds := db.refunds.set (n.refund (r.pinned refundId) now) } :
          Database).updatePayment (n.payment p) = .ok (db.notified n p (r.pinned refundId) now) :=
        Database.updatePayment_eq_ok.mpr ⟨hpayment.congr rfl hid horder hpin, rfl⟩
      simp only [hpay]
      rfl
  | failed =>
      have hsame : db.payments.set (n.payment p) = db.payments := by
        rw [RefundNotice.payment, hevent]
        exact Table.set_self (Table.mem_of_find hp)
      rw [Database.notified, hsame]
      rfl

/-- An identifier that the column refuses, or that another refund has, rolls the event back. -/
theorem applyRefundEvent_of_refused (hn : RefundNotice.ofEntity event entity = some n)
    (hs : n.subject db = some (p, r)) (hmatch : n.Matches r)
    (hrefused : ¬db.CanPinRefund r n.refundId) (now : Timestamp) :
    ∃ e, applyRefundEvent event entity now db = .error e := by
  rw [applyRefundEvent_of_subject hn hs, if_pos hmatch]
  cases hid : n.refundId with
  | lone start surrogate rest => exact ⟨.unicodeEncodeError, rfl⟩
  | text refundId =>
      simp only [PyStr.encoded, bind, Except.bind]
      cases hupdate : db.updateRefund (n.refund (r.pinned refundId) now) with
      | error e => exact ⟨e, rfl⟩
      | ok db' =>
          have haccepts := (Database.updateRefund_eq_ok.mp hupdate).1
          exact absurd ⟨refundId, hid, (acceptsRefund_refund_iff now).mp haccepts⟩ hrefused

end

/-! ### Deliveries -/

/-- The refund event that a delivery carries. -/
def Delivery.refundNotice (d : Delivery) : Option RefundNotice :=
  match SupportedEvent.ofStr d.eventType with
  | some (.refund event) =>
      (nestedEntity d.payload "refund").toOption.bind (RefundNotice.ofEntity event)
  | _ => none

theorem Delivery.refundNotice_eq_some {d : Delivery} {n : RefundNotice}
    (h : d.refundNotice = some n) : ∃ event entity,
      SupportedEvent.ofStr d.eventType = some (.refund event) ∧
      nestedEntity d.payload "refund" = .ok entity ∧
      RefundNotice.ofEntity event entity = some n := by
  unfold Delivery.refundNotice at h
  split at h
  · next event hsup =>
    cases hentity : nestedEntity d.payload "refund" with
    | error e => simp [hentity, Except.toOption] at h
    | ok entity =>
        simp only [hentity, Except.toOption, Option.bind_some] at h
        exact ⟨event, entity, hsup, rfl, h⟩
  · cases h

section

variable {d : Delivery} {rowId : Uuid} {db flushed : Database} {n : RefundNotice} {p : Payment}
  {r : Refund} {e : PaymentWebhookEvent}

/-- The transaction of a refund event, after its row has been flushed. -/
theorem storeDelivery_of_refund {event : RefundEvent} {entity : List (PyStr × Json)}
    (hflush : d.flush rowId db = .ok (e, flushed))
    (hsup : SupportedEvent.ofStr d.eventType = some (.refund event))
    (hentity : nestedEntity d.payload "refund" = .ok entity) (now : Timestamp) :
    ((∃ e, applyRefundEvent event entity now flushed = .error e) ∧
      (storeDelivery d rowId now db).2 = db) ∨
    ∃ status db₁, applyRefundEvent event entity now flushed = .ok (status, db₁) ∧
      (storeDelivery d rowId now db).2 =
        db₁.updateWebhookEvent { e with status, processedAt := some now } := by
  simp only [storeDelivery, hflush, applyDelivery, hsup, hentity, transaction]
  cases happly : applyRefundEvent event entity now flushed with
  | error e =>
      refine Or.inl ⟨⟨e, rfl⟩, ?_⟩
      simp only [bind, Except.bind, happly]
      cases e <;> rfl
  | ok result =>
      obtain ⟨status, db₁⟩ := result
      refine Or.inr ⟨status, db₁, rfl, ?_⟩
      simp only [bind, Except.bind, happly]
      rfl

theorem RefundNotice.subject_flushed (h : d.flush rowId db = .ok (e, flushed)) :
    n.subject flushed = n.subject db := by
  rw [subject, subject, Delivery.payments_flush h, Delivery.refunds_flush h]

theorem Database.Updatable.flush (h : db.Updatable) (hflush : d.flush rowId db = .ok (e, flushed)) :
    flushed.Updatable := by
  obtain ⟨_, _, t, _, rfl⟩ :=
    Database.insertWebhookEvent_eq_ok.mp (Delivery.flushed hflush)
  refine ⟨⟨h.fits.payments, ?_⟩, ?_⟩
  · exact fun r hr => ⟨(h.fits.refunds r hr).fits, (h.fits.refunds r hr).unique⟩
  · exact fun p hp => (h.payments p hp).congr rfl rfl rfl rfl

theorem Database.Updatable.storeDelivery_of_not_matches (h : db.Updatable)
    (hflush : d.flush rowId db = .ok (e, flushed))
    (hn : d.refundNotice = some n) (hs : n.subject db = some (p, r)) (hmatch : ¬n.Matches r)
    (now : Timestamp) :
    (storeDelivery d rowId now db).2.refunds = db.refunds.set (n.complained r) := by
  obtain ⟨event, entity, hsup, hentity, hn⟩ := Delivery.refundNotice_eq_some hn
  have happly := (h.flush hflush).applyRefundEvent_of_not_matches hn
    ((RefundNotice.subject_flushed hflush).trans hs) hmatch now
  rcases storeDelivery_of_refund hflush hsup hentity now with ⟨⟨_, he⟩, -⟩ | ⟨_, _, hok, hdb⟩
  · cases he.symm.trans happly
  · cases hok.symm.trans happly
    rw [hdb, ← Delivery.refunds_flush hflush]
    rfl

theorem Database.Updatable.storeDelivery_of_matches (h : db.Updatable)
    (hflush : d.flush rowId db = .ok (e, flushed))
    (hn : d.refundNotice = some n) (hs : n.subject db = some (p, r)) (hmatch : n.Matches r)
    {refundId : String} (hid : n.refundId = .text refundId)
    (haccepts : db.AcceptsRefund (r.pinned refundId)) (now : Timestamp) :
    (storeDelivery d rowId now db).2.refunds = db.refunds.set (n.refund (r.pinned refundId) now) ∧
      (storeDelivery d rowId now db).2.payments = db.payments.set (n.payment p) := by
  obtain ⟨event, entity, hsup, hentity, hn⟩ := Delivery.refundNotice_eq_some hn
  have hrefunds := Delivery.refunds_flush hflush
  have haccepts' : flushed.AcceptsRefund (r.pinned refundId) :=
    ⟨haccepts.fits, hrefunds ▸ haccepts.unique⟩
  have happly := (h.flush hflush).applyRefundEvent_of_matches hn
    ((RefundNotice.subject_flushed hflush).trans hs) hmatch hid haccepts' now
  rcases storeDelivery_of_refund hflush hsup hentity now with ⟨⟨_, he⟩, -⟩ | ⟨_, _, hok, hdb⟩
  · cases he.symm.trans happly
  · cases hok.symm.trans happly
    rw [hdb, ← hrefunds, ← Delivery.payments_flush hflush]
    exact ⟨rfl, rfl⟩

/-- A delivery whose event is not about a refund that it may write leaves the refunds alone. -/
theorem storeDelivery_refunds (now : Timestamp)
    (h : ∀ flushed n p r, d.flush rowId db = .ok flushed →
      d.refundNotice = some n → n.subject db = some (p, r) →
      n.Matches r ∧ ¬db.CanPinRefund r n.refundId) :
    (storeDelivery d rowId now db).2.refunds = db.refunds := by
  rcases storeDelivery_cases d rowId now db with
    ⟨_, hsame⟩ | ⟨_, flushed, db₁, status, hflush, _, hdb, hcases⟩
  · rw [hsame]
  have hkept : (storeDelivery d rowId now db).2.refunds = db₁.refunds := by
    rw [hdb]
    rfl
  have hrefunds := Delivery.refunds_flush hflush
  rw [hkept, ← hrefunds]
  rcases hcases with ⟨_, _, rfl⟩ | ⟨event, entity, hsup, hentity, happly⟩ |
    ⟨event, entity, _, _, happly⟩
  · rfl
  · cases hn : RefundNotice.ofEntity event entity with
    | none =>
        obtain ⟨e, he⟩ := applyRefundEvent_of_ofEntity_none hn now
        cases happly.symm.trans he
    | some n =>
        have hsubject := RefundNotice.subject_flushed (n := n) hflush
        cases hs : n.subject db with
        | none =>
            rw [hs] at hsubject
            cases happly.symm.trans (applyRefundEvent_of_subject_none hn hsubject now)
            rfl
        | some found =>
            obtain ⟨p, r⟩ := found
            have hnotice : d.refundNotice = some n := by
              simp only [Delivery.refundNotice, hsup, hentity, Except.toOption,
                Option.bind_some, hn]
            obtain ⟨hmatch, hrefused⟩ := h _ n p r hflush hnotice hs
            have hrefused' : ¬flushed.CanPinRefund r n.refundId := by
              rintro ⟨refundId, hid, haccepts⟩
              exact hrefused ⟨refundId, hid, haccepts.fits, hrefunds ▸ haccepts.unique⟩
            obtain ⟨e, he⟩ :=
              applyRefundEvent_of_refused hn (hsubject.trans hs) hmatch hrefused' now
            cases happly.symm.trans he
  · exact (related_applyPaymentEvent billed_refunds happly).1

end

/-- A PROCESSED refund carries no error code. -/
def Refund.Clean (r : Refund) : Prop := r.status = .processed → r.lastErrorCode = none

def Database.Clean (db : Database) : Prop := ∀ r ∈ db.refunds, r.Clean

/-- A written refund decides. -/
theorem Database.Clean.set_iff {db db' : Database} {r r' : Refund} (h : db.Clean)
    (hr : db.refunds.find r.id = some r) (hid : r'.id = r.id)
    (hdb : db'.refunds = db.refunds.set r') : db'.Clean ↔ r'.Clean := by
  have hold : db.refunds.find (key r') = some r := by
    rw [Refund.key_eq, hid, hr]
  constructor
  · intro hclean
    apply hclean r'
    rw [hdb]
    exact (Table.mem_set hold).mpr (Or.inl rfl)
  · intro hr' s hs
    rw [hdb] at hs
    rcases mem_of_mem_set hs with rfl | hs
    · exact hr'
    · exact h s hs

theorem Database.Clean.congr {db db' : Database} (h : db.Clean) (hdb : db'.refunds = db.refunds) :
    db'.Clean := by
  rw [Clean, hdb]
  exact h

theorem RefundNotice.clean_refund_iff {n : RefundNotice} {r : Refund} (h : r.Clean)
    (now : Timestamp) :
    (n.refund r now).Clean ↔ (n.event = .processed → r.lastErrorCode = none) := by
  unfold RefundNotice.refund
  cases n.event with
  | processed => exact ⟨fun hclean _ => hclean rfl, fun hnone _ => hnone rfl⟩
  | failed =>
      refine iff_of_true ?_ nofun
      by_cases hprocessed : r.status = .processed
      · simp only [hprocessed, ne_eq, not_true, if_false]
        exact h
      · simp only [hprocessed, ne_eq, not_false_iff, if_true]
        exact nofun

/-- The event contradicts a refund that is PROCESSED, or it is the verdict `processed` for a refund
with an error code and will be accepted. -/
def Delivery.LeavesErrorCode (d : Delivery) (rowId : Uuid) (db : Database) : Prop :=
  (∃ flushed, d.flush rowId db = .ok flushed) ∧
    ∃ n p r, d.refundNotice = some n ∧ n.subject db = some (p, r) ∧
      ((¬n.Matches r ∧ r.status = .processed) ∨
        (n.Matches r ∧ n.event = .processed ∧ r.lastErrorCode ≠ none ∧
          db.CanPinRefund r n.refundId))

theorem Database.Updatable.clean_storeDelivery_iff {db : Database} (h : db.Updatable)
    (hclean : db.Clean) (d : Delivery) (rowId : Uuid) (now : Timestamp) :
    (storeDelivery d rowId now db).2.Clean ↔ ¬d.LeavesErrorCode rowId db := by
  by_cases hwrites : ∃ flushed n p r, d.flush rowId db = .ok flushed ∧
      d.refundNotice = some n ∧ n.subject db = some (p, r) ∧
      (n.Matches r → db.CanPinRefund r n.refundId)
  · obtain ⟨⟨e, flushed⟩, n, p, r, hflush, hn, hs, haccepts⟩ := hwrites
    have hr := (RefundNotice.find_subject hs).2.1
    have hleaves : d.LeavesErrorCode rowId db ↔ ((¬n.Matches r ∧ r.status = .processed) ∨
        (n.Matches r ∧ n.event = .processed ∧ r.lastErrorCode ≠ none ∧
          db.CanPinRefund r n.refundId)) := by
      constructor
      · rintro ⟨-, n', p', r', hn', hs', hcases⟩
        cases hn.symm.trans hn'
        cases hs.symm.trans hs'
        exact hcases
      · exact fun hcases => ⟨⟨(e, flushed), hflush⟩, n, p, r, hn, hs, hcases⟩
    rw [hleaves]
    by_cases hmatch : n.Matches r
    · obtain ⟨refundId, hid, hpinned⟩ := haccepts hmatch
      have hdb := (h.storeDelivery_of_matches hflush hn hs hmatch hid hpinned now).1
      have hsame : (n.refund (r.pinned refundId) now).id = r.id := RefundNotice.id_refund now
      have hrclean : (r.pinned refundId).Clean := hclean r (Table.mem_of_find hr)
      rw [hclean.set_iff hr hsame hdb, RefundNotice.clean_refund_iff hrclean]
      simp [hmatch, haccepts hmatch, Refund.pinned]
    · have hdb := h.storeDelivery_of_not_matches hflush hn hs hmatch now
      have hid : (n.complained r).id = r.id := rfl
      rw [hclean.set_iff hr hid hdb]
      simp [hmatch, Refund.Clean, RefundNotice.complained]
  · have hrefunds : (storeDelivery d rowId now db).2.refunds = db.refunds := by
      apply storeDelivery_refunds
      intro flushed n p r hflush hn hs
      by_contra hnot
      exact hwrites ⟨flushed, n, p, r, hflush, hn, hs, fun hmatch => by
        by_contra hrefused
        exact hnot ⟨hmatch, hrefused⟩⟩
    refine iff_of_true (hclean.congr hrefunds) ?_
    rintro ⟨⟨flushed, hflush⟩, n, p, r, hn, hs, hcases⟩
    refine hwrites ⟨flushed, n, p, r, hflush, hn, hs, fun hmatch => ?_⟩
    rcases hcases with ⟨hnot, -⟩ | ⟨-, -, -, haccepts⟩
    · exact absurd hmatch hnot
    · exact haccepts

theorem Database.Clean.updateRefund {db db' : Database} {r : Refund} (h : db.Clean)
    (hr : r.Clean) (hupd : db.updateRefund r = .ok db') : db'.Clean := by
  obtain ⟨-, rfl⟩ := Database.updateRefund_eq_ok.mp hupd
  intro s hs
  rcases mem_of_mem_set hs with rfl | hs
  · exact hr
  · exact h s hs

theorem Database.Clean.transaction {α : Type} {integrity : Raised}
    {block : Database → Except Raised (α × Database)} {db : Database} (h : db.Clean)
    (hblock : ∀ a db', block db = .ok (a, db') → db'.Clean) :
    (transaction integrity block db).2.Clean := by
  rcases transaction_cases integrity block db with ⟨e, he⟩ | ⟨a, db', hb, ht⟩
  · rw [he]
    exact h
  · rw [ht]
    exact hblock a db' hb

theorem Database.Clean.recordRefundFailure {db : Database} (h : db.Clean)
    (prepared : RefundRequestSnapshot) (errorCode : String) :
    (recordRefundFailure prepared errorCode db).2.Clean := by
  unfold ChargeMate.recordRefundFailure
  refine h.transaction fun a db' hblock => ?_
  simp only [bind_eq_ok] at hblock
  obtain ⟨r, _, hblock⟩ := hblock
  unfold failLockedRefund at hblock
  split at hblock
  · simp only [bind_eq_ok, pure_eq_ok, Prod.mk.injEq] at hblock
    obtain ⟨db₁, hupd, _, rfl⟩ := hblock
    exact h.updateRefund (fun hstatus => by cases hstatus) hupd
  · simp only [bind_eq_ok, pure_eq_ok, Prod.mk.injEq, Except.ok.injEq, exists_eq_left'] at hblock
    rw [← hblock.2]
    exact h

theorem Database.Clean.prepareCancellation {db : Database} (h : db.Clean) (userId bookingId : Uuid)
    (expectedVersion : Nat) (refundId : Uuid) (choice : Nat) (now createdAt : Timestamp) :
    (prepareCancellation userId bookingId expectedVersion refundId choice now createdAt
      db).2.Clean := by
  rcases prepareCancellation_cases userId bookingId expectedVersion refundId choice now createdAt db
    with ⟨e, heq⟩ | ⟨b, _, _, _, _, heq⟩ | ⟨b, _, _, _, _, heq⟩ |
      ⟨b, p, _, db', _, _, _, _, _, _, hins, heq⟩
  · rw [heq]
    exact h
  · rw [heq]
    exact h
  · rw [heq]
    exact h
  · rw [heq]
    obtain ⟨_, t, hinserted, rfl⟩ := Database.insertRefund_ok hins
    intro r hr
    rcases (Table.mem_insert hinserted).mp hr with hold | rfl
    · exact h r hold
    · exact fun hstatus => by cases hstatus

theorem Database.Clean.applyReconciledRefund {db : Database} (h : db.Clean) (refundId : Uuid)
    (providerRefund : RazorpayRefund) (now : Timestamp) :
    (applyReconciledRefund refundId providerRefund now db).2.Clean := by
  unfold ChargeMate.applyReconciledRefund
  refine h.transaction fun a db' hblock => ?_
  split at hblock
  · simp only [pure_eq_ok, Prod.mk.injEq] at hblock
    rw [← hblock.2]
    exact h
  · simp only [bind_eq_ok] at hblock
    obtain ⟨p, _, hblock⟩ := hblock
    unfold reconcileLockedRefund at hblock
    split at hblock <;>
      simp only [bind_eq_ok, pure_eq_ok, Prod.mk.injEq, Except.ok.injEq, exists_eq_left'] at hblock
    · obtain ⟨db₁, hrefund, db₂, hpayment, _, rfl⟩ := hblock
      have hcleared : db₁.Clean := h.updateRefund (fun _ => rfl) hrefund
      obtain ⟨-, rfl⟩ := Database.updatePayment_eq_ok.mp hpayment
      exact hcleared
    · obtain ⟨db₁, hrefund, _, rfl⟩ := hblock
      exact h.updateRefund (fun hstatus => by cases hstatus) hrefund
    · rw [← hblock.2]
      exact h

theorem Database.Clean.reconcileSnapshot {db : Database} (h : db.Clean) (snapshot : RefundSnapshot)
    (answer : ProviderAnswer) (now : Timestamp) :
    (reconcileSnapshot snapshot answer now db).2.Clean := by
  unfold ChargeMate.reconcileSnapshot
  split
  · exact h
  · exact h
  · exact h.applyReconciledRefund _ _ now

/-- The provider's first answer is `processed` for a refund that carries an error code, and will be
accepted. -/
def RefundRequestSnapshot.LeavesErrorCode (snapshot : RefundRequestSnapshot)
    (answer : ProviderAnswer) (db : Database) : Prop :=
  ∃ providerRefund r, createRazorpayRefund snapshot.providerPaymentId snapshot.amountSubunits
      snapshot.currency answer = .ok providerRefund ∧ providerRefund.status = .processed ∧
    db.refunds.find snapshot.refundId = some r ∧ r.status = .requested ∧
    r.lastErrorCode ≠ none ∧ db.CanPinRefund r providerRefund.id

theorem Refund.clean_answered_iff {r : Refund} (refundId : String) (status : RazorpayRefundStatus)
    (now : Timestamp) : (r.answered refundId status now).Clean ↔
      (status = .processed → r.lastErrorCode = none) := by
  unfold Refund.answered
  cases status with
  | processed => exact ⟨fun h _ => h rfl, fun h _ => h rfl⟩
  | pending | failed => exact iff_of_true (fun hstatus => by cases hstatus) nofun

/-- The checks of the update read the identifier that the answer brings. -/
theorem acceptsRefund_answered_iff {db : Database} {r : Refund} (refundId : String)
    (status : RazorpayRefundStatus) (now : Timestamp) :
    db.AcceptsRefund (r.answered refundId status now) ↔ db.AcceptsRefund (r.pinned refundId) := by
  have hid := r.id_answered refundId status now
  have hprovider := r.answered_providerRefundId refundId status now
  exact ⟨fun h => h.congr hid.symm hprovider.symm, fun h => h.congr hid hprovider⟩

/-- An identifier that the column refuses, or that another refund has, rolls the answer back. -/
theorem finalizeRefund_of_refused {db : Database} {prepared : RefundRequestSnapshot} {r : Refund}
    {providerRefund : RazorpayRefund} (now : Timestamp)
    (hr : db.refunds.find prepared.refundId = some r) (hrequested : r.status = .requested)
    (hrefused : ¬db.CanPinRefund r providerRefund.id) :
    (finalizeRefund prepared providerRefund now db).2 = db := by
  unfold finalizeRefund
  rcases transaction_cases .bookingStateConflictError _ db with ⟨e, he⟩ | ⟨a, db', hblock, -⟩
  · rw [he]
  · simp only [bind_eq_ok, orRaise_eq_ok] at hblock
    obtain ⟨r', hr', p, -, hblock⟩ := hblock
    cases hr.symm.trans hr'
    rw [finalizeLockedRefund, if_neg (not_not.mpr hrequested)] at hblock
    simp only [bind_eq_ok, PyStr.encoded_eq_ok] at hblock
    obtain ⟨refundId, hid, db₁, hupd, -⟩ := hblock
    have haccepts := (Database.updateRefund_eq_ok.mp hupd).1
    exact absurd ⟨refundId, hid, (acceptsRefund_answered_iff refundId _ now).mp haccepts⟩ hrefused

/-- The condition, for the answer and the refund at hand. -/
theorem RefundRequestSnapshot.leavesErrorCode_iff {snapshot : RefundRequestSnapshot}
    {answer : ProviderAnswer} {db : Database} {providerRefund : RazorpayRefund} {r : Refund}
    (hcreate : createRazorpayRefund snapshot.providerPaymentId snapshot.amountSubunits
      snapshot.currency answer = .ok providerRefund)
    (hr : db.refunds.find snapshot.refundId = some r) :
    snapshot.LeavesErrorCode answer db ↔
      providerRefund.status = .processed ∧ r.status = .requested ∧ r.lastErrorCode ≠ none ∧
        db.CanPinRefund r providerRefund.id := by
  constructor
  · rintro ⟨_, r', hok, hprocessed, hr', hrequested, herror, haccepts⟩
    cases hcreate.symm.trans hok
    cases hr.symm.trans hr'
    exact ⟨hprocessed, hrequested, herror, haccepts⟩
  · rintro ⟨hprocessed, hrequested, herror, haccepts⟩
    exact ⟨_, r, hcreate, hprocessed, hr, hrequested, herror, haccepts⟩

theorem Database.Updatable.clean_settleRefund_iff {db : Database} (h : db.Updatable)
    (hclean : db.Clean) {snapshot : RefundRequestSnapshot} {r : Refund} {p : Payment}
    (hr : db.refunds.find snapshot.refundId = some r)
    (hp : db.payments.find snapshot.paymentId = some p) (answer : ProviderAnswer)
    (now : Timestamp) :
    (settleRefund snapshot answer now db).2.Clean ↔ ¬snapshot.LeavesErrorCode answer db := by
  unfold settleRefund
  cases hcreate : createRazorpayRefund snapshot.providerPaymentId snapshot.amountSubunits
      snapshot.currency answer with
  | error e =>
      refine iff_of_true ?_ ?_
      · cases e with
        | razorpayRefundError => exact hclean.recordRefundFailure snapshot _
        | _ => exact hclean
      · rintro ⟨_, _, hok, -⟩
        cases hcreate.symm.trans hok
  | ok providerRefund =>
      rw [RefundRequestSnapshot.leavesErrorCode_iff hcreate hr]
      simp only
      by_cases hrequested : r.status = .requested
      · by_cases haccepts : db.CanPinRefund r providerRefund.id
        · obtain ⟨refundId, hsent, hpinned⟩ := haccepts
          have hdb := finalizeRefund_refunds now hr hp hrequested hsent
            ((acceptsRefund_answered_iff refundId _ now).mpr hpinned)
            (h.payments p (Table.mem_of_find hp))
          have hid := r.id_answered refundId providerRefund.status now
          have hfind : db.refunds.find r.id = some r := Table.find_key (Table.mem_of_find hr)
          have haccepts : db.CanPinRefund r providerRefund.id := ⟨refundId, hsent, hpinned⟩
          rw [hclean.set_iff hfind hid hdb, Refund.clean_answered_iff]
          simp [hrequested, haccepts]
        · rw [finalizeRefund_of_refused now hr hrequested haccepts]
          exact iff_of_true hclean fun hcases => haccepts hcases.2.2.2
      · rw [finalizeRefund_of_not_requested now hr hp hrequested]
        exact iff_of_true hclean fun hcases => hrequested hcases.2.1

/-! ### Runs -/

section

variable {Body : Type} {env : Env Body} {w : World}

/-- The step settles a refund and leaves an error code on it, or complains about one that is
settled. -/
def World.LeavesErrorCode (w : World) : Action Body → Prop
  | .storeDelivery deliveryId eventRowId _ => ∃ d,
      w.deliveries.find deliveryId = some ⟨deliveryId, .accepted d⟩ ∧
        d.LeavesErrorCode eventRowId w.db
  | .closeCancellation requestId answer _ => ∃ request snapshot,
      w.cancellationRequests.find requestId = some request ∧ request.phase = .called snapshot ∧
        snapshot.LeavesErrorCode answer w.db
  | _ => False

theorem World.Reachable.clean_storeDelivery_iff (h : w.Reachable env) (hclean : w.db.Clean)
    (deliveryId eventRowId : Uuid) (now : Timestamp) :
    (w.step env (.storeDelivery deliveryId eventRowId now)).db.Clean ↔
      ¬@World.LeavesErrorCode Body w (.storeDelivery deliveryId eventRowId now) := by
  simp only [World.step, World.storeDelivery]
  split
  · next d hd =>
    have hid := Table.key_of_find hd
    cases hid
    rw [h.updatable.clean_storeDelivery_iff hclean]
    refine not_congr ⟨fun hleaves => ⟨d, hd, hleaves⟩, ?_⟩
    rintro ⟨d', hd', hleaves⟩
    cases hd.symm.trans hd'
    exact hleaves
  · next hnone =>
    refine iff_of_true hclean ?_
    rintro ⟨d, hd, -⟩
    exact hnone _ _ hd

theorem World.Reachable.clean_closeCancellation_iff (h : w.Reachable env) (hclean : w.db.Clean)
    (requestId : Uuid) (answer : ProviderAnswer) (now : Timestamp) :
    (w.step env (.closeCancellation requestId answer now)).db.Clean ↔
      ¬@World.LeavesErrorCode Body w (.closeCancellation requestId answer now) := by
  simp only [World.step, World.closeCancellation]
  split
  · next snapshot hrequest =>
    obtain ⟨r, p, hr, hp, _⟩ := (h.sound.cancellations.requests requestId _ snapshot hrequest
      (CancellationRequest.InFlight.carries (Or.inr rfl))).2
    rw [Database.refunds_ledger] at hr
    rw [Database.payments_ledger] at hp
    rw [h.updatable.clean_settleRefund_iff hclean hr hp]
    refine not_congr ⟨fun hleaves => ⟨_, snapshot, hrequest, rfl, hleaves⟩, ?_⟩
    rintro ⟨request, snapshot', hrequest', hcalled, hleaves⟩
    cases hrequest.symm.trans hrequest'
    cases hcalled
    exact hleaves
  · next hnone =>
    refine iff_of_true hclean ?_
    rintro ⟨⟨id, userId, bookingId, expectedVersion, phase⟩, snapshot, hrequest, hcalled, -⟩
    cases hcalled
    exact hnone _ _ _ _ _ hrequest

/-- Only these two steps can leave an error code on a refund that is PROCESSED. -/
theorem World.Reachable.clean_step_iff (h : w.Reachable env) (hclean : w.db.Clean)
    (a : Action Body) : (w.step env a).db.Clean ↔ ¬w.LeavesErrorCode a := by
  by_cases hrefunds : a.WritesRefunds
  · cases a with
    | storeDelivery deliveryId eventRowId now =>
        exact h.clean_storeDelivery_iff hclean deliveryId eventRowId now
    | requestCancellation requestId userId bookingId expectedVersion refundId choice now
        createdAt =>
        refine iff_of_true ?_ id
        rw [World.step]
        rcases w.requestCancellation_cases requestId userId bookingId expectedVersion refundId
          choice now createdAt with heq | ⟨_, _, _, _, _, _, _, _, heq⟩
        · rw [heq]
          exact hclean
        · rw [heq]
          exact hclean.prepareCancellation _ _ _ refundId choice now createdAt
    | callRefund requestId =>
        refine iff_of_true ?_ id
        simp only [World.step, World.callRefund]
        split
        · split
          · exact hclean.recordRefundFailure _ _
          · exact hclean
        · exact hclean
    | closeCancellation requestId answer now =>
        exact h.clean_closeCancellation_iff hclean requestId answer now
    | reconcileNext runId answer now =>
        refine iff_of_true ?_ id
        simp only [World.step, World.reconcileNext]
        split
        · exact hclean
        · split
          · exact hclean
          · exact hclean.reconcileSnapshot _ answer now
    | _ => exact hrefunds.elim
  · refine iff_of_true (hclean.congr (w.step_refunds env hrefunds)) ?_
    cases a with
    | storeDelivery | closeCancellation => exact absurd trivial hrefunds
    | _ => exact id

/-- The property holds throughout a run exactly if no step of the run leaves an error code. -/
theorem clean_throughout_iff (h : w.Initial) (actions : List (Action Body)) :
    (∀ before, before <+: actions → (w.run env before).db.Clean) ↔
      Transition.Along (World.step env) (fun w a => ¬w.LeavesErrorCode a) w actions := by
  refine Transition.Along.exact (P := fun w : World => w.db.Clean)
    (fun w a hw hclean => World.Reachable.clean_step_iff hw hclean a)
    (Transition.Reachable.initial h) ?_ actions
  intro r hr
  rw [h.refunds] at hr
  exact absurd hr (Table.notMem_empty r)

/-- The verdict in the words of the reconciliation. -/
def RefundEvent.verdict : RefundEvent → RazorpayRefundStatus
  | .processed => .processed
  | .failed => .failed

/-- The event is about the refund and its payment: their own identifiers, amount and currency. -/
structure RefundNotice.Own (n : RefundNotice) (r : Refund) (p : Payment) : Prop where
  refundId : ∃ refundId, r.providerRefundId = some refundId ∧ n.refundId = .text refundId
  paymentId : p.providerPaymentId = some n.paymentId
  amount : n.amount.eqInt r.amountSubunits = true
  currency : n.currency.eqStr r.currency = true

/-- The refund without the time of its processing. -/
def Refund.untimed (r : Refund) : Refund := { r with processedAt := none }

/-- The rows of a refund and its payment are the same, timestamps aside. -/
structure Database.SameRows (r : Refund) (p : Payment) (db db' : Database) : Prop where
  refund : (db.refunds.find r.id).map Refund.untimed = (db'.refunds.find r.id).map Refund.untimed
  payment : db.payments.find p.id = db'.payments.find p.id

variable {n : RefundNotice} {r : Refund} {p : Payment}

theorem RefundNotice.Own.matches (h : n.Own r p) : n.Matches r where
  amount := h.amount
  currency := h.currency
  id := by
    intro pinned hpinned
    obtain ⟨refundId, hstored, hsent⟩ := h.refundId
    rw [hstored] at hpinned
    rw [hsent, Option.mem_some.mp hpinned]

theorem Refund.pinned_self {refundId : String} (h : r.providerRefundId = some refundId) :
    r.pinned refundId = r := by
  rw [Refund.pinned, ← h]

/-- The handler finds the payment and the refund. -/
theorem World.Reachable.subject_of_own (h : w.Reachable env) (hr : r ∈ w.db.refunds)
    (hp : w.db.payments.find r.paymentId = some p) (hown : n.Own r p) :
    n.subject w.db = some (p, r) := by
  have hmem := Table.mem_of_find hp
  have hid : p.id = r.paymentId := Table.key_of_find hp
  have hpayment : w.db.payments.scalar (fun p => p.providerPaymentId = some n.paymentId) =
      some p := by
    apply Table.scalar_eq_some_of_unique hmem (decide_eq_true hown.paymentId)
    intro q hq hqid
    have hunique := uniqueColumn_eq_true.mp (h.acceptsPayment hmem).payment
    exact Table.eq_of_key_eq hq hmem
      (hunique n.paymentId hown.paymentId q hq (of_decide_eq_true hqid))
  have hrefund : w.db.refunds.scalar (fun r => r.paymentId = p.id) = some r := by
    apply Table.scalar_eq_some_of_unique hr (decide_eq_true hid.symm)
    intro s hs hsp
    have hsame : s.paymentId = r.paymentId := (of_decide_eq_true hsp).trans hid
    exact Table.eq_of_key_eq hs hr (h.sound.ledger.refunds.single s.id r.id s r r.paymentId
      (Table.find_key hs) (Table.find_key hr) (congrArg some hsame) rfl)
  simp only [RefundNotice.subject, Option.bind_eq_bind, hpayment, Option.bind_some, hrefund]
  rfl

/-- The two verdicts on a pending refund differ in the error code alone. -/
theorem RefundNotice.untimed_iff (n : RefundNotice) (hpending : r.status = .pending)
    (now now' : Timestamp) :
    (n.refund r now).untimed = (r.reconciled now' n.event.verdict).untimed ↔
      n.event = .failed ∨ r.lastErrorCode = none := by
  rw [refund]
  cases n.event with
  | processed =>
      constructor
      · intro hsame
        exact Or.inr (congrArg Refund.lastErrorCode hsame)
      · rintro (hfailed | hnone)
        · cases hfailed
        · simp only [RefundEvent.verdict, Refund.reconciled, Refund.untimed, hnone]
  | failed =>
      refine iff_of_true ?_ (Or.inl rfl)
      simp only [hpending, ne_eq, reduceCtorEq, not_false_iff, if_true]
      rfl

theorem RefundNotice.payment_eq_reconciled (n : RefundNotice) (p : Payment) :
    n.payment p = p.reconciled n.event.verdict := by
  unfold RefundNotice.payment
  cases n.event <;> rfl

/-- An event that is stored and an answer that is fetched, with one verdict on a pending refund. -/
theorem sameRows_iff (h : w.Reachable env) (hr : r ∈ w.db.refunds)
    (hpending : r.status = .pending) (hp : w.db.payments.find r.paymentId = some p)
    {d : Delivery} {rowId : Uuid} {flushed : Database} (hn : d.refundNotice = some n)
    {e : PaymentWebhookEvent} (hflush : d.flush rowId w.db = .ok (e, flushed)) (hown : n.Own r p)
    {snapshot : RefundSnapshot} (hsnapshot : refundSnapshot w.db r = some snapshot)
    {answer : ProviderAnswer} {providerRefund : RazorpayRefund}
    (hfetch : fetchRazorpayRefund snapshot.providerRefundId snapshot.providerPaymentId
      snapshot.amountSubunits snapshot.currency answer = .ok providerRefund)
    (hverdict : providerRefund.status = n.event.verdict) (now now' : Timestamp) :
    Database.SameRows r p (storeDelivery d rowId now w.db).2
        (reconcileSnapshot snapshot answer now' w.db).2 ↔
      n.event = .failed ∨ r.lastErrorCode = none := by
  have hfind : w.db.refunds.find r.id = some r := Table.find_key hr
  have hpfind : w.db.payments.find p.id = some p := Table.find_key (Table.mem_of_find hp)
  obtain ⟨refundId, hstored, hsent⟩ := hown.refundId
  have hpinned := Refund.pinned_self hstored
  have haccepts : w.db.AcceptsRefund (r.pinned refundId) := by
    rw [hpinned]
    exact h.acceptsRefund hr
  obtain ⟨hrefunds, hpayments⟩ := h.updatable.storeDelivery_of_matches hflush hn
    (h.subject_of_own hr hp hown) hown.matches hsent haccepts now
  rw [hpinned] at hrefunds
  have hid := (refundSnapshot_eq_some hsnapshot).1
  have hreconciled : (reconcileSnapshot snapshot answer now' w.db).2 =
      w.db.reconciled r p now' n.event.verdict := by
    simp only [reconcileSnapshot, hfetch]
    rw [hid, h.updatable.applyReconciledRefund_eq hfind hpending hp, hverdict]
  have hleft : (storeDelivery d rowId now w.db).2.refunds.find r.id = some (n.refund r now) := by
    rw [hrefunds]
    exact Database.find_updateRefund (RefundNotice.id_refund now) hfind
  have hright : (w.db.reconciled r p now' n.event.verdict).refunds.find r.id =
      some (r.reconciled now' n.event.verdict) :=
    Database.find_updateRefund (r.reconciled_columns now' n.event.verdict).1 hfind
  have hpayment : (storeDelivery d rowId now w.db).2.payments =
      (w.db.reconciled r p now' n.event.verdict).payments := by
    rw [hpayments, n.payment_eq_reconciled]
    rfl
  rw [hreconciled, ← n.untimed_iff hpending now now']
  constructor
  · intro hsame
    have hrows := hsame.refund
    rw [hleft, hright] at hrows
    exact Option.some.inj hrows
  · intro hsame
    refine ⟨?_, by rw [hpayment]⟩
    rw [hleft, hright, Option.map_some, Option.map_some, hsame]

end

/-- In every reachable state, for every PENDING refund, an event with the final verdict and the
reconciliation with the same one leave the same rows exactly if the verdict is `failed` or the
refund carries no error code; and throughout a run no PROCESSED refund carries one exactly if no
step of the run settles a refund with an error code by an event or a first answer, or contradicts a
refund that is PROCESSED. -/
theorem refund_settlements_agree {Body : Type} (env : Env Body) :
    (∀ w : World, w.Reachable env → ∀ r ∈ w.db.refunds, r.status = .pending →
      ∀ p, w.db.payments.find r.paymentId = some p →
      ∀ d n rowId flushed, d.refundNotice = some n →
      d.flush rowId w.db = .ok flushed → n.Own r p →
      ∀ snapshot answer providerRefund, refundSnapshot w.db r = some snapshot →
      fetchRazorpayRefund snapshot.providerRefundId snapshot.providerPaymentId
        snapshot.amountSubunits snapshot.currency answer = .ok providerRefund →
      providerRefund.status = n.event.verdict → ∀ now now',
      (Database.SameRows r p (storeDelivery d rowId now w.db).2
          (reconcileSnapshot snapshot answer now' w.db).2 ↔
        n.event = .failed ∨ r.lastErrorCode = none)) ∧
    ∀ w : World, w.Initial → ∀ actions,
      ((∀ before, before <+: actions →
          ∀ r ∈ (w.run env before).db.refunds, r.status = .processed → r.lastErrorCode = none) ↔
        Transition.Along (World.step env) (fun w a => ¬w.LeavesErrorCode a) w actions) := by
  refine ⟨?_, fun w h actions => clean_throughout_iff h actions⟩
  intro w h r hr hpending p hp d n rowId ⟨e, flushed⟩ hn hflush hown snapshot answer providerRefund
    hsnapshot hfetch hverdict now now'
  exact sameRows_iff h hr hpending hp hn hflush hown hsnapshot hfetch hverdict now now'

/-- The payload of a refund event. -/
def sampleRefundPayload (event : String) (amount : Int) : List (PyStr × Json) :=
  [("event", .str event), ("payload", .obj [("refund", .obj [("entity", .obj
    [("id", .str "rfnd_1"), ("payment_id", .str "pay_1"), ("amount", .int amount),
      ("currency", .str "INR")])])])]

/-- A refund event that is received and stored under one identifier. -/
def sampleRefundDelivery (id : Uuid) (eventId event : String) (amount : Int) :
    List (Action Json) :=
  [.receiveDelivery id ⟨.obj (sampleRefundPayload event amount), some sampleDigest, some eventId⟩,
    .storeDelivery id id 0]

/-- An event with a wrong amount, while the refund is PENDING. -/
def sampleContradiction : List (Action Json) :=
  samplePendingRefunds ++ sampleRefundDelivery 42 "evt_3" "refund.processed" 9999

def sampleSettled (actions : List (Action Json)) : Option (RefundStatus × Option String) :=
  ((sampleWorld.run sampleEnv actions).db.refunds.find 60).map fun r => (r.status, r.lastErrorCode)

/-- After an event with a wrong amount, the right event leaves the error code where the
reconciliation clears it; and so do the event that follows a lost answer and the answer that
follows a wrong event. -/
theorem refund_settlements_agree_counterexample :
    (sampleWorld.run sampleEnv sampleContradiction).Reachable sampleEnv ∧
    sampleSettled sampleContradiction =
      some (.pending, some "provider_refund_amount_mismatch") ∧
    sampleSettled (sampleContradiction ++
        sampleRefundDelivery 43 "evt_4" "refund.processed" 10000) =
      some (.processed, some "provider_refund_amount_mismatch") ∧
    sampleSettled (sampleContradiction ++ [.startReconciliation 80 100,
        .reconcileNext 80 (sampleRefundAnswer "rfnd_1" "pay_1" (.str "processed")) 0]) =
      some (.processed, none) ∧
    sampleSettled (sampleCancellation ++ [.closeCancellation 50 .failure 0] ++
        sampleRefundDelivery 43 "evt_4" "refund.processed" 10000) =
      some (.processed, some "provider_refund_failed") ∧
    sampleSettled (sampleCancellation ++
        sampleRefundDelivery 42 "evt_3" "refund.processed" 9999 ++
        [.closeCancellation 50 (sampleRefundAnswer "rfnd_1" "pay_1" (.str "processed")) 0]) =
      some (.processed, some "provider_refund_amount_mismatch") :=
  ⟨sampleWorld_reachable _, by decide +kernel, by decide +kernel, by decide +kernel,
    by decide +kernel, by decide +kernel⟩

def sampleVerdict : Delivery where
  providerEventId := "evt_4"
  eventType := "refund.processed"
  payloadHash := sampleDigest
  payload := sampleRefundPayload "refund.processed" 10000

def sampleRefundNotice : RefundNotice := ⟨.processed, "rfnd_1", "pay_1", .int 10000, .str "INR"⟩

/-- Without a contradiction before it, the event leaves the rows that the reconciliation leaves, and
its run leaves no error code. -/
theorem refund_settlements_agree_sample :
    (∃ r p snapshot, (sampleWorld.run sampleEnv samplePendingRefunds).db.refunds.find 60 = some r ∧
      Database.SameRows r p
        (storeDelivery sampleVerdict 43 0 (sampleWorld.run sampleEnv samplePendingRefunds).db).2
        (reconcileSnapshot snapshot (sampleRefundAnswer "rfnd_1" "pay_1" (.str "processed")) 0
          (sampleWorld.run sampleEnv samplePendingRefunds).db).2) ∧
    Transition.Along (World.step sampleEnv) (fun w a => ¬w.LeavesErrorCode a) sampleWorld
      (samplePendingRefunds ++ sampleRefundDelivery 43 "evt_4" "refund.processed" 10000) := by
  refine ⟨?_, ?_⟩
  · have hrows : ∃ r ∈ (sampleWorld.run sampleEnv samplePendingRefunds).db.refunds.find 60,
        r.status = .pending ∧ r.lastErrorCode = none ∧ r.providerRefundId = some "rfnd_1" ∧
        r.amountSubunits = 10000 ∧ r.currency = "INR" ∧
        (∃ p ∈ (sampleWorld.run sampleEnv samplePendingRefunds).db.payments.find r.paymentId,
          p.providerPaymentId = some "pay_1") ∧
        ∃ snapshot ∈ refundSnapshot (sampleWorld.run sampleEnv samplePendingRefunds).db r,
          snapshot.providerRefundId = "rfnd_1" ∧ snapshot.providerPaymentId = "pay_1" ∧
          snapshot.amountSubunits = 10000 ∧ snapshot.currency = "INR" := by decide +kernel
    obtain ⟨r, hr, hpending, hnone, hid, hamount, hcurrency, ⟨p, hp, hpid⟩, snapshot, hsnapshot,
      hsid, hspid, hsamount, hscurrency⟩ := hrows
    have hflush : (sampleVerdict.flush 43
        (sampleWorld.run sampleEnv samplePendingRefunds).db).toOption.isSome = true := by
      decide +kernel
    have hown : sampleRefundNotice.Own r p :=
      ⟨⟨_, hid, rfl⟩, hpid, by rw [hamount]; rfl, by rw [hcurrency]; rfl⟩
    have hfetched : (fetchRazorpayRefund snapshot.providerRefundId snapshot.providerPaymentId
        snapshot.amountSubunits snapshot.currency
        (sampleRefundAnswer "rfnd_1" "pay_1" (.str "processed"))).toOption.map
          RazorpayRefund.status = some .processed := by
      rw [hsid, hspid, hsamount, hscurrency]
      decide +kernel
    cases hinsert : sampleVerdict.flush 43
        (sampleWorld.run sampleEnv samplePendingRefunds).db with
    | error e =>
        rw [hinsert] at hflush
        cases hflush
    | ok flushed =>
        cases hfetch : fetchRazorpayRefund snapshot.providerRefundId snapshot.providerPaymentId
            snapshot.amountSubunits snapshot.currency
            (sampleRefundAnswer "rfnd_1" "pay_1" (.str "processed")) with
        | error e =>
            rw [hfetch] at hfetched
            cases hfetched
        | ok providerRefund =>
            rw [hfetch] at hfetched
            refine ⟨r, p, snapshot, hr, ?_⟩
            exact ((refund_settlements_agree sampleEnv).1 _
              (sampleWorld_reachable samplePendingRefunds) r (Table.mem_of_find hr) hpending p hp
              sampleVerdict sampleRefundNotice 43 flushed rfl hinsert hown snapshot _ _ hsnapshot
              hfetch (Option.some.inj hfetched) 0 0).mpr (Or.inr hnone)
  · have hclean : ((samplePendingRefunds ++
        sampleRefundDelivery 43 "evt_4" "refund.processed" 10000).inits.all fun before =>
          (sampleWorld.run sampleEnv before).db.refunds.rows.all fun r =>
            r.status != .processed || r.lastErrorCode.isNone) = true := by decide +kernel
    refine ((refund_settlements_agree sampleEnv).2 sampleWorld sampleWorld_initial _).mp ?_
    intro before hbefore r hr hprocessed
    have hrow := List.all_eq_true.mp (List.all_eq_true.mp hclean before
      ((List.mem_inits _ _).mpr hbefore)) r hr
    rw [hprocessed] at hrow
    exact Option.isNone_iff_eq_none.mp hrow

end ChargeMate
