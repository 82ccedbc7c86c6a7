import ChargeMate.FoundationSums
import ChargeMate.SafetyVerdicts

/-! The money of any group of customers: what is asked back for them, what is recorded as refunds and
what has been collected from them. -/

namespace ChargeMate

open Relational

section

variable {Body : Type} (env : Env Body)

/-! ### The amounts of payments -/

theorem applyPaymentEvent_payments {event : PaymentEvent} {entity : List (PyStr × Json)}
    {now : Timestamp} {db db' : Database} {status : WebhookEventStatus}
    (h : applyPaymentEvent event entity now db = .ok (status, db')) :
    db'.payments = db.payments ∨ ∃ p, db'.payments = db.payments.set p := by
  obtain ⟨n, _, hcases⟩ := applyPaymentEvent_cases h
  rcases hcases with ⟨_, _, rfl⟩ | ⟨q, _, ⟨_, _, hupd⟩ | ⟨_, _, _, happlied⟩⟩
  · exact Or.inl rfl
  · obtain ⟨_, rfl⟩ := Database.updatePayment_eq_ok.mp hupd
    exact Or.inr ⟨_, rfl⟩
  · obtain ⟨p, _, _, heq, _⟩ := PaymentNotice.applied_write happlied
    exact Or.inr ⟨p, heq⟩

theorem storeDelivery_payments (d : Delivery) (rowId : Uuid) (now : Timestamp) (db : Database) :
    (storeDelivery d rowId now db).2.payments = db.payments ∨
      ∃ p, (storeDelivery d rowId now db).2.payments = db.payments.set p := by
  rcases storeDelivery_cases d rowId now db with
    ⟨_, hkept⟩ | ⟨_, _, db₁, _, hflush, _, hcommit, hcases⟩
  · exact Or.inl (by rw [hkept])
  have hcommitted : (storeDelivery d rowId now db).2.payments = db₁.payments := by
    rw [hcommit]
    rfl
  rw [hcommitted, ← Delivery.payments_flush hflush]
  rcases hcases with ⟨_, _, rfl⟩ | ⟨event, entity, _, _, happly⟩ | ⟨event, entity, _, _, happly⟩
  · exact Or.inl rfl
  · rcases applyRefundEvent_payments happly with heq | ⟨p, _, _, _, _, heq⟩
    · exact Or.inl heq
    · exact Or.inr ⟨_, heq⟩
  · exact applyPaymentEvent_payments happly

/-- The amounts of a payment satisfy the constraints of its table. -/
structure Payment.Billable (p : Payment) : Prop where
  fits : integer32 p.amountSubunits = true
  amount : 0 < p.amount
  positive : 0 < p.amountSubunits

theorem Payment.Continues.billable {p p' : Payment} (h : p.Continues p') (hp : p.Billable) :
    p'.Billable where
  fits := by rw [h.amountSubunits, hp.fits]
  amount := by rw [h.amount]; exact hp.amount
  positive := by rw [h.amountSubunits]; exact hp.positive

theorem Database.insertPayment_billable {db db' : Database} {p : Payment}
    (h : db.insertPayment p = .ok db') : p.Billable := by
  simp only [Database.insertPayment, bind_eq_ok, ensure_eq_ok] at h
  obtain ⟨_, hfits, _, hpositive, _⟩ := h
  exact ⟨hfits, hpositive.1, hpositive.2⟩

/-- A payment that is new after a step was begun by it, for a request of its booking's owner. -/
theorem World.Sound.payment_begun {w : World} (h : w.Sound) (a : Action Body) {p : Payment}
    (hnew : w.db.payments.find p.id = none) (hp : p ∈ (w.step env a).db.payments) :
    ∃ r b db' paymentId now, a = .beginOrder r.id paymentId now ∧
      w.orderRequests.find r.id = some r ∧ r.phase = .lookedUp ∧
      w.db.bookings.find r.payload.bookingId = some b ∧ b.userId = r.user.id ∧ p.Opens b ∧
      p.idempotencyKey = r.payload.idempotencyKey ∧
      (w.db.updateBooking (b.advance .paymentPending)).insertPayment p = .ok db' := by
  have hnot : p ∉ w.db.payments := by
    intro hold
    have hfound := Table.find_key (t := w.db.payments) hold
    rw [Payment.key_eq, hnew] at hfound
    cases hfound
  have hstored : ∀ {t : Table Payment}, (w.step env a).db.payments = t →
      t.rows.map key = w.db.payments.rows.map key → False := by
    intro t heq hkeys
    rw [heq] at hp
    obtain ⟨q, hq⟩ := Table.exists_find_of_map_key hkeys (Table.find_key hp)
    rw [Payment.key_eq, hnew] at hq
    cases hq
  have hwritten : (w.step env a).db.payments = w.db.payments ∨
      (∃ q, (w.step env a).db.payments = w.db.payments.set q) → False := by
    rintro (heq | ⟨q, heq⟩)
    · exact hstored heq rfl
    · exact hstored heq (w.db.payments.map_key_set q)
  by_cases hwrites : a.WritesPayments
  · cases a with
    | beginOrder requestId paymentId now =>
        simp only [World.step, World.beginOrder] at hp
        split at hp
        · next id user payload hr =>
          have hid : id = requestId := Table.key_of_find hr
          subst hid
          rcases beginPaymentAttempt_cases user payload paymentId now w.db with
            ⟨e, heq⟩ | ⟨b, q, db', hb, huser, _, _, hopens, _, hkey, hins, heq⟩
          · rw [heq] at hp
            exact absurd hp hnot
          · rw [heq] at hp
            obtain ⟨_, t, ht, hdb⟩ := Database.insertPayment_ok hins
            simp only [hdb] at hp
            rcases (Table.mem_insert ht).mp hp with hold | rfl
            · exact absurd hold hnot
            · exact ⟨⟨id, user, payload, .lookedUp⟩, b, db', paymentId, now, rfl, hr, rfl, hb, huser,
                hopens, hkey, hins⟩
        · exact absurd hp hnot
    | closeOrder requestId answer now =>
        refine (hwritten ?_).elim
        rcases w.closeOrder_cases env h.ledger h.orders requestId answer now with
          heq | ⟨r, attempt, q, b, _, _, hq, hinitiated, hdesc, _, hb, heq⟩
        · exact Or.inl (by rw [World.step, heq])
        · have hstep : (w.step env (.closeOrder requestId answer now)).db.payments =
              (closeAttempt env attempt answer now w.db).2.payments := by rw [World.step, heq]
          rcases closeAttempt_written env answer now (Database.find_payment_id hq) hb hinitiated
            hdesc with hkept | ⟨q', hset, _⟩
          · exact Or.inl (hstep.trans hkept)
          · exact Or.inr ⟨q', hstep.trans hset⟩
    | verifyCheckoutPayment user payload =>
        refine (hwritten ?_).elim
        rcases verifyCheckoutPayment_written env user payload w.db with
          heq | ⟨q, _, _, _, _, _, _, heq⟩
        · exact Or.inl (by rw [World.step, heq])
        · exact Or.inr ⟨_, heq⟩
    | storeDelivery deliveryId eventRowId now =>
        refine (hwritten ?_).elim
        rcases w.storing_cases deliveryId eventRowId now with heq | ⟨d, _, heq⟩
        · exact Or.inl (by rw [heq])
        · rw [heq]
          exact storeDelivery_payments d eventRowId now w.db
    | closeCancellation requestId answer now =>
        refine (hwritten ?_).elim
        simp only [World.step, World.closeCancellation]
        split
        · next id userId bookingId expectedVersion snapshot _ =>
          rcases settleRefund_payments snapshot answer now w.db with heq | ⟨q, _, _, _, heq⟩
          · exact Or.inl heq
          · exact Or.inr ⟨_, heq⟩
        · exact Or.inl rfl
    | reconcileNext runId answer now =>
        refine (hwritten ?_).elim
        rcases w.reconciling_cases runId answer now with heq | ⟨snapshot, heq⟩
        · exact Or.inl (by rw [World.step, heq])
        · rw [World.step, heq]
          rcases reconcileSnapshot_payments snapshot answer now w.db with
            hkept | ⟨q, _, _, _, _, hset⟩
          · exact Or.inl hkept
          · exact Or.inr ⟨_, hset⟩
    | _ => exact hwrites.elim
  · exact (hwritten (Or.inl (w.step_payments env hwrites))).elim

variable {env}

/-- Every stored payment has amounts that its table admits. -/
theorem World.Reachable.billable {w : World} (h : w.Reachable env) :
    ∀ p ∈ w.db.payments, p.Billable := by
  refine Transition.Reachable.invariant
    (P := fun w : World => ∀ p ∈ w.db.payments, p.Billable) ?_ ?_ h
  · intro w hinit p hp
    rw [hinit.payments] at hp
    exact absurd hp (Table.notMem_empty p)
  · intro w a hreach hbillable p' hp'
    have hsound := World.Reachable.sound hreach
    cases hold : w.db.payments.find p'.id with
    | none =>
        obtain ⟨_, _, _, _, _, _, _, _, _, _, _, _, hins⟩ := hsound.payment_begun env a hold hp'
        exact Database.insertPayment_billable hins
    | some p =>
        obtain ⟨c, _, hmove⟩ := World.Reachable.move hreach a
        obtain ⟨p'', hfound, hcont⟩ :=
          hmove.payment_next hsound.ledger.payments hsound.ledger.refunds hold
        have hsame : p'' = p' := by
          have hfind := Table.find_key hp'
          rw [Payment.key_eq, ← Database.payments_ledger, hfound] at hfind
          exact Option.some.inj hfind
        rw [← hsame]
        exact hcont.billable (hbillable p (Table.mem_of_find hold))

end

/-! ### Balances -/

section

variable (group : Payment → Bool)

/-- The payment with the identifier belongs to the group. -/
def Database.inGroup (db : Database) (paymentId : Uuid) : Bool :=
  (db.payments.find paymentId).any group

/-- What the group has paid, refunded or not. -/
def Database.collected (db : Database) : Int :=
  ((db.payments.rows.filter fun p => p.Collected ∧ group p).map Payment.amountSubunits).sum

/-- The payments of the group that are REFUNDED. -/
def Database.refunded (db : Database) : Int :=
  ((db.payments.rows.filter fun p => p.status = .refunded ∧ group p).map Payment.amountSubunits).sum

/-- The refunds to the group, in whatever status. -/
def Database.returned (db : Database) : Int :=
  ((db.refunds.rows.filter fun r => db.inGroup group r.paymentId).map Refund.amountSubunits).sum

/-- The refunds to the group that are PROCESSED. -/
def Database.processed (db : Database) : Int :=
  ((db.refunds.rows.filter fun r => r.status = .processed ∧ db.inGroup group r.paymentId).map
    Refund.amountSubunits).sum

/-- What the provider has been asked to give back to the group. -/
def World.askedBack (w : World) : Int :=
  ((w.refundCalls.filter fun call => w.db.inGroup group call.snapshot.paymentId).map
    fun call => call.snapshot.amountSubunits).sum

end

section

variable {Body : Type} {env : Env Body} {w : World} {group : Payment → Bool}

theorem Database.inGroup_of_find {db : Database} {paymentId : Uuid} {p : Payment}
    (hp : db.payments.find paymentId = some p) : db.inGroup group paymentId = group p := by
  rw [Database.inGroup, hp, Option.any_some]

/-- Every refund has its own payment, with its amount. -/
theorem World.Reachable.refund_payment (h : w.Reachable env) {r : Refund} (hr : r ∈ w.db.refunds) :
    ∃ p ∈ w.db.payments, w.db.payments.find r.paymentId = some p ∧ p.id = r.paymentId ∧
      p.Collected ∧ p.amountSubunits = r.amountSubunits ∧
      (r.status = .processed ↔ p.status = .refunded) := by
  obtain ⟨p, _, hp, _, hsettles⟩ := h.sound.ledger.refunds.settles r.id r (Table.find_key hr)
  refine ⟨p, Table.mem_of_find hp, ?_, hsettles.paymentId.symm, hsettles.captured,
    hsettles.amountSubunits.symm, hsettles.refunded⟩
  rw [hsettles.paymentId]
  exact hp

theorem World.Reachable.nodup_refunded (h : w.Reachable env) :
    (w.db.refunds.rows.map Refund.paymentId).Nodup := by
  apply List.Nodup.map_on
  · intro r hr s hs hsame
    exact Table.eq_of_key_eq hr hs (h.sound.ledger.refunds.single r.id s.id r s s.paymentId
      (Table.find_key hr) (Table.find_key hs) (congrArg some hsame) rfl)
  · exact w.db.refunds.nodup_keys.of_map

theorem nodup_map_filter {A K : Type} {key : A → K} {as : List A} (p : A → Bool)
    (h : (as.map key).Nodup) : ((as.filter p).map key).Nodup :=
  h.sublist (List.filter_sublist.map key)

end

/-- Nobody gets back more than has been collected. In every reachable state and for every group of
payments: what the provider has been asked to give back for them is at most what is recorded as
their refunds, and this at most what has been collected with them; and the refunds that are
PROCESSED add up to the payments that are REFUNDED. -/
theorem refunds_covered {Body : Type} (env : Env Body) {w : World} (h : w.Reachable env)
    (group : Payment → Bool) :
    w.askedBack group ≤ w.db.returned group ∧ w.db.returned group ≤ w.db.collected group ∧
      w.db.processed group = w.db.refunded group := by
  have hpositive : ∀ p ∈ w.db.payments, 0 < p.amountSubunits := fun p hp => (h.billable p hp).positive
  have hrefunds : ∀ r ∈ w.db.refunds, 0 ≤ r.amountSubunits := by
    intro r hr
    obtain ⟨p, hp, _, _, _, hamount, _⟩ := h.refund_payment hr
    rw [← hamount]
    exact Int.le_of_lt (hpositive p hp)
  refine ⟨?_, ?_, ?_⟩
  · -- a call is about its own refund
    apply sum_le_of_matching (fun call : RefundCall => call.snapshot.refundId) Refund.id
    · exact nodup_map_filter _ h.sound.cancellations.tickets.nodup
    · intro call hcall
      obtain ⟨hcall, hgroup⟩ := List.mem_filter.mp hcall
      obtain ⟨r, p, hr, hp, hdesc⟩ := h.sound.cancellations.calls call hcall
      rw [Database.refunds_ledger] at hr
      rw [Database.payments_ledger] at hp
      obtain ⟨q, _, hq, _, _, hamount, _⟩ := h.refund_payment (Table.mem_of_find hr)
      rw [hdesc.paymentId, hp] at hq
      cases hq
      refine ⟨r, List.mem_filter.mpr ⟨Table.mem_of_find hr, ?_⟩, Table.key_of_find hr, ?_⟩
      · rw [hdesc.paymentId]
        exact hgroup
      · rw [← hamount, hdesc.amountSubunits]
    · intro r hr
      exact hrefunds r (List.mem_filter.mp hr).1
  · apply sum_le_of_matching Refund.paymentId Payment.id
    · exact nodup_map_filter _ h.nodup_refunded
    · intro r hr
      obtain ⟨hr, hgroup⟩ := List.mem_filter.mp hr
      obtain ⟨p, hp, hfind, hid, hcollected, hamount, _⟩ := h.refund_payment hr
      rw [Database.inGroup_of_find hfind] at hgroup
      exact ⟨p, List.mem_filter.mpr ⟨hp, decide_eq_true ⟨hcollected, hgroup⟩⟩, hid, hamount.ge⟩
    · intro p hp
      exact Int.le_of_lt (hpositive p (List.mem_filter.mp hp).1)
  · apply Int.le_antisymm
    · apply sum_le_of_matching Refund.paymentId Payment.id
      · exact nodup_map_filter _ h.nodup_refunded
      · intro r hr
        obtain ⟨hr, hprocessed⟩ := List.mem_filter.mp hr
        obtain ⟨hprocessed, hgroup⟩ := of_decide_eq_true hprocessed
        obtain ⟨p, hp, hfind, hid, _, hamount, hrefunded⟩ := h.refund_payment hr
        rw [Database.inGroup_of_find hfind] at hgroup
        exact ⟨p, List.mem_filter.mpr ⟨hp, decide_eq_true ⟨hrefunded.mp hprocessed, hgroup⟩⟩, hid,
          hamount.ge⟩
      · intro p hp
        exact Int.le_of_lt (hpositive p (List.mem_filter.mp hp).1)
    · apply sum_le_of_matching Payment.id Refund.paymentId
      · exact nodup_map_filter _ w.db.payments.nodup_keys
      · intro p hp
        obtain ⟨hp, hrefunded⟩ := List.mem_filter.mp hp
        obtain ⟨hrefunded, hgroup⟩ := of_decide_eq_true hrefunded
        obtain ⟨r, hr, hpayment⟩ := h.refunded_returned (Table.find_key hp) hrefunded
        obtain ⟨q, hq, hfind, hid, _, hamount, hstatus⟩ := h.refund_payment hr
        have hsame : q = p := Table.eq_of_key_eq hq hp (hid.trans hpayment)
        subst hsame
        refine ⟨r, List.mem_filter.mpr ⟨hr, decide_eq_true ⟨hstatus.mpr hrefunded, ?_⟩⟩, hpayment,
          hamount.le⟩
        rw [Database.inGroup_of_find hfind]
        exact hgroup
      · intro r hr
        exact hrefunds r (List.mem_filter.mp hr).1

/-- In the sample, one payment has been collected and given back. -/
theorem refunds_covered_sample :
    (sampleWorld.run sampleEnv sampleProcessed).askedBack (fun _ => true) = 10000 ∧
      (sampleWorld.run sampleEnv sampleProcessed).askedBack (fun _ => true) ≤
        (sampleWorld.run sampleEnv sampleProcessed).db.returned (fun _ => true) :=
  ⟨by decide +kernel,
    (refunds_covered sampleEnv (sampleWorld_reachable sampleProcessed) fun _ => true).1⟩

end ChargeMate
