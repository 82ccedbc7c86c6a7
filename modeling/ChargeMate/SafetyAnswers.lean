import ChargeMate.SafetyRefunds
import ChargeMate.RefineFrames

/-! Answers of the provider about refunds: how they are parsed, and what an answer does to the
request or the job that has asked for it. -/

namespace ChargeMate

open Relational

/-- What the columns for the identifiers of the provider hold. -/
structure Database.Fits (db : Database) : Prop where
  payments : ∀ p ∈ db.payments, p.providerOrderId.all (varchar 100) = true ∧
    p.providerPaymentId.all (varchar 100) = true
  refunds : ∀ r ∈ db.refunds, db.AcceptsRefund r

theorem mem_of_mem_set {R : Type} [Keyed R Uuid] {t : Table R} {r s : R} (h : s ∈ t.set r) :
    s = r ∨ s ∈ t := by
  obtain ⟨u, hu, rfl⟩ := List.mem_map.mp h
  split
  · exact Or.inl rfl
  · exact Or.inr hu

theorem Database.Fits.updatePayment {db db' : Database} {p : Payment} (h : db.Fits)
    (hupd : db.updatePayment p = .ok db') : db'.Fits := by
  obtain ⟨haccepts, rfl⟩ := updatePayment_eq_ok.mp hupd
  refine ⟨?_, fun r hr => ⟨(h.refunds r hr).fits, (h.refunds r hr).unique⟩⟩
  intro q hq
  rcases mem_of_mem_set hq with rfl | hold
  · exact ⟨haccepts.orderFits, haccepts.paymentFits⟩
  · exact h.payments q hold

theorem Database.Fits.insertPayment {db db' : Database} {p : Payment} (h : db.Fits)
    (horder : p.providerOrderId = none) (hpayment : p.providerPaymentId = none)
    (hins : db.insertPayment p = .ok db') : db'.Fits := by
  obtain ⟨_, t, hinserted, rfl⟩ := Database.insertPayment_ok hins
  refine ⟨?_, fun r hr => ⟨(h.refunds r hr).fits, (h.refunds r hr).unique⟩⟩
  intro q hq
  rcases (Table.mem_insert hinserted).mp hq with hold | rfl
  · exact h.payments q hold
  · rw [horder, hpayment]
    exact ⟨rfl, rfl⟩

/-- A row that brings no new identifier, or one that the statement has checked, leaves every refund
acceptable. -/
theorem Database.Fits.putRefund {db : Database} {r : Refund} {t : Table Refund} (h : db.Fits)
    (hfits : r.providerRefundId.all (varchar 100) = true)
    (hunique : uniqueColumn db.refunds Refund.providerRefundId r = true)
    (ht : ∀ s ∈ t, s = r ∨ (s ∈ db.refunds ∧ s.id ≠ r.id)) :
    Database.Fits { db with refunds := t } := by
  have hother : ∀ s ∈ t, s ≠ r → s ∈ db.refunds ∧ s.id ≠ r.id :=
    fun s hs hne => (ht s hs).resolve_left hne
  refine ⟨h.payments, fun s hs => ?_⟩
  by_cases hsr : s = r
  · rw [hsr]
    refine ⟨hfits, uniqueColumn_eq_true.mpr fun v hv u hu huv => ?_⟩
    by_cases hur : u = r
    · rw [hur]
    · exact uniqueColumn_eq_true.mp hunique v hv u (hother u hu hur).1 huv
  · obtain ⟨hsold, hid⟩ := hother s hs hsr
    refine ⟨(h.refunds s hsold).fits, uniqueColumn_eq_true.mpr fun v hv u hu huv => ?_⟩
    by_cases hur : u = r
    · rw [hur] at huv
      exact absurd (uniqueColumn_eq_true.mp hunique v huv s hsold hv) hid
    · exact uniqueColumn_eq_true.mp (h.refunds s hsold).unique v hv u (hother u hu hur).1 huv

theorem Database.Fits.updateRefund {db db' : Database} {r : Refund} (h : db.Fits)
    (hupd : db.updateRefund r = .ok db') : db'.Fits := by
  obtain ⟨haccepts, rfl⟩ := updateRefund_eq_ok.mp hupd
  refine h.putRefund haccepts.fits haccepts.unique fun s hs => ?_
  obtain ⟨u, hu, rfl⟩ := List.mem_map.mp hs
  split
  · exact Or.inl rfl
  · next hid => exact Or.inr ⟨hu, hid⟩

theorem Database.Fits.insertRefund {db db' : Database} {r : Refund} (h : db.Fits)
    (hnone : r.providerRefundId = none) (hins : db.insertRefund r = .ok db') : db'.Fits := by
  obtain ⟨_, t, hinserted, rfl⟩ := Database.insertRefund_ok hins
  have hnew := Table.find_eq_none.mp (Table.insert_eq_some.mp hinserted).1
  refine h.putRefund (r := r) (by rw [hnone]; rfl)
    (uniqueColumn_eq_true.mpr fun v hv => by rw [hnone] at hv; cases hv) fun s hs => ?_
  rcases (Table.mem_insert hinserted).mp hs with hold | rfl
  · exact Or.inr ⟨hold, hnew s hold⟩
  · exact Or.inl rfl

theorem fits_respected : Database.Respected fun db db' => db.Fits → db'.Fits where
  refl _ h := h
  trans h₁ h₂ h := h₂ (h₁ h)
  bookings _ _ h := ⟨h.payments, fun r hr => ⟨(h.refunds r hr).fits, (h.refunds r hr).unique⟩⟩
  insertPayment horder hpayment hins h := h.insertPayment horder hpayment hins
  updatePayment hupd h := h.updatePayment hupd
  insertRefund hnone hins h := h.insertRefund hnone hins
  updateRefund hupd h := h.updateRefund hupd

theorem World.Reachable.fits {Body : Type} {env : Env Body} {w : World} (h : w.Reachable env) :
    w.db.Fits := by
  refine Transition.Reachable.invariant (P := fun w : World => w.db.Fits) ?_ ?_ h
  · intro w hinit
    refine ⟨?_, ?_⟩
    · rw [hinit.payments]
      exact fun p hp => absurd hp (Table.notMem_empty p)
    · rw [hinit.refunds]
      exact fun r hr => absurd hr (Table.notMem_empty r)
  · intro w a _ hw
    exact w.step_related_all env fits_respected
      (fun db _ _ _ _ h =>
        ⟨h.payments, fun r hr => ⟨(h.refunds r hr).fits, (h.refunds r hr).unique⟩⟩)
      a hw

/-- The column takes the identifier, if it is not too long: it is encoded, and has no NUL in it. -/
def PyStr.Storable (s : PyStr) : Prop := ∃ value, s = .text value ∧ nullFree value = true

instance : DecidablePred PyStr.Storable
  | .text value => decidable_of_iff (nullFree value = true) (by simp [PyStr.Storable])
  | .lone _ _ _ => isFalse (by simp [PyStr.Storable])

def PyStr.length : PyStr → Nat
  | .text value => value.length
  | .lone start _ rest => start.length + 1 + rest.length

theorem PyStr.Storable.varchar {s : PyStr} (h : s.Storable) {n : Nat} (hlength : s.length ≤ n) :
    ∃ value, s = .text value ∧ ChargeMate.varchar n value = true := by
  obtain ⟨value, rfl, hfree⟩ := h
  exact ⟨value, rfl, varchar_iff.mpr ⟨hlength, hfree⟩⟩

/-- The answer has the identifier and the status, and agrees with the request in every other field
that `_valid_refund_payload` tests. -/
def ProviderAnswer.Agrees (paymentId : String) (amountSubunits : Int) (currency : String)
    (id : PyStr) (status : Json) : ProviderAnswer → Prop
  | .failure | .uncaught => False
  | .body payload => ∃ fields ∈ payload.asDict,
      (getEntry fields "id").asStr = some id ∧ id.startsWith "rfnd_" = true ∧
      (getEntry fields "payment_id").eqStr paymentId = true ∧
      (getEntry fields "amount").eqInt amountSubunits = true ∧
      (getEntry fields "currency").eqStr currency = true ∧ getEntry fields "status" = status

section

variable (paymentId : String) (amountSubunits : Int) (currency : String)

/-- The call ends in an exception that the `except` clause does not name, or the answer is right up
to a list or an object as its status. -/
def ProviderAnswer.Escapes (answer : ProviderAnswer) : Prop :=
  answer = .uncaught ∨
    ∃ id status, answer.Agrees paymentId amountSubunits currency id status ∧
      status.hashable = false

/-- The answer is right, but for an identifier that the column does not take. -/
def ProviderAnswer.Unstorable (answer : ProviderAnswer) : Prop :=
  ∃ id status, answer.Agrees paymentId amountSubunits currency id status ∧
    (∃ verdict, status.asStr.bind RazorpayRefundStatus.ofStr = some verdict) ∧ ¬id.Storable

/-- Either the refund that was asked for, or the exception that the callers handle. -/
def RefundParsed : Except Raised RazorpayRefund → Prop
  | .ok refund => refund.paymentId = paymentId ∧
      refund.amountSubunits.eqInt amountSubunits = true ∧ refund.currency = currency
  | .error e => e = .razorpayRefundError

instance (result : Except Raised RazorpayRefund) :
    Decidable (RefundParsed paymentId amountSubunits currency result) := by
  cases result <;> unfold RefundParsed <;> infer_instance

variable {paymentId amountSubunits currency}

theorem ProviderAnswer.Agrees.unique {answer : ProviderAnswer} {id id' : PyStr}
    {status status' : Json} (h : answer.Agrees paymentId amountSubunits currency id status)
    (h' : answer.Agrees paymentId amountSubunits currency id' status') :
    id = id' ∧ status = status' := by
  cases answer with
  | failure => exact h.elim
  | uncaught => exact h.elim
  | body payload =>
      obtain ⟨fields, hfields, hid, _, _, _, _, hstatus⟩ := h
      obtain ⟨fields', hfields', hid', _, _, _, _, hstatus'⟩ := h'
      obtain rfl : fields = fields' := Option.some.inj (hfields.symm.trans hfields')
      exact ⟨Option.some.inj (hid.symm.trans hid'), hstatus.symm.trans hstatus'⟩

/-- The identifier that an answer names. -/
def ProviderAnswer.entityId : ProviderAnswer → Option PyStr
  | .failure | .uncaught => none
  | .body payload => payload.asDict.bind fun fields => (getEntry fields "id").asStr

/-- An answer that agrees with the request is judged by its status. -/
theorem createRazorpayRefund_of_agrees {answer : ProviderAnswer} {id : PyStr} {status : Json}
    (h : answer.Agrees paymentId amountSubunits currency id status) :
    answer.entityId = some id ∧ ∃ amount : Json, amount.eqInt amountSubunits = true ∧
      createRazorpayRefund paymentId amountSubunits currency answer = do
        ensure (status.hashable = true) .typeError
        let verdict ← orRaise (status.asStr.bind RazorpayRefundStatus.ofStr) .razorpayRefundError
        return { id, paymentId, amountSubunits := amount, currency, status := verdict } := by
  cases answer with
  | failure => exact h.elim
  | uncaught => exact h.elim
  | body payload =>
      obtain ⟨fields, hfields, hid, hstart, hpayment, hamount, hcurrency, rfl⟩ := h
      rw [Option.mem_def] at hfields
      refine ⟨?_, _, hamount, ?_⟩
      · simp only [ProviderAnswer.entityId, hfields, Option.bind_some, hid]
      · simp only [createRazorpayRefund, validRefundPayload, hfields, hid]
        rw [(ensure_eq_ok (u := ())).mpr ⟨hstart, hpayment, hamount, hcurrency⟩]
        rfl

/-- Every other answer is refused, unless the call has ended in some exception of its own. -/
theorem createRazorpayRefund_of_not_agrees {answer : ProviderAnswer} (hcaught : answer ≠ .uncaught)
    (h : ∀ id status, ¬answer.Agrees paymentId amountSubunits currency id status) :
    createRazorpayRefund paymentId amountSubunits currency answer =
      .error .razorpayRefundError := by
  cases answer with
  | failure => rfl
  | uncaught => exact absurd rfl hcaught
  | body payload =>
      simp only [createRazorpayRefund, validRefundPayload]
      cases hdict : payload.asDict with
      | none => rfl
      | some fields =>
      cases hstr : (getEntry fields "id").asStr with
      | none => simp only [hstr]
      | some id =>
          simp only [hstr]
          refine bind_eq_error.mpr (Or.inl (ensure_eq_error.mpr ⟨fun hsame => ?_, rfl⟩))
          exact h id _ ⟨fields, hdict, hstr, hsame.1, hsame.2.1, hsame.2.2.1, hsame.2.2.2, rfl⟩

/-- Asking for a refund raises what nobody handles, or is refused, or returns the refund that was
asked for. -/
theorem createRazorpayRefund_cases (paymentId : String) (amountSubunits : Int) (currency : String)
    (answer : ProviderAnswer) :
    (answer.Escapes paymentId amountSubunits currency ∧
      ∃ e, createRazorpayRefund paymentId amountSubunits currency answer = .error e ∧
        e ≠ .razorpayRefundError) ∨
    ¬answer.Escapes paymentId amountSubunits currency ∧
      ((¬answer.Unstorable paymentId amountSubunits currency ∧
        createRazorpayRefund paymentId amountSubunits currency answer =
          .error .razorpayRefundError) ∨
      ∃ refund, createRazorpayRefund paymentId amountSubunits currency answer = .ok refund ∧
        RefundParsed paymentId amountSubunits currency (.ok refund) ∧
        answer.entityId = some refund.id ∧
        (answer.Unstorable paymentId amountSubunits currency ↔ ¬refund.id.Storable)) := by
  by_cases hcaught : answer = .uncaught
  · subst hcaught
    exact Or.inl ⟨Or.inl rfl, _, rfl, Raised.noConfusion⟩
  by_cases hagrees : ∃ id status, answer.Agrees paymentId amountSubunits currency id status
  · obtain ⟨id, status, hagrees⟩ := hagrees
    obtain ⟨hentity, amount, hamount, heq⟩ := createRazorpayRefund_of_agrees hagrees
    rw [heq]
    cases hhash : status.hashable with
    | false => exact Or.inl ⟨Or.inr ⟨id, status, hagrees, hhash⟩, .typeError, rfl,
        Raised.noConfusion⟩
    | true =>
        refine Or.inr ⟨?_, ?_⟩
        · rintro (huncaught | ⟨id', status', hagrees', hhash'⟩)
          · exact hcaught huncaught
          · rw [← (hagrees.unique hagrees').2, hhash] at hhash'
            cases hhash'
        cases hverdict : status.asStr.bind RazorpayRefundStatus.ofStr with
        | none =>
            refine Or.inl ⟨?_, rfl⟩
            rintro ⟨id', status', hagrees', ⟨verdict, hsome⟩, _⟩
            rw [← (hagrees.unique hagrees').2, hverdict] at hsome
            cases hsome
        | some verdict =>
            refine Or.inr ⟨_, rfl, ⟨rfl, hamount, rfl⟩, hentity, ?_, ?_⟩
            · rintro ⟨id', status', hagrees', _, hstorable⟩
              rwa [← (hagrees.unique hagrees').1] at hstorable
            · exact fun hstorable => ⟨id, status, hagrees, ⟨verdict, hverdict⟩, hstorable⟩
  · have hnone : ∀ id status, ¬answer.Agrees paymentId amountSubunits currency id status :=
      fun id status h => hagrees ⟨id, status, h⟩
    refine Or.inr ⟨?_, Or.inl ⟨?_, createRazorpayRefund_of_not_agrees hcaught hnone⟩⟩
    · rintro (huncaught | ⟨id, status, h, _⟩)
      · exact hcaught huncaught
      · exact hnone id status h
    · rintro ⟨id, status, h, _⟩
      exact hnone id status h

variable (paymentId amountSubunits currency)

/-- A question about a refund is answered as a request for it is, and by its identifier. -/
theorem fetchRazorpayRefund_eq (refundId : String) (answer : ProviderAnswer) :
    fetchRazorpayRefund refundId paymentId amountSubunits currency answer = do
      let refund ← createRazorpayRefund paymentId amountSubunits currency answer
      ensure (refund.id = .text refundId) .razorpayRefundError
      return refund := by
  cases answer <;> rfl

theorem fetchRazorpayRefund_cases (refundId : String) (answer : ProviderAnswer) :
    (answer.Escapes paymentId amountSubunits currency ∧
      ∃ e, fetchRazorpayRefund refundId paymentId amountSubunits currency answer = .error e ∧
        e ≠ .razorpayRefundError) ∨
    (¬answer.Escapes paymentId amountSubunits currency ∧
      RefundParsed paymentId amountSubunits currency
        (fetchRazorpayRefund refundId paymentId amountSubunits currency answer) ∧
      ∀ refund, fetchRazorpayRefund refundId paymentId amountSubunits currency answer = .ok refund →
        refund.id = .text refundId) := by
  rw [fetchRazorpayRefund_eq]
  rcases createRazorpayRefund_cases paymentId amountSubunits currency answer with
    ⟨hbad, e, hraise, hother⟩ | ⟨hgood, ⟨_, hraise⟩ | ⟨refund, hcreate, hparsed, _⟩⟩
  · rw [hraise]
    exact Or.inl ⟨hbad, e, rfl, hother⟩
  · rw [hraise]
    exact Or.inr ⟨hgood, rfl, fun refund h => by cases h⟩
  · rw [hcreate]
    by_cases hid : refund.id = .text refundId
    · have hfetch : (Except.ok refund >>= fun refund => do
          ensure (refund.id = .text refundId) .razorpayRefundError
          return refund) = (.ok refund : Except Raised RazorpayRefund) :=
        bind_eq_ok.mpr ⟨refund, rfl, bind_eq_ok.mpr ⟨(), ensure_eq_ok.mpr hid, rfl⟩⟩
      rw [hfetch]
      refine Or.inr ⟨hgood, hparsed, fun refund' h => ?_⟩
      cases h
      exact hid
    · have hfetch : (Except.ok refund >>= fun refund => do
          ensure (refund.id = .text refundId) .razorpayRefundError
          return refund) = (.error .razorpayRefundError : Except Raised RazorpayRefund) :=
        bind_eq_error.mpr (Or.inr ⟨refund, rfl,
          bind_eq_error.mpr (Or.inl (ensure_eq_error.mpr ⟨hid, rfl⟩))⟩)
      rw [hfetch]
      exact Or.inr ⟨hgood, rfl, fun refund' h => by cases h⟩

end

/-! ### The request for a refund -/

/-- What the provider is relied on for: its identifiers are short, and none is given to two
refunds. -/
def ProviderAnswer.NamesOnly (answer : ProviderAnswer) (db : Database) (refundId : Uuid) : Prop :=
  ∀ id ∈ answer.entityId, id.length ≤ 100 ∧
    ∀ r ∈ db.refunds, ∀ stored ∈ r.providerRefundId, id = .text stored → r.id = refundId

instance (answer : ProviderAnswer) (db : Database) (refundId : Uuid) :
    Decidable (answer.NamesOnly db refundId) := by
  unfold ProviderAnswer.NamesOnly
  infer_instance

/-- An accepted change of a refund is what the transaction leaves in the table. -/
theorem Database.find_updateRefund {db : Database} {r old : Refund} {id : Uuid} (hid : r.id = id)
    (hold : db.refunds.find id = some old) :
    Table.find { db with refunds := db.refunds.set r }.refunds id = some r := by
  subst hid
  exact Table.find_set_self (r := r) hold

section

variable {db : Database} {prepared : RefundRequestSnapshot} {r : Refund} {p : Payment}

theorem recordRefundFailure_settles (errorCode : String)
    (hr : db.refunds.find prepared.refundId = some r) (haccepts : db.AcceptsRefund r) :
    ∃ r', (recordRefundFailure prepared errorCode db).2.refunds.find prepared.refundId = some r' ∧
      r'.status ≠ .requested := by
  by_cases hrequested : r.status = .requested
  · let failed : Refund := { r with status := .failed, lastErrorCode := some errorCode }
    have hupd : db.updateRefund failed = .ok { db with refunds := db.refunds.set failed } :=
      Database.updateRefund_eq_ok.mpr ⟨haccepts.congr rfl rfl, rfl⟩
    have hrun : (recordRefundFailure prepared errorCode db).2 =
        { db with refunds := db.refunds.set failed } := by
      simp only [recordRefundFailure, transaction, hr, orRaise, bind, Except.bind,
        failLockedRefund, hrequested, if_true]
      rw [hupd]
      rfl
    rw [hrun]
    exact ⟨failed, Database.find_updateRefund (Table.key_of_find hr) hr, RefundStatus.noConfusion⟩
  · have hrun : (recordRefundFailure prepared errorCode db).2 = db := by
      simp only [recordRefundFailure, transaction, hr, orRaise, bind, Except.bind,
        failLockedRefund, hrequested, if_false]
      rfl
    rw [hrun]
    exact ⟨r, hr, hrequested⟩

theorem Refund.answered_status (r : Refund) (providerRefundId : String)
    (status : RazorpayRefundStatus) (now : Timestamp) :
    (r.answered providerRefundId status now).status ≠ .requested := by
  unfold Refund.answered
  cases status <;> exact RefundStatus.noConfusion

theorem Refund.answered_providerRefundId (r : Refund) (providerRefundId : String)
    (status : RazorpayRefundStatus) (now : Timestamp) :
    (r.answered providerRefundId status now).providerRefundId = some providerRefundId := by
  unfold Refund.answered
  cases status <;> rfl

variable {providerRefund : RazorpayRefund} {providerRefundId : String}

/-- A refund still REQUESTED takes the provider's first answer, if its identifier is accepted. -/
theorem finalizeRefund_refunds (now : Timestamp)
    (hr : db.refunds.find prepared.refundId = some r)
    (hp : db.payments.find prepared.paymentId = some p) (hrequested : r.status = .requested)
    (hid : providerRefund.id = .text providerRefundId)
    (hrefund : db.AcceptsRefund (r.answered providerRefundId providerRefund.status now))
    (hpayment : db.AcceptsPayment p) :
    (finalizeRefund prepared providerRefund now db).2.refunds =
      db.refunds.set (r.answered providerRefundId providerRefund.status now) := by
  let answered := r.answered providerRefundId providerRefund.status now
  have hupd : db.updateRefund answered = .ok { db with refunds := db.refunds.set answered } :=
    Database.updateRefund_eq_ok.mpr ⟨hrefund, rfl⟩
  have hpay : ({ db with refunds := db.refunds.set answered } : Database).AcceptsPayment
      { p with status := .refunded } := hpayment.congr rfl rfl rfl rfl
  show _ = db.refunds.set answered
  simp only [finalizeRefund, transaction, hr, hp, orRaise, bind, Except.bind,
    finalizeLockedRefund, hrequested, ne_eq, not_true, if_false, hid, PyStr.encoded]
  rw [hupd]
  cases hstatus : providerRefund.status with
  | pending => rfl
  | failed => rfl
  | processed =>
      simp only
      rw [Database.updatePayment_eq_ok.mpr ⟨hpay, rfl⟩]
      rfl

/-- A refund that has been settled meanwhile is left alone. -/
theorem finalizeRefund_of_not_requested (now : Timestamp)
    (hr : db.refunds.find prepared.refundId = some r)
    (hp : db.payments.find prepared.paymentId = some p) (hrequested : r.status ≠ .requested) :
    (finalizeRefund prepared providerRefund now db).2 = db := by
  simp only [finalizeRefund, transaction, hr, hp, orRaise, bind, Except.bind,
    finalizeLockedRefund, hrequested, ne_eq, not_false_iff, if_true]
  rfl

/-- The flush of a refund still REQUESTED raises for an identifier that the column does not
take. -/
theorem finalizeRefund_of_not_storable (now : Timestamp)
    (hr : db.refunds.find prepared.refundId = some r) (hrequested : r.status = .requested)
    (hstorable : ¬providerRefund.id.Storable) :
    (finalizeRefund prepared providerRefund now db).2 = db := by
  unfold finalizeRefund
  rcases transaction_cases .bookingStateConflictError _ db with ⟨e, he⟩ | ⟨a, db', hblock, _⟩
  · rw [he]
  simp only [bind_eq_ok, orRaise_eq_ok] at hblock
  obtain ⟨r', hr', p, _, hlocked⟩ := hblock
  obtain rfl : r = r' := Option.some.inj (hr.symm.trans hr')
  simp only [finalizeLockedRefund, hrequested, ne_eq, not_true, if_false, bind_eq_ok,
    PyStr.encoded_eq_ok] at hlocked
  obtain ⟨value, hvalue, _, hupd, _⟩ := hlocked
  have hfits := (Database.updateRefund_eq_ok.mp hupd).1.fits
  rw [r.answered_providerRefundId] at hfits
  exact absurd ⟨value, hvalue, (varchar_iff.mp hfits).2⟩ hstorable

theorem finalizeRefund_settles (now : Timestamp)
    (hr : db.refunds.find prepared.refundId = some r)
    (hp : db.payments.find prepared.paymentId = some p)
    (hid : providerRefund.id = .text providerRefundId)
    (hrefund : db.AcceptsRefund (r.answered providerRefundId providerRefund.status now))
    (hpayment : db.AcceptsPayment p) :
    ∃ r', (finalizeRefund prepared providerRefund now db).2.refunds.find prepared.refundId =
        some r' ∧ r'.status ≠ .requested := by
  by_cases hrequested : r.status = .requested
  · rw [finalizeRefund_refunds now hr hp hrequested hid hrefund hpayment]
    exact ⟨_, Database.find_updateRefund ((r.id_answered _ _ now).trans (Table.key_of_find hr)) hr,
      r.answered_status _ _ now⟩
  · rw [finalizeRefund_of_not_requested now hr hp hrequested]
    exact ⟨r, hr, hrequested⟩

/-- The refund is PENDING, PROCESSED or FAILED. -/
def Database.RefundSettled (db : Database) (refundId : Uuid) : Prop :=
  ∃ r ∈ db.refunds.find refundId, r.status ≠ .requested

instance (db : Database) (refundId : Uuid) : Decidable (db.RefundSettled refundId) := by
  unfold Database.RefundSettled
  infer_instance

theorem settleRefund_settles {answer : ProviderAnswer} (now : Timestamp)
    (hr : db.refunds.find prepared.refundId = some r)
    (hp : db.payments.find prepared.paymentId = some p)
    (hrefund : db.AcceptsRefund r) (hpayment : db.AcceptsPayment p)
    (hown : answer.NamesOnly db prepared.refundId) :
    (settleRefund prepared answer now db).2.RefundSettled prepared.refundId ↔
      (¬answer.Escapes prepared.providerPaymentId prepared.amountSubunits prepared.currency ∧
        ¬answer.Unstorable prepared.providerPaymentId prepared.amountSubunits
          prepared.currency) ∨ db.RefundSettled prepared.refundId := by
  rcases createRazorpayRefund_cases prepared.providerPaymentId prepared.amountSubunits
    prepared.currency answer with
    ⟨hbad, e, hraised, hother⟩ | ⟨hgood, ⟨hstorable, hrefused⟩ |
      ⟨providerRefund, hcreate, _, hentity, hstorable⟩⟩
  · -- the exception passes both handlers of the route
    have hkept : (settleRefund prepared answer now db).2 = db := by
      unfold settleRefund
      rw [hraised]
      cases e <;> first | rfl | exact absurd rfl hother
    rw [hkept]
    exact ⟨Or.inr, fun h => h.resolve_left fun hgood => hgood.1 hbad⟩
  · refine iff_of_true ?_ (Or.inl ⟨hgood, hstorable⟩)
    simp only [settleRefund, hrefused]
    exact recordRefundFailure_settles _ hr hrefund
  · simp only [settleRefund, hcreate]
    by_cases hid : providerRefund.id.Storable
    · refine iff_of_true ?_ (Or.inl ⟨hgood, fun h => hstorable.mp h hid⟩)
      obtain ⟨hlength, hunique⟩ := hown _ hentity
      obtain ⟨value, hvalue, hfits⟩ := hid.varchar hlength
      refine finalizeRefund_settles now hr hp hvalue ⟨?_, uniqueColumn_eq_true.mpr ?_⟩ hpayment
      · rw [r.answered_providerRefundId]
        exact hfits
      · intro v hv s hs hsv
        rw [r.answered_providerRefundId] at hv
        cases hv
        have hsame := (r.id_answered value providerRefund.status now).trans (Table.key_of_find hr)
        exact (hunique s hs _ hsv hvalue).trans hsame.symm
    · by_cases hrequested : r.status = .requested
      · rw [finalizeRefund_of_not_storable now hr hrequested hid]
        exact ⟨Or.inr, fun h => h.resolve_left fun hgood => hgood.2 (hstorable.mpr hid)⟩
      · have hsettled : db.RefundSettled prepared.refundId := ⟨r, hr, hrequested⟩
        rw [finalizeRefund_of_not_requested now hr hp hrequested]
        exact iff_of_true hsettled (Or.inr hsettled)

end

section

variable {Body : Type} {env : Env Body} {w : World}

theorem World.Reachable.acceptsPayment (h : w.Reachable env) {p : Payment}
    (hp : p ∈ w.db.payments) : w.db.AcceptsPayment p := by
  have hsound := h.sound.ledger.payments
  have hfits := h.fits.payments p hp
  have hpid : w.db.ledger.payments p.id = some p := Table.find_key hp
  refine ⟨hfits.1, hfits.2, uniqueColumn_eq_true.mpr fun v hv s hs hsv => ?_,
    uniqueColumn_eq_true.mpr fun v hv s hs hsv => ?_⟩
  · exact hsound.orders s.id p.id s p v (Table.find_key hs) hpid hsv hv
  · exact hsound.pins s.id p.id s p v (Table.find_key hs) hpid hsv hv

theorem World.Reachable.acceptsRefund (h : w.Reachable env) {r : Refund}
    (hr : r ∈ w.db.refunds) : w.db.AcceptsRefund r :=
  h.fits.refunds r hr

/-- Every stored refund and payment passes the checks of an update. -/
structure Database.Updatable (db : Database) : Prop where
  fits : db.Fits
  payments : ∀ p ∈ db.payments, db.AcceptsPayment p

theorem World.Reachable.updatable (h : w.Reachable env) : w.db.Updatable :=
  ⟨h.fits, fun _ hp => h.acceptsPayment hp⟩

/-- A pending refund with the provider's verdict. -/
def Refund.reconciled (r : Refund) (now : Timestamp) : RazorpayRefundStatus → Refund
  | .processed => { r with status := .processed, processedAt := some now, lastErrorCode := none }
  | .failed => { r with status := .failed, lastErrorCode := some "provider_refund_failed" }
  | .pending => r

def Payment.reconciled (p : Payment) : RazorpayRefundStatus → Payment
  | .processed => { p with status := .refunded }
  | .failed | .pending => p

/-- The verdict in both rows. -/
def Database.reconciled (db : Database) (r : Refund) (p : Payment) (now : Timestamp)
    (verdict : RazorpayRefundStatus) : Database :=
  { db with
    refunds := db.refunds.set (r.reconciled now verdict)
    payments := db.payments.set (p.reconciled verdict) }

theorem Database.reconciled_pending {db : Database} {r : Refund} {p : Payment} (hr : r ∈ db.refunds)
    (hp : p ∈ db.payments) (now : Timestamp) : db.reconciled r p now .pending = db := by
  simp only [Database.reconciled, Refund.reconciled, Payment.reconciled, Table.set_self hr,
    Table.set_self hp]

/-- The job writes the verdict, and nothing stands against it. -/
theorem Database.Updatable.applyReconciledRefund_eq {db : Database} (h : db.Updatable)
    {refundId : Uuid} {r : Refund} {p : Payment} (hr : db.refunds.find refundId = some r)
    (hpending : r.status = .pending) (hp : db.payments.find r.paymentId = some p)
    (providerRefund : RazorpayRefund) (now : Timestamp) :
    applyReconciledRefund refundId providerRefund now db =
      (.ok (.provider providerRefund.status), db.reconciled r p now providerRefund.status) := by
  have hrefund := h.fits.refunds r (Table.mem_of_find hr)
  have hpayment := h.payments p (Table.mem_of_find hp)
  have hfound : (db.refunds.find refundId).filter (fun r => r.status = .pending) = some r := by
    rw [hr]
    exact Option.filter_some_pos (decide_eq_true hpending)
  have hsame : db.payments.set p = db.payments := Table.set_self (Table.mem_of_find hp)
  simp only [applyReconciledRefund, transaction, hfound, hp, orRaise, bind, Except.bind]
  cases hverdict : providerRefund.status with
  | pending =>
      rw [Database.reconciled_pending (Table.mem_of_find hr) (Table.mem_of_find hp)]
      rfl
  | failed =>
      have haccepts : db.AcceptsRefund (r.reconciled now .failed) := hrefund.congr rfl rfl
      have hupdate := Database.updateRefund_eq_ok.mpr ⟨haccepts, rfl⟩
      simp only [Refund.reconciled] at hupdate
      simp only [reconcileLockedRefund, bind, Except.bind, hupdate, Database.reconciled,
        Refund.reconciled, Payment.reconciled, hsame]
      rfl
  | processed =>
      have haccepts : db.AcceptsRefund (r.reconciled now .processed) := hrefund.congr rfl rfl
      have hupdate := Database.updateRefund_eq_ok.mpr ⟨haccepts, rfl⟩
      have hpay : ∀ refunds, ({ db with refunds } : Database).updatePayment
          (p.reconciled .processed) =
            .ok { db with refunds, payments := db.payments.set (p.reconciled .processed) } :=
        fun refunds => Database.updatePayment_eq_ok.mpr ⟨hpayment.congr rfl rfl rfl rfl, rfl⟩
      simp only [Refund.reconciled, Payment.reconciled] at hupdate hpay
      simp only [reconcileLockedRefund, bind, Except.bind, hupdate, hpay, Database.reconciled,
        Refund.reconciled, Payment.reconciled]
      rfl

theorem World.Reachable.closeCancellation_settles (h : w.Reachable env) {requestId : Uuid}
    {request : CancellationRequest} {snapshot : RefundRequestSnapshot} {answer : ProviderAnswer}
    (now : Timestamp) (hrequest : w.cancellationRequests.find requestId = some request)
    (hcalled : request.phase = .called snapshot) (hown : answer.NamesOnly w.db snapshot.refundId) :
    (w.closeCancellation requestId answer now).db.RefundSettled snapshot.refundId ↔
      (¬answer.Escapes snapshot.providerPaymentId snapshot.amountSubunits snapshot.currency ∧
        ¬answer.Unstorable snapshot.providerPaymentId snapshot.amountSubunits
          snapshot.currency) ∨ w.db.RefundSettled snapshot.refundId := by
  have hflight : request.InFlight snapshot := Or.inr hcalled
  obtain ⟨r, p, hr, hp, _⟩ := (h.sound.cancellations.requests requestId request
    snapshot hrequest hflight.carries).2
  rw [Database.refunds_ledger] at hr
  rw [Database.payments_ledger] at hp
  have hclose : (w.closeCancellation requestId answer now).db =
      (settleRefund snapshot answer now w.db).2 := by
    obtain ⟨id, userId, bookingId, expectedVersion, phase⟩ := request
    cases hcalled
    simp only [World.closeCancellation, hrequest]
  rw [hclose]
  exact settleRefund_settles now hr hp (h.acceptsRefund (Table.mem_of_find hr))
    (h.acceptsPayment (Table.mem_of_find hp)) hown

/-! ### The job -/

/-- A job with refunds left has not been ended by an exception. -/
def World.JobsGoOn (w : World) : Prop :=
  ∀ job ∈ w.reconciliations, job.remaining ≠ [] → job.raised = none

theorem ReconciliationRun.id_after (job : ReconciliationRun) (rest : List RefundSnapshot)
    (result : Except Raised (Option ReconciliationOutcome)) :
    (job.after rest result).id = job.id := by
  simp only [ReconciliationRun.after]
  split <;> rfl

theorem ReconciliationRun.after_goesOn {job : ReconciliationRun} (rest : List RefundSnapshot)
    (result : Except Raised (Option ReconciliationOutcome)) (h : job.raised = none) :
    (job.after rest result).remaining ≠ [] → (job.after rest result).raised = none := by
  unfold ReconciliationRun.after
  split
  · exact fun hne => absurd rfl hne
  all_goals exact fun _ => h

/-- The table of jobs is changed by the two steps of a job only. -/
theorem World.JobsGoOn.step (hw : w.JobsGoOn) (a : Action Body) : (w.step env a).JobsGoOn := by
  cases a with
  | startReconciliation runId batchSize =>
      simp only [World.step, World.startReconciliation]
      split
      · exact hw
      · split
        · exact hw
        · next hins =>
          intro job hjob
          rcases (Table.mem_insert hins).mp hjob with hold | rfl
          · exact hw job hold
          · exact fun _ => rfl
  | reconcileNext runId answer now =>
      simp only [World.step, World.reconcileNext]
      split
      · exact hw
      · next job hjob =>
        split
        · exact hw
        · next snapshot rest hremaining =>
          intro job' hjob'
          rcases mem_of_mem_set hjob' with rfl | hold
          · refine ReconciliationRun.after_goesOn rest _ (hw job (Table.mem_of_find hjob) ?_)
            rw [hremaining]
            exact List.cons_ne_nil snapshot rest
          · exact hw job' hold
  | requestOrder => simp only [World.step, World.requestOrder]; split <;> exact hw
  | beginOrder => simp only [World.step, World.beginOrder]; split <;> exact hw
  | callOrder => simp only [World.step, World.callOrder]; split <;> exact hw
  | closeOrder => simp only [World.step, World.closeOrder]; split <;> exact hw
  | receiveDelivery deliveryId request =>
      simp only [World.step, World.receiveDelivery]
      split
      · exact hw
      · split <;> exact hw
  | storeDelivery => simp only [World.step, World.storeDelivery]; split <;> exact hw
  | requestCancellation => simp only [World.step, World.requestCancellation]; split <;> exact hw
  | callRefund =>
      simp only [World.step, World.callRefund]
      split
      · split <;> exact hw
      · exact hw
  | closeCancellation => simp only [World.step, World.closeCancellation]; split <;> exact hw
  | readCancellation => simp only [World.step, World.readCancellation]; split <;> exact hw
  | _ => exact hw

theorem World.Reachable.jobsGoOn (h : w.Reachable env) : w.JobsGoOn := by
  refine Transition.Reachable.invariant (P := World.JobsGoOn) ?_ (fun w a _ hw => hw.step a) h
  intro w hinit job hjob
  rw [hinit.reconciliations] at hjob
  exact absurd hjob (Table.notMem_empty job)

/-- The update of a refund and its payment passes the checks of the columns. -/
theorem World.Reachable.applyReconciledRefund_ok (h : w.Reachable env) (refundId : Uuid)
    (providerRefund : RazorpayRefund) (now : Timestamp) :
    ∃ outcome, (applyReconciledRefund refundId providerRefund now w.db).1 = .ok outcome := by
  by_cases hpending : ∃ r, w.db.refunds.find refundId = some r ∧ r.status = .pending
  · obtain ⟨r, hr, hstatus⟩ := hpending
    obtain ⟨p, _, hp, _, hsettles⟩ := h.sound.ledger.refunds.settles refundId r hr
    rw [← hsettles.paymentId, Database.payments_ledger] at hp
    rw [h.updatable.applyReconciledRefund_eq hr hstatus hp]
    exact ⟨_, rfl⟩
  · have hnone : (w.db.refunds.find refundId).filter (fun r => r.status = .pending) = none := by
      rw [Option.filter_eq_none_iff]
      exact fun r hr hstatus => hpending ⟨r, hr, of_decide_eq_true hstatus⟩
    simp only [applyReconciledRefund, transaction, hnone]
    exact ⟨_, rfl⟩

/-- One turn of a job. -/
theorem World.reconcileNext_eq {runId : Uuid} {job : ReconciliationRun} {snapshot : RefundSnapshot}
    {rest : List RefundSnapshot} (hjob : w.reconciliations.find runId = some job)
    (hremaining : job.remaining = snapshot :: rest) (answer : ProviderAnswer) (now : Timestamp) :
    (w.reconcileNext runId answer now).db = (reconcileSnapshot snapshot answer now w.db).2 ∧
      (w.reconcileNext runId answer now).reconciliations.find runId =
        some (job.after rest (reconcileSnapshot snapshot answer now w.db).1) := by
  let result := (reconcileSnapshot snapshot answer now w.db).1
  have hkey : key (job.after rest result) = runId :=
    (job.id_after rest result).trans (Table.key_of_find hjob)
  have hold : w.reconciliations.find (key (job.after rest result)) = some job := by
    rw [hkey]
    exact hjob
  have hset := Table.find_set_self (r := job.after rest result) hold
  rw [hkey] at hset
  simp only [World.reconcileNext, hjob, hremaining, true_and]
  exact hset

/-- The answer to one question of a job ends it exactly when it raises what the job does not
handle. -/
theorem World.Reachable.reconcileNext_goesOn (h : w.Reachable env) {runId : Uuid}
    {job : ReconciliationRun} {snapshot : RefundSnapshot} {rest : List RefundSnapshot}
    (answer : ProviderAnswer) (now : Timestamp) (hjob : w.reconciliations.find runId = some job)
    (hremaining : job.remaining = snapshot :: rest) :
    (∃ job' ∈ (w.reconcileNext runId answer now).reconciliations.find runId,
        job'.remaining = rest ∧ job'.raised = none) ↔
      ¬answer.Escapes snapshot.providerPaymentId snapshot.amountSubunits snapshot.currency := by
  have hraised : job.raised = none :=
    h.jobsGoOn job (Table.mem_of_find hjob) (hremaining ▸ List.cons_ne_nil snapshot rest)
  let result := (reconcileSnapshot snapshot answer now w.db).1
  have hafter : (w.reconcileNext runId answer now).reconciliations.find runId =
      some (job.after rest result) := (w.reconcileNext_eq hjob hremaining answer now).2
  simp only [hafter, Option.mem_some_iff, exists_eq_left']
  rcases fetchRazorpayRefund_cases snapshot.providerPaymentId snapshot.amountSubunits
    snapshot.currency snapshot.providerRefundId answer with
    ⟨hbad, e, hfetch, hother⟩ | ⟨hgood, hparsed, _⟩
  · refine iff_of_false ?_ (fun hgood => hgood hbad)
    have hresult : result = .error e := by
      simp only [result, reconcileSnapshot]
      rw [hfetch]
      cases e <;> first | rfl | exact absurd rfl hother
    rw [hresult]
    exact fun hgoes => Option.some_ne_none _ hgoes.2
  · refine iff_of_true ?_ hgood
    have hresult : ∃ outcome, result = .ok outcome := by
      cases hfetch : fetchRazorpayRefund snapshot.providerRefundId snapshot.providerPaymentId
          snapshot.amountSubunits snapshot.currency answer with
      | error e =>
          rw [hfetch] at hparsed
          cases hparsed
          exact ⟨none, by simp only [result, reconcileSnapshot, hfetch]⟩
      | ok providerRefund =>
          obtain ⟨outcome, happly⟩ :=
            h.applyReconciledRefund_ok snapshot.refundId providerRefund now
          refine ⟨some outcome, ?_⟩
          simp only [result, reconcileSnapshot, hfetch, happly]
          rfl
    obtain ⟨outcome, houtcome⟩ := hresult
    rw [houtcome]
    unfold ReconciliationRun.after
    split
    · next heq => cases heq
    all_goals exact ⟨rfl, hraised⟩

end

/-- Every answer about a refund is either parsed or refused as a bad answer, settles the request
and lets the job go on, unless it raises something else: in the call itself, by a list or an object
as its status, or, for the request, by an identifier that the column does not take. -/
theorem refund_answers_handled {Body : Type} (env : Env Body) {w : World} (h : w.Reachable env) :
    (∀ paymentId amountSubunits currency answer,
      RefundParsed paymentId amountSubunits currency
          (createRazorpayRefund paymentId amountSubunits currency answer) ↔
        ¬answer.Escapes paymentId amountSubunits currency) ∧
    (∀ refundId paymentId amountSubunits currency answer,
      (RefundParsed paymentId amountSubunits currency
          (fetchRazorpayRefund refundId paymentId amountSubunits currency answer) ∧
        ∀ refund, fetchRazorpayRefund refundId paymentId amountSubunits currency answer =
          .ok refund → refund.id = .text refundId) ↔
        ¬answer.Escapes paymentId amountSubunits currency) ∧
    (∀ requestId request snapshot answer now,
      w.cancellationRequests.find requestId = some request → request.phase = .called snapshot →
      answer.NamesOnly w.db snapshot.refundId →
      ((w.closeCancellation requestId answer now).db.RefundSettled snapshot.refundId ↔
        (¬answer.Escapes snapshot.providerPaymentId snapshot.amountSubunits snapshot.currency ∧
          ¬answer.Unstorable snapshot.providerPaymentId snapshot.amountSubunits
            snapshot.currency) ∨ w.db.RefundSettled snapshot.refundId)) ∧
    ∀ runId job snapshot rest answer now,
      w.reconciliations.find runId = some job → job.remaining = snapshot :: rest →
      ((∃ job' ∈ (w.reconcileNext runId answer now).reconciliations.find runId,
          job'.remaining = rest ∧ job'.raised = none) ↔
        ¬answer.Escapes snapshot.providerPaymentId snapshot.amountSubunits snapshot.currency) := by
  refine ⟨?_, ?_, ?_, ?_⟩
  · intro paymentId amountSubunits currency answer
    rcases createRazorpayRefund_cases paymentId amountSubunits currency answer with
      ⟨hbad, e, hraised, hother⟩ | ⟨hgood, ⟨_, hrefused⟩ | ⟨refund, hcreate, hparsed, _⟩⟩
    · rw [hraised]
      exact iff_of_false hother fun hgood => hgood hbad
    · rw [hrefused]
      exact iff_of_true rfl hgood
    · rw [hcreate]
      exact iff_of_true hparsed hgood
  · intro refundId paymentId amountSubunits currency answer
    rcases fetchRazorpayRefund_cases paymentId amountSubunits currency refundId answer with
      ⟨hbad, e, hraised, hother⟩ | ⟨hgood, hparsed, hid⟩
    · rw [hraised]
      exact iff_of_false (fun h => hother h.1) fun hgood => hgood hbad
    · exact iff_of_true ⟨hparsed, hid⟩ hgood
  · intro requestId request snapshot answer now hrequest hcalled hown
    exact h.closeCancellation_settles now hrequest hcalled hown
  · intro runId job snapshot rest answer now hjob hremaining
    exact h.reconcileNext_goesOn answer now hjob hremaining

def sampleRefundAnswer (refundId paymentId : String) (status : Json) : ProviderAnswer :=
  .body (.obj [("id", .str refundId), ("payment_id", .str paymentId), ("amount", .int 10000),
    ("currency", .str "INR"), ("status", status)])

/-- Two cancelled bookings, whose refunds the provider has accepted. -/
def samplePendingRefunds : List (Action Json) :=
  sampleCancellation ++
    [.closeCancellation 50 (sampleRefundAnswer "rfnd_1" "pay_1" (.str "pending")) 0,
    sampleHold 21 2, .requestOrder 31 sampleUser ⟨21, 1, 31⟩, .beginOrder 31 31 0, .callOrder 31,
    .closeOrder 31 (sampleOrderAnswer "order_B") 0] ++
    sampleDelivery 41 "evt_2" "payment.captured" "order_B" "pay_2" ++
    [.requestCancellation 51 10 21 3 61 0 0 0, .callRefund 51,
    .closeCancellation 51 (sampleRefundAnswer "rfnd_2" "pay_2" (.str "pending")) 0]

/-- A list for a status leaves the refund REQUESTED for good, and ends the job before the second
refund is looked at. A body nested too deep does the same, and an identifier with a NUL in it leaves
the refund REQUESTED. -/
theorem refund_answers_handled_counterexample :
    ¬RefundParsed "pay_1" 10000 "INR" (createRazorpayRefund "pay_1" 10000 "INR"
      (sampleRefundAnswer "rfnd_1" "pay_1" (.arr []))) ∧
    ¬RefundParsed "pay_1" 10000 "INR" (createRazorpayRefund "pay_1" 10000 "INR" .uncaught) ∧
    (sampleWorld.run sampleEnv sampleCancellation).Reachable sampleEnv ∧
    (∀ answer ∈ [sampleRefundAnswer "rfnd_1" "pay_1" (.arr []), .uncaught,
        sampleRefundAnswer "rfnd_\x00" "pay_1" (.str "processed")],
      answer.NamesOnly (sampleWorld.run sampleEnv sampleCancellation).db 60 ∧
      ((sampleWorld.run sampleEnv (sampleCancellation ++
        [.closeCancellation 50 answer 0])).db.refunds.find 60).map Refund.status =
          some .requested) ∧
    (sampleWorld.run sampleEnv (samplePendingRefunds ++
      [.startReconciliation 80 100])).Reachable sampleEnv ∧
    ((sampleWorld.run sampleEnv (samplePendingRefunds ++
      [.startReconciliation 80 100])).reconciliations.find 80).map
        (fun job => job.remaining.map RefundSnapshot.refundId) = some [60, 61] ∧
    ((sampleWorld.run sampleEnv (samplePendingRefunds ++ [.startReconciliation 80 100,
      .reconcileNext 80 (sampleRefundAnswer "rfnd_1" "pay_1" (.arr [])) 0])).reconciliations.find
        80).map (fun job => (job.remaining, job.raised)) = some ([], some .typeError) ∧
    ((sampleWorld.run sampleEnv (samplePendingRefunds ++ [.startReconciliation 80 100,
      .reconcileNext 80 .uncaught 0])).reconciliations.find
        80).map (fun job => (job.remaining, job.raised)) = some ([], some .uncaughtError) :=
  ⟨by decide +kernel, by decide +kernel, sampleWorld_reachable _, by decide +kernel,
    sampleWorld_reachable _, by decide +kernel, by decide +kernel, by decide +kernel⟩

/-- A missing status does no such harm: the refund fails, and the job goes on to the next one. -/
theorem refund_answers_handled_sample :
    ((sampleWorld.run sampleEnv sampleCancellation).closeCancellation 50
      (sampleRefundAnswer "rfnd_1" "pay_1" .null) 0).db.RefundSettled 60 ∧
    ∃ job ∈ ((sampleWorld.run sampleEnv (samplePendingRefunds ++
        [.startReconciliation 80 100])).reconcileNext 80
          (sampleRefundAnswer "rfnd_1" "pay_1" .null) 0).reconciliations.find 80,
      job.remaining.map RefundSnapshot.refundId = [61] ∧ job.raised = none := by
  have hstatus : ∀ {refundId paymentId paymentId' : String} {amountSubunits : Int}
      {currency : String} {id : PyStr} {status : Json},
      (sampleRefundAnswer refundId paymentId .null).Agrees paymentId' amountSubunits currency id
        status → status = .null := by
    rintro refundId paymentId paymentId' amountSubunits currency id status
      ⟨fields, hfields, _, _, _, _, _, rfl⟩
    cases hfields
    rfl
  have hgood : ∀ refundId paymentId paymentId' amountSubunits currency,
      ¬(sampleRefundAnswer refundId paymentId .null).Escapes paymentId' amountSubunits
        currency := by
    rintro refundId paymentId paymentId' amountSubunits currency
      (huncaught | ⟨id, status, hagrees, hhash⟩)
    · cases huncaught
    · rw [hstatus hagrees] at hhash
      cases hhash
  have hstorable : ∀ refundId paymentId paymentId' amountSubunits currency,
      ¬(sampleRefundAnswer refundId paymentId .null).Unstorable paymentId' amountSubunits
        currency := by
    rintro refundId paymentId paymentId' amountSubunits currency
      ⟨id, status, hagrees, ⟨verdict, hverdict⟩, _⟩
    rw [hstatus hagrees] at hverdict
    cases hverdict
  refine ⟨?_, ?_⟩
  · have hrequest : ∃ request ∈ (sampleWorld.run sampleEnv
        sampleCancellation).cancellationRequests.find 50, request.ticket = some (60, true) := by
      decide +kernel
    have hown : (sampleRefundAnswer "rfnd_1" "pay_1" .null).NamesOnly
        (sampleWorld.run sampleEnv sampleCancellation).db 60 := by decide +kernel
    obtain ⟨request, hfind, hticket⟩ := hrequest
    unfold CancellationRequest.ticket at hticket
    split at hticket
    · simp at hticket
    · next snapshot hcalled =>
      have hid : snapshot.refundId = 60 := by simpa using hticket
      rw [← hid] at hown ⊢
      exact ((refund_answers_handled sampleEnv (sampleWorld_reachable sampleCancellation)).2.2.1 50
        request snapshot _ 0 hfind hcalled hown).mpr
          (Or.inl ⟨hgood _ _ _ _ _, hstorable _ _ _ _ _⟩)
    all_goals simp at hticket
  · have hjob : ∃ job ∈ (sampleWorld.run sampleEnv (samplePendingRefunds ++
        [.startReconciliation 80 100])).reconciliations.find 80,
        job.remaining.map RefundSnapshot.refundId = [60, 61] := by decide +kernel
    obtain ⟨job, hfind, hremaining⟩ := hjob
    cases hrest : job.remaining with
    | nil =>
        rw [hrest] at hremaining
        cases hremaining
    | cons snapshot rest =>
        rw [hrest] at hremaining
        obtain ⟨job', hjob', hrest', hraised⟩ := ((refund_answers_handled sampleEnv
          (sampleWorld_reachable _)).2.2.2 80 job snapshot rest
            (sampleRefundAnswer "rfnd_1" "pay_1" .null) 0 hfind hrest).mpr (hgood _ _ _ _ _)
        refine ⟨job', hjob', ?_, hraised⟩
        rw [hrest']
        exact (List.cons.inj hremaining).2

end ChargeMate
