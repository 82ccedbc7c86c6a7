import ChargeMate.SafetyEvidence
import ChargeMate.SafetyReconciliation
import ChargeMate.SafetySettlements

/-! What stands behind the refunds of every run: each identifier and each verdict on a refund row was
given by the provider for that very payment, in an answer or in a signed request. -/

namespace ChargeMate

open Relational

section

variable {Body : Type} (env : Env Body)

/-- The writes of a stored refund, each with what the transaction has checked before. -/
inductive World.WritesRefund (w : World) : Action Body → Refund → Refund → Prop where
  | failure {a : Action Body} {r : Refund} (code : String) (hrequested : r.status = .requested) :
      WritesRefund w a r { r with status := .failed, lastErrorCode := some code }
  | answer {requestId : Uuid} {answer : ProviderAnswer} {now : Timestamp} {r : Refund} (p : Payment)
      (providerPaymentId refundId : String) (providerRefund : RazorpayRefund)
      (hp : w.db.payments.find r.paymentId = some p)
      (hpinned : p.providerPaymentId = some providerPaymentId)
      (hanswer : createRazorpayRefund providerPaymentId p.amountSubunits p.currency answer =
        .ok providerRefund)
      (hid : providerRefund.id = .text refundId) (hrequested : r.status = .requested) :
      WritesRefund w (.closeCancellation requestId answer now) r
        (r.answered refundId providerRefund.status now)
  | verdict {runId : Uuid} {answer : ProviderAnswer} {now : Timestamp} {r : Refund}
      (job : ReconciliationRun) (snapshot : RefundSnapshot) (providerRefund : RazorpayRefund)
      (hjob : job ∈ w.reconciliations) (hsnapshot : snapshot ∈ job.remaining)
      (hid : snapshot.refundId = r.id)
      (hanswer : fetchRazorpayRefund snapshot.providerRefundId snapshot.providerPaymentId
        snapshot.amountSubunits snapshot.currency answer = .ok providerRefund)
      (hpending : r.status = .pending) :
      WritesRefund w (.reconcileNext runId answer now) r (r.reconciled now providerRefund.status)
  | notice {a : Action Body} {r : Refund} (d : Delivery) (n : RefundNotice) (p : Payment)
      (refundId : String) (now : Timestamp) (hstoring : w.storing a = some d)
      (hnotice : d.refundNotice = some n) (hid : n.refundId = .text refundId)
      (hsubject : n.subject w.db = some (p, r)) (hmatch : n.Matches r) :
      WritesRefund w a r (n.refund (r.pinned refundId) now)
  | complaint {a : Action Body} {r : Refund} (code : String) :
      WritesRefund w a r { r with lastErrorCode := some code }

/-! ### What a transaction does to the stored refunds -/

/-- After one write of a stored refund, a row is the written one or as it was. -/
theorem Database.refund_of_set {db db' : Database} {q q' r r' : Refund}
    (heq : db'.refunds = db.refunds.set q') (hid : q'.id = q.id)
    (hq : db.refunds.find q.id = some q) (hr : db.refunds.find r.id = some r)
    (hr' : db'.refunds.find r.id = some r') : (q = r ∧ r' = q') ∨ r' = r := by
  rw [heq] at hr'
  exact Table.row_of_set hid hq hr hr'

theorem recordRefundFailure_refunds (prepared : RefundRequestSnapshot) (errorCode : String)
    (db : Database) : (recordRefundFailure prepared errorCode db).2.refunds = db.refunds ∨
      ∃ r, db.refunds.find r.id = some r ∧ r.status = .requested ∧
        (recordRefundFailure prepared errorCode db).2.refunds =
          db.refunds.set { r with status := .failed, lastErrorCode := some errorCode } := by
  unfold recordRefundFailure
  rcases transaction_cases .integrityError _ db with ⟨e, he⟩ | ⟨a, db', h, ht⟩
  · exact Or.inl (by rw [he])
  rw [ht]
  simp only [bind_eq_ok, orRaise_eq_ok] at h
  obtain ⟨r, hr, h⟩ := h
  unfold failLockedRefund at h
  split at h
  · next hrequested =>
    simp only [bind_eq_ok, pure_eq_ok, Prod.mk.injEq] at h
    obtain ⟨db₁, hupd, _, rfl⟩ := h
    obtain ⟨_, rfl⟩ := Database.updateRefund_eq_ok.mp hupd
    exact Or.inr ⟨r, Database.find_refund_id hr, hrequested, rfl⟩
  · simp only [bind_eq_ok, pure_eq_ok, Prod.mk.injEq, Except.ok.injEq, exists_eq_left'] at h
    exact Or.inl (by rw [← h.2])

theorem finalizeRefund_written (prepared : RefundRequestSnapshot) (providerRefund : RazorpayRefund)
    (now : Timestamp) (db : Database) :
    (finalizeRefund prepared providerRefund now db).2.refunds = db.refunds ∨
      ∃ r refundId, db.refunds.find prepared.refundId = some r ∧ r.status = .requested ∧
        providerRefund.id = .text refundId ∧
        (finalizeRefund prepared providerRefund now db).2.refunds =
          db.refunds.set (r.answered refundId providerRefund.status now) := by
  unfold finalizeRefund
  rcases transaction_cases .bookingStateConflictError _ db with ⟨e, he⟩ | ⟨a, db', h, ht⟩
  · exact Or.inl (by rw [he])
  rw [ht]
  simp only [bind_eq_ok, orRaise_eq_ok] at h
  obtain ⟨r, hr, p, _, h⟩ := h
  unfold finalizeLockedRefund at h
  split at h
  · simp only [pure_eq_ok, Prod.mk.injEq] at h
    exact Or.inl (by rw [← h.2])
  · next hrequested =>
    obtain ⟨refundId, hid, h⟩ := bind_eq_ok.mp h
    refine Or.inr ⟨r, refundId, hr, not_not.mp hrequested, PyStr.encoded_eq_ok.mp hid, ?_⟩
    obtain ⟨db₁, hupd, h⟩ := bind_eq_ok.mp h
    obtain ⟨_, rfl⟩ := Database.updateRefund_eq_ok.mp hupd
    cases hs : providerRefund.status with
    | processed =>
        simp only [hs, bind_eq_ok, pure_eq_ok, Prod.mk.injEq] at h
        obtain ⟨db₂, hpayment, _, rfl⟩ := h
        obtain ⟨_, rfl⟩ := Database.updatePayment_eq_ok.mp hpayment
        rfl
    | pending | failed =>
        simp only [hs, bind_eq_ok, pure_eq_ok, Prod.mk.injEq, Except.ok.injEq, exists_eq_left'] at h
        rw [← h.2]

variable {env}

/-- The transaction of a delivery writes no refund but the one its event is about. -/
theorem storeDelivery_refund_written {d : Delivery} {rowId : Uuid} {now : Timestamp}
    {db : Database} (hdb : db.Updatable) {r r' : Refund} (hr : db.refunds.find r.id = some r)
    (hr' : (storeDelivery d rowId now db).2.refunds.find r.id = some r') :
    r' = r ∨ (∃ n p refundId, d.refundNotice = some n ∧ n.refundId = .text refundId ∧
      n.subject db = some (p, r) ∧ n.Matches r ∧ r' = n.refund (r.pinned refundId) now) ∨
      ∃ code, r' = { r with lastErrorCode := some code } := by
  by_cases habout : ∀ flushed n p r, d.flush rowId db = .ok flushed →
      d.refundNotice = some n → n.subject db = some (p, r) →
      n.Matches r ∧ ¬db.CanPinRefund r n.refundId
  · rw [storeDelivery_refunds now habout, hr] at hr'
    exact Or.inl (Option.some.inj hr').symm
  simp only [not_forall, not_and, not_not] at habout
  obtain ⟨flushed, n, p, q, hflush, hnotice, hsubject, haccepts⟩ := habout
  have hq := (RefundNotice.find_subject hsubject).2.1
  by_cases hmatch : n.Matches q
  · obtain ⟨refundId, hid, hfits⟩ := haccepts hmatch
    have heq := (hdb.storeDelivery_of_matches hflush hnotice hsubject hmatch hid hfits now).1
    rcases Database.refund_of_set (q := q) heq (n.id_refund now) hq hr hr' with ⟨rfl, rfl⟩ | hkept
    · exact Or.inr (Or.inl ⟨n, p, refundId, hnotice, hid, hsubject, hmatch, rfl⟩)
    · exact Or.inl hkept
  · have heq := hdb.storeDelivery_of_not_matches hflush hnotice hsubject hmatch now
    rcases Database.refund_of_set (q := q) heq rfl hq hr hr' with ⟨rfl, rfl⟩ | hkept
    · exact Or.inr (Or.inr ⟨_, rfl⟩)
    · exact Or.inl hkept

/-- A new refund leaves the stored ones alone. -/
theorem requestCancellation_refunds {w : World} {requestId userId bookingId refundId : Uuid}
    {expectedVersion choice : Nat} {now createdAt : Timestamp} {r : Refund}
    (hr : w.db.refunds.find r.id = some r) :
    (w.requestCancellation requestId userId bookingId expectedVersion refundId choice now
      createdAt).db.refunds.find r.id = some r := by
  rcases w.requestCancellation_cases requestId userId bookingId expectedVersion refundId choice
    now createdAt with heq | ⟨_, _, _, _, _, _, _, _, heq⟩
  · rw [heq]
    exact hr
  rw [heq]
  rcases prepareCancellation_cases userId bookingId expectedVersion refundId choice now createdAt
    w.db with ⟨e, hprepare⟩ | ⟨b, _, _, _, _, hprepare⟩ | ⟨b, _, _, _, _, hprepare⟩ |
      ⟨b, p, x, db', _, _, _, _, _, _, hins, hprepare⟩
  · simpa only [hprepare] using hr
  · simpa only [hprepare] using hr
  · simp only [hprepare]
    exact hr
  · obtain ⟨_, t, ht, rfl⟩ := Database.insertRefund_ok hins
    simp only [hprepare]
    exact Table.find_insert_of_mem ht (Table.mem_of_find hr)

/-- The transaction of a turn of the job writes the verdict on a pending refund, or nothing. -/
theorem World.Reachable.applyReconciledRefund_cases {w : World} (h : w.Reachable env)
    (refundId : Uuid) (providerRefund : RazorpayRefund) (now : Timestamp) :
    (applyReconciledRefund refundId providerRefund now w.db).2 = w.db ∨
      ∃ r p, w.db.refunds.find refundId = some r ∧ r.status = .pending ∧
        (applyReconciledRefund refundId providerRefund now w.db).2 =
          w.db.reconciled r p now providerRefund.status := by
  by_cases hpending : ∃ r, w.db.refunds.find refundId = some r ∧ r.status = .pending
  · obtain ⟨r, hr, hstatus⟩ := hpending
    obtain ⟨p, _, hp, _, hsettles⟩ := h.sound.ledger.refunds.settles refundId r hr
    rw [← hsettles.paymentId, Database.payments_ledger] at hp
    exact Or.inr ⟨r, p, hr, hstatus,
      by rw [h.updatable.applyReconciledRefund_eq hr hstatus hp]⟩
  · have hnone : (w.db.refunds.find refundId).filter (fun r => r.status = .pending) = none := by
      rw [Option.filter_eq_none_iff]
      exact fun r hr hstatus => hpending ⟨r, hr, of_decide_eq_true hstatus⟩
    apply Or.inl
    simp only [applyReconciledRefund, transaction, hnone]
    rfl

/-- A step leaves a stored refund as it is or writes it with something behind the write. -/
theorem World.Reachable.refund_written {w : World} (h : w.Reachable env) (a : Action Body)
    {r r' : Refund} (hr : w.db.refunds.find r.id = some r)
    (hr' : (w.step env a).db.refunds.find r.id = some r') : r' = r ∨ w.WritesRefund a r r' := by
  have hsame : (w.step env a).db.refunds = w.db.refunds → r' = r := by
    intro heq
    rw [heq, hr] at hr'
    exact (Option.some.inj hr').symm
  -- a failure recorded for some refund
  have hfailure : ∀ code : String, ((w.step env a).db.refunds = w.db.refunds ∨
      ∃ q, w.db.refunds.find q.id = some q ∧ q.status = .requested ∧ (w.step env a).db.refunds =
        w.db.refunds.set { q with status := .failed, lastErrorCode := some code }) →
      r' = r ∨ w.WritesRefund a r r' := by
    rintro code (heq | ⟨q, hq, hrequested, heq⟩)
    · exact Or.inl (hsame heq)
    · rcases Database.refund_of_set (q := q) heq rfl hq hr hr' with ⟨rfl, rfl⟩ | hkept
      · exact Or.inr (.failure code hrequested)
      · exact Or.inl hkept
  by_cases hwrites : a.WritesRefunds
  · cases a with
    | storeDelivery deliveryId eventRowId now =>
        rcases w.storing_cases deliveryId eventRowId now with heq | ⟨d, hstoring, heq⟩
        · exact Or.inl (hsame (by rw [heq]))
        rw [heq] at hr'
        rcases storeDelivery_refund_written h.updatable hr hr' with
          hkept | ⟨n, p, refundId, hnotice, hid, hsubject, hmatch, rfl⟩ | ⟨code, rfl⟩
        · exact Or.inl hkept
        · exact Or.inr (.notice d n p refundId now hstoring hnotice hid hsubject hmatch)
        · exact Or.inr (.complaint code)
    | requestCancellation requestId userId bookingId expectedVersion refundId choice now
        createdAt =>
        rw [World.step, requestCancellation_refunds hr] at hr'
        exact Or.inl (Option.some.inj hr').symm
    | callRefund requestId =>
        refine hfailure "provider_not_configured" ?_
        simp only [World.step, World.callRefund]
        split
        · split
          · exact recordRefundFailure_refunds _ _ w.db
          · exact Or.inl rfl
        · exact Or.inl rfl
    | closeCancellation requestId answer now =>
        cases hrequest : w.cancellationRequests.find requestId with
        | none => exact Or.inl (hsame (by simp only [World.step, World.closeCancellation, hrequest]))
        | some request =>
            obtain ⟨id, userId, bookingId, expectedVersion, phase⟩ := request
            cases phase with
            | prepared | committed | bookingRead | answered =>
                exact Or.inl (hsame (by simp only [World.step, World.closeCancellation, hrequest]))
            | called snapshot =>
                have hdb : (w.step env (.closeCancellation requestId answer now)).db =
                    (settleRefund snapshot answer now w.db).2 := by
                  simp only [World.step, World.closeCancellation, hrequest]
                obtain ⟨q, p, hq, hp, hdesc⟩ := (h.sound.cancellations.requests requestId _ snapshot
                  hrequest (CancellationRequest.InFlight.carries (Or.inr rfl))).2
                rw [Database.refunds_ledger] at hq
                rw [Database.payments_ledger, ← hdesc.paymentId] at hp
                unfold settleRefund at hdb
                split at hdb
                · rw [hdb] at hfailure
                  exact hfailure _ (recordRefundFailure_refunds snapshot _ w.db)
                · exact Or.inl (hsame (by rw [hdb]))
                next providerRefund hanswer =>
                rw [← hdesc.amountSubunits, ← hdesc.currency] at hanswer
                rcases finalizeRefund_written snapshot providerRefund now w.db with
                  hkept | ⟨s, refundId, hs, hrequested, hid, hset⟩
                · exact Or.inl (hsame (by rw [hdb, hkept]))
                rw [hq] at hs
                cases hs
                rw [← hdb] at hset
                rcases Database.refund_of_set (q := q) hset (q.id_answered refundId _ now)
                  (Database.find_refund_id hq) hr hr' with ⟨rfl, rfl⟩ | hkept
                · exact Or.inr (.answer p snapshot.providerPaymentId refundId providerRefund hp
                    hdesc.providerPaymentId hanswer hid hrequested)
                · exact Or.inl hkept
    | reconcileNext runId answer now =>
        cases hjob : w.reconciliations.find runId with
        | none => exact Or.inl (hsame (by simp only [World.step, World.reconcileNext, hjob]))
        | some job =>
            cases hremaining : job.remaining with
            | nil =>
                exact Or.inl (hsame (by simp only [World.step, World.reconcileNext, hjob, hremaining]))
            | cons snapshot rest =>
                have hdb : (w.step env (.reconcileNext runId answer now)).db =
                    (reconcileSnapshot snapshot answer now w.db).2 :=
                  (w.reconcileNext_eq hjob hremaining answer now).1
                have hhead : snapshot ∈ job.remaining := by
                  rw [hremaining]
                  exact List.mem_cons_self
                unfold reconcileSnapshot at hdb
                split at hdb
                · exact Or.inl (hsame (by rw [hdb]))
                · exact Or.inl (hsame (by rw [hdb]))
                next providerRefund hanswer =>
                rcases h.applyReconciledRefund_cases snapshot.refundId providerRefund now with
                  hkept | ⟨q, p, hq, hpending, heq⟩
                · exact Or.inl (hsame (by rw [hdb, hkept]))
                have hset := congrArg Database.refunds (hdb.trans heq)
                rcases Database.refund_of_set (q := q) hset
                  (q.reconciled_columns now providerRefund.status).1 (Database.find_refund_id hq) hr
                  hr' with ⟨rfl, rfl⟩ | hkept
                · exact Or.inr (.verdict job snapshot providerRefund (Table.mem_of_find hjob) hhead
                    (Table.key_of_find hq).symm hanswer hpending)
                · exact Or.inl hkept
    | _ => exact hwrites.elim
  · exact Or.inl (hsame (w.step_refunds env hwrites))

/-- What can be said of the identifier in a write. -/
theorem World.WritesRefund.keeps_id {w : World} {a : Action Body} {r r' : Refund}
    (h : w.WritesRefund a r r') (hopen : r.status = .requested → r.providerRefundId = none)
    {providerRefundId : String} (hid : r.providerRefundId = some providerRefundId) :
    r'.providerRefundId = some providerRefundId := by
  cases h with
  | failure => exact hid
  | answer p providerPaymentId refundId providerRefund _ _ _ _ hrequested =>
      rw [hopen hrequested] at hid
      cases hid
  | verdict => rw [(r.reconciled_columns _ _).2.2, hid]
  | notice d n p refundId now _ _ hsent _ hmatch =>
      rw [RefundNotice.providerRefundId_refund, Refund.pinned,
        PyStr.text.inj ((hmatch.id providerRefundId hid).trans hsent)]
  | complaint => exact hid

/-- A write that leaves a refund REQUESTED leaves its identifier. -/
theorem World.WritesRefund.keeps_open {w : World} {a : Action Body} {r r' : Refund}
    (h : w.WritesRefund a r r') (hopen : r.status = .requested → r.providerRefundId = none)
    (hrequested : r'.status = .requested) : r'.providerRefundId = none := by
  cases h with
  | failure => cases hrequested
  | answer p providerPaymentId refundId providerRefund =>
      exact absurd hrequested (r.answered_status _ _ _)
  | verdict job snapshot providerRefund _ _ _ _ hpending =>
      unfold Refund.reconciled at hrequested
      split at hrequested
      · cases hrequested
      · cases hrequested
      · rw [hpending] at hrequested
        cases hrequested
  | notice d n p refundId now =>
      unfold RefundNotice.refund at hrequested
      split at hrequested
      · cases hrequested
      split at hrequested
      · cases hrequested
      · next hprocessed => exact absurd (hrequested.symm.trans (not_not.mp hprocessed)) nofun
  | complaint => exact hopen hrequested

/-- A refund that is still REQUESTED has nothing of the provider. -/
theorem World.Reachable.refund_open {w : World} (h : w.Reachable env) {id : Uuid} {r : Refund}
    (hr : w.db.refunds.find id = some r) (hrequested : r.status = .requested) :
    r.providerRefundId = none := by
  refine Transition.Reachable.invariant (P := fun w => ∀ id r, w.db.refunds.find id = some r →
    r.status = .requested → r.providerRefundId = none) ?_ ?_ h id r hr hrequested
  · intro w hinit id r hr
    rw [hinit.refunds, Table.find_empty] at hr
    cases hr
  · intro w a hreach hopen id r' hr' hrequested
    obtain ⟨c, _, hmove⟩ := World.Reachable.move hreach a
    rcases hmove.refund_cases hr' with ⟨r, hr, hcont⟩ | ⟨_, _, p, b, _, _, _, _, _, hopens⟩
    · have hid : r.id = id := Register.key_eq hr
      subst hid
      rcases World.Reachable.refund_written hreach a hr hr' with rfl | hwrites
      · exact hopen _ _ hr hrequested
      · exact hwrites.keeps_open (hopen _ _ hr) hrequested
    · exact hopens.providerRefundId

/-- A write that leaves a refund PENDING or PROCESSED leaves it with an identifier. -/
theorem World.WritesRefund.keeps_identified {w : World} {a : Action Body} {r r' : Refund}
    (h : w.WritesRefund a r r')
    (hidentified : r.status = .pending ∨ r.status = .processed → r.providerRefundId ≠ none)
    (hstatus : r'.status = .pending ∨ r'.status = .processed) : r'.providerRefundId ≠ none := by
  cases h with
  | failure => rcases hstatus with hs | hs <;> cases hs
  | answer => rw [r.answered_providerRefundId]; exact Option.some_ne_none _
  | verdict job snapshot providerRefund _ _ _ _ hpending =>
      rw [(r.reconciled_columns _ _).2.2]
      exact hidentified (Or.inl hpending)
  | notice => rw [RefundNotice.providerRefundId_refund]; exact Option.some_ne_none _
  | complaint => exact hidentified hstatus

/-- A refund that is PENDING or PROCESSED has the provider's identifier. -/
theorem World.Reachable.refund_identified {w : World} (h : w.Reachable env) {id : Uuid} {r : Refund}
    (hr : w.db.refunds.find id = some r) (hstatus : r.status = .pending ∨ r.status = .processed) :
    r.providerRefundId ≠ none := by
  refine Transition.Reachable.invariant (P := fun w => ∀ id r, w.db.refunds.find id = some r →
    r.status = .pending ∨ r.status = .processed → r.providerRefundId ≠ none) ?_ ?_ h id r hr hstatus
  · intro w hinit id r hr
    rw [hinit.refunds, Table.find_empty] at hr
    cases hr
  · intro w a hreach hidentified id r' hr' hstatus
    obtain ⟨c, _, hmove⟩ := World.Reachable.move hreach a
    rcases hmove.refund_cases hr' with ⟨r, hr, hcont⟩ | ⟨_, _, p, b, _, _, _, _, _, hopens⟩
    · have hid : r.id = id := Register.key_eq hr
      subst hid
      rcases World.Reachable.refund_written hreach a hr hr' with rfl | hwrites
      · exact hidentified _ _ hr hstatus
      · exact hwrites.keeps_identified (hidentified _ _ hr) hstatus
    · rw [hopens.status] at hstatus
      rcases hstatus with hs | hs <;> cases hs

/-- A refund keeps its row in a step, and in it the provider's identifier. -/
theorem World.Reachable.refund_next {w : World} (h : w.Reachable env) (a : Action Body) {id : Uuid}
    {r : Refund} (hr : w.db.refunds.find id = some r) :
    ∃ r', (w.step env a).db.refunds.find id = some r' ∧ r.Continues r' ∧
      ∀ x, r.providerRefundId = some x → r'.providerRefundId = some x := by
  obtain ⟨c, _, hmove⟩ := World.Reachable.move h a
  obtain ⟨r', hr', hcont⟩ := hmove.refund_next hr
  refine ⟨r', hr', hcont, fun x hx => ?_⟩
  have hid : r.id = id := Table.key_of_find hr
  subst hid
  rcases h.refund_written a hr hr' with rfl | hwrites
  · exact hx
  · exact hwrites.keeps_id (h.refund_open hr) hx

/-- A refund keeps its row in a run, and in it the provider's identifier. -/
theorem World.Reachable.refund_kept {w : World} (h : w.Reachable env) (actions : List (Action Body))
    {id : Uuid} {r : Refund} (hr : w.db.refunds.find id = some r) :
    ∃ r', (w.run env actions).db.refunds.find id = some r' ∧ r.Continues r' ∧
      ∀ x, r.providerRefundId = some x → r'.providerRefundId = some x := by
  refine h.run_part (f := fun s : World => s.db.refunds.find id)
    (Q := fun r r' => r.Continues r' ∧ ∀ x, r.providerRefundId = some x →
      r'.providerRefundId = some x) (fun r => ⟨Refund.Continues.refl r, fun _ hx => hx⟩) ?_ ?_
    actions hr
  · intro r s t hrs hst
    exact ⟨hrs.1.trans hst.1, fun x hx => hst.2 x (hrs.2 x hx)⟩
  · intro s a r hs hr
    exact World.Reachable.refund_next hs a hr

/-- A payment becomes REFUNDED together with its refund. -/
theorem Move.refunded_cases {c : Cause} {L L' : Ledger} (h : Move L c L') {id : Uuid} {p' : Payment}
    (hp' : L'.payments id = some p') (hstatus : p'.status = .refunded) :
    (∃ p, L.payments id = some p ∧ p.status = .refunded) ∨
      ∃ r, L'.refunds r.id = some r ∧ r.paymentId = id := by
  -- a write of one payment to another status
  have hput : ∀ {q q' : Payment}, (L.payments.put q') id = some p' → q'.status ≠ .refunded →
      ∃ p, L.payments id = some p ∧ p.status = .refunded := by
    intro q q' hget hne
    rcases Register.of_put hget with ⟨_, rfl⟩ | hget
    · exact absurd hstatus hne
    · exact ⟨p', hget, hstatus⟩
  -- a write that keeps the status
  have hkept : ∀ {q q' : Payment}, (L.payments.put q') id = some p' → L.payments q.id = some q →
      q'.id = q.id → q'.status = q.status → ∃ p, L.payments id = some p ∧ p.status = .refunded := by
    intro q q' hget hq hid hsame
    rcases Register.of_put hget with ⟨hk, rfl⟩ | hget
    · rw [Payment.key_eq, hid] at hk
      exact ⟨q, hk ▸ hq, hsame ▸ hstatus⟩
    · exact ⟨p', hget, hstatus⟩
  cases h with
  | stay | expire | hold | cancel | cancelRefund | refundChange | start | complete =>
      exact Or.inl ⟨p', hp', hstatus⟩
  | begin b q hb hheld hnew hopens =>
      exact Or.inl (hput (q := q) hp' (by rw [hopens.status]; exact PaymentStatus.noConfusion))
  | orderCreated q | orderRefused q | compensate q | authorize q | confirm q | captureAgain q
  | captureLate q | fail q => exact Or.inl (hput (q := q) hp' PaymentStatus.noConfusion)
  | pin q paymentId hq => exact Or.inl (hkept hp' hq rfl rfl)
  | mismatch q code hq => exact Or.inl (hkept hp' hq rfl rfl)
  | refundProcess r r' q hr hq hreturns hcont =>
      rcases Register.of_put hp' with ⟨hk, rfl⟩ | hget
      · have hid : q.id = id := hk
        exact Or.inr ⟨r', by simp, hcont.paymentId.trans (hreturns.trans hid)⟩
      · exact Or.inl ⟨p', hget, hstatus⟩

/-- A payment that is REFUNDED has a refund. -/
theorem World.Reachable.refunded_returned {w : World} (h : w.Reachable env) {id : Uuid} {p : Payment}
    (hp : w.db.payments.find id = some p) (hrefunded : p.status = .refunded) :
    ∃ r ∈ w.db.refunds, r.paymentId = id := by
  refine Transition.Reachable.invariant (P := fun w => ∀ id p, w.db.payments.find id = some p →
    p.status = .refunded → ∃ r ∈ w.db.refunds, r.paymentId = id) ?_ ?_ h id p hp hrefunded
  · intro w hinit id p hp
    rw [hinit.payments, Table.find_empty] at hp
    cases hp
  · intro w a hreach hreturned id p' hp' hrefunded
    obtain ⟨c, _, hmove⟩ := World.Reachable.move hreach a
    rcases hmove.refunded_cases hp' hrefunded with ⟨p, hp, hstatus⟩ | ⟨r, hr, hpayment⟩
    · obtain ⟨r, hr, hpayment⟩ := hreturned id p hp hstatus
      obtain ⟨r', hr', hcont, _⟩ := World.Reachable.refund_next hreach a (Table.find_key hr)
      exact ⟨r', Table.mem_of_find hr', hcont.paymentId.trans hpayment⟩
    · exact ⟨r, Table.mem_of_find hr, hpayment⟩

/-! ### The snapshots of the jobs -/

/-- The rows that a snapshot of a job was taken from, or later versions of them. -/
def RefundSnapshot.Held (snapshot : RefundSnapshot) (db : Database) : Prop :=
  ∃ r p, db.refunds.find snapshot.refundId = some r ∧ db.payments.find r.paymentId = some p ∧
    r.providerRefundId = some snapshot.providerRefundId ∧
    p.providerPaymentId = some snapshot.providerPaymentId ∧
    r.amountSubunits = snapshot.amountSubunits ∧ r.currency = snapshot.currency

theorem RefundSnapshot.held_of_taken {db : Database} {batchSize : Nat} {snapshot : RefundSnapshot}
    (h : snapshot ∈ pendingRefundSnapshots batchSize db) : snapshot.Held db := by
  obtain ⟨r, hr, htaken⟩ := mem_pendingRefunds.mp (List.mem_of_mem_take h)
  simp only [refundSnapshot, Option.bind_eq_bind, Option.bind_eq_some_iff,
    Option.ite_none_right_eq_some] at htaken
  obtain ⟨p, hp, providerRefundId, hrefund, providerPaymentId, hpayment, -, heq⟩ := htaken
  cases heq
  exact ⟨r, p, Table.find_key hr, hp, hrefund, hpayment, rfl, rfl⟩

theorem RefundSnapshot.Held.step {w : World} (h : w.Reachable env) (a : Action Body)
    {snapshot : RefundSnapshot} (hheld : snapshot.Held w.db) : snapshot.Held (w.step env a).db := by
  obtain ⟨r, p, hr, hp, hrefund, hpayment, hamount, hcurrency⟩ := hheld
  obtain ⟨r', hr', hcont, hid⟩ := h.refund_next a hr
  obtain ⟨c, _, hmove⟩ := World.Reachable.move h a
  obtain ⟨p', hp', hpcont⟩ := hmove.payment_next h.sound.ledger.payments h.sound.ledger.refunds hp
  refine ⟨r', p', hr', ?_, hid _ hrefund, hpcont.pinned _ hpayment,
    hcont.amountSubunits.trans hamount, hcont.currency.trans hcurrency⟩
  rw [hcont.paymentId]
  exact hp'

/-- The jobs of a step have the snapshots that they had, and a new one those of the database. -/
theorem World.remaining_step (w : World) (a : Action Body) {job : ReconciliationRun}
    {snapshot : RefundSnapshot} (hjob : job ∈ (w.step env a).reconciliations)
    (hsnapshot : snapshot ∈ job.remaining) :
    (∃ old ∈ w.reconciliations, snapshot ∈ old.remaining) ∨
      ∃ batchSize, snapshot ∈ pendingRefundSnapshots batchSize w.db := by
  have hold : (w.step env a).reconciliations = w.reconciliations →
      ∃ old ∈ w.reconciliations, snapshot ∈ old.remaining := by
    intro heq
    exact ⟨job, heq ▸ hjob, hsnapshot⟩
  cases a with
  | startReconciliation runId batchSize =>
      simp only [World.step, World.startReconciliation] at hjob
      split at hjob
      · exact Or.inl ⟨job, hjob, hsnapshot⟩
      · split at hjob
        · exact Or.inl ⟨job, hjob, hsnapshot⟩
        · next hins =>
          rcases (Table.mem_insert hins).mp hjob with hstored | rfl
          · exact Or.inl ⟨job, hstored, hsnapshot⟩
          · exact Or.inr ⟨batchSize, hsnapshot⟩
  | reconcileNext runId answer now =>
      simp only [World.step, World.reconcileNext] at hjob
      split at hjob
      · exact Or.inl ⟨job, hjob, hsnapshot⟩
      next old hfound =>
      split at hjob
      · exact Or.inl ⟨job, hjob, hsnapshot⟩
      next head rest hremaining =>
      rcases mem_of_mem_set hjob with rfl | hstored
      · refine Or.inl ⟨old, Table.mem_of_find hfound, ?_⟩
        rw [hremaining]
        apply List.mem_cons_of_mem
        unfold ReconciliationRun.after at hsnapshot
        split at hsnapshot
        · cases hsnapshot
        all_goals exact hsnapshot
      · exact Or.inl ⟨job, hstored, hsnapshot⟩
  | requestOrder =>
      exact Or.inl (hold (by simp only [World.step, World.requestOrder]; split <;> rfl))
  | beginOrder => exact Or.inl (hold (by simp only [World.step, World.beginOrder]; split <;> rfl))
  | callOrder => exact Or.inl (hold (by simp only [World.step, World.callOrder]; split <;> rfl))
  | closeOrder => exact Or.inl (hold (by simp only [World.step, World.closeOrder]; split <;> rfl))
  | receiveDelivery deliveryId request =>
      obtain ⟨deliveries, heq⟩ := w.receiveDelivery_eq env deliveryId request
      exact Or.inl (hold (by rw [World.step, heq]))
  | storeDelivery =>
      exact Or.inl (hold (by simp only [World.step, World.storeDelivery]; split <;> rfl))
  | requestCancellation =>
      exact Or.inl (hold (by simp only [World.step, World.requestCancellation]; split <;> rfl))
  | callRefund =>
      refine Or.inl (hold ?_)
      simp only [World.step, World.callRefund]
      split
      · split <;> rfl
      · rfl
  | closeCancellation =>
      exact Or.inl (hold (by simp only [World.step, World.closeCancellation]; split <;> rfl))
  | readCancellation requestId =>
      obtain ⟨cancellationRequests, heq⟩ := w.readCancellation_eq requestId
      exact Or.inl (hold (by rw [World.step, heq]))
  | _ => exact Or.inl (hold rfl)

/-- A job asks for what the rows still say. -/
theorem World.Reachable.snapshots_held {w : World} (h : w.Reachable env) :
    ∀ job ∈ w.reconciliations, ∀ snapshot ∈ job.remaining, snapshot.Held w.db := by
  refine Transition.Reachable.invariant (P := fun w : World => ∀ job ∈ w.reconciliations,
    ∀ snapshot ∈ job.remaining, snapshot.Held w.db) ?_ ?_ h
  · intro w hinit job hjob
    rw [hinit.reconciliations] at hjob
    exact absurd hjob (Table.notMem_empty job)
  · intro w a hreach hheld job hjob snapshot hsnapshot
    rcases w.remaining_step a hjob hsnapshot with ⟨old, hold, hmem⟩ | ⟨batchSize, htaken⟩
    · exact (hheld old hold snapshot hmem).step hreach a
    · exact (RefundSnapshot.held_of_taken htaken).step hreach a

/-- What becomes true of a refund in a run does so in a write of it. -/
theorem World.Initial.refund_written {w : World} (h : w.Initial) {actions : List (Action Body)}
    (P : Refund → Prop) (hnew : ∀ r, P r → r.status ≠ .requested ∨ r.providerRefundId ≠ none)
    {id : Uuid} {r : Refund} (hr : (w.run env actions).db.refunds.find id = some r) (hP : P r) :
    ∃ before a after q q', actions = before ++ a :: after ∧
      (w.run env before).db.refunds.find id = some q ∧ ¬P q ∧ P q' ∧
      (w.run env before).WritesRefund a q q' ∧ q'.Continues r ∧
      ∀ x, q'.providerRefundId = some x → r.providerRefundId = some x := by
  let Q : World → Prop := fun s => ∃ q, s.db.refunds.find id = some q ∧ P q
  have hstart : ¬Q w := by
    rintro ⟨q, hq, _⟩
    rw [h.refunds, Table.find_empty] at hq
    cases hq
  obtain ⟨before, a, after, rfl, hnot, q', hq', hPq'⟩ :=
    Transition.exists_entry (Q := Q) hstart ⟨r, hr, hP⟩
  have hreach : (w.run env before).Reachable env := (Transition.Reachable.initial h).run before
  have hrun : (w.run env (before ++ a :: after)) = ((w.run env before).step env a).run env after :=
    Transition.run_append (World.step env) w before (a :: after)
  rw [hrun] at hr
  obtain ⟨r', hfinal, hcont, hid⟩ := World.Reachable.refund_kept (hreach.next a) after hq'
  rw [hr] at hfinal
  cases hfinal
  obtain ⟨c, _, hmove⟩ := World.Reachable.move hreach a
  rcases hmove.refund_cases hq' with ⟨q, hq, _⟩ | ⟨_, _, p, b, _, _, _, _, _, hopens⟩
  · have hkey : q.id = id := Register.key_eq hq
    subst hkey
    rcases hreach.refund_written a hq hq' with rfl | hwrites
    · exact absurd ⟨q', hq, hPq'⟩ hnot
    · exact ⟨before, a, after, q, q', rfl, hq, fun hPq => hnot ⟨q, hq, hPq⟩, hPq', hwrites, hcont,
        hid⟩
  · rcases hnew q' hPq' with hne | hne
    · exact absurd hopens.status hne
    · exact absurd hopens.providerRefundId hne

end

/-! ### What the provider has said of a refund -/

section

variable {Body : Type} (env : Env Body)

/-- The verdict of a status of the provider. -/
def RazorpayRefundStatus.verdict : RazorpayRefundStatus → RefundStatus
  | .pending => .pending
  | .processed => .processed
  | .failed => .failed

/-- The answer is a refund of the payment `p` with the amount, the currency and the identifier of
`r`, and has the given status. -/
def ProviderAnswer.Tells (answer : ProviderAnswer) (status : RazorpayRefundStatus) (r : Refund)
    (p : Payment) : Prop :=
  ∃ providerPaymentId refundId providerRefund, p.providerPaymentId = some providerPaymentId ∧
    createRazorpayRefund providerPaymentId r.amountSubunits r.currency answer =
      .ok providerRefund ∧
    providerRefund.status = status ∧ providerRefund.id = .text refundId ∧
    r.providerRefundId = some refundId

/-- The request is signed, and reports an event of the refund `r` of the payment `p`. -/
def WebhookRequest.ReportsRefund (request : WebhookRequest Body) (event : RefundEvent) (r : Refund)
    (p : Payment) : Prop :=
  ∃ d n, request.Carries env d ∧ d.refundNotice = some n ∧ n.event = event ∧ n.Own r p

/-- In the run the provider has given the refund the status: in its answer to the call for it, in
one to a later question of the job, or in a signed request. -/
def Refund.Told (actions : List (Action Body)) (status : RazorpayRefundStatus) (r : Refund)
    (p : Payment) : Prop :=
  (∃ requestId answer now, .closeCancellation requestId answer now ∈ actions ∧
    answer.Tells status r p) ∨
  (∃ runId answer now, .reconcileNext runId answer now ∈ actions ∧ answer.Tells status r p) ∨
  ∃ deliveryId request event, .receiveDelivery deliveryId request ∈ actions ∧
    event.verdict = status ∧ request.ReportsRefund env event r p

variable {env}

/-- What the provider has told of a refund is told of its later versions. -/
theorem ProviderAnswer.Tells.continues {answer : ProviderAnswer} {status : RazorpayRefundStatus}
    {r r' : Refund} {p p' : Payment} (h : answer.Tells status r p) (hr : r.Continues r')
    (hid : ∀ x, r.providerRefundId = some x → r'.providerRefundId = some x) (hp : p.Continues p') :
    answer.Tells status r' p' := by
  obtain ⟨providerPaymentId, refundId, providerRefund, hpinned, hanswer, hstatus, hsent, hrefund⟩ := h
  refine ⟨providerPaymentId, refundId, providerRefund, hp.pinned _ hpinned, ?_, hstatus, hsent,
    hid _ hrefund⟩
  rw [hr.amountSubunits, hr.currency]
  exact hanswer

theorem RefundNotice.Own.continues {n : RefundNotice} {r r' : Refund} {p p' : Payment}
    (h : n.Own r p) (hr : r.Continues r')
    (hid : ∀ x, r.providerRefundId = some x → r'.providerRefundId = some x) (hp : p.Continues p') :
    n.Own r' p' where
  refundId := by
    obtain ⟨refundId, hstored, hsent⟩ := h.refundId
    exact ⟨refundId, hid _ hstored, hsent⟩
  paymentId := hp.pinned _ h.paymentId
  amount := by rw [hr.amountSubunits]; exact h.amount
  currency := by rw [hr.currency]; exact h.currency

/-- The question of the job is the call for the refund again, with one more check. -/
theorem createRazorpayRefund_of_fetch {refundId paymentId : String} {amountSubunits : Int}
    {currency : String} {answer : ProviderAnswer} {providerRefund : RazorpayRefund}
    (h : fetchRazorpayRefund refundId paymentId amountSubunits currency answer = .ok providerRefund) :
    createRazorpayRefund paymentId amountSubunits currency answer = .ok providerRefund ∧
      providerRefund.id = .text refundId := by
  rw [fetchRazorpayRefund_eq] at h
  simp only [bind_eq_ok, ensure_eq_ok, pure_eq_ok] at h
  obtain ⟨refund, hvalid, _, hid, rfl⟩ := h
  exact ⟨hvalid, hid⟩

theorem Refund.answered_columns (r : Refund) (refundId : String) (status : RazorpayRefundStatus)
    (now : Timestamp) :
    (r.answered refundId status now).paymentId = r.paymentId ∧
      (r.answered refundId status now).amountSubunits = r.amountSubunits ∧
      (r.answered refundId status now).currency = r.currency ∧
      (r.answered refundId status now).status = status.verdict := by
  cases status <;> exact ⟨rfl, rfl, rfl, rfl⟩

theorem Refund.reconciled_terms {r : Refund} (now : Timestamp) (status : RazorpayRefundStatus)
    (hpending : r.status = .pending) :
    (r.reconciled now status).paymentId = r.paymentId ∧
      (r.reconciled now status).amountSubunits = r.amountSubunits ∧
      (r.reconciled now status).currency = r.currency ∧
      (r.reconciled now status).status = status.verdict := by
  cases status with
  | processed | failed => exact ⟨rfl, rfl, rfl, rfl⟩
  | pending => exact ⟨rfl, rfl, rfl, hpending⟩

theorem RefundNotice.refund_terms (n : RefundNotice) (r : Refund) (now : Timestamp) :
    (n.refund r now).paymentId = r.paymentId ∧
      (n.refund r now).amountSubunits = r.amountSubunits ∧
      (n.refund r now).currency = r.currency ∧
      ((n.refund r now).status = n.event.verdict.verdict ∨ r.status = .processed ∧
        (n.refund r now).status = .processed) := by
  unfold RefundNotice.refund
  cases n.event with
  | processed => exact ⟨rfl, rfl, rfl, Or.inl rfl⟩
  | failed =>
      by_cases hprocessed : r.status = .processed
      · rw [if_neg (not_not.mpr hprocessed)]
        exact ⟨rfl, rfl, rfl, Or.inr ⟨hprocessed, hprocessed⟩⟩
      · rw [if_pos hprocessed]
        exact ⟨rfl, rfl, rfl, Or.inl rfl⟩

theorem RazorpayRefundStatus.verdict_injective {s t : RazorpayRefundStatus}
    (h : s.verdict = t.verdict) : s = t := by
  cases s <;> cases t <;> first | rfl | cases h

/-- A write that takes a refund to a status under an identifier of the provider has the provider's
word for it. -/
theorem World.Initial.told_of_written {w : World} (h : w.Initial) {before after : List (Action Body)}
    {a : Action Body} {q q' r : Refund} {p : Payment} {status : RazorpayRefundStatus} {id : Uuid}
    (hq : (w.run env before).db.refunds.find id = some q)
    (hwrites : (w.run env before).WritesRefund a q q')
    (hnot : ¬(q.status = status.verdict ∧ q.providerRefundId ≠ none))
    (hstatus : q'.status = status.verdict) (hid : q'.providerRefundId ≠ none)
    (hcont : q'.Continues r)
    (hkept : ∀ x, q'.providerRefundId = some x → r.providerRefundId = some x)
    (hp : (w.run env (before ++ a :: after)).db.payments.find r.paymentId = some p) :
    r.Told env (before ++ a :: after) status p := by
  have hreach : (w.run env before).Reachable env := (Transition.Reachable.initial h).run before
  have hmem : a ∈ before ++ a :: after := List.mem_append_right before List.mem_cons_self
  have hrun : (w.run env (before ++ a :: after)) = (w.run env before).run env (a :: after) :=
    Transition.run_append (World.step env) w before (a :: after)
  -- the payment of the refund at the write, and at the end
  have hlater : ∀ {p₀ : Payment}, (w.run env before).db.payments.find q.paymentId = some p₀ →
      q'.paymentId = q.paymentId → p₀.Continues p := by
    intro p₀ hp₀ hpayment
    obtain ⟨p₁, hp₁, hpcont⟩ := hreach.payment_run (a :: after) hp₀
    rw [← hrun, ← hpayment, ← hcont.paymentId, hp] at hp₁
    exact Option.some.inj hp₁ ▸ hpcont
  cases hwrites with
  | failure code hrequested => exact absurd (hreach.refund_open hq hrequested) hid
  | complaint code => exact absurd ⟨hstatus, hid⟩ hnot
  | @answer requestId answer now _ p₀ providerPaymentId refundId providerRefund hp₀ hpinned hanswer
      hsent =>
      obtain ⟨hpayment, hamount, hcurrency, hverdict⟩ :=
        q.answered_columns refundId providerRefund.status now
      obtain ⟨p₁, _, hp₁, _, hreturns⟩ := hreach.sound.ledger.refunds.settles id q hq
      rw [Database.payments_ledger, ← hreturns.paymentId, hp₀] at hp₁
      cases hp₁
      rw [← hreturns.amountSubunits, ← hreturns.currency, ← hamount, ← hcurrency] at hanswer
      have htells : answer.Tells status (q.answered refundId providerRefund.status now) p₀ :=
        ⟨providerPaymentId, refundId, providerRefund, hpinned, hanswer,
          RazorpayRefundStatus.verdict_injective (hverdict.symm.trans hstatus), hsent,
          q.answered_providerRefundId refundId _ now⟩
      exact Or.inl ⟨requestId, answer, now, hmem,
        htells.continues hcont hkept (hlater hp₀ hpayment)⟩
  | @verdict runId answer now _ job snapshot providerRefund hjob hsnapshot hrow hanswer hpending =>
      obtain ⟨hpayment, hamount, hcurrency, hverdict⟩ :=
        Refund.reconciled_terms now providerRefund.status hpending
      obtain ⟨q₀, p₀, hq₀, hp₀, hrefund, hpinned, hsub, hcur⟩ :=
        hreach.snapshots_held job hjob snapshot hsnapshot
      have hkey : q.id = id := Table.key_of_find hq
      rw [hrow, hkey, hq] at hq₀
      cases hq₀
      obtain ⟨hcreate, hnamed⟩ := createRazorpayRefund_of_fetch hanswer
      have htells : answer.Tells status (q.reconciled now providerRefund.status) p₀ :=
        ⟨snapshot.providerPaymentId, snapshot.providerRefundId, providerRefund, hpinned,
          by rw [hamount, hcurrency, hsub, hcur]; exact hcreate,
          RazorpayRefundStatus.verdict_injective (hverdict.symm.trans hstatus), hnamed,
          by rw [(q.reconciled_columns now _).2.2, hrefund]⟩
      exact Or.inr (Or.inl ⟨runId, answer, now, hmem,
        htells.continues hcont hkept (hlater hp₀ hpayment)⟩)
  | notice d n p₀ refundId now hstoring hnotice hsent hsubject hmatch =>
      obtain ⟨hpayment, hamount, hcurrency, hverdict⟩ := n.refund_terms (q.pinned refundId) now
      obtain ⟨hp₀, -, hreturns⟩ := RefundNotice.find_subject hsubject
      have hpinned := Table.prop_of_scalar (RefundNotice.subject_eq_some hsubject).1
      rw [decide_eq_true_eq] at hpinned
      have hevent : n.event.verdict = status := by
        rcases hverdict with hs | ⟨hprocessed, hs⟩
        · exact RazorpayRefundStatus.verdict_injective (hs.symm.trans hstatus)
        · exact absurd ⟨hprocessed.trans (hs.symm.trans hstatus),
            hreach.refund_identified hq (Or.inr hprocessed)⟩ hnot
      have hown : n.Own (n.refund (q.pinned refundId) now) p₀ :=
        ⟨⟨refundId, RefundNotice.providerRefundId_refund now, hsent⟩, hpinned, by rw [hamount]; exact hmatch.amount,
          by rw [hcurrency]; exact hmatch.currency⟩
      obtain ⟨deliveryId, _, _, _, _, hdelivery, hphase⟩ := World.storing_eq_some.mp hstoring
      obtain ⟨received, hreceived, hcarries⟩ := h.accepted_received hdelivery hphase
      rw [hreturns] at hlater
      exact Or.inr (Or.inr ⟨deliveryId, received, n.event, List.mem_append_left _ hreceived, hevent,
        d, n, hcarries, hnotice, rfl, hown.continues hcont hkept (hlater hp₀ (hpayment.trans hreturns))⟩)

end

/-- No verdict on a refund without the provider's word for it. In every run from the start, a refund
that is PENDING or PROCESSED has been given this status, and its identifier, by the provider for its
own payment and with its own amount and currency: in the answer to its call, in one to a later
question of the job, or in a signed request. So has one that is FAILED, unless it has no identifier.
And a payment is REFUNDED only with a refund that the provider has told to be processed. -/
theorem refund_verdicts_attested {Body : Type} (env : Env Body) {w : World} (h : w.Initial)
    (actions : List (Action Body)) :
    (∀ r ∈ (w.run env actions).db.refunds, ∃ p ∈ (w.run env actions).db.payments,
      p.id = r.paymentId ∧ ∀ status : RazorpayRefundStatus, r.status = status.verdict →
        r.Told env actions status p ∨ status = .failed ∧ r.providerRefundId = none) ∧
    ∀ p ∈ (w.run env actions).db.payments, p.status = .refunded →
      ∃ r ∈ (w.run env actions).db.refunds, r.paymentId = p.id ∧ r.Told env actions .processed p := by
  have hreach : (w.run env actions).Reachable env := (Transition.Reachable.initial h).run actions
  have htold : ∀ {r : Refund} {p : Payment} {status : RazorpayRefundStatus},
      (w.run env actions).db.refunds.find r.id = some r →
      (w.run env actions).db.payments.find r.paymentId = some p → r.status = status.verdict →
      r.providerRefundId ≠ none → r.Told env actions status p := by
    intro r p status hr hp hstatus hid
    obtain ⟨before, a, after, q, q', rfl, hq, hnot, hP, hwrites, hcont, hkept⟩ :=
      h.refund_written (fun r => r.status = status.verdict ∧ r.providerRefundId ≠ none)
        (fun r hr => Or.inr hr.2) hr ⟨hstatus, hid⟩
    exact h.told_of_written hq hwrites hnot hP.1 hP.2 hcont hkept hp
  have hsettles := (World.Reachable.sound hreach).ledger.refunds.settles
  constructor
  · intro r hr
    obtain ⟨p, _, hp, _, hreturns⟩ := hsettles r.id r (Table.find_key hr)
    refine ⟨p, Table.mem_of_find hp, hreturns.paymentId.symm, fun status hstatus => ?_⟩
    by_cases hid : r.providerRefundId = none
    · refine Or.inr ⟨?_, hid⟩
      cases status with
      | failed => rfl
      | pending => exact absurd hid (hreach.refund_identified (Table.find_key hr) (Or.inl hstatus))
      | processed => exact absurd hid (hreach.refund_identified (Table.find_key hr) (Or.inr hstatus))
    · rw [← hreturns.paymentId] at hp
      exact Or.inl (htold (Table.find_key hr) hp hstatus hid)
  · intro p hp hrefunded
    obtain ⟨r, hr, hpayment⟩ := hreach.refunded_returned (Table.find_key hp) hrefunded
    obtain ⟨q, _, hq, _, hreturns⟩ := hsettles r.id r (Table.find_key hr)
    have hpq : q = p := by
      have hkey : q.id = p.id := hreturns.paymentId.symm.trans hpayment
      exact Table.eq_of_key_eq (Table.mem_of_find hq) hp hkey
    subst hpq
    have hprocessed := hreturns.refunded.mpr hrefunded
    refine ⟨r, hr, hpayment, htold (Table.find_key hr) ?_ hprocessed
      (hreach.refund_identified (Table.find_key hr) (Or.inr hprocessed))⟩
    rw [hpayment]
    exact Table.find_key hp

/-- The refund of the sample, which the provider has processed at once. -/
def sampleProcessed : List (Action Json) :=
  sampleCancellation ++
    [.closeCancellation 50 (sampleRefundAnswer "rfnd_1" "pay_1" (.str "processed")) 0]

theorem refund_verdicts_attested_sample :
    ∃ r ∈ (sampleWorld.run sampleEnv sampleProcessed).db.refunds, ∃ p,
      r.Told sampleEnv sampleProcessed .processed p := by
  have hp : ∃ p ∈ (sampleWorld.run sampleEnv sampleProcessed).db.payments,
      p.status = .refunded := by
    decide +kernel
  obtain ⟨p, hp, hrefunded⟩ := hp
  obtain ⟨r, hr, _, htold⟩ :=
    (refund_verdicts_attested sampleEnv sampleWorld_initial sampleProcessed).2 p hp hrefunded
  exact ⟨r, hr, p, htold⟩

end ChargeMate
