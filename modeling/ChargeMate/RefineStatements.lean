import ChargeMate.LedgerStatuses
import ChargeMate.ModelStatements
import ChargeMate.RefineDatabase

/-! The statements of a payment transaction with nothing in between are the transaction, and they
keep to their locks. -/

namespace ChargeMate

open Relational Atomicity

/-! ### Nothing in between -/

/-- A transaction whose block starts with a selection. -/
theorem transaction_orRaise {A α : Type} {integrity e : Raised} (he : e ≠ .integrityError)
    (row : Database → Option A) (next : A → Database → Except Raised (α × Database))
    (db : Database) :
    transaction integrity (fun db => orRaise (row db) e >>= fun a => next a db) db =
      match row db with
      | none => (.error e, db)
      | some a => transaction integrity (next a) db := by
  cases hrow : row db with
  | none =>
      have hblock : (orRaise (row db) e >>= fun a => next a db) = .error e := by
        rw [hrow]
        rfl
      simp only [transaction, hblock]
  | some a =>
      have hblock : (orRaise (row db) e >>= fun a => next a db) = next a db := by
        rw [hrow]
        rfl
      simp only [transaction, hblock]

section

variable {missing : PaymentReturn} {db : Database}

theorem selectBooking_run {row : Database → Option Booking} {next : Booking → PaymentProgram} :
    (selectBooking row missing next).run db = match row db with
      | none => (missing, db)
      | some booking => (next booking).run db := by
  cases hrow : row db with
  | none => exact Program.run_missing hrow
  | some booking => exact Program.run_select hrow

theorem selectPayment_run {row : Database → Option Payment} {next : Payment → PaymentProgram} :
    (selectPayment row missing next).run db = match row db with
      | none => (missing, db)
      | some payment => (next payment).run db := by
  cases hrow : row db with
  | none => exact Program.run_missing hrow
  | some payment => exact Program.run_select hrow

theorem selectRefund_run {row : Database → Option Refund} {next : Refund → PaymentProgram} :
    (selectRefund row missing next).run db = match row db with
      | none => (missing, db)
      | some refund => (next refund).run db := by
  cases hrow : row db with
  | none => exact Program.run_missing hrow
  | some refund => exact Program.run_select hrow

theorem commit_run {write : Database → PaymentReturn × Database} :
    (Program.commit write : PaymentProgram).run db = write db := rfl

theorem commitBlock_run {α : Type} {integrity : Raised}
    {block : Database → Except Raised (α × Database)} {returned : Except Raised α → PaymentReturn} :
    (commitBlock integrity block returned).run db =
      (transaction integrity block db).map returned id := rfl

end

/-- The verification of a checkout once its parameters have been sent. -/
theorem checkout_run {Body : Type} (env : Env Body) (user : User)
    (payload : VerifyCheckoutPaymentRequest) (keySecret : String) (db : Database) :
    (transaction .paymentVerificationError (fun db =>
      orRaise (selectCheckoutPayment user payload db) .paymentVerificationError >>= fun payment =>
        verifyLockedPayment env payment payload keySecret db) db).map PaymentReturn.verified id =
      match selectCheckoutPayment user payload db with
      | none => (.verified (.error .paymentVerificationError), db)
      | some payment => (transaction .paymentVerificationError
          (verifyLockedPayment env payment payload keySecret) db).map .verified id := by
  rw [transaction_orRaise (by decide)]
  cases selectCheckoutPayment user payload db with
  | none => rfl
  | some payment => rfl

theorem PaymentTransaction.program_run {Body : Type} (env : Env Body) (t : PaymentTransaction)
    (db : Database) : (t.program env).run db = t.run env db := by
  cases t with
  | beginPaymentAttempt user payload paymentId now =>
      simp only [PaymentTransaction.program, selectBooking_run, commitBlock_run, PaymentTransaction.run,
        ChargeMate.beginPaymentAttempt,
        transaction_orRaise (e := Raised.paymentStateConflictError) (by decide)]
      cases (db.bookings.find payload.bookingId).filter fun b => b.userId = user.id with
      | none => rfl
      | some booking => rfl
  | finalizeProviderOrder paymentId bookingId providerOrder =>
      simp only [PaymentTransaction.program, selectBooking_run, selectPayment_run, commitBlock_run,
        PaymentTransaction.run, ChargeMate.finalizeProviderOrder,
        transaction_orRaise (e := Raised.attributeError) (by decide)]
      cases hp : db.payments.find paymentId with
      | none => rfl
      | some payment =>
        cases hb : db.bookings.find bookingId with
        | none => rfl
        | some booking => rfl
  | compensateProviderFailure paymentId bookingId now =>
      simp only [PaymentTransaction.program, selectBooking_run, selectPayment_run, commitBlock_run,
        PaymentTransaction.run, ChargeMate.compensateProviderFailure,
        transaction_orRaise (e := Raised.attributeError) (by decide)]
      cases hp : db.payments.find paymentId with
      | none => rfl
      | some payment =>
        cases hb : db.bookings.find bookingId with
        | none => rfl
        | some booking => rfl
  | verifyCheckoutPayment user payload =>
      simp only [PaymentTransaction.program, PaymentTransaction.run, ChargeMate.verifyCheckoutPayment]
      cases truthy env.razorpayKeySecret with
      | none => rfl
      | some keySecret =>
        by_cases hfree : nullFree payload.razorpayOrderId = true
        · simp only [hfree, if_true, ensure, bind, Except.bind, selectPayment_run, commitBlock_run]
          exact (checkout_run env user payload keySecret db).symm
        · simp only [hfree, ensure, bind, Except.bind, transaction]
          rfl
  | recordRefundFailure prepared errorCode =>
      simp only [PaymentTransaction.program, selectRefund_run, commitBlock_run, PaymentTransaction.run,
        ChargeMate.recordRefundFailure,
        transaction_orRaise (e := Raised.attributeError) (by decide)]
      cases db.refunds.find prepared.refundId with
      | none => rfl
      | some refund => rfl
  | finalizeRefund prepared providerRefund now =>
      simp only [PaymentTransaction.program, selectRefund_run, selectPayment_run, commitBlock_run,
        PaymentTransaction.run, ChargeMate.finalizeRefund,
        transaction_orRaise (e := Raised.attributeError) (by decide)]
      cases db.refunds.find prepared.refundId with
      | none => rfl
      | some refund =>
        cases db.payments.find prepared.paymentId with
        | none => rfl
        | some booking => rfl
  | applyReconciledRefund refundId providerRefund now =>
      simp only [PaymentTransaction.program, selectRefund_run, PaymentTransaction.run]
      cases hr : db.refunds.find refundId with
      | none =>
          simp only [ChargeMate.applyReconciledRefund, transaction, hr, Option.filter_none]
          rfl
      | some refund =>
          by_cases hpending : refund.status = .pending
          · have hrun : ChargeMate.applyReconciledRefund refundId providerRefund now db =
                (db.payments.find refund.paymentId).elim (.error .attributeError, db)
                  fun payment => transaction .integrityError
                    (reconcileLockedRefund refund payment providerRefund.status now) db := by
              have hfilter : (db.refunds.find refundId).filter (fun r => r.status = .pending) =
                  some refund := by
                rw [hr]
                exact Option.filter_some_pos (decide_eq_true hpending)
              simp only [ChargeMate.applyReconciledRefund, transaction, hfilter]
              cases db.payments.find refund.paymentId with
              | none => rfl
              | some payment => rfl
            simp only [hpending, ne_eq, not_true_eq_false, if_false, selectPayment_run,
              commitBlock_run, hrun]
            cases db.payments.find refund.paymentId with
            | none => rfl
            | some payment => rfl
          · have hfilter : (db.refunds.find refundId).filter (fun r => r.status = .pending) =
                none := by
              rw [hr]
              exact Option.filter_some_neg (by simpa using hpending)
            simp only [hpending, ne_eq, not_false_eq_true, if_true, commit_run,
              ChargeMate.applyReconciledRefund, transaction, hfilter]
            rfl

/-! ### Locks -/

theorem SameRow.refl (k : LockedRow) (db : Database) : SameRow k db db := by
  cases k <;> exact fun _ h => h

theorem SameRow.trans (k : LockedRow) (db₁ db₂ db₃ : Database) (h : SameRow k db₁ db₂)
    (h' : SameRow k db₂ db₃) : SameRow k db₁ db₃ := by
  cases k <;> exact fun row hrow => h' row (h row hrow)

/-- The unique constraint is kept and no row but the locked ones is changed. -/
structure Confined (held : List LockedRow) (db db' : Database) : Prop where
  distinct : db.DistinctOrders → db'.DistinctOrders
  same : ∀ k, k ∉ held → SameRow k db db'

namespace Confined

variable {held : List LockedRow} {db db' : Database}

theorem refl (held : List LockedRow) (db : Database) : Confined held db db :=
  ⟨id, fun k _ => SameRow.refl k db⟩

theorem trans {db₁ db₂ db₃ : Database} (h : Confined held db₁ db₂) (h' : Confined held db₂ db₃) :
    Confined held db₁ db₃ :=
  ⟨fun hdb => h'.distinct (h.distinct hdb),
    fun k hk => SameRow.trans k _ _ _ (h.same k hk) (h'.same k hk)⟩

theorem updateBooking (db : Database) {b : Booking} (hb : .booking b.id ∈ held) :
    Confined held db (db.updateBooking b) := by
  refine ⟨id, fun k hk => ?_⟩
  cases k with
  | booking id =>
      intro row hrow
      have hne : key b ≠ id := by
        rintro rfl
        exact hk hb
      exact (Table.find_set_of_ne hne).trans hrow
  | _ => exact fun _ h => h

theorem updateRefund {r : Refund} (h : db.updateRefund r = .ok db') (hr : .refund r.id ∈ held) :
    Confined held db db' := by
  obtain ⟨_, rfl⟩ := Database.updateRefund_eq_ok.mp h
  refine ⟨id, fun k hk => ?_⟩
  cases k with
  | refund id =>
      intro row hrow
      have hne : key r ≠ id := by
        rintro rfl
        exact hk hr
      exact (Table.find_set_of_ne hne).trans hrow
  | _ => exact fun _ h => h

theorem updatePayment {p : Payment} (h : db.updatePayment p = .ok db')
    (hp : .payment p.id ∈ held) : Confined held db db' := by
  obtain ⟨haccepts, hdb⟩ := Database.updatePayment_eq_ok.mp h
  refine ⟨fun hdistinct => ?_, fun k hk => ?_⟩
  · cases hold : db.payments.find p.id with
    | none =>
        rw [Table.set_of_absent (r := p) hold] at hdb
        rw [hdb]
        exact hdistinct
    | some old =>
        have hbefore : db.ledger.payments.Unique Payment.providerOrderId := hdistinct
        have hunique : db'.ledger.payments.Unique Payment.providerOrderId := by
          rw [(Database.ledger_updatePayment h hold).2]
          exact hbefore.put fun v k q hv hq hqv =>
            uniqueColumn_find _ haccepts.order hv hq hqv
        exact hunique
  subst hdb
  cases k with
  | payment id =>
      intro row hrow
      have hne : key p ≠ id := by
        rintro rfl
        exact hk hp
      exact (Table.find_set_of_ne hne).trans hrow
  | _ => exact fun _ h => h

theorem insertPayment {p : Payment} (h : db.insertPayment p = .ok db')
    (horder : p.providerOrderId = none) : Confined held db db' := by
  obtain ⟨_, t, hins, rfl⟩ := Database.insertPayment_ok h
  refine ⟨?_, fun k _ => ?_⟩
  · intro hdistinct i j a b o ha hb hao hbo
    rw [Table.find_insert hins] at ha hb
    split at ha
    · cases ha
      rw [horder] at hao
      cases hao
    split at hb
    · cases hb
      rw [horder] at hbo
      cases hbo
    exact hdistinct i j a b o ha hb hao hbo
  cases k with
  | payment id =>
      intro row hrow
      have hfound := Table.find_insert_of_mem hins (Table.mem_of_find hrow)
      rwa [Table.key_of_find hrow] at hfound
  | _ => exact fun _ h => h

end Confined

/-! ### What follows the selections -/

section

variable {held : List LockedRow} {db db' : Database}

theorem beginLockedAttempt_confined {booking : Booking} {user : User}
    {payload : CreatePaymentOrderRequest} {paymentId : Uuid} {now : Timestamp}
    {attempt : PaymentAttemptSnapshot} (hb : .booking booking.id ∈ held)
    (h : beginLockedAttempt booking user payload paymentId now db = .ok (attempt, db')) :
    Confined held db db' := by
  simp only [beginLockedAttempt, bind_eq_ok, ensure_eq_ok, orRaise_eq_ok, pure_eq_ok,
    Prod.mk.injEq] at h
  obtain ⟨_, _, _, _, _, _, db₁, hins, _, rfl⟩ := h
  have hpending : Confined held db (db.updateBooking { booking with
      status := .paymentPending, version := booking.version + 1 }) := Confined.updateBooking db hb
  exact hpending.trans (Confined.insertPayment hins rfl)

theorem finalizeLockedOrder_confined {payment : Payment} {booking : Booking}
    {providerOrder : RazorpayOrder} {result : Except Raised (Payment × Booking)}
    (hp : .payment payment.id ∈ held)
    (h : finalizeLockedOrder payment booking providerOrder db = .ok (result, db')) :
    Confined held db db' := by
  simp only [finalizeLockedOrder, bind_eq_ok] at h
  obtain ⟨_, _, h⟩ := h
  split at h <;>
    · simp only [bind_eq_ok, pure_eq_ok, Prod.mk.injEq] at h
      obtain ⟨db₁, hupd, _, rfl⟩ := h
      exact Confined.updatePayment hupd hp

theorem compensateLockedFailure_confined {payment : Payment} {booking : Booking} {now : Timestamp}
    {u : Unit} (hp : .payment payment.id ∈ held) (hb : .booking booking.id ∈ held)
    (h : compensateLockedFailure payment booking now db = .ok (u, db')) : Confined held db db' := by
  have hrelease : ∀ db : Database, Confined held db (db.updateBooking (booking.release now)) :=
    fun db => Confined.updateBooking db (by rwa [Booking.id_release])
  unfold compensateLockedFailure at h
  split at h
  · simp only [bind_eq_ok, pure_eq_ok, Prod.mk.injEq] at h
    obtain ⟨db₁, hupd, _, rfl⟩ := h
    exact (Confined.updatePayment hupd hp).trans (hrelease db₁)
  · simp only [bind_eq_ok, pure_eq_ok, Prod.mk.injEq, Except.ok.injEq, exists_eq_left'] at h
    exact h.2 ▸ hrelease db

theorem verifyLockedPayment_confined {Body : Type} {env : Env Body} {payment returned : Payment}
    {payload : VerifyCheckoutPaymentRequest} {keySecret : String} (hp : .payment payment.id ∈ held)
    (h : verifyLockedPayment env payment payload keySecret db = .ok (returned, db')) :
    Confined held db db' := by
  simp only [verifyLockedPayment, bind_eq_ok, ensure_eq_ok] at h
  obtain ⟨_, _, _, _, h⟩ := h
  split at h
  · simp only [pure_eq_ok, Prod.mk.injEq] at h
    exact h.2 ▸ Confined.refl held db
  · simp only [bind_eq_ok, ensure_eq_ok, pure_eq_ok, Prod.mk.injEq] at h
    obtain ⟨_, _, db₁, hupd, _, rfl⟩ := h
    exact Confined.updatePayment hupd hp

theorem failLockedRefund_confined {refund : Refund} {errorCode : String} {reported : ReportedError}
    (hr : .refund refund.id ∈ held)
    (h : failLockedRefund refund errorCode db = .ok (reported, db')) : Confined held db db' := by
  unfold failLockedRefund at h
  split at h
  · simp only [bind_eq_ok, pure_eq_ok, Prod.mk.injEq] at h
    obtain ⟨db₁, hupd, _, rfl⟩ := h
    exact Confined.updateRefund hupd hr
  · simp only [bind_eq_ok, pure_eq_ok, Prod.mk.injEq, Except.ok.injEq, exists_eq_left'] at h
    exact h.2 ▸ Confined.refl held db

theorem finalizeLockedRefund_confined {refund : Refund} {payment : Payment}
    {providerRefund : RazorpayRefund} {now : Timestamp} {reported : ReportedError}
    (hr : .refund refund.id ∈ held) (hp : .payment payment.id ∈ held)
    (h : finalizeLockedRefund refund payment providerRefund now db = .ok (reported, db')) :
    Confined held db db' := by
  unfold finalizeLockedRefund at h
  split at h
  · simp only [pure_eq_ok, Prod.mk.injEq] at h
    exact h.2 ▸ Confined.refl held db
  · simp only [bind_eq_ok] at h
    obtain ⟨_, _, db₁, hupd, h⟩ := h
    have hrefund : Confined held db db₁ := Confined.updateRefund hupd <| by
      rwa [Refund.id_answered]
    split at h
    · simp only [bind_eq_ok, pure_eq_ok, Prod.mk.injEq] at h
      obtain ⟨db₂, hpay, _, rfl⟩ := h
      exact hrefund.trans (Confined.updatePayment hpay hp)
    · simp only [bind_eq_ok, pure_eq_ok, Prod.mk.injEq, Except.ok.injEq, exists_eq_left'] at h
      exact h.2 ▸ hrefund

theorem reconcileLockedRefund_confined {refund : Refund} {payment : Payment}
    {status : RazorpayRefundStatus} {now : Timestamp} {outcome : ReconciliationOutcome}
    (hr : .refund refund.id ∈ held) (hp : .payment payment.id ∈ held)
    (h : reconcileLockedRefund refund payment status now db = .ok (outcome, db')) :
    Confined held db db' := by
  cases status with
  | processed =>
      simp only [reconcileLockedRefund, bind_eq_ok, pure_eq_ok, Prod.mk.injEq] at h
      obtain ⟨db₁, hupd, db₂, hpay, _, rfl⟩ := h
      exact (Confined.updateRefund hupd hr).trans (Confined.updatePayment hpay hp)
  | failed =>
      simp only [reconcileLockedRefund, bind_eq_ok, pure_eq_ok, Prod.mk.injEq] at h
      obtain ⟨db₁, hupd, _, rfl⟩ := h
      exact Confined.updateRefund hupd hr
  | pending =>
      simp only [reconcileLockedRefund, bind_eq_ok, pure_eq_ok, Prod.mk.injEq] at h
      obtain ⟨_, hsame, _, rfl⟩ := h
      cases hsame
      exact Confined.refl held db

end

/-! ### Each transaction -/

section

variable {held : List LockedRow}

/-- The programs that keep to their locks. -/
abbrev PaymentProgram.Disciplined (held : List LockedRow) (p : PaymentProgram) : Prop :=
  Program.Disciplined Database.DistinctOrders SameRow held p

theorem disciplined_commit {write : Database → PaymentReturn × Database}
    (h : ∀ db, Confined held db (write db).2) :
    PaymentProgram.Disciplined held (.commit write) := fun db hdb =>
  ⟨(h db).distinct hdb, (h db).same⟩

theorem disciplined_commitBlock {α : Type} {integrity : Raised}
    {block : Database → Except Raised (α × Database)} {returned : Except Raised α → PaymentReturn}
    (h : ∀ {db db' a}, block db = .ok (a, db') → Confined held db db') :
    PaymentProgram.Disciplined held (commitBlock integrity block returned) := by
  refine disciplined_commit fun db => ?_
  rcases transaction_cases integrity block db with ⟨e, he⟩ | ⟨a, db', hblock, heq⟩
  · rw [he]
    exact Confined.refl held db
  · rw [heq]
    exact h hblock

theorem disciplined_findBooking {id : Uuid} {missing : PaymentReturn}
    {next : Booking → PaymentProgram}
    (hnext : ∀ b, PaymentProgram.Disciplined (.booking b.id :: held) (next b)) :
    PaymentProgram.Disciplined held (selectBooking (fun db => db.bookings.find id) missing next) := by
  refine ⟨fun db db' b _ _ hb hsame => ?_, hnext⟩
  have hid : b.id = id := Table.key_of_find (t := db.bookings) hb
  subst hid
  exact hsame b hb

theorem disciplined_findOwnBooking {id userId : Uuid} {missing : PaymentReturn}
    {next : Booking → PaymentProgram}
    (hnext : ∀ b, PaymentProgram.Disciplined (.booking b.id :: held) (next b)) :
    PaymentProgram.Disciplined held (selectBooking
      (fun db => (db.bookings.find id).filter fun b => b.userId = userId) missing next) := by
  refine ⟨fun db db' b _ _ hb hsame => ?_, hnext⟩
  obtain ⟨hfound, huser⟩ := Option.filter_eq_some_iff.mp hb
  have hid : b.id = id := Table.key_of_find (t := db.bookings) hfound
  subst hid
  exact Option.filter_eq_some_iff.mpr ⟨hsame b hfound, huser⟩

theorem disciplined_findPayment {id : Uuid} {missing : PaymentReturn}
    {next : Payment → PaymentProgram}
    (hnext : ∀ p, PaymentProgram.Disciplined (.payment p.id :: held) (next p)) :
    PaymentProgram.Disciplined held (selectPayment (fun db => db.payments.find id) missing next) := by
  refine ⟨fun db db' p _ _ hp hsame => ?_, hnext⟩
  have hid : p.id = id := Table.key_of_find (t := db.payments) hp
  subst hid
  exact hsame p hp

theorem disciplined_findRefund {id : Uuid} {missing : PaymentReturn}
    {next : Refund → PaymentProgram}
    (hnext : ∀ r, PaymentProgram.Disciplined (.refund r.id :: held) (next r)) :
    PaymentProgram.Disciplined held (selectRefund (fun db => db.refunds.find id) missing next) := by
  refine ⟨fun db db' r _ _ hr hsame => ?_, hnext⟩
  have hid : r.id = id := Table.key_of_find (t := db.refunds) hr
  subst hid
  exact hsame r hr

/-- A payment is selected by its order as long as it is stored: no other payment has the order. -/
theorem disciplined_orderPayment {orderId : String} {userId : Uuid} {missing : PaymentReturn}
    {next : Payment → PaymentProgram}
    (hnext : ∀ p, PaymentProgram.Disciplined (.payment p.id :: held) (next p)) :
    PaymentProgram.Disciplined held (selectPayment (fun db => db.payments.scalar fun p =>
      p.providerOrderId = some orderId ∧ p.userId = userId) missing next) := by
  refine ⟨fun db db' p _ hdb' hp hsame => ?_, hnext⟩
  have hstored : db'.payments.find p.id = some p :=
    hsame p (Table.find_key (t := db.payments) (Table.mem_of_scalar hp))
  have hprop := Table.prop_of_scalar hp
  refine Table.scalar_eq_some_of_unique (Table.mem_of_find hstored) hprop ?_
  intro q hq hqprop
  have hpo := (of_decide_eq_true hprop).1
  have hqo := (of_decide_eq_true hqprop).1
  have hid := hdb' q.id p.id q p orderId (Table.find_key (t := db'.payments) hq) hstored hqo hpo
  exact Table.eq_of_key_eq hq (Table.mem_of_find hstored) hid

theorem PaymentTransaction.program_disciplined {Body : Type} (env : Env Body)
    (t : PaymentTransaction) : PaymentProgram.Disciplined [] (t.program env) := by
  have hfirst : ∀ (k k' : LockedRow), k ∈ [k', k] := fun k k' =>
    List.mem_cons_of_mem k' List.mem_cons_self
  cases t with
  | beginPaymentAttempt user payload paymentId now =>
      exact disciplined_findOwnBooking fun booking => disciplined_commitBlock
        (beginLockedAttempt_confined List.mem_cons_self)
  | finalizeProviderOrder paymentId bookingId providerOrder =>
      exact disciplined_findPayment fun payment => disciplined_findBooking fun booking =>
        disciplined_commitBlock (finalizeLockedOrder_confined (hfirst _ _))
  | compensateProviderFailure paymentId bookingId now =>
      exact disciplined_findPayment fun payment => disciplined_findBooking fun booking =>
        disciplined_commitBlock (compensateLockedFailure_confined (hfirst _ _) List.mem_cons_self)
  | verifyCheckoutPayment user payload =>
      unfold PaymentTransaction.program
      cases truthy env.razorpayKeySecret with
      | none => exact disciplined_commit fun db => Confined.refl [] db
      | some keySecret =>
          simp only
          split
          · exact disciplined_orderPayment fun payment => disciplined_commitBlock
              (verifyLockedPayment_confined List.mem_cons_self)
          · exact disciplined_commit fun db => Confined.refl [] db
  | recordRefundFailure prepared errorCode =>
      exact disciplined_findRefund fun refund => disciplined_commitBlock
        (failLockedRefund_confined List.mem_cons_self)
  | finalizeRefund prepared providerRefund now =>
      exact disciplined_findRefund fun refund => disciplined_findPayment fun payment =>
        disciplined_commitBlock (finalizeLockedRefund_confined (hfirst _ _) List.mem_cons_self)
  | applyReconciledRefund refundId providerRefund now =>
      refine disciplined_findRefund fun refund => ?_
      split
      · exact disciplined_commit fun db => Confined.refl _ db
      · exact disciplined_findPayment fun payment => disciplined_commitBlock
          (reconcileLockedRefund_confined (hfirst _ _) List.mem_cons_self)

end

end ChargeMate
