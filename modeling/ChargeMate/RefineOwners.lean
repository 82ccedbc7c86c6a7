import ChargeMate.RefineRequests

/-! Owners. Each transaction of a customer leaves the rows of all other customers alone, and a
request in flight or answered is about rows of the customer who has made it. -/

namespace ChargeMate

open Relational

/-! ### Rows of other customers -/

/-- The refund returns a payment of another customer. -/
def Ledger.ForOther (L : Ledger) (userId : Uuid) (r : Refund) : Prop :=
  ∃ p, L.payments r.paymentId = some p ∧ p.userId ≠ userId

/-- Whatever belongs to other customers is the same. -/
structure Ledger.KeepsOthers (userId : Uuid) (L L' : Ledger) : Prop where
  bookings : Register.Agree (fun b : Booking => b.userId ≠ userId) L.bookings L'.bookings
  payments : Register.Agree (fun p : Payment => p.userId ≠ userId) L.payments L'.payments
  refunds : Register.Agree (L.ForOther userId) L.refunds L'.refunds
  sessions : Register.Agree (fun s : ChargingSession => s.userId ≠ userId) L.sessions L'.sessions

theorem Ledger.KeepsOthers.refl (userId : Uuid) (L : Ledger) : L.KeepsOthers userId L where
  bookings := .refl _ _
  payments := .refl _ _
  refunds := .refl _ _
  sessions := .refl _ _

theorem Ledger.KeepsOthers.trans {userId : Uuid} {L₁ L₂ L₃ : Ledger}
    (h : L₁.KeepsOthers userId L₂) (h' : L₂.KeepsOthers userId L₃) : L₁.KeepsOthers userId L₃ where
  bookings id b hb := (h'.bookings id b hb).trans (h.bookings id b hb)
  payments id p hp := (h'.payments id p hp).trans (h.payments id p hp)
  refunds := by
    rintro id r ⟨p, hp, hother⟩
    have hlater : L₂.ForOther userId r := ⟨p, (h.payments _ p hother).mpr hp, hother⟩
    exact (h'.refunds id r hlater).trans (h.refunds id r ⟨p, hp, hother⟩)
  sessions id s hs := (h'.sessions id s hs).trans (h.sessions id s hs)

section

variable {userId : Uuid} {db db' : Database}

theorem keepsOthers_expireHolds {among : Booking → Bool} (now : Timestamp)
    (hown : ∀ b, among b = true → b.userId = userId) :
    db.ledger.KeepsOthers userId (expireHolds among now db).ledger := by
  have hkept : ∀ b : Booking, b.userId ≠ userId → ¬(among b && b.holdLapsed now) = true := by
    intro b hother hlapsed
    exact hother (hown b (Bool.and_eq_true_iff.mp hlapsed).1)
  have hagree : Register.Agree (fun b : Booking => b.userId ≠ userId) db.ledger.bookings
      (db.ledger.expire among now).bookings := by
    refine Register.Agree.map db.ledger.bookings (fun b => by split <;> rfl) ?_ ?_
    · exact fun b hother => if_neg (hkept b hother)
    · intro b hother
      by_cases hlapsed : (among b && b.holdLapsed now) = true
      · rw [if_pos hlapsed] at hother
        exact absurd hlapsed (hkept b hother)
      · exact if_neg hlapsed
  rw [ledger_expireHolds]
  exact { Ledger.KeepsOthers.refl userId db.ledger with bookings := hagree }

theorem keepsOthers_transaction {α : Type} {integrity : Raised}
    {block : Database → Except Raised (α × Database)}
    (h : ∀ a db', block db = .ok (a, db') → db.ledger.KeepsOthers userId db'.ledger) :
    db.ledger.KeepsOthers userId (transaction integrity block db).2.ledger := by
  rcases transaction_cases integrity block db with ⟨e, he⟩ | ⟨a, db', hblock, ht⟩
  · rw [he]
    exact .refl userId _
  · rw [ht]
    exact h a db' hblock

theorem keepsOthers_updateBooking {b old : Booking} (hold : db.bookings.find b.id = some old)
    (huser : old.userId = userId) (hb : b.userId = old.userId) :
    db.ledger.KeepsOthers userId (db.updateBooking b).ledger := by
  rw [Database.ledger_updateBooking hold]
  refine { Ledger.KeepsOthers.refl userId db.ledger with
    bookings := Register.Agree.put (not_not.mpr (hb.trans huser)) fun q hq => ?_ }
  rw [Booking.key_eq, Database.bookings_ledger, hold] at hq
  cases hq
  exact not_not.mpr huser

theorem keepsOthers_insertBooking {b : Booking} (hins : db.insertBooking b = .ok db')
    (hb : b.userId = userId) : db.ledger.KeepsOthers userId db'.ledger := by
  obtain ⟨hnew, hledger⟩ := Database.ledger_insertBooking hins
  rw [hledger]
  refine { Ledger.KeepsOthers.refl userId db.ledger with
    bookings := Register.Agree.put (not_not.mpr hb) fun q hq => ?_ }
  rw [Booking.key_eq, Database.bookings_ledger, hnew] at hq
  cases hq

theorem keepsOthers_updatePayment {p old : Payment} (hupd : db.updatePayment p = .ok db')
    (hold : db.payments.find p.id = some old) (huser : old.userId = userId)
    (hp : p.userId = old.userId) : db.ledger.KeepsOthers userId db'.ledger := by
  obtain ⟨_, hledger⟩ := Database.ledger_updatePayment hupd hold
  rw [hledger]
  refine { Ledger.KeepsOthers.refl userId db.ledger with
    payments := Register.Agree.put (not_not.mpr (hp.trans huser)) fun q hq => ?_ }
  rw [Payment.key_eq, Database.payments_ledger, hold] at hq
  cases hq
  exact not_not.mpr huser

theorem keepsOthers_insertPayment {p : Payment} (hins : db.insertPayment p = .ok db')
    (hp : p.userId = userId) : db.ledger.KeepsOthers userId db'.ledger := by
  obtain ⟨hnew, _, hledger⟩ := Database.ledger_insertPayment hins
  rw [hledger]
  refine { Ledger.KeepsOthers.refl userId db.ledger with
    payments := Register.Agree.put (not_not.mpr hp) fun q hq => ?_ }
  rw [Payment.key_eq, Database.payments_ledger, hnew] at hq
  cases hq

/-- Refunds have no customer of their own: it is the payment's. -/
theorem not_forOther {L : Ledger} {r : Refund} {p : Payment}
    (hp : L.payments r.paymentId = some p) (huser : p.userId = userId) : ¬L.ForOther userId r := by
  rintro ⟨q, hq, hother⟩
  rw [hp] at hq
  cases hq
  exact hother huser

theorem keepsOthers_updateRefund {r old : Refund} {p : Payment} (hupd : db.updateRefund r = .ok db')
    (hold : db.refunds.find r.id = some old) (hr : r.paymentId = old.paymentId)
    (hp : db.payments.find old.paymentId = some p) (huser : p.userId = userId) :
    db.ledger.KeepsOthers userId db'.ledger := by
  rw [Database.ledger_updateRefund hupd hold]
  refine { Ledger.KeepsOthers.refl userId db.ledger with
    refunds := Register.Agree.put (not_forOther (hr ▸ hp) huser) fun q hq => ?_ }
  rw [Refund.key_eq, Database.refunds_ledger, hold] at hq
  cases hq
  exact not_forOther hp huser

theorem keepsOthers_insertRefund {r : Refund} {p : Payment} (hins : db.insertRefund r = .ok db')
    (hp : db.payments.find r.paymentId = some p) (huser : p.userId = userId) :
    db.ledger.KeepsOthers userId db'.ledger := by
  obtain ⟨hnew, _, hledger⟩ := Database.ledger_insertRefund hins
  rw [hledger]
  refine { Ledger.KeepsOthers.refl userId db.ledger with
    refunds := Register.Agree.put (not_forOther hp huser) fun q hq => ?_ }
  rw [Refund.key_eq, Database.refunds_ledger, hnew] at hq
  cases hq

/-! ### The transactions of a customer -/

theorem keepsOthers_createBookingHold (holdMinutes : Int) (user : User)
    (payload : BookingHoldRequest) (bookingId : Uuid) (now : Timestamp) (db : Database) :
    (createBookingHold holdMinutes user payload bookingId now db).2 = db ∨
      (expireStaleHolds payload.chargePointId now db).ledger.KeepsOthers user.id
        (createBookingHold holdMinutes user payload bookingId now db).2.ledger := by
  rcases createBookingHold_commits holdMinutes user payload bookingId now db with hkept | ⟨b, hok⟩
  · exact Or.inl hkept
  · obtain ⟨_, point, hpoint, _, _, rfl, hins⟩ := createBookingHold_eq_ok.mp hok
    have hid : point.id = payload.chargePointId := Table.key_of_find hpoint
    rw [hid] at hins
    exact Or.inr (keepsOthers_insertBooking hins rfl)

theorem keepsOthers_cancelUserBooking (userId bookingId : Uuid) (expectedVersion : Nat)
    (now : Timestamp) (db : Database) :
    db.ledger.KeepsOthers userId
      (cancelUserBooking userId bookingId expectedVersion now db).2.ledger := by
  rcases cancelUserBooking_commits userId bookingId expectedVersion now db with hkept | ⟨b', hok⟩
  · rw [hkept]
    exact .refl userId _
  · obtain ⟨b, hb, huser, _, _, _, hdb, _⟩ := cancelUserBooking_eq_ok.mp hok
    have hid := Database.find_booking_id hb
    rw [hdb]
    exact keepsOthers_updateBooking (b := b.cancel now) hid huser rfl

theorem keepsOthers_beginPaymentAttempt (user : User) (payload : CreatePaymentOrderRequest)
    (paymentId : Uuid) (now : Timestamp) (db : Database) :
    db.ledger.KeepsOthers user.id (beginPaymentAttempt user payload paymentId now db).2.ledger := by
  rcases beginPaymentAttempt_cases user payload paymentId now db with
    ⟨e, heq⟩ | ⟨b, p, db', hb, huser, _, _, hopens, _, _, hins, heq⟩
  · rw [heq]
    exact .refl user.id _
  · have hid := Database.find_booking_id hb
    rw [heq]
    have hbooking : db.ledger.KeepsOthers user.id
        (db.updateBooking (b.advance .paymentPending)).ledger :=
      keepsOthers_updateBooking (b := b.advance .paymentPending) hid huser rfl
    exact hbooking.trans (keepsOthers_insertPayment hins (hopens.userId.trans huser))

theorem keepsOthers_closeAttempt {Body : Type} (env : Env Body) {attempt : PaymentAttemptSnapshot}
    (answer : ProviderAnswer) (now : Timestamp) {p : Payment} {b : Booking}
    (hp : db.payments.find attempt.paymentId = some p)
    (hb : db.bookings.find attempt.bookingId = some b) (hpuser : p.userId = userId)
    (hbuser : b.userId = userId) :
    db.ledger.KeepsOthers userId (closeAttempt env attempt answer now db).2.ledger := by
  have hpid := Database.find_payment_id hp
  unfold closeAttempt
  split
  · unfold compensateProviderFailure
    refine keepsOthers_transaction fun a db' hblock => ?_
    simp only [bind_eq_ok, orRaise_eq_ok, hp, hb, Option.some.injEq, exists_eq_left'] at hblock
    unfold compensateLockedFailure at hblock
    obtain ⟨db₁, hpayment, hb₁, hblock⟩ : ∃ db₁ : Database,
        db.ledger.KeepsOthers userId db₁.ledger ∧
        db₁.bookings.find attempt.bookingId = some b ∧
        db' = db₁.updateBooking (b.release now) := by
      split at hblock
      · simp only [bind_eq_ok, pure_eq_ok, Prod.mk.injEq] at hblock
        obtain ⟨db₁, hupd, _, rfl⟩ := hblock
        refine ⟨db₁, keepsOthers_updatePayment hupd hpid hpuser rfl, ?_, rfl⟩
        rw [← Database.bookings_ledger, (Database.ledger_updatePayment hupd hpid).2]
        exact hb
      · simp only [bind_eq_ok, pure_eq_ok, Prod.mk.injEq, Except.ok.injEq, exists_eq_left']
          at hblock
        exact ⟨db, .refl userId _, hb, hblock.2.symm⟩
    have hold : db₁.bookings.find (b.release now).id = some b := by
      rw [b.id_release]
      exact Database.find_booking_id hb₁
    rw [hblock]
    refine hpayment.trans (keepsOthers_updateBooking hold hbuser ?_)
    rcases b.release_cases now with ⟨_, heq⟩ | ⟨_, heq⟩
    · rw [heq]
    · rw [heq]
      rfl
  · exact .refl userId _
  · unfold finalizeProviderOrder
    refine keepsOthers_transaction fun a db' hblock => ?_
    simp only [bind_eq_ok, orRaise_eq_ok, hp, hb, Option.some.injEq, exists_eq_left',
      finalizeLockedOrder] at hblock
    obtain ⟨_, _, hblock⟩ := hblock
    split at hblock <;>
      · simp only [bind_eq_ok, pure_eq_ok, Prod.mk.injEq] at hblock
        obtain ⟨db₁, hupd, _, rfl⟩ := hblock
        exact keepsOthers_updatePayment hupd hpid hpuser rfl

theorem keepsOthers_verifyCheckoutPayment {Body : Type} (env : Env Body) (user : User)
    (payload : VerifyCheckoutPaymentRequest) (db : Database) :
    db.ledger.KeepsOthers user.id (verifyCheckoutPayment env user payload db).2.ledger := by
  rcases verifyCheckoutPayment_cases env user payload db with
    ⟨e, heq⟩ | ⟨p, hp, huser, _, heq | ⟨p', db', hauth, hupd, heq⟩⟩
  · rw [heq]
    exact .refl user.id _
  · rw [heq]
    exact .refl user.id _
  · have hold : db.payments.find p'.id = some p := by
      rw [hauth.row]
      exact hp
    rw [heq]
    exact keepsOthers_updatePayment hupd hold huser (by rw [hauth.row])

theorem keepsOthers_prepareCancellation (hL : db.ledger.Sound) (userId bookingId : Uuid)
    (expectedVersion : Nat) (refundId : Uuid) (choice : Nat) (now createdAt : Timestamp) :
    db.ledger.KeepsOthers userId (prepareCancellation userId bookingId expectedVersion refundId
      choice now createdAt db).2.ledger := by
  rcases prepareCancellation_cases userId bookingId expectedVersion refundId choice now createdAt db
    with ⟨e, heq⟩ | ⟨b, _, _, _, _, heq⟩ | ⟨b, hb, huser, _, _, heq⟩ |
      ⟨b, p, _, db', hb, huser, _, _, hp, _, hins, heq⟩
  · rw [heq]
    exact .refl userId _
  · rw [heq]
    exact .refl userId _
  · have hid := Database.find_booking_id hb
    rw [heq]
    exact keepsOthers_updateBooking (b := b.cancel now) hid huser rfl
  · have hid := Database.find_booking_id hb
    rw [heq]
    obtain ⟨hmem, hbooking, _⟩ := mem_capturedPayments.mp (mem_of_firstReturned hp)
    have hpid : db.payments.find p.id = some p := Table.find_key hmem
    have hpuser : p.userId = userId := by
      obtain ⟨c, hc, hcharges⟩ := hL.payments.charges p.id p hpid
      rw [hbooking, Database.bookings_ledger, hid] at hc
      cases hc
      exact hcharges.userId.trans huser
    have hcancel : db.ledger.KeepsOthers userId (db.updateBooking (b.cancel now)).ledger :=
      keepsOthers_updateBooking (b := b.cancel now) hid huser rfl
    exact hcancel.trans (keepsOthers_insertRefund hins hpid hpuser)

section

variable {snapshot : RefundRequestSnapshot} {r : Refund} {p : Payment}
  (hr : db.refunds.find snapshot.refundId = some r)
  (hp : db.payments.find snapshot.paymentId = some p) (hpayment : r.paymentId = snapshot.paymentId)
  (huser : p.userId = userId)

include hr hp hpayment huser

theorem keepsOthers_recordRefundFailure (errorCode : String) :
    db.ledger.KeepsOthers userId (recordRefundFailure snapshot errorCode db).2.ledger := by
  have hrid := Database.find_refund_id hr
  unfold recordRefundFailure
  refine keepsOthers_transaction fun a db' hblock => ?_
  simp only [bind_eq_ok, orRaise_eq_ok, hr, Option.some.injEq, exists_eq_left'] at hblock
  unfold failLockedRefund at hblock
  split at hblock
  · simp only [bind_eq_ok, pure_eq_ok, Prod.mk.injEq] at hblock
    obtain ⟨db₁, hupd, _, rfl⟩ := hblock
    exact keepsOthers_updateRefund hupd hrid rfl (hpayment ▸ hp) huser
  · simp only [bind_eq_ok, pure_eq_ok, Prod.mk.injEq, Except.ok.injEq, exists_eq_left'] at hblock
    rw [← hblock.2]
    exact .refl userId _

theorem keepsOthers_finalizeRefund (providerRefund : RazorpayRefund) (now : Timestamp) :
    db.ledger.KeepsOthers userId (finalizeRefund snapshot providerRefund now db).2.ledger := by
  unfold finalizeRefund
  refine keepsOthers_transaction fun a db' hblock => ?_
  simp only [bind_eq_ok, orRaise_eq_ok, hr, hp, Option.some.injEq, exists_eq_left'] at hblock
  unfold finalizeLockedRefund at hblock
  split at hblock
  · simp only [pure_eq_ok, Prod.mk.injEq] at hblock
    rw [← hblock.2]
    exact .refl userId _
  next hrequested =>
  simp only [bind_eq_ok] at hblock
  obtain ⟨providerRefundId, _, db₁, hrefund, hblock⟩ := hblock
  have hcont := Refund.continues_answered providerRefundId providerRefund.status now
    (not_not.mp hrequested)
  have hrid : db.refunds.find (r.answered providerRefundId providerRefund.status now).id =
      some r := by
    rw [hcont.id]
    exact Database.find_refund_id hr
  have hfirst : db.ledger.KeepsOthers userId db₁.ledger :=
    keepsOthers_updateRefund hrefund hrid hcont.paymentId (hpayment ▸ hp) huser
  refine hfirst.trans ?_
  split at hblock
  · simp only [bind_eq_ok, pure_eq_ok, Prod.mk.injEq] at hblock
    obtain ⟨db₂, hupd, _, rfl⟩ := hblock
    have hold : db₁.payments.find p.id = some p := by
      rw [← Database.payments_ledger, Database.ledger_updateRefund hrefund hrid]
      exact Database.find_payment_id hp
    exact keepsOthers_updatePayment hupd hold huser rfl
  · simp only [bind_eq_ok, pure_eq_ok, Prod.mk.injEq, Except.ok.injEq, exists_eq_left'] at hblock
    rw [← hblock.2]
    exact .refl userId _

theorem keepsOthers_settleRefund (answer : ProviderAnswer) (now : Timestamp) :
    db.ledger.KeepsOthers userId (settleRefund snapshot answer now db).2.ledger := by
  unfold settleRefund
  split
  · exact keepsOthers_recordRefundFailure hr hp hpayment huser _
  · exact .refl userId _
  · exact keepsOthers_finalizeRefund hr hp hpayment huser _ now

end

end

/-! ### The owners of cancellation requests -/

/-- Whatever the request refers to or has answered with belongs to its customer. -/
structure CancellationRequest.Own (r : CancellationRequest) (L : Ledger) : Prop where
  attempt : ∀ snapshot, r.Carries snapshot →
    ∃ p, L.payments snapshot.paymentId = some p ∧ p.userId = r.userId
  read : ∀ snapshot reported booking, r.phase = .bookingRead snapshot reported booking →
    ∀ b ∈ booking, b.userId = r.userId
  booking : ∀ outcome, r.phase = .answered (.ok outcome) →
    ∀ b ∈ outcome.booking, b.userId = r.userId
  refund : ∀ outcome, r.phase = .answered (.ok outcome) →
    ∀ refund ∈ outcome.refund, ∃ p, L.payments refund.paymentId = some p ∧ p.userId = r.userId

theorem CancellationRequest.Own.move {r : CancellationRequest} {c : Cause} {L L' : Ledger}
    (h : r.Own L) (hL : L.Sound) (hmove : Move L c L') : r.Own L' := by
  have hnext : ∀ {id p}, L.payments id = some p → p.userId = r.userId →
      ∃ p', L'.payments id = some p' ∧ p'.userId = r.userId := by
    intro id p hp huser
    obtain ⟨p', hp', hcont⟩ := hmove.payment_next hL.payments hL.refunds hp
    exact ⟨p', hp', hcont.userId.trans huser⟩
  refine ⟨?_, h.read, h.booking, ?_⟩
  · intro snapshot hcarries
    obtain ⟨p, hp, huser⟩ := h.attempt snapshot hcarries
    exact hnext hp huser
  · intro outcome hphase refund hrefund
    obtain ⟨p, hp, huser⟩ := h.refund outcome hphase refund hrefund
    exact hnext hp huser

/-- A request that is settled carries on with its snapshot, or has raised. -/
theorem CancellationRequest.Own.settle {r : CancellationRequest} {snapshot : RefundRequestSnapshot}
    {L : Ledger} (h : r.Own L) (hflight : r.InFlight snapshot)
    (result : Except Raised ReportedError) :
    CancellationRequest.Own { r with phase := .settled snapshot result } L := by
  refine ⟨fun carried hcarries => ?_, ?_, ?_, ?_⟩
  · obtain rfl := CancellationRequest.carries_settled hcarries
    exact h.attempt snapshot hflight.carries
  · intro _ _ _ hphase
    cases result <;> cases hphase
  · intro _ hphase
    cases result <;> cases hphase
  · intro _ hphase
    cases result <;> cases hphase

section

variable {r : CancellationRequest} {snapshot : RefundRequestSnapshot} {reported : ReportedError}
  {db : Database}

/-- The booking of the request's own snapshot is a booking of its customer. -/
theorem CancellationRequest.Own.readBooking (hL : db.ledger.Sound) (h : r.Own db.ledger)
    (hcommitted : r.phase = .committed snapshot reported) (hheld : snapshot.Held db.ledger) :
    CancellationRequest.Own { r with
      phase := .bookingRead snapshot reported (db.bookings.find snapshot.bookingId) } db.ledger := by
  have hcarries : r.Carries snapshot := by rw [CancellationRequest.Carries, hcommitted]
  obtain ⟨p, hp, huser⟩ := h.attempt snapshot hcarries
  obtain ⟨f, q, hf, hq, hdesc⟩ := hheld
  rw [hp] at hq
  cases hq
  refine ⟨fun carried hcarried => ?_, ?_, ?_, ?_⟩
  · obtain rfl : snapshot = carried := hcarried
    exact ⟨p, hp, huser⟩
  · intro _ _ _ hphase b hb
    cases hphase
    obtain ⟨d, hd, hcharges⟩ := hL.payments.charges _ p hp
    rw [hdesc.bookingId, Database.bookings_ledger, hb] at hd
    cases hd
    exact hcharges.userId.symm.trans huser
  · intro _ hphase
    cases hphase
  · intro _ hphase
    cases hphase

/-- So is its refund. -/
theorem CancellationRequest.Own.readRefund {booking : Option Booking} {providerError : Bool}
    (h : r.Own db.ledger) (hread : r.phase = .bookingRead snapshot reported booking)
    (hheld : snapshot.Held db.ledger) :
    CancellationRequest.Own { r with phase := .answered (.ok {
      booking
      refund := db.refunds.find snapshot.refundId
      providerError }) } db.ledger := by
  have hcarries : r.Carries snapshot := by rw [CancellationRequest.Carries, hread]
  obtain ⟨p, hp, huser⟩ := h.attempt snapshot hcarries
  refine ⟨fun _ hcarried => hcarried.elim, ?_, ?_, ?_⟩
  · intro _ _ _ hphase
    cases hphase
  · intro _ hphase b hb
    cases hphase
    exact h.read snapshot reported booking hread b hb
  · intro _ hphase refund hrefund
    cases hphase
    exact ⟨p, by rw [hheld.names refund hrefund]; exact hp, huser⟩

end

/-- What a new cancellation has prepared or answered is about a booking of its customer. -/
theorem prepareCancellation_own {r : CancellationRequest} {db : Database} {refundId : Uuid}
    {choice : Nat} {now createdAt : Timestamp} (hL : db.ledger.Sound)
    (hphase : match (prepareCancellation r.userId r.bookingId r.expectedVersion refundId choice now
        createdAt db).1 with
      | .error e => r.phase = .answered (.error e)
      | .ok (.inl outcome) => r.phase = .answered (.ok outcome)
      | .ok (.inr snapshot) => r.phase = .prepared snapshot) :
    r.Own (prepareCancellation r.userId r.bookingId r.expectedVersion refundId choice now createdAt
      db).2.ledger := by
  have hcharged : ∀ {p b}, db.payments.find p.id = some p → db.bookings.find r.bookingId = some b →
      p.bookingId = b.id → b.userId = r.userId → p.userId = r.userId := by
    intro p b hp hb hbooking huser
    obtain ⟨d, hd, hcharges⟩ := hL.payments.charges p.id p hp
    rw [hbooking, Database.bookings_ledger, Database.find_booking_id hb] at hd
    cases hd
    exact hcharges.userId.trans huser
  rcases prepareCancellation_cases r.userId r.bookingId r.expectedVersion refundId choice now
    createdAt db with ⟨e, heq⟩ | ⟨b, hb, huser, _, _, heq⟩ | ⟨b, hb, huser, _, _, heq⟩ |
      ⟨b, p, _, db', hb, huser, _, _, hp, _, hins, heq⟩
  · rw [heq] at hphase ⊢
    refine ⟨?_, ?_, ?_, ?_⟩
    · intro snapshot h
      rw [CancellationRequest.Carries, hphase] at h
      exact h.elim
    · intro _ _ _ h
      rw [hphase] at h
      cases h
    · intro outcome h
      rw [hphase] at h
      cases h
    · intro outcome h
      rw [hphase] at h
      cases h
  · rw [heq] at hphase ⊢
    refine ⟨?_, ?_, ?_, ?_⟩
    · intro snapshot h
      rw [CancellationRequest.Carries, hphase] at h
      exact h.elim
    · intro _ _ _ h
      rw [hphase] at h
      cases h
    · intro outcome h c hc
      rw [hphase] at h
      cases h
      cases hc
      exact huser
    · intro outcome h refund hrefund
      rw [hphase] at h
      cases h
      have hjoined := Table.prop_of_scalar (Option.mem_def.mp hrefund)
      simp only [refundOfBooking, Option.any_eq_true, decide_eq_true_eq] at hjoined
      obtain ⟨p, hp, hbooking⟩ := hjoined
      have hpid := Database.find_payment_id hp
      exact ⟨p, hp, hcharged hpid hb hbooking huser⟩
  · rw [heq] at hphase ⊢
    have hid := Database.find_booking_id hb
    refine ⟨?_, ?_, ?_, ?_⟩
    · intro snapshot h
      rw [CancellationRequest.Carries, hphase] at h
      exact h.elim
    · intro _ _ _ h
      rw [hphase] at h
      cases h
    · intro outcome h c hc
      rw [hphase] at h
      cases h
      have hwritten : (db.updateBooking (b.cancel now)).bookings.find r.bookingId =
          some (b.cancel now) := by
        rw [← Table.key_of_find hb]
        exact Table.find_set_self (r := b.cancel now) hid
      cases hwritten.symm.trans hc
      exact huser
    · intro outcome h refund hrefund
      rw [hphase] at h
      cases h
      cases hrefund
  · rw [heq] at hphase ⊢
    obtain ⟨hmem, hbooking, _⟩ := mem_capturedPayments.mp (mem_of_firstReturned hp)
    have hpid : db.payments.find p.id = some p := Table.find_key hmem
    have hid := Database.find_booking_id hb
    have hp' : db'.ledger.payments p.id = some p := by
      rw [(Database.ledger_insertRefund hins).2.2,
        Database.ledger_updateBooking (b := b.cancel now) hid]
      exact hpid
    refine ⟨?_, ?_, ?_, ?_⟩
    · intro snapshot h
      rw [CancellationRequest.Carries, hphase] at h
      subst h
      exact ⟨p, hp', hcharged hpid hb hbooking huser⟩
    · intro _ _ _ h
      rw [hphase] at h
      cases h
    · intro outcome h
      rw [hphase] at h
      cases h
    · intro outcome h
      rw [hphase] at h
      cases h

section

variable {Body : Type} {env : Env Body} {w : World}

theorem World.Reachable.cancellations_own (h : w.Reachable env) :
    ∀ id r, w.cancellationRequests.find id = some r → r.Own w.db.ledger := by
  refine Transition.Reachable.invariant
    (P := fun w : World => ∀ id r, w.cancellationRequests.find id = some r → r.Own w.db.ledger)
    ?_ ?_ h
  · intro w hinit id r hr
    rw [hinit.cancellationRequests] at hr
    cases hr
  · intro w a hreach hw id r' hr'
    have hsound := World.Reachable.sound hreach
    obtain ⟨c, _, hmove⟩ := World.step_move env hsound a
    -- the request written by the step, or one that it has left alone
    have hset : ∀ {r s : CancellationRequest},
        (w.step env a).cancellationRequests = w.cancellationRequests.set s →
        w.cancellationRequests.find s.id = some r →
        s.Own (w.step env a).db.ledger → r'.Own (w.step env a).db.ledger := by
      intro r s hrequests hr hs
      rw [hrequests] at hr'
      rcases Table.find_set_cases (r := s) hr' hr with ⟨_, rfl⟩ | ⟨_, hold⟩
      · exact hs
      · exact (hw id r' hold).move hsound.ledger hmove
    cases (w.step_requests env a).2 with
    | kept hrequests =>
        rw [hrequests] at hr'
        exact (hw id r' hr').move hsound.ledger hmove
    | opened r refundId choice now createdAt hins hphase hdb =>
        rw [Table.find_insert hins] at hr'
        split at hr'
        · cases hr'
          rw [hdb]
          exact prepareCancellation_own hsound.ledger hphase
        · exact (hw id r' hr').move hsound.ledger hmove
    | called r snapshot hr hprepared hrequests =>
        refine hset hrequests hr ?_
        refine CancellationRequest.Own.move ⟨?_, ?_, ?_, ?_⟩ hsound.ledger hmove
        · rintro snapshot' hcarries
          obtain rfl : snapshot = snapshot' := hcarries
          exact (hw r.id r hr).attempt snapshot (CancellationRequest.InFlight.carries (Or.inl hprepared))
        · intro _ _ _ hphase
          cases hphase
        · intro outcome hphase
          cases hphase
        · intro outcome hphase
          cases hphase
    | settled r snapshot result hr hflight hrequests =>
        exact hset hrequests hr (((hw r.id r hr).settle hflight result).move hsound.ledger hmove)
    | readBooking r snapshot reported hr hcommitted hrequests =>
        have hheld := (hsound.cancellations.requests r.id r snapshot hr
          (by rw [CancellationRequest.Carries, hcommitted])).2
        exact hset hrequests hr (((hw r.id r hr).readBooking hsound.ledger hcommitted hheld).move
          hsound.ledger hmove)
    | readRefund r snapshot reported booking hr hread hrequests =>
        have hheld := (hsound.cancellations.requests r.id r snapshot hr
          (by rw [CancellationRequest.Carries, hread])).2
        exact hset hrequests hr (((hw r.id r hr).readRefund hread hheld).move hsound.ledger hmove)

/-! ### The owners of order requests -/

/-- What the request has answered with belongs to its customer. -/
def OrderRequest.Own (r : OrderRequest) : Prop :=
  ∀ checkout, r.phase = .answered (.ok checkout) →
    checkout.payment.userId = r.user.id ∧ ∀ b ∈ checkout.booking, b.userId = r.user.id

theorem World.Reachable.orders_own (h : w.Reachable env) :
    ∀ id r, w.orderRequests.find id = some r → r.Own := by
  refine Transition.Reachable.invariant
    (P := fun w : World => ∀ id r, w.orderRequests.find id = some r → r.Own) ?_ ?_ h
  · intro w hinit id r hr
    rw [hinit.orderRequests] at hr
    cases hr
  · intro w a hreach hw id r' hr'
    have hsound := World.Reachable.sound hreach
    have hset : ∀ {r s : OrderRequest},
        (w.step env a).orderRequests = w.orderRequests.set s →
        w.orderRequests.find s.id = some r → s.Own → r'.Own := by
      intro r s hrequests hr hs
      rw [hrequests] at hr'
      rcases Table.find_set_cases (r := s) hr' hr with ⟨_, rfl⟩ | ⟨_, hold⟩
      · exact hs
      · exact hw id r' hold
    have hcharged : ∀ {p b}, w.db.payments.find p.id = some p →
        w.db.bookings.find p.bookingId = some b → b.userId = p.userId := by
      intro p b hp hb
      obtain ⟨d, hd, hcharges⟩ := hsound.ledger.payments.charges p.id p hp
      cases hd.symm.trans hb
      exact hcharges.userId.symm
    cases (w.step_requests env a).1 with
    | kept hrequests =>
        rw [hrequests] at hr'
        exact hw id r' hr'
    | opened r hins hphase =>
        rw [Table.find_insert hins] at hr'
        split at hr'
        · cases hr'
          rcases hphase with hlooked | ⟨result, hanswered, hlook⟩
          · intro checkout h
            rw [hlooked] at h
            cases h
          · intro checkout h
            rw [hanswered] at h
            cases h
            obtain ⟨hp, _, huser, hbooking, _, hfound⟩ := lookUpOrder_answer env hlook
            refine ⟨huser, fun b hb => ?_⟩
            rw [hfound, ← hbooking] at hb
            exact (hcharged hp hb).trans huser
        · exact hw id r' hr'
    | begun r phase hr _ hphase hrequests =>
        refine hset hrequests hr ?_
        intro checkout h
        rcases hphase with ⟨attempt, rfl⟩ | ⟨e, rfl⟩ <;> cases h
    | called r attempt call hr _ hrequests =>
        refine hset hrequests hr ?_
        intro checkout h
        cases h
    | closed r attempt answer now hr hcalled hrequests =>
        refine hset hrequests hr ?_
        intro checkout hanswer
        simp only [OrderPhase.answered.injEq] at hanswer
        obtain ⟨p, hp, hinitiated, hdesc, hasks⟩ :=
          (hsound.orders.requests r.id r hr).1 attempt (Or.inr hcalled)
        obtain ⟨b, hb, hcharges⟩ := hsound.ledger.payments.charges _ p hp
        obtain ⟨⟨o, ho⟩, _, hbooking⟩ :=
          closeAttempt_answer env hp hb hinitiated hdesc.bookingId.symm hanswer
        rw [ho, hbooking]
        refine ⟨hasks.userId, fun c hc => ?_⟩
        cases hc
        exact hcharges.userId.symm.trans hasks.userId

end

end ChargeMate
