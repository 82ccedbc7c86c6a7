import ChargeMate.LedgerCaptures
import ChargeMate.SafetyRefunds

/-! Captured money in every run: what a cancellation refunds, and which captured payments pay for
a booking. Both fail where a capture comes in for a booking that has moved on, so each result
states which actions a run has to leave out. -/

namespace ChargeMate

open Relational

instance (r : Refund) (p : Payment) : Decidable (r.Returns p) :=
  decidable_of_iff (r.paymentId = p.id ∧ r.amount = p.amount ∧
      r.amountSubunits = p.amountSubunits ∧ r.currency = p.currency)
    ⟨fun ⟨h₁, h₂, h₃, h₄⟩ => ⟨h₁, h₂, h₃, h₄⟩, fun ⟨h₁, h₂, h₃, h₄⟩ => ⟨h₁, h₂, h₃, h₄⟩⟩

/-- A refund of the full amount of a payment is stored. -/
def Database.Refunded (db : Database) (p : Payment) : Prop := ∃ r ∈ db.refunds, r.Returns p

/-- Whatever the booking has captured is one payment, and the booking is confirmed. -/
def Database.SoleCapture (db : Database) (bookingId : Uuid) : Prop :=
  ∀ p ∈ capturedPayments db bookingId,
    (∃ b ∈ db.bookings, b.id = bookingId ∧ b.status = .confirmed) ∧
      ∀ q ∈ capturedPayments db bookingId, q = p

instance (db : Database) (p : Payment) : Decidable (db.Refunded p) := by
  unfold Database.Refunded
  infer_instance

/-- A first capture that the action records is for no booking that is back on hold or paid for
already. -/
def World.CapturesInTime {Body : Type} (w : World) (a : Action Body) : Prop :=
  ∀ p ∈ w.capturing a, ¬p.Collected → ∀ b ∈ w.db.bookings.find p.bookingId,
    b.status ≠ .held ∧ b.status ≠ .confirmed

instance {Body : Type} (w : World) (a : Action Body) : Decidable (w.CapturesInTime a) := by
  unfold World.CapturesInTime
  infer_instance

theorem World.CapturesInTime.cause {Body : Type} {w : World} {a : Action Body}
    (h : w.CapturesInTime a) {c : Cause} (hexp : c.Explained w a) :
    c.CapturesInTime w.db.ledger := by
  cases c with
  | capture id =>
      obtain ⟨p, hp, rfl⟩ := hexp
      intro q b hq huncollected hb
      rw [Database.payments_ledger, World.find_capturing hp] at hq
      cases hq
      exact h p hp huncollected b hb
  | other | answer | mismatch | cancel | refund => trivial

theorem World.Initial.capturesOnce {w : World} (h : w.Initial) : w.db.ledger.CapturesOnce where
  waiting id p b hp := by simp [h.payments] at hp
  once i j p q b hp := by simp [h.payments] at hp

section

variable {Body : Type} {env : Env Body}

/-- While captures come in time, a booking captures no more than it needs. -/
theorem World.Initial.capturesOnce_run {w : World} (h : w.Initial) {actions : List (Action Body)}
    (halong : Transition.Along (World.step env) World.CapturesInTime w actions) :
    (w.run env actions).db.ledger.CapturesOnce := by
  refine Transition.Along.invariant
    (P := fun s : World => s.db.ledger.CapturesOnce) ?_ (Transition.Reachable.initial h)
    h.capturesOnce halong
  intro s a hs honce hc
  obtain ⟨c, hexp, hmove⟩ := World.Reachable.move hs a
  exact hmove.capturesOnce (World.Reachable.sound hs).ledger honce (hc.cause hexp)

/-! ### What a cancellation refunds -/

/-- The booking that `cancel_booking_with_refund` is asked to cancel. -/
def Action.cancellation : Action Body → Option Uuid
  | .requestCancellation _ _ bookingId _ _ _ _ _ => some bookingId
  | _ => none

/-- A request that cancels its booking: before the booking is confirmed no refund is written, and
then one, for one of its captured payments. -/
theorem World.cancelling_cases {w : World} {a : Action Body} {bookingId : Uuid}
    (ha : a.cancellation = some bookingId) (h : cancels env bookingId w a = true) :
    ∃ b, w.db.bookings.find bookingId = some b ∧
      (((b.status = .held ∨ b.status = .paymentPending) ∧
        (w.step env a).db.ledger.refunds = w.db.ledger.refunds) ∨
      (b.status = .confirmed ∧ ∃ p r, p ∈ capturedPayments w.db bookingId ∧ r.Opens p ∧
        (w.step env a).db.ledger.refunds = w.db.ledger.refunds.put r)) := by
  cases a <;> simp only [Action.cancellation, Option.some.injEq, reduceCtorEq] at ha
  next requestId userId bookingId expectedVersion refundId choice now createdAt =>
  subst ha
  simp only [cancels, decide_eq_true_eq] at h
  obtain ⟨hnot, hdone⟩ := h
  rw [World.step] at hdone ⊢
  rcases w.requestCancellation_cases requestId userId bookingId expectedVersion refundId choice now
    createdAt with heq | ⟨_, _, _, _, _, _, _, _, heq⟩
  · rw [heq] at hdone
    exact absurd hdone hnot
  rw [heq] at hdone ⊢
  simp only [World.statusOf] at hnot hdone ⊢
  rcases prepareCancellation_cases userId bookingId expectedVersion refundId choice now createdAt
    w.db with ⟨e, hc⟩ | ⟨b, _, _, _, _, hc⟩ | ⟨b, hb, _, _, hstatus, hc⟩ |
      ⟨b, p, x, db', hb, _, _, hconfirmed, hp, _, hins, hc⟩
  · rw [hc] at hdone
    exact absurd hdone hnot
  · rw [hc] at hdone
    exact absurd hdone hnot
  · refine ⟨b, hb, Or.inl ⟨hstatus, ?_⟩⟩
    rw [hc]
    rfl
  · have hid : b.id = bookingId := Table.key_of_find hb
    obtain ⟨_, _, hledger⟩ := Database.ledger_insertRefund hins
    refine ⟨b, hb, Or.inr ⟨hconfirmed, p, newRefund p refundId createdAt, ?_,
      newRefund_opens p refundId createdAt, ?_⟩⟩
    · rw [← hid]
      exact mem_of_firstReturned hp
    · rw [hc]
      simp only [hledger]
      rfl

/-- Exactly a sole capture of a confirmed booking is refunded. -/
theorem World.Sound.refunded_iff {w : World} (h : w.Sound) {a : Action Body} {bookingId : Uuid}
    (ha : a.cancellation = some bookingId) (hcancels : cancels env bookingId w a = true) :
    (∀ p ∈ capturedPayments w.db bookingId, (w.step env a).db.Refunded p) ↔
      w.db.SoleCapture bookingId := by
  obtain ⟨b, hb, hcases⟩ := World.cancelling_cases ha hcancels
  have hid : b.id = bookingId := Table.key_of_find hb
  -- the booking is not cancelled yet, so none of its payments has a refund
  have hnone : b.status ≠ .cancelled → ∀ p ∈ capturedPayments w.db bookingId, ∀ k r,
      w.db.ledger.refunds k = some r → r.paymentId ≠ p.id := by
    intro hopen p hp k r hr hrp
    obtain ⟨hmem, hbooking, _⟩ := mem_capturedPayments.mp hp
    refine hopen (h.ledger.refunds.cancelled hr ?_ (hid ▸ hb) (hbooking.trans hid.symm))
    rw [hrp]
    exact Table.find_key hmem
  rcases hcases with ⟨hstatus, hrefunds⟩ | ⟨hconfirmed, p₀, r₀, hp₀, hopens, hrefunds⟩
  · have hopen : b.status ≠ .cancelled := by rcases hstatus with hs | hs <;> simp [hs]
    constructor
    · intro hall p hp
      obtain ⟨r, hr, hreturns⟩ := hall p hp
      have hfind : w.db.ledger.refunds r.id = some r := by
        rw [← hrefunds]
        exact Table.find_key hr
      exact absurd hreturns.paymentId (hnone hopen p hp r.id r hfind)
    · intro hsole p hp
      obtain ⟨⟨d, hd, hdid, hconfirmed⟩, _⟩ := hsole p hp
      have hdb : w.db.bookings.find bookingId = some d := hdid ▸ Table.find_key hd
      rw [hb] at hdb
      cases hdb
      rcases hstatus with hs | hs <;> rw [hs] at hconfirmed <;> cases hconfirmed
  · have hopen : b.status ≠ .cancelled := by simp [hconfirmed]
    constructor
    · intro hall
      have hone : ∀ q ∈ capturedPayments w.db bookingId, q = p₀ := by
        intro q hq
        obtain ⟨r, hr, hreturns⟩ := hall q hq
        have hfind : (w.db.ledger.refunds.put r₀) r.id = some r := by
          rw [← hrefunds]
          exact Table.find_key hr
        rw [Register.get_put] at hfind
        split at hfind
        · cases hfind
          have hqp : q.id = p₀.id := hreturns.paymentId.symm.trans hopens.paymentId
          exact Table.eq_of_key_eq (mem_capturedPayments.mp hq).1 (mem_capturedPayments.mp hp₀).1 hqp
        · exact absurd hreturns.paymentId (hnone hopen q hq r.id r hfind)
      intro p hp
      exact ⟨⟨b, Table.mem_of_find hb, hid, hconfirmed⟩, fun q hq => by rw [hone q hq, hone p hp]⟩
    · intro hsole p hp
      have hpp : p₀ = p := (hsole p hp).2 p₀ hp₀
      subst hpp
      refine ⟨r₀, Table.mem_of_find (k := r₀.id) ?_, hopens.toReturns⟩
      rw [← Database.refunds_ledger, hrefunds]
      simp

/-- What a booking has captured in time is a sole capture when the booking is cancelled. -/
theorem World.soleCapture {w : World} (honce : w.db.ledger.CapturesOnce) {a : Action Body}
    {bookingId : Uuid} (ha : a.cancellation = some bookingId)
    (hcancels : cancels env bookingId w a = true) : w.db.SoleCapture bookingId := by
  obtain ⟨b, hb, hcases⟩ := World.cancelling_cases ha hcancels
  have hid : b.id = bookingId := Table.key_of_find hb
  intro p hp
  obtain ⟨hmem, hbooking, hcaptured⟩ := mem_capturedPayments.mp hp
  have hpb : w.db.ledger.bookings p.bookingId = some b := by rw [hbooking]; exact hb
  rcases hcases with ⟨hstatus, _⟩ | ⟨hconfirmed, _⟩
  · obtain ⟨hheld, hpending⟩ := honce.waiting p.id p b (Table.find_key hmem) hcaptured hpb
    rcases hstatus with hs | hs
    · exact absurd hs hheld
    · exact absurd hs hpending
  · refine ⟨⟨b, Table.mem_of_find hb, hid, hconfirmed⟩, fun q hq => ?_⟩
    obtain ⟨hqmem, hqbooking, hqcaptured⟩ := mem_capturedPayments.mp hq
    exact Table.eq_of_key_eq hqmem hmem (honce.once q.id p.id q p b (Table.find_key hqmem)
      (Table.find_key hmem) hqcaptured hcaptured (hqbooking.trans hbooking.symm)
      (by rw [hqbooking]; exact hb) hconfirmed)

end

/-- A cancellation refunds whatever its booking has captured exactly when that is one payment and
the booking is confirmed. It always is in a run whose captures all come in time. -/
theorem cancellation_refunds_captured {Body : Type} (env : Env Body) :
    (∀ (w : World) (a : Action Body) bookingId, w.Reachable env →
      a.cancellation = some bookingId → cancels env bookingId w a = true →
      ((∀ p ∈ capturedPayments w.db bookingId, (w.step env a).db.Refunded p) ↔
        w.db.SoleCapture bookingId)) ∧
    ∀ (w : World) (actions : List (Action Body)) (a : Action Body) bookingId, w.Initial →
      Transition.Along (World.step env) World.CapturesInTime w actions →
      a.cancellation = some bookingId → cancels env bookingId (w.run env actions) a = true →
      ∀ p ∈ capturedPayments (w.run env actions).db bookingId,
        ((w.run env actions).step env a).db.Refunded p := by
  refine ⟨fun w a bookingId h ha hcancels => h.sound.refunded_iff ha hcancels, ?_⟩
  intro w actions a bookingId hinit halong ha hcancels
  have hreach : (w.run env actions).Reachable env := (Transition.Reachable.initial hinit).run actions
  exact (hreach.sound.refunded_iff ha hcancels).mpr
    (World.soleCapture (hinit.capturesOnce_run halong) ha hcancels)

/-- The customer's first try fails and the same order is captured after all: the booking is back on
hold, and its cancellation refunds nothing. -/
def sampleLateCapture : List (Action Json) :=
  sampleHold 20 1 :: (sampleOrder 30 1 "order_A" ++
    sampleDelivery 40 "evt_1" "payment.failed" "order_A" "pay_1" ++
    sampleDelivery 41 "evt_2" "payment.captured" "order_A" "pay_1")

theorem cancellation_refunds_captured_counterexample :
    (sampleWorld.run sampleEnv sampleLateCapture).Reachable sampleEnv ∧
      cancels sampleEnv 20 (sampleWorld.run sampleEnv sampleLateCapture)
        (.requestCancellation 50 10 20 3 60 0 0 0) = true ∧
      ∃ p ∈ capturedPayments (sampleWorld.run sampleEnv sampleLateCapture).db 20,
        ¬((sampleWorld.run sampleEnv sampleLateCapture).step sampleEnv
          (.requestCancellation 50 10 20 3 60 0 0 0)).db.Refunded p :=
  ⟨sampleWorld_reachable _, by decide +kernel, by decide +kernel⟩

/-- The captured payment of a confirmed booking is refunded. -/
theorem cancellation_refunds_captured_sample :
    capturedPayments (sampleWorld.run sampleEnv sampleConfirmed).db 20 ≠ [] ∧
      ∀ p ∈ capturedPayments (sampleWorld.run sampleEnv sampleConfirmed).db 20,
        ((sampleWorld.run sampleEnv sampleConfirmed).step sampleEnv
          (.requestCancellation 50 10 20 3 60 0 0 0)).db.Refunded p :=
  ⟨by decide +kernel, (cancellation_refunds_captured sampleEnv).2 sampleWorld sampleConfirmed _ 20
    sampleWorld_initial (by decide +kernel) rfl (by decide +kernel)⟩

/-! ### Which captured payments pay -/

/-- A captured payment that pays for its booking: it has no refund and no flag. -/
def Database.Paying (db : Database) (p : Payment) : Prop :=
  p.status = .captured ∧ ¬p.Flagged ∧ ∀ r ∈ db.refunds, r.paymentId ≠ p.id

/-- No payment pays for the booking. -/
def Database.Unpaid (db : Database) (bookingId : Uuid) : Prop :=
  ∀ p ∈ db.payments, db.Paying p → p.bookingId ≠ bookingId

/-- Every captured payment is accounted for: a booking is paid for once, and only a booking that is
confirmed, active or completed is paid for. -/
def Database.Accounted (db : Database) : Prop :=
  (∀ p ∈ db.payments, ∀ q ∈ db.payments, db.Paying p → db.Paying q → p.bookingId = q.bookingId →
    p = q) ∧
  ∀ p ∈ db.payments, db.Paying p → ∃ b ∈ db.bookings, b.id = p.bookingId ∧
    (b.status = .confirmed ∨ b.status = .active ∨ b.status = .completed)

instance (db : Database) (p : Payment) : Decidable (db.Paying p) := by
  unfold Database.Paying
  infer_instance

instance (db : Database) (bookingId : Uuid) : Decidable (db.Unpaid bookingId) := by
  unfold Database.Unpaid
  infer_instance

instance (db : Database) : Decidable db.Accounted := by
  unfold Database.Accounted
  infer_instance

theorem Database.paying_ledger {db : Database} {p : Payment} : db.ledger.Paying p ↔ db.Paying p := by
  constructor
  · intro h
    exact ⟨h.captured, h.unflagged, fun r hr => h.unrefunded r.id r (Table.find_key hr)⟩
  · rintro ⟨hcaptured, hflag, hnone⟩
    exact ⟨hcaptured, hflag, fun _ r hr => hnone r (Table.mem_of_find hr)⟩

theorem Database.Unpaid.ledger {db : Database} {bookingId : Uuid} (h : db.Unpaid bookingId) :
    db.ledger.Unpaid bookingId :=
  fun _ p hp hpaying => h p (Table.mem_of_find hp) (Database.paying_ledger.mp hpaying)

theorem Ledger.Accounted.database {db : Database} (h : db.ledger.Accounted) : db.Accounted := by
  constructor
  · intro p hp q hq hpp hqp hsame
    exact Table.eq_of_key_eq hp hq (h.once p.id q.id p q (Table.find_key hp) (Table.find_key hq)
      (Database.paying_ledger.mpr hpp) (Database.paying_ledger.mpr hqp) hsame)
  · intro p hp hpp
    obtain ⟨b, hb, hpaid⟩ := h.paid p.id p (Table.find_key hp) (Database.paying_ledger.mpr hpp)
    exact ⟨b, Table.mem_of_find hb, Table.key_of_find hb, hpaid⟩

/-- The actions that keep the captures accounted for: a first capture or a lost flag adds no second
payment to a booking and pays for no booking that is gone, and a confirmed booking that is
cancelled leaves no other payment behind than the one it refunds. -/
structure World.KeepsAccount {Body : Type} (w : World) (a : Action Body) : Prop where
  capture : ∀ p ∈ w.capturing a, ¬p.Collected → ∀ b ∈ w.db.bookings.find p.bookingId,
    b.status = .confirmed → w.db.Unpaid p.bookingId
  mismatch : ∀ p ∈ w.mismatching a, p.status = .captured → p.Flagged →
    (∀ r ∈ w.db.refunds, r.paymentId ≠ p.id) → ∀ b ∈ w.db.bookings.find p.bookingId,
    b.Paid ∧ w.db.Unpaid p.bookingId
  drop : ∀ b ∈ w.droppedBy a, w.db.Unpaid b.id
  refund : ∀ p ∈ w.refundedBy a, ∀ q ∈ w.db.payments, w.db.Paying q → q.bookingId = p.bookingId →
    q.id = p.id

instance {Body : Type} (w : World) (a : Action Body) : Decidable (w.KeepsAccount a) :=
  decidable_of_iff
    ((∀ p ∈ w.capturing a, ¬p.Collected → ∀ b ∈ w.db.bookings.find p.bookingId,
      b.status = .confirmed → w.db.Unpaid p.bookingId) ∧
    (∀ p ∈ w.mismatching a, p.status = .captured → p.Flagged →
      (∀ r ∈ w.db.refunds, r.paymentId ≠ p.id) → ∀ b ∈ w.db.bookings.find p.bookingId,
      b.Paid ∧ w.db.Unpaid p.bookingId) ∧
    (∀ b ∈ w.droppedBy a, w.db.Unpaid b.id) ∧
    ∀ p ∈ w.refundedBy a, ∀ q ∈ w.db.payments, w.db.Paying q → q.bookingId = p.bookingId →
      q.id = p.id)
    ⟨fun ⟨h₁, h₂, h₃, h₄⟩ => ⟨h₁, h₂, h₃, h₄⟩, fun ⟨h₁, h₂, h₃, h₄⟩ => ⟨h₁, h₂, h₃, h₄⟩⟩

theorem World.KeepsAccount.cause {Body : Type} {w : World} {a : Action Body}
    (h : w.KeepsAccount a) {c : Cause} (hexp : c.Explained w a) : c.KeepsAccount w.db.ledger := by
  cases c with
  | capture id =>
      obtain ⟨p, hp, rfl⟩ := hexp
      intro q b hq huncollected hb hconfirmed
      rw [Database.payments_ledger, World.find_capturing hp] at hq
      cases hq
      exact (h.capture p hp huncollected b hb hconfirmed).ledger
  | mismatch id =>
      obtain ⟨p, hp, rfl⟩ := hexp
      intro q b hq hcaptured hflag hnone hb
      rw [Database.payments_ledger, World.find_mismatching hp] at hq
      cases hq
      have hrefunds : ∀ r ∈ w.db.refunds, r.paymentId ≠ p.id :=
        fun r hr => hnone r.id r (Table.find_key hr)
      obtain ⟨hpaid, hunpaid⟩ := h.mismatch p hp hcaptured hflag hrefunds b hb
      exact ⟨hpaid, hunpaid.ledger⟩
  | cancel id =>
      intro b hb hconfirmed
      have hid : b.id = id := Table.key_of_find hb
      rw [← hid]
      exact (h.drop b (hexp b hb hconfirmed)).ledger
  | refund bookingId paymentId =>
      obtain ⟨p, hp, rfl, rfl⟩ := hexp
      intro k q hq hpaying hbooking
      have hid : q.id = k := Table.key_of_find hq
      rw [← hid]
      exact h.refund p hp q (Table.mem_of_find hq) (Database.paying_ledger.mp hpaying) hbooking
  | other | answer => trivial

theorem World.Initial.accounted {w : World} (h : w.Initial) : w.db.ledger.Accounted where
  once i j p q hp := by simp [h.payments] at hp
  paid id p hp := by simp [h.payments] at hp

/-- In a run whose actions all keep the account, every captured payment is accounted for. -/
theorem captures_accounted {Body : Type} (env : Env Body) {w : World} (hinit : w.Initial)
    {actions : List (Action Body)}
    (halong : Transition.Along (World.step env) World.KeepsAccount w actions) :
    (w.run env actions).db.Accounted := by
  have hrun : (w.run env actions).db.ledger.Accounted := by
    refine Transition.Along.invariant
      (P := fun s : World => s.db.ledger.Accounted) ?_ (Transition.Reachable.initial hinit)
      hinit.accounted halong
    intro s a hs haccounted hkeeps
    obtain ⟨c, hexp, hmove⟩ := World.Reachable.move hs a
    exact hmove.accounted (World.Reachable.sound hs).ledger haccounted (hkeeps.cause hexp)
  exact hrun.database

/-- The first order of a booking is captured after the second one has confirmed it. -/
def sampleDoubleCapture : List (Action Json) :=
  sampleHold 20 1 :: (sampleOrder 30 1 "order_A" ++
    sampleDelivery 40 "evt_1" "payment.failed" "order_A" "pay_1" ++ sampleOrder 31 3 "order_B" ++
    sampleDelivery 41 "evt_2" "payment.captured" "order_B" "pay_2" ++
    sampleDelivery 42 "evt_3" "payment.captured" "order_A" "pay_1")

theorem captures_accounted_counterexample :
    (sampleWorld.run sampleEnv sampleDoubleCapture).Reachable sampleEnv ∧
      ¬(sampleWorld.run sampleEnv sampleDoubleCapture).db.Accounted :=
  ⟨sampleWorld_reachable _, by decide +kernel⟩

/-- A booking that is paid for, cancelled and refunded. -/
theorem captures_accounted_sample :
    (sampleWorld.run sampleEnv sampleCancellation).db.refunds.rows ≠ [] ∧
      (sampleWorld.run sampleEnv sampleCancellation).db.Accounted :=
  ⟨by decide +kernel, captures_accounted sampleEnv sampleWorld_initial (by decide +kernel)⟩

end ChargeMate
