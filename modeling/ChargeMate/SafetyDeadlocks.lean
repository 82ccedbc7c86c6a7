import Mathlib.Data.Int.ConditionallyCompleteOrder
import Mathlib.Order.ConditionallyCompleteLattice.Basic
import ChargeMate.ModelRowLocks
import ChargeMate.SafetyAnswers
import ChargeMate.SafetyPlaces

/-! Deadlocks. The rows that a transaction locks are linked by foreign keys: a refund to its
payment, a payment to its booking, a charge point to its station. Two transactions that take a
linked pair in opposite orders can wait for each other; where no two do, there is a rank in whose
order every transaction locks. -/

namespace ChargeMate

open Relational

/-- What the foreign keys say: to which booking a payment belongs, which payment a refund returns and
at which station a charge point is. -/
structure ForeignKeys where
  bookingOf : Uuid → Uuid
  paymentOf : Uuid → Uuid
  stationOf : Uuid → Uuid

/-- The lists of rows that transactions lock. -/
inductive LockRoute (keys : ForeignKeys) : List LockedRow → Prop where
  | cancellation (bookingId : Uuid) (paymentIds : List Uuid)
      (hbooking : ∀ id ∈ paymentIds, keys.bookingOf id = bookingId) :
      LockRoute keys (.booking bookingId :: paymentIds.map .payment)
  | payment (paymentId : Uuid) :
      LockRoute keys [.payment paymentId, .booking (keys.bookingOf paymentId)]
  | refund (refundId : Uuid) :
      LockRoute keys [.refund refundId, .payment (keys.paymentOf refundId)]
  | refundEvent (refundId : Uuid) :
      LockRoute keys [.payment (keys.paymentOf refundId), .refund refundId]
  | session (sessionId bookingId chargePointId : Uuid) :
      LockRoute keys [.chargingSession sessionId, .booking bookingId, .chargePoint chargePointId]
  | start (bookingId chargePointId : Uuid) :
      LockRoute keys [.booking bookingId, .chargePoint chargePointId]
  | hold (chargePointId : Uuid) :
      LockRoute keys [.chargePoint chargePointId, .station (keys.stationOf chargePointId)]
  | station (stationId : Uuid) : LockRoute keys [.station stationId]
  | point (chargePointId : Uuid) :
      LockRoute keys [.station (keys.stationOf chargePointId), .chargePoint chargePointId]

/-- A transaction whose rows and arguments agree with the foreign keys. -/
structure RowTransaction.Linked (keys : ForeignKeys) (t : RowTransaction) : Prop where
  payments : ∀ p ∈ t.db.payments, keys.bookingOf p.id = p.bookingId
  refunds : ∀ r ∈ t.db.refunds, keys.paymentOf r.id = r.paymentId
  points : ∀ p ∈ t.db.chargePoints, keys.stationOf p.id = p.stationId
  attempt : ∀ attempt, t.call = .finalizeProviderOrder attempt ∨
    t.call = .compensateProviderFailure attempt →
    keys.bookingOf attempt.paymentId = attempt.bookingId
  prepared : ∀ prepared, t.call = .finalizeRefund prepared →
    keys.paymentOf prepared.refundId = prepared.paymentId

/-- Two rows of different tables that one transaction locks in one order and the other in the
other. -/
def RowTransaction.Opposes (t u : RowTransaction) : Prop :=
  ∃ x ∈ t.locks, ∃ y ∈ t.locks, x.table ≠ y.table ∧ List.Sublist [x, y] t.locks ∧
    List.Sublist [y, x] u.locks

instance (t u : RowTransaction) : Decidable (t.Opposes u) := by
  unfold RowTransaction.Opposes
  infer_instance

theorem RowTransaction.opposes_of_sublist {t u : RowTransaction} {x y : LockedRow}
    (htable : x.table ≠ y.table) (ht : List.Sublist [x, y] t.locks)
    (hu : List.Sublist [y, x] u.locks) : t.Opposes u :=
  ⟨x, ht.subset (by simp), y, ht.subset (by simp), htable, ht, hu⟩

/-! ### The routes -/

section

variable {keys : ForeignKeys}

theorem lockById_cases {R : Type} [Keyed R Uuid] (table : Table R) (id : Uuid)
    (row : Uuid → LockedRow) :
    lockById table id row = [] ∨ ∃ r, table.find id = some r ∧ lockById table id row = [row id] := by
  unfold lockById
  cases hr : table.find id with
  | none => exact Or.inl rfl
  | some r => exact Or.inr ⟨r, rfl, by rw [Option.toList_some, List.map_singleton, Table.key_of_find hr]⟩

theorem lockById_begins {R : Type} [Keyed R Uuid] (table : Table R) (id : Uuid)
    (row : Uuid → LockedRow) : lockById table id row <+: [row id] := by
  rcases lockById_cases table id row with h | ⟨_, _, h⟩
  · rw [h]
    exact List.nil_prefix
  · rw [h]

/-- The rows begin one of the routes. -/
def Routed (keys : ForeignKeys) (rows : List LockedRow) : Prop :=
  ∃ route, LockRoute keys route ∧ rows <+: route

theorem Routed.nil : Routed keys [] := ⟨_, .payment 0, List.nil_prefix⟩

theorem Routed.booking (id : Uuid) : Routed keys [.booking id] :=
  ⟨_, .cancellation id [] (by simp), List.prefix_rfl⟩

theorem Routed.begins {rows rows' : List LockedRow} (h : Routed keys rows')
    (hbegins : rows <+: rows') : Routed keys rows := by
  obtain ⟨route, hroute, hrows⟩ := h
  exact ⟨route, hroute, hbegins.trans hrows⟩

theorem routed_prepareCancellation {db : Database}
    (hpayments : ∀ p ∈ db.payments, keys.bookingOf p.id = p.bookingId) (userId bookingId : Uuid)
    (expectedVersion : Nat) :
    Routed keys (prepareCancellationLocks db userId bookingId expectedVersion) := by
  unfold prepareCancellationLocks
  split
  · exact .nil
  · next booking _ =>
    split
    · have hbooking : ∀ id ∈ (capturedPayments db booking.id).map Payment.id,
          keys.bookingOf id = booking.id := by
        intro id hid
        obtain ⟨p, hp, rfl⟩ := List.mem_map.mp hid
        obtain ⟨hmem, hcaptured⟩ := List.mem_filter.mp hp
        rw [hpayments p hmem]
        exact (of_decide_eq_true hcaptured).1
      exact ⟨_, .cancellation booking.id _ hbooking, by rw [List.map_map]; rfl⟩
    · exact .booking booking.id

theorem routed_applyReconciledRefund {db : Database}
    (hrefunds : ∀ r ∈ db.refunds, keys.paymentOf r.id = r.paymentId) (refundId : Uuid) :
    Routed keys (applyReconciledRefundLocks db refundId) := by
  unfold applyReconciledRefundLocks
  split
  · exact .nil
  · next r hr =>
    refine ⟨_, .refund r.id, List.cons_prefix_cons.mpr ⟨rfl, ?_⟩⟩
    rw [hrefunds r (Table.mem_of_find hr)]
    split
    · exact lockById_begins db.payments r.paymentId .payment
    · exact List.nil_prefix

theorem routed_finalizeRefund {db : Database} {prepared : RefundRequestSnapshot}
    (hprepared : keys.paymentOf prepared.refundId = prepared.paymentId) :
    Routed keys
      (lockRefund db prepared.refundId ++ lockPayment db prepared.paymentId) := by
  have hpayment := lockById_begins db.payments prepared.paymentId .payment
  rcases lockById_cases db.refunds prepared.refundId .refund with h | ⟨_, _, h⟩
  · rw [lockRefund, h, List.nil_append]
    exact ⟨_, .payment prepared.paymentId, hpayment.trans ⟨_, rfl⟩⟩
  · rw [lockRefund, h, List.singleton_append]
    refine ⟨_, .refund prepared.refundId, List.cons_prefix_cons.mpr ⟨rfl, ?_⟩⟩
    rw [hprepared]
    exact hpayment

theorem routed_closeAttempt {db : Database} {attempt : PaymentAttemptSnapshot}
    (hattempt : keys.bookingOf attempt.paymentId = attempt.bookingId) :
    Routed keys
      (lockPayment db attempt.paymentId ++ lockBooking db attempt.bookingId) := by
  have hbooking := lockById_begins db.bookings attempt.bookingId .booking
  rcases lockById_cases db.payments attempt.paymentId .payment with h | ⟨_, _, h⟩
  · rw [lockPayment, h, List.nil_append]
    exact (Routed.booking attempt.bookingId).begins hbooking
  · rw [lockPayment, h, List.singleton_append]
    refine ⟨_, .payment attempt.paymentId, List.cons_prefix_cons.mpr ⟨rfl, ?_⟩⟩
    rw [hattempt]
    exact hbooking

theorem routed_applyPaymentEvent {db : Database}
    (hpayments : ∀ p ∈ db.payments, keys.bookingOf p.id = p.bookingId) (eventType : PaymentEvent)
    (entity : List (PyStr × Json)) :
    Routed keys (applyPaymentEventLocks db eventType entity) := by
  unfold applyPaymentEventLocks
  split
  · split
    · exact .nil
    · split
      · exact .nil
      · next p hp =>
        refine ⟨_, .payment p.id, List.cons_prefix_cons.mpr ⟨rfl, ?_⟩⟩
        rw [hpayments p (Table.mem_of_scalar hp)]
        split
        · exact lockById_begins db.bookings p.bookingId .booking
        · exact List.nil_prefix
  · exact .nil

theorem routed_applyRefundEvent {db : Database}
    (hrefunds : ∀ r ∈ db.refunds, keys.paymentOf r.id = r.paymentId)
    (entity : List (PyStr × Json)) : Routed keys (applyRefundEventLocks db entity) := by
  unfold applyRefundEventLocks
  split
  · split
    · exact .nil
    · split
      · exact .nil
      · next p hp =>
        cases hr : db.refunds.scalar fun r => r.paymentId = p.id with
        | none => exact ⟨_, .payment p.id, List.cons_prefix_cons.mpr ⟨rfl, List.nil_prefix⟩⟩
        | some r =>
            have hpayment : keys.paymentOf r.id = p.id := by
              rw [hrefunds r (Table.mem_of_scalar hr)]
              exact of_decide_eq_true
                (Table.prop_of_scalar (p := fun r : Refund => r.paymentId = p.id) hr)
            refine ⟨_, .refundEvent r.id, ?_⟩
            rw [hpayment]
            rfl
  · exact .nil

theorem routed_startChargingSession (db : Database) (payload : StartChargingSessionRequest)
    (now : Timestamp) :
    Routed keys (startChargingSessionLocks db payload now) := by
  unfold startChargingSessionLocks
  split
  · exact .nil
  · next booking _ =>
    refine ⟨_, .start booking.id booking.chargePointId, List.cons_prefix_cons.mpr ⟨rfl, ?_⟩⟩
    split
    · exact lockById_begins db.chargePoints booking.chargePointId .chargePoint
    · exact List.nil_prefix

theorem routed_completeChargingSession (db : Database) (sessionId : Uuid)
    (payload : CompleteChargingSessionRequest) :
    Routed keys (completeChargingSessionLocks db sessionId payload) := by
  unfold completeChargingSessionLocks
  split
  · exact .nil
  · next session _ =>
    have hnil : Routed keys [.chargingSession session.id] :=
      ⟨_, .session session.id 0 0, List.cons_prefix_cons.mpr ⟨rfl, List.nil_prefix⟩⟩
    split
    · split
      · exact hnil
      · next booking _ =>
        refine ⟨_, .session session.id booking.id session.chargePointId,
          List.cons_prefix_cons.mpr ⟨rfl, List.cons_prefix_cons.mpr ⟨rfl, ?_⟩⟩⟩
        split
        · exact lockById_begins db.chargePoints session.chargePointId .chargePoint
        · exact List.nil_prefix
    · exact hnil

theorem routed_createBookingHold {db : Database}
    (hpoints : ∀ p ∈ db.chargePoints, keys.stationOf p.id = p.stationId)
    (payload : BookingHoldRequest) (now : Timestamp) :
    Routed keys (createBookingHoldLocks db payload now) := by
  unfold createBookingHoldLocks
  split
  · exact .nil
  · split
    · exact .nil
    · next point hpoint =>
      split
      · exact .nil
      · next station hstation =>
        have hid : station.id = keys.stationOf point.id :=
          (Table.key_of_find hstation).trans (hpoints point (Table.mem_of_find hpoint)).symm
        rw [hid]
        exact ⟨_, .hold point.id, List.prefix_rfl⟩

theorem routed_updateChargePoint {db : Database}
    (hpoints : ∀ p ∈ db.chargePoints, keys.stationOf p.id = p.stationId) (operator : User)
    (stationId chargePointId : Uuid) :
    Routed keys (updateChargePointLocks db operator stationId chargePointId) := by
  unfold updateChargePointLocks
  split
  · exact .nil
  · next station hstation =>
    split
    · cases hp : (db.chargePoints.find chargePointId).filter fun p => p.stationId = stationId with
      | none => exact ⟨_, .station station.id, List.prefix_rfl⟩
      | some p =>
          obtain ⟨hfind, hof⟩ := Option.filter_eq_some_iff.mp hp
          have hid : station.id = keys.stationOf p.id := by
            rw [hpoints p (Table.mem_of_find hfind), of_decide_eq_true hof]
            exact Table.key_of_find hstation
          rw [hid]
          exact ⟨_, .point p.id, List.prefix_rfl⟩
    · exact ⟨_, .station station.id, List.prefix_rfl⟩

theorem RowTransaction.Linked.routed {t : RowTransaction} (h : t.Linked keys) :
    Routed keys t.locks := by
  obtain ⟨call, db⟩ := t
  cases call with
  | createBookingHold payload now => exact routed_createBookingHold h.points payload now
  | prepareCancellation userId bookingId expectedVersion =>
      exact routed_prepareCancellation h.payments userId bookingId expectedVersion
  | recordRefundFailure prepared =>
      exact ⟨_, .refund prepared.refundId,
        (lockById_begins db.refunds prepared.refundId .refund).trans ⟨_, rfl⟩⟩
  | finalizeRefund prepared => exact routed_finalizeRefund (h.prepared prepared rfl)
  | applyReconciledRefund refundId => exact routed_applyReconciledRefund h.refunds refundId
  | beginPaymentAttempt user payload =>
      simp only [RowTransaction.locks, LockingCall.locks, beginPaymentAttemptLocks]
      cases (db.bookings.find payload.bookingId).filter fun b => b.userId = user.id with
      | none => exact .nil
      | some b => exact .booking b.id
  | finalizeProviderOrder attempt => exact routed_closeAttempt (h.attempt attempt (Or.inl rfl))
  | compensateProviderFailure attempt => exact routed_closeAttempt (h.attempt attempt (Or.inr rfl))
  | verifyCheckoutPayment user payload =>
      simp only [RowTransaction.locks, LockingCall.locks, verifyCheckoutPaymentLocks]
      split
      · cases selectCheckoutPayment user payload db with
        | none => exact .nil
        | some p => exact ⟨_, .payment p.id, List.cons_prefix_cons.mpr ⟨rfl, List.nil_prefix⟩⟩
      · exact .nil
  | applyPaymentEvent eventType entity =>
      exact routed_applyPaymentEvent h.payments eventType entity
  | applyRefundEvent entity => exact routed_applyRefundEvent h.refunds entity
  | startChargingSession payload now => exact routed_startChargingSession db payload now
  | completeChargingSession sessionId payload =>
      exact routed_completeChargingSession db sessionId payload
  | updateStation stationId =>
      exact ⟨_, .station stationId, lockById_begins db.stations stationId .station⟩
  | updateChargePoint operator stationId chargePointId =>
      exact routed_updateChargePoint h.points operator stationId chargePointId

/-! ### A rank -/

section

variable (keys : ForeignKeys) (txs : List RowTransaction)

/-- Some transaction locks the payment after its booking. -/
def PaymentLast (paymentId : Uuid) : Prop :=
  ∃ t ∈ txs, List.Sublist [LockedRow.booking (keys.bookingOf paymentId), .payment paymentId] t.locks

/-- Some transaction locks the refund after its payment. -/
def RefundLast (refundId : Uuid) : Prop :=
  ∃ t ∈ txs, List.Sublist [LockedRow.payment (keys.paymentOf refundId), .refund refundId] t.locks

/-- Some transaction locks the charge point after its station. -/
def PointLast (chargePointId : Uuid) : Prop :=
  ∃ t ∈ txs,
    List.Sublist [LockedRow.station (keys.stationOf chargePointId), .chargePoint chargePointId]
      t.locks

open Classical in
/-- After or before all bookings, as some transaction takes the payment. -/
noncomputable def paymentRank (paymentId : Uuid) : Int :=
  if PaymentLast keys txs paymentId then 10 else -10

open Classical in
/-- A refund stands next to its payment, and a charge point next to the stations, on the side on
which some transaction takes it. -/
noncomputable def lockRank : LockedRow → Int
  | .chargingSession _ => -100
  | .booking _ => 0
  | .payment id => paymentRank keys txs id
  | .refund id =>
      paymentRank keys txs (keys.paymentOf id) + if RefundLast keys txs id then 1 else -1
  | .station _ => 200
  | .chargePoint id => if PointLast keys txs id then 300 else 100

/-- The payments of a booking are taken under its row. -/
def lockGuard : LockedRow → LockedRow
  | .payment id => .booking (keys.bookingOf id)
  | row => row

end

theorem pair_sublist_pair {α : Type} {x y a b : α} : List.Sublist [x, y] [a, b] ↔ x = a ∧ y = b := by
  constructor
  · intro h
    have heq : [x, y] = [a, b] := h.eq_of_length rfl
    exact ⟨(List.cons.inj heq).1, (List.cons.inj (List.cons.inj heq).2).1⟩
  · rintro ⟨rfl, rfl⟩
    exact List.Sublist.refl _

theorem pair_sublist_cons {α : Type} {x y a : α} {l : List α} :
    List.Sublist [x, y] (a :: l) ↔ List.Sublist [x, y] l ∨ (x = a ∧ y ∈ l) := by
  rw [List.sublist_cons_iff]
  simp [and_assoc, eq_comm]

/-- Charge points come after all bookings. -/
theorem lockRank_chargePoint (keys : ForeignKeys) (txs : List RowTransaction)
    (chargePointId : Uuid) : 0 < lockRank keys txs (.chargePoint chargePointId) := by
  rw [lockRank]
  split <;> decide

/-- Where no two transactions oppose each other, each one locks its rows in the order of the
rank. -/
theorem RowTransaction.Linked.ordered {txs : List RowTransaction} {t : RowTransaction}
    (h : t.Linked keys) (ht : t ∈ txs)
    (hnone : ∀ t ∈ txs, ∀ u ∈ txs, ¬t.Opposes u) :
    Locking.Ordered (lockRank keys txs) (lockGuard keys) t.locks := by
  obtain ⟨route, hroute, hbegins⟩ := h.routed
  intro x y hxy
  have hpair := hxy.trans hbegins.sublist
  cases hroute with
  | cancellation bookingId paymentIds hbooking =>
      obtain ⟨rows, hlocks, hrows⟩ : ∃ rows, t.locks = .booking bookingId :: rows ∧
          rows <+: paymentIds.map .payment := by
        rcases List.prefix_cons_iff.mp hbegins with hnil | hcons
        · rw [hnil] at hxy
          cases hxy
        · exact hcons
      have hpayment : ∀ row ∈ rows, ∃ id, row = .payment id ∧ keys.bookingOf id = bookingId ∧
          PaymentLast keys txs id := by
        intro row hrow
        obtain ⟨id, hid, rfl⟩ := List.mem_map.mp (hrows.subset hrow)
        refine ⟨id, rfl, hbooking id hid, t, ht, ?_⟩
        rw [hlocks, hbooking id hid]
        exact pair_sublist_cons.mpr (Or.inr ⟨rfl, hrow⟩)
      rw [hlocks] at hxy ⊢
      rcases pair_sublist_cons.mp hxy with hinner | ⟨rfl, hy⟩
      · -- two payments of the booking, whose row is held
        obtain ⟨p, rfl, hp, hplast⟩ := hpayment x (hinner.subset (by simp))
        obtain ⟨q, rfl, hq, hqlast⟩ := hpayment y (hinner.subset (by simp))
        refine Or.inr ⟨?_, ?_, ?_⟩
        · simp only [lockRank, paymentRank, if_pos hplast, if_pos hqlast]
        · rw [lockGuard, lockGuard, hp, hq]
        · rw [lockGuard, hp, List.head?_cons]
      · obtain ⟨q, rfl, _, hqlast⟩ := hpayment y hy
        refine Or.inl ?_
        simp [lockRank, paymentRank, hqlast]
  | payment paymentId =>
      obtain ⟨rfl, rfl⟩ := pair_sublist_pair.mp hpair
      have hfirst : ¬PaymentLast keys txs paymentId := by
        rintro ⟨u, hu, hlast⟩
        exact hnone t ht u hu (opposes_of_sublist (by simp) hxy hlast)
      refine Or.inl ?_
      simp [lockRank, paymentRank, hfirst]
  | refund refundId =>
      obtain ⟨rfl, rfl⟩ := pair_sublist_pair.mp hpair
      have hfirst : ¬RefundLast keys txs refundId := by
        rintro ⟨u, hu, hlast⟩
        exact hnone t ht u hu (opposes_of_sublist (by simp) hxy hlast)
      refine Or.inl ?_
      simp only [lockRank, if_neg hfirst]
      omega
  | refundEvent refundId =>
      obtain ⟨rfl, rfl⟩ := pair_sublist_pair.mp hpair
      have hlast : RefundLast keys txs refundId := ⟨t, ht, hxy⟩
      refine Or.inl ?_
      simp only [lockRank, if_pos hlast]
      omega
  | session sessionId bookingId chargePointId =>
      have hlast := lockRank_chargePoint keys txs chargePointId
      refine Or.inl ?_
      rcases pair_sublist_cons.mp hpair with hpair | ⟨rfl, hy⟩
      · obtain ⟨rfl, rfl⟩ := pair_sublist_pair.mp hpair
        exact hlast
      · simp only [List.mem_cons, List.not_mem_nil, or_false] at hy
        rcases hy with rfl | rfl
        · simp [lockRank]
        · exact Int.lt_trans (by decide : (-100 : Int) < 0) hlast
  | start bookingId chargePointId =>
      obtain ⟨rfl, rfl⟩ := pair_sublist_pair.mp hpair
      exact Or.inl (lockRank_chargePoint keys txs chargePointId)
  | hold chargePointId =>
      obtain ⟨rfl, rfl⟩ := pair_sublist_pair.mp hpair
      have hfirst : ¬PointLast keys txs chargePointId := by
        rintro ⟨u, hu, hlast⟩
        exact hnone t ht u hu (opposes_of_sublist (by simp) hxy hlast)
      exact Or.inl (by simp [lockRank, hfirst])
  | station stationId =>
      have hlength := hpair.length_le
      simp at hlength
  | point chargePointId =>
      obtain ⟨rfl, rfl⟩ := pair_sublist_pair.mp hpair
      have hlast : PointLast keys txs chargePointId := ⟨t, ht, hxy⟩
      exact Or.inl (by simp [lockRank, hlast])

/-- Two rows of different tables are all that a transaction locks, or the booking and a payment of
a cancellation, or the first is a charging session, or they are a booking and its charge point. No
transaction takes two rows of the last two kinds in the other order. -/
theorem Routed.pair {rows : List LockedRow} (h : Routed keys rows) {x y : LockedRow}
    (htable : x.table ≠ y.table) (hpair : List.Sublist [x, y] rows) :
    y.table ≠ .chargingSessions ∧ ¬(x.table = .chargePoints ∧ y.table = .bookings) ∧
      (rows = [x, y] ∨
        (∃ rest, rows = x :: rest ∧ x.table = .bookings ∧ y.table = .payments ∧ y ∈ rest) ∨
        x.table = .chargingSessions ∨ x.table = .bookings ∧ y.table = .chargePoints) := by
  obtain ⟨route, hroute, hbegins⟩ := h
  have hroutePair := hpair.trans hbegins.sublist
  -- a route of two rows is locked as a whole
  have hwhole : ∀ a b, route = [a, b] → x = a ∧ y = b ∧ rows = [x, y] := by
    rintro a b rfl
    obtain ⟨rfl, rfl⟩ := pair_sublist_pair.mp hroutePair
    exact ⟨rfl, rfl, (hpair.eq_of_length_le hbegins.length_le).symm⟩
  cases hroute with
  | cancellation bookingId paymentIds =>
      have hbooking : x = .booking bookingId ∧ ∃ id, y = .payment id := by
        rcases pair_sublist_cons.mp hroutePair with hinner | ⟨hx, hy⟩
        · obtain ⟨_, _, rfl⟩ := List.mem_map.mp (hinner.subset (List.mem_cons_self (a := x)))
          obtain ⟨_, _, rfl⟩ := List.mem_map.mp (hinner.subset (by simp : y ∈ [_, y]))
          exact absurd rfl htable
        · obtain ⟨id, _, rfl⟩ := List.mem_map.mp hy
          exact ⟨hx, id, rfl⟩
      obtain ⟨rfl, id, rfl⟩ := hbooking
      refine ⟨by simp, by simp, Or.inr (Or.inl ?_)⟩
      rcases List.prefix_cons_iff.mp hbegins with hnil | ⟨rest, hrows, _⟩
      · rw [hnil] at hpair
        cases hpair
      · rw [hrows] at hpair
        refine ⟨rest, hrows, rfl, rfl, ?_⟩
        rcases pair_sublist_cons.mp hpair with hinner | ⟨_, hy⟩
        · exact hinner.subset (by simp)
        · exact hy
  | session sessionId bookingId chargePointId =>
      rcases pair_sublist_cons.mp hroutePair with hinner | ⟨rfl, hy⟩
      · obtain ⟨rfl, rfl⟩ := pair_sublist_pair.mp hinner
        exact ⟨by simp, by simp, Or.inr (Or.inr (Or.inr ⟨rfl, rfl⟩))⟩
      · refine ⟨?_, by simp, Or.inr (Or.inr (Or.inl rfl))⟩
        simp only [List.mem_cons, List.not_mem_nil, or_false] at hy
        rcases hy with rfl | rfl <;> simp
  | payment paymentId =>
      obtain ⟨rfl, rfl, hrows⟩ := hwhole _ _ rfl
      exact ⟨by simp, by simp, Or.inl hrows⟩
  | refund refundId =>
      obtain ⟨rfl, rfl, hrows⟩ := hwhole _ _ rfl
      exact ⟨by simp, by simp, Or.inl hrows⟩
  | refundEvent refundId =>
      obtain ⟨rfl, rfl, hrows⟩ := hwhole _ _ rfl
      exact ⟨by simp, by simp, Or.inl hrows⟩
  | start bookingId chargePointId =>
      obtain ⟨rfl, rfl, hrows⟩ := hwhole _ _ rfl
      exact ⟨by simp, by simp, Or.inl hrows⟩
  | hold chargePointId =>
      obtain ⟨rfl, rfl, hrows⟩ := hwhole _ _ rfl
      exact ⟨by simp, by simp, Or.inl hrows⟩
  | station stationId =>
      have hlength := hroutePair.length_le
      simp at hlength
  | point chargePointId =>
      obtain ⟨rfl, rfl, hrows⟩ := hwhole _ _ rfl
      exact ⟨by simp, by simp, Or.inl hrows⟩

/-- Transactions that oppose each other can be led into a deadlock. -/
theorem exists_deadlocked_of_opposes {txs : List RowTransaction}
    (hlinked : ∀ t ∈ txs, t.Linked keys) {t u : Fin txs.length}
    (h : (txs.get t).Opposes (txs.get u)) : ∃ steps, Locking.Deadlocked (rowLocks txs steps) := by
  obtain ⟨x, _, y, _, htable, hxy, hyx⟩ := h
  have hne : x ≠ y := fun heq => htable (congrArg LockedRow.table heq)
  obtain ⟨hysession, hxpoint, hthead⟩ :=
    (hlinked _ (List.get_mem txs t)).routed.pair htable hxy
  obtain ⟨hxsession, hypoint, huhead⟩ :=
    (hlinked _ (List.get_mem txs u)).routed.pair (Ne.symm htable) hyx
  -- the first row tells the two transactions apart
  have hdistinct : ∀ {rest later : List LockedRow}, (txs.get t).locks = x :: rest →
      (txs.get u).locks = y :: later → t ≠ u := by
    rintro rest later ht hu rfl
    rw [ht] at hu
    exact hne (List.cons.inj hu).1
  rcases hthead with ht | ⟨rest, ht, hbooking, hpayment, hy⟩ | hsession | ⟨hbooking, hpoint⟩
  · rcases huhead with hu | ⟨later, hu, _, _, hx⟩ | hsession | ⟨hbooking, hpoint⟩
    · exact Locking.exists_deadlocked (fun t => (txs.get t).locks) hne (hdistinct ht hu) ht
        hu (List.mem_singleton_self x)
    · exact Locking.exists_deadlocked (fun t => (txs.get t).locks) hne (hdistinct ht hu) ht
        hu hx
    · exact absurd hsession hysession
    · exact absurd ⟨hpoint, hbooking⟩ hxpoint
  · rcases huhead with hu | ⟨_, _, hbooking', _⟩ | hsession | ⟨hbooking', _⟩
    · exact Locking.exists_deadlocked (fun t => (txs.get t).locks) (Ne.symm hne)
        (Ne.symm (hdistinct ht hu)) hu ht hy
    · exact absurd (hbooking.trans hbooking'.symm) htable
    · exact absurd hsession hysession
    · exact absurd (hbooking.trans hbooking'.symm) htable
  · exact absurd hsession hxsession
  · exact absurd ⟨hpoint, hbooking⟩ hypoint

end

/-! ### The foreign keys in a run -/

section

variable {Body : Type} {env : Env Body}

/-- The foreign keys of the rows. -/
def Database.foreignKeys (db : Database) : ForeignKeys where
  bookingOf id := ((db.payments.find id).map Payment.bookingId).getD 0
  paymentOf id := ((db.refunds.find id).map Refund.paymentId).getD 0
  stationOf id := ((db.chargePoints.find id).map ChargePoint.stationId).getD 0

theorem World.Reachable.bookingOf_run {w : World} (h : w.Reachable env)
    (actions : List (Action Body)) {id : Uuid} {p : Payment} (hp : w.db.payments.find id = some p) :
    (w.run env actions).db.foreignKeys.bookingOf id = p.bookingId := by
  obtain ⟨p', hp', hcont⟩ := h.payment_run actions hp
  simp only [Database.foreignKeys, hp', Option.map_some, Option.getD_some, hcont.bookingId]

theorem World.Reachable.paymentOf_run {w : World} (h : w.Reachable env)
    (actions : List (Action Body)) {id : Uuid} {r : Refund} (hr : w.db.refunds.find id = some r) :
    (w.run env actions).db.foreignKeys.paymentOf id = r.paymentId := by
  obtain ⟨r', hr', hcont⟩ := h.refund_run actions hr
  simp only [Database.foreignKeys, hr', Option.map_some, Option.getD_some, hcont.paymentId]

theorem World.stationOf_run {w : World} (actions : List (Action Body)) {id : Uuid}
    {point : ChargePoint} (hpoint : w.db.chargePoints.find id = some point) :
    (w.run env actions).db.foreignKeys.stationOf id = point.stationId := by
  obtain ⟨point', hpoint', hsame⟩ := w.point_run env actions hpoint
  simp only [Database.foreignKeys, hpoint', Option.map_some, Option.getD_some, hsame]

/-- What a state of a run finds agrees with the foreign keys at its end. -/
theorem RowTransaction.FoundIn.linked {w : World} (h : w.Reachable env) {t : RowTransaction}
    (hfound : t.FoundIn w) (actions : List (Action Body)) :
    t.Linked (w.run env actions).db.foreignKeys := by
  obtain ⟨call, db⟩ := t
  obtain ⟨hdb, hcall⟩ := hfound
  have hdb : db = w.db := hdb
  subst hdb
  constructor
  · exact fun p hp => h.bookingOf_run actions (Table.find_key hp)
  · exact fun r hr => h.paymentOf_run actions (Table.find_key hr)
  · exact fun p hp => w.stationOf_run actions (Table.find_key hp)
  · intro attempt hattempt
    obtain ⟨r, hr, hcalled⟩ : ∃ r ∈ w.orderRequests, r.phase = .called attempt := by
      rcases hattempt with rfl | rfl <;> exact hcall
    obtain ⟨p, hp, _, hdesc, _⟩ :=
      (h.sound.orders.requests r.id r (Table.find_key hr)).1 attempt (Or.inr hcalled)
    rw [← hdesc.bookingId]
    exact h.bookingOf_run actions hp
  · intro prepared hprepared
    obtain ⟨r, hr, hcalled⟩ : ∃ r ∈ w.cancellationRequests, r.phase = .called prepared := by
      cases hprepared
      exact hcall
    obtain ⟨_, refund, p, hrefund, _, hdesc⟩ :=
      h.sound.cancellations.requests r.id r prepared (Table.find_key hr)
        (CancellationRequest.InFlight.carries (Or.inr hcalled))
    rw [← hdesc.paymentId]
    exact h.paymentOf_run actions hrefund

/-- Transactions on the rows of a run of the system lock without deadlock, whatever their number
and however they interleave, exactly when no two of them oppose each other. -/
theorem row_locks_without_deadlock {w : World} (h : w.Reachable env) (actions : List (Action Body))
    (txs : List RowTransaction)
    (hfound : ∀ t ∈ txs, ∃ before, before <+: actions ∧ t.FoundIn (w.run env before)) :
    (∀ steps, ¬Locking.Deadlocked (rowLocks txs steps)) ↔
      ∀ t ∈ txs, ∀ u ∈ txs, ¬t.Opposes u := by
  have hlinked : ∀ t ∈ txs, t.Linked (w.run env actions).db.foreignKeys := by
    intro t ht
    obtain ⟨before, ⟨rest, rfl⟩, hstate⟩ := hfound t ht
    rw [World.run, Transition.run_append]
    exact hstate.linked (Transition.Reachable.run h before) rest
  constructor
  · intro hnone t ht u hu hopposes
    obtain ⟨i, rfl⟩ := List.get_of_mem ht
    obtain ⟨j, rfl⟩ := List.get_of_mem hu
    obtain ⟨steps, hsteps⟩ := exists_deadlocked_of_opposes hlinked hopposes
    exact hnone steps hsteps
  · intro hnone steps
    exact Locking.not_deadlocked_of_ordered
      (fun t => (hlinked _ (List.get_mem txs t)).ordered (List.get_mem txs t) hnone) steps

end

deriving instance DecidableEq for CancellationPhase, CancellationRequest

/-- What the request of the cancelled booking sent to the provider. -/
def samplePrepared : RefundRequestSnapshot :=
  ⟨60, 20, 30, "pay_1", 10000, "INR", refundReceipt 60⟩

/-- The provider has answered the refund and given notice of it: two transactions are about to
settle it. -/
def sampleSettling : List RowTransaction :=
  let db := (sampleWorld.run sampleEnv sampleCancellation).db
  [⟨.finalizeRefund samplePrepared, db⟩,
    ⟨.applyRefundEvent [("id", .str "rfnd_1"), ("payment_id", .str "pay_1")], db⟩]

theorem sampleSettling_found :
    ∀ t ∈ sampleSettling, t.FoundIn (sampleWorld.run sampleEnv sampleCancellation) := by
  intro t ht
  have hcalled : ∃ r ∈ (sampleWorld.run sampleEnv sampleCancellation).cancellationRequests,
      r.phase = .called samplePrepared := by
    decide +kernel
  rcases List.mem_cons.mp ht with rfl | ht
  · exact ⟨rfl, hcalled⟩
  · obtain rfl := List.mem_singleton.mp ht
    exact ⟨rfl, trivial⟩

/-- The answer of the provider and, later in the run, a turn of the job: both take the refund and then
its payment. -/
def sampleOneOrder : List RowTransaction :=
  [⟨.finalizeRefund samplePrepared, (sampleWorld.run sampleEnv sampleCancellation).db⟩,
    ⟨.applyReconciledRefund 60, (sampleWorld.run sampleEnv samplePendingRefunds).db⟩]

theorem row_locks_without_deadlock_sample :
    sampleOneOrder.map RowTransaction.locks =
      [[.refund 60, .payment 30], [.refund 60, .payment 30]] ∧
    ∀ steps, ¬Locking.Deadlocked (rowLocks sampleOneOrder steps) := by
  refine ⟨by decide +kernel, ?_⟩
  refine (row_locks_without_deadlock (sampleWorld_reachable []) samplePendingRefunds _ ?_).mpr
    (by decide +kernel)
  intro t ht
  rcases List.mem_cons.mp ht with rfl | ht
  · exact ⟨sampleCancellation, ⟨_, (List.append_assoc _ _ _).symm⟩,
      sampleSettling_found _ List.mem_cons_self⟩
  · obtain rfl := List.mem_singleton.mp ht
    exact ⟨samplePendingRefunds, List.prefix_rfl, rfl, trivial⟩

/-- `_finalize_refund` holds the refund and asks for its payment; the notice holds the payment and
asks for the refund. -/
theorem row_locks_without_deadlock_counterexample :
    (sampleWorld.run sampleEnv sampleCancellation).Reachable sampleEnv ∧
    (∀ t ∈ sampleSettling, t.FoundIn (sampleWorld.run sampleEnv sampleCancellation)) ∧
    Locking.Deadlocked (rowLocks sampleSettling
      [.acquire ⟨0, Nat.zero_lt_two⟩, .acquire ⟨1, Nat.one_lt_two⟩]) := by
  refine ⟨sampleWorld_reachable sampleCancellation, sampleSettling_found, ⟨0, Nat.zero_lt_two⟩, ?_⟩
  refine Relation.TransGen.tail (b := ⟨1, Nat.one_lt_two⟩) (.single ⟨?_, .payment 30, ?_, ?_⟩)
    ⟨?_, .refund 60, ?_, ?_⟩ <;> decide +kernel

end ChargeMate
