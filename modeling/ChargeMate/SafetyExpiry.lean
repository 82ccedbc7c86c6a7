import ChargeMate.SafetyHolds
import ChargeMate.RefineCancellation

/-! The expiry of unpaid holds: the batches of the maintenance job, the sweeps of a charge point
and those of a user leave the same rows behind, and what they expire is what can neither be paid
nor cancelled any more. -/

namespace ChargeMate

open Relational

/-- Every lapsed hold, as any of the expiry statements leaves it. -/
def expireAllHolds (now : Timestamp) (db : Database) : Database :=
  expireHolds (fun _ => true) now db

theorem Booking.holdLapsed_expire (b : Booking) (now : Timestamp) :
    b.expire.holdLapsed now = false := by
  simp [Booking.holdLapsed, Booking.expire]

/-- An expired booking is no hold any more, so that a second sweep passes it by. -/
theorem expireHolds_expireHolds (p q : Booking → Bool) (now : Timestamp) (db : Database) :
    expireHolds q now (expireHolds p now db) = expireHolds (fun b => p b || q b) now db := by
  have hrows := db.bookings.updateWhere_updateWhere (p := fun b => p b && b.holdLapsed now)
    (q := fun b => q b && b.holdLapsed now) (f := Booking.expire) (fun _ => rfl)
    (fun b _ => by rw [Booking.holdLapsed_expire, Bool.and_false])
  simp only [expireHolds, hrows, Bool.and_or_distrib_right]

theorem expireHolds_congr {p q : Booking → Bool} {now : Timestamp} {db : Database}
    (h : ∀ b ∈ db.bookings, p b = q b) : expireHolds p now db = expireHolds q now db := by
  have hrows := db.bookings.updateWhere_congr (p := fun b => p b && b.holdLapsed now)
    (q := fun b => q b && b.holdLapsed now) (f := Booking.expire) (fun _ => rfl)
    (fun b hb => by rw [h b hb])
  simp only [expireHolds, hrows]

theorem expireHolds_eq_self {p : Booking → Bool} {now : Timestamp} {db : Database}
    (h : ∀ b ∈ db.bookings, p b = true → b.holdLapsed now = false) : expireHolds p now db = db := by
  have hrows := db.bookings.updateWhere_eq_self (p := fun b => p b && b.holdLapsed now)
    (f := Booking.expire) (fun _ => rfl) (by
      intro b hb
      cases hp : p b with
      | true => rw [h b hb hp, Bool.and_false]
      | false => rw [Bool.false_and])
  simp only [expireHolds, hrows]

/-- Sweeping the parts of a list, one after the other, sweeps what any of them covers. -/
theorem foldl_expireHolds {ι : Type} (part : ι → Booking → Bool) (now : Timestamp)
    (parts : List ι) (db : Database) :
    parts.foldl (fun db i => expireHolds (part i) now db) db =
      expireHolds (fun b => parts.any fun i => part i b) now db := by
  induction parts generalizing db with
  | nil =>
      rw [List.foldl_nil, expireHolds_eq_self]
      exact fun b _ h => nomatch h
  | cons i parts ih =>
      rw [List.foldl_cons, ih, expireHolds_expireHolds]
      rfl

/-- Sweeps that leave no booking out expire every lapsed hold, in whatever order they come. -/
theorem foldl_expireHolds_covering {ι : Type} {part : ι → Booking → Bool} (now : Timestamp)
    {parts : List ι} {db : Database} (h : ∀ b ∈ db.bookings, ∃ i ∈ parts, part i b = true) :
    parts.foldl (fun db i => expireHolds (part i) now db) db = expireAllHolds now db := by
  rw [foldl_expireHolds]
  exact expireHolds_congr fun b hb => List.any_eq_true.mpr (h b hb)

/-! ### The batches of the maintenance job -/

/-- The holds that are due. -/
def lapsedHolds (now : Timestamp) (db : Database) : List Booking :=
  db.bookings.rows.filter fun b => b.holdLapsed now

theorem expireAllHolds_eq_self {now : Timestamp} {db : Database}
    (h : (lapsedHolds now db).length = 0) : expireAllHolds now db = db := by
  refine expireHolds_eq_self fun b hb _ => ?_
  have hnone := List.filter_eq_nil_iff.mp (List.eq_nil_of_length_eq_zero h) b hb
  exact Bool.eq_false_iff.mpr hnone

/-- A batch answers with how many due holds it takes off. -/
theorem expireStaleBookingHolds_count (now : Timestamp) (batchSize : Nat) (locked : List Uuid)
    (db : Database) :
    (expireStaleBookingHolds now batchSize locked db).1 +
        (lapsedHolds now (expireStaleBookingHolds now batchSize locked db).2).length =
      (lapsedHolds now db).length := by
  set ids := staleHoldBatch now batchSize locked db with hids
  have hexpired : (expireStaleBookingHolds now batchSize locked db).1 =
      ((lapsedHolds now db).filter fun b => b.id ∈ ids).length := by
    simp only [expireStaleBookingHolds, lapsedHolds, List.filter_filter, ← hids, Bool.decide_and,
      Bool.decide_eq_true]
  have hleft : lapsedHolds now (expireStaleBookingHolds now batchSize locked db).2 =
      (lapsedHolds now db).filter fun b => !decide (b.id ∈ ids) := by
    have hrows := db.bookings.filter_updateWhere
      (p := fun b => decide (b.id ∈ ids) && b.holdLapsed now) (q := fun b => b.holdLapsed now)
      (f := Booking.expire) (fun _ => rfl)
      (fun b _ => b.holdLapsed_expire now)
    refine hrows.trans ?_
    rw [lapsedHolds, List.filter_filter]
    refine List.filter_congr fun b _ => ?_
    cases b.holdLapsed now <;> simp
  rw [hexpired, hleft]
  exact (List.length_eq_length_filter_add _).symm

/-- A batch names lapsed holds only. -/
theorem lapsed_of_mem_staleHoldBatch {now : Timestamp} {batchSize : Nat} {locked : List Uuid}
    {db : Database} {id : Uuid} (h : id ∈ staleHoldBatch now batchSize locked db) :
    ∃ b ∈ db.bookings, b.id = id ∧ b.holdLapsed now = true := by
  obtain ⟨b, hb, rfl⟩ := List.mem_map.mp h
  have hmem := (List.mem_insertionSort _).mp (List.mem_of_mem_take hb)
  obtain ⟨hrow, hdue⟩ := List.mem_filter.mp hmem
  exact ⟨b, hrow, rfl, (of_decide_eq_true hdue).1⟩

/-- A batch that may name something is empty only when nothing is due. -/
theorem lapsedHolds_of_staleHoldBatch {now : Timestamp} {batchSize : Nat} {db : Database}
    (hbatch : 1 ≤ batchSize) (h : staleHoldBatch now batchSize [] db = []) :
    (lapsedHolds now db).length = 0 := by
  have hstale : (db.bookings.rows.filter fun b => b.holdLapsed now ∧ b.id ∉ []) =
      lapsedHolds now db := by
    refine List.filter_congr fun b _ => ?_
    simp
  have hlength := congrArg List.length h
  simp only [staleHoldBatch, hstale, List.length_map, List.length_take,
    List.length_insertionSort, List.length_nil] at hlength
  omega

theorem lapsedHolds_of_idle {now : Timestamp} {batchSize : Nat} {db : Database}
    (hbatch : 1 ≤ batchSize) (h : (expireStaleBookingHolds now batchSize [] db).1 = 0) :
    (lapsedHolds now db).length = 0 := by
  refine lapsedHolds_of_staleHoldBatch hbatch (List.eq_nil_iff_forall_not_mem.mpr fun id hid => ?_)
  obtain ⟨b, hb, rfl, hlapsed⟩ := lapsed_of_mem_staleHoldBatch hid
  have hnone := List.filter_eq_nil_iff.mp (List.eq_nil_of_length_eq_zero h) b hb
  exact hnone (decide_eq_true ⟨hid, hlapsed⟩)

/-- The maintenance job, run until it finds nothing more, expires every lapsed hold. -/
theorem untilZero_expireStaleBookingHolds (now : Timestamp) {batchSize : Nat}
    (hbatch : 1 ≤ batchSize) {db : Database} {fuel : Nat}
    (hfuel : (lapsedHolds now db).length < fuel) :
    Transition.untilZero (expireStaleBookingHolds now batchSize []) fuel db =
      some ((lapsedHolds now db).length, expireAllHolds now db) := by
  obtain ⟨done, hrun, hnone, hsame⟩ := Transition.untilZero_eq_some
    (f := expireStaleBookingHolds now batchSize []) (m := fun db => (lapsedHolds now db).length)
    (Q := fun s t => expireAllHolds now t = expireAllHolds now s)
    (fun hst htu => htu.trans hst)
    (by
      intro s
      refine (expireHolds_expireHolds _ _ now s).trans (expireHolds_congr fun b _ => ?_)
      exact Bool.or_true _)
    (fun s => expireStaleBookingHolds_count now batchSize [] s)
    (fun s hidle => lapsedHolds_of_idle hbatch hidle)
    hfuel
  rw [hrun, ← hsame, expireAllHolds_eq_self hnone]

/-! ### What a hold is still good for -/

section

variable {db : Database} {b : Booking}

/-- A held booking that its user cannot cancel at its version has no live hold. -/
theorem cancelUserBooking_held_iff (hb : b ∈ db.bookings) (hheld : b.status = .held)
    (now : Timestamp) :
    (cancelUserBooking b.userId b.id b.version now db).1 = .error .bookingStateConflictError ↔
      timestampIsAfter b.holdExpiresAt now = false := by
  have hfind : db.bookings.find b.id = some b := Table.find_key hb
  cases hlive : timestampIsAfter b.holdExpiresAt now with
  | true =>
      have hok := cancelUserBooking_eq_ok.mpr ⟨b, hfind, rfl, rfl, by rw [hheld]; decide,
        Or.inr hlive, rfl, rfl⟩
      rw [hok]
      simp
  | false =>
      simp [cancelUserBooking, transaction, hfind, hheld, hlive, ensure, orRaise, bind, Except.bind]

/-- So has one that cannot be cancelled through the refund path. -/
theorem prepareCancellation_held_iff (hb : b ∈ db.bookings) (hheld : b.status = .held)
    (refundId : Uuid) (choice : Nat) (now createdAt : Timestamp) :
    (prepareCancellation b.userId b.id b.version refundId choice now createdAt db).1 =
        .error .bookingStateConflictError ↔ timestampIsAfter b.holdExpiresAt now = false := by
  have hfind : db.bookings.find b.id = some b := Table.find_key hb
  have howned : (db.bookings.find b.id).filter (fun c => c.userId = b.userId) = some b := by
    simp [hfind, Option.filter]
  cases hlive : timestampIsAfter b.holdExpiresAt now <;>
    simp [prepareCancellation, transaction, howned, hheld, hlive, ensure, orRaise, bind,
      Except.bind, directCancellationStatuses, pure, Except.pure]

/-- Past is what is not after: `<=` in the statements against `>` in the guards. -/
theorem Booking.holdLapsed_iff (hheld : b.status = .held) (hset : b.holdExpiresAt ≠ none)
    (now : Timestamp) :
    b.holdLapsed now = true ↔ timestampIsAfter b.holdExpiresAt now = false := by
  obtain ⟨t, ht⟩ := Option.ne_none_iff_exists'.mp hset
  simp [holdLapsed, timestampIsAfter, hheld, ht]

theorem bookingCanEnterPayment_eq_false (expectedVersion : Nat) {now : Timestamp}
    (h : timestampIsAfter b.holdExpiresAt now = false) :
    bookingCanEnterPayment b expectedVersion now = false := by
  simp [bookingCanEnterPayment, h]

theorem find_expireAllHolds (hb : b ∈ db.bookings) (now : Timestamp) :
    (expireAllHolds now db).bookings.find b.id ≠ some b ↔ b.holdLapsed now = true := by
  have hfind : db.bookings.find b.id = some b := Table.find_key hb
  have hafter : (expireAllHolds now db).bookings.find b.id =
      some (if b.holdLapsed now then b.expire else b) := by
    have hrow := db.bookings.find_updateWhere (fun b => true && b.holdLapsed now) Booking.expire
      (fun _ => rfl) b.id
    rw [hfind, Option.map_some] at hrow
    exact hrow
  rw [hafter]
  cases hlapsed : b.holdLapsed now with
  | true =>
      have hversion : b.expire ≠ b := fun h =>
        absurd (congrArg Booking.version h) (Nat.succ_ne_self b.version)
      simp [hversion]
  | false => simp

end

/-- The job's batches, the sweeps of all charge points and those of all users expire the same
bookings, each once: the held ones that can neither be paid nor cancelled any more. -/
theorem hold_expiry_agrees {db : Database} (hset : ∀ b ∈ db.bookings, b.holdExpiresAt ≠ none)
    (now : Timestamp) {batchSize : Nat} (hbatch : 1 ≤ batchSize) :
    (∀ fuel, (lapsedHolds now db).length < fuel →
      Transition.untilZero (expireStaleBookingHolds now batchSize []) fuel db =
        some ((lapsedHolds now db).length, expireAllHolds now db)) ∧
    (expireAllHolds now db).bookings.rows = db.bookings.rows.map (fun b =>
      if b.status = .held ∧ ∃ t ∈ b.holdExpiresAt, t ≤ now then
        { b with status := .expired, version := b.version + 1 } else b) ∧
    expireAllHolds now db = { db with bookings := (expireAllHolds now db).bookings } ∧
    (∀ chargePointIds : List Uuid, (∀ b ∈ db.bookings, b.chargePointId ∈ chargePointIds) →
      chargePointIds.foldl (fun db id => expireStaleHolds id now db) db = expireAllHolds now db) ∧
    (∀ userIds : List Uuid, (∀ b ∈ db.bookings, b.userId ∈ userIds) →
      userIds.foldl (fun db id => expireUserStaleHolds id now db) db = expireAllHolds now db) ∧
    ∀ b ∈ db.bookings, b.status = .held →
      ((expireAllHolds now db).bookings.find b.id ≠ some b ↔
        bookingCanEnterPayment b b.version now = false ∧
        (cancelUserBooking b.userId b.id b.version now db).1 =
          .error .bookingStateConflictError ∧
        ∀ refundId choice createdAt,
          (prepareCancellation b.userId b.id b.version refundId choice now createdAt db).1 =
            .error .bookingStateConflictError) := by
  refine ⟨fun fuel hfuel => untilZero_expireStaleBookingHolds now hbatch hfuel, ?_, rfl, ?_, ?_, ?_⟩
  · simp only [expireAllHolds, expireHolds, Table.updateWhere, Booking.holdLapsed, Bool.true_and,
      decide_eq_true_eq, Booking.expire]
  · intro chargePointIds hall
    exact foldl_expireHolds_covering now fun b hb =>
      ⟨b.chargePointId, hall b hb, decide_eq_true rfl⟩
  · intro userIds hall
    exact foldl_expireHolds_covering now fun b hb => ⟨b.userId, hall b hb, decide_eq_true rfl⟩
  · intro b hb hheld
    rw [find_expireAllHolds hb, Booking.holdLapsed_iff hheld (hset b hb),
      cancelUserBooking_held_iff hb hheld]
    simp only [prepareCancellation_held_iff hb hheld]
    constructor
    · intro hpast
      exact ⟨bookingCanEnterPayment_eq_false _ hpast, hpast, fun _ _ _ => hpast⟩
    · exact fun h => h.2.1

/-- Two lapsed holds, in batches of one. -/
theorem hold_expiry_agrees_sample :
    Transition.untilZero (expireStaleBookingHolds (minutes 30) 1 []) 3
        (sampleWorld.run sampleEnv [sampleHold 20 1, sampleHold 21 2]).db =
      some (2, expireAllHolds (minutes 30)
        (sampleWorld.run sampleEnv [sampleHold 20 1, sampleHold 21 2]).db) := by
  have hset : ∀ b ∈ (sampleWorld.run sampleEnv [sampleHold 20 1, sampleHold 21 2]).db.bookings,
      b.holdExpiresAt ≠ none := by
    decide +kernel
  have hcount : (lapsedHolds (minutes 30)
      (sampleWorld.run sampleEnv [sampleHold 20 1, sampleHold 21 2]).db).length = 2 := by
    decide +kernel
  have hrun := (hold_expiry_agrees hset (minutes 30) (Nat.le_refl 1)).1 3
  rw [hcount] at hrun
  exact hrun (by decide)

end ChargeMate
