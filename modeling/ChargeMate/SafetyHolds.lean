import ChargeMate.SafetyPayments

/-! Booking holds: exactly when a hold is granted and what it changes, and whose unpaid bookings
keep their slots from later requests. -/

namespace ChargeMate

open Relational

theorem chargePointAcceptsBookings_eq_true {db : Database} {point : ChargePoint} :
    chargePointAcceptsBookings db point = true ↔
      point.isBookable = true ∧ point.status = .available ∧
        ∃ station, db.stations.find point.stationId = some station ∧ station.status = .active := by
  unfold chargePointAcceptsBookings
  cases db.stations.find point.stationId with
  | none => simp
  | some station => simp

/-- A lapsed hold, which `_expire_stale_holds` finds, does not count for the overlap check that
follows. -/
theorem hasOverlappingBooking_expireStaleHolds {db : Database} {chargePointId : Uuid}
    {startsAt endsAt now : Timestamp} :
    hasOverlappingBooking (expireStaleHolds chargePointId now db) chargePointId startsAt endsAt =
        true ↔
      ∃ b ∈ db.bookings, b.chargePointId = chargePointId ∧ b.Blocking ∧ b.holdLapsed now = false ∧
        b.startsAt < endsAt ∧ startsAt < b.endsAt := by
  simp only [hasOverlappingBooking, expireStaleHolds, expireHolds, Table.updateWhere, List.any_map,
    List.any_eq_true, Function.comp_apply, decide_eq_true_eq, Bool.and_eq_true]
  constructor
  · rintro ⟨b, hb, hover⟩
    split at hover
    · -- an expired row no longer blocks
      simp [Booking.expire, blockingBookingStatuses] at hover
    · next hlive =>
      obtain ⟨hpoint, hblock, hinterval⟩ := hover
      refine ⟨b, hb, hpoint, hblock, ?_, hinterval⟩
      by_contra hlapsed
      exact hlive ⟨hpoint, by simpa using hlapsed⟩
  · rintro ⟨b, hb, hpoint, hblock, hlive, hinterval⟩
    refine ⟨b, hb, ?_⟩
    rw [if_neg (by simp [hlive])]
    exact ⟨hpoint, hblock, hinterval⟩

/-- A fresh booking at a fee that is not negative can be stored. -/
theorem insertBooking_booking (payload : BookingHoldRequest) (holdMinutes : Int) (user : User)
    (point : ChargePoint) {bookingId : Uuid} (now : Timestamp) {db : Database}
    (hfresh : db.bookings.find bookingId = none) :
    ∃ db', db.insertBooking (payload.booking holdMinutes user point bookingId now) = .ok db' := by
  have hfee : ∀ a ∈ some point.bookingFee, 0 ≤ a := by
    intro a ha
    cases ha
    exact point.nonNegativeBookingFee
  obtain ⟨bookings, hins⟩ := Table.exists_insert
    (r := payload.booking holdMinutes user point bookingId now) hfresh
  refine ⟨{ db with bookings }, ?_⟩
  exact Database.insertBooking_eq_ok.mpr ⟨hfee, bookings, hins, rfl⟩

/-- A booking that keeps others out of its interval: `PAYMENT_PENDING`, `CONFIRMED`, `ACTIVE`, or
`HELD` with a hold that has not expired. -/
def Booking.KeepsOut (b : Booking) (now : Timestamp) : Prop :=
  b.status = .paymentPending ∨ b.status = .confirmed ∨ b.status = .active ∨
    (b.status = .held ∧ ∃ t ∈ b.holdExpiresAt, now < t)

instance (b : Booking) (now : Timestamp) : Decidable (b.KeepsOut now) := by
  unfold Booking.KeepsOut
  infer_instance

/-- Every hold has an expiry, so that a blocking booking keeps others out unless its hold has
lapsed. -/
theorem Booking.keepsOut_iff {b : Booking} {now : Timestamp} (hexpiry : b.holdExpiresAt ≠ none) :
    b.KeepsOut now ↔ b.Blocking ∧ b.holdLapsed now = false := by
  obtain ⟨t, ht⟩ := Option.ne_none_iff_exists'.mp hexpiry
  cases hstatus : b.status <;>
    simp [KeepsOut, Blocking, blockingBookingStatuses, holdLapsed, hstatus, ht]

/-- A booking of the requested charge point that overlaps the requested interval. -/
def BookingHoldRequest.Meets (payload : BookingHoldRequest) (b : Booking) : Prop :=
  b.chargePointId = payload.chargePointId ∧ b.startsAt < payload.endsAt ∧ payload.startsAt < b.endsAt

instance (payload : BookingHoldRequest) (b : Booking) : Decidable (payload.Meets b) := by
  unfold BookingHoldRequest.Meets
  infer_instance

/-- What a request for a hold needs, the schema having accepted it. -/
structure BookingHoldRequest.Admissible (payload : BookingHoldRequest) (now : Timestamp)
    (db : Database) : Prop where
  future : now < payload.startsAt
  point : ∃ point, db.chargePoints.find payload.chargePointId = some point ∧
    point.isBookable = true ∧ point.status = .available ∧
      ∃ station, db.stations.find point.stationId = some station ∧ station.status = .active
  free : ∀ b ∈ db.bookings, payload.Meets b → ¬b.KeepsOut now

section

variable {Body : Type} {env : Env Body}

theorem World.Reachable.holdExpiresAt {w : World} (h : w.Reachable env) {b : Booking}
    (hb : b ∈ w.db.bookings) : b.holdExpiresAt ≠ none :=
  h.sound.ledger.bookings.held b.id b (Table.find_key hb)

theorem World.Reachable.createBookingHold_iff {w : World} (h : w.Reachable env) (user : User)
    (payload : BookingHoldRequest) {bookingId : Uuid} (now : Timestamp)
    (hfresh : w.db.bookings.find bookingId = none) :
    (∃ b db', createBookingHold env.bookingHoldMinutes user payload bookingId now w.db =
        (.ok b, db')) ↔ payload.Admissible now w.db := by
  simp only [createBookingHold_eq_ok, hasOverlappingBooking_expireStaleHolds]
  constructor
  · rintro ⟨_, _, hfuture, point, hpoint, haccepts, hfree, _, _⟩
    have hid : point.id = payload.chargePointId := Table.key_of_find hpoint
    refine ⟨hfuture, ⟨point, hpoint, chargePointAcceptsBookings_eq_true.mp haccepts⟩, ?_⟩
    intro b hb hmeets hout
    obtain ⟨hblock, hlive⟩ := (Booking.keepsOut_iff (h.holdExpiresAt hb)).mp hout
    exact hfree ⟨b, hb, hmeets.1.trans hid.symm, hblock, hlive, hmeets.2⟩
  · rintro ⟨hfuture, ⟨point, hpoint, haccepts⟩, hfree⟩
    have hid : point.id = payload.chargePointId := Table.key_of_find hpoint
    have hfresh' : (expireStaleHolds point.id now w.db).bookings.find bookingId = none := by
      rw [expireStaleHolds, ← Database.bookings_ledger, ledger_expireHolds, Ledger.bookings_expire,
        Database.bookings_ledger, hfresh, Option.map_none]
    obtain ⟨db', hins⟩ := insertBooking_booking payload env.bookingHoldMinutes user point now hfresh'
    refine ⟨_, db', hfuture, point, hpoint, chargePointAcceptsBookings_eq_true.mpr haccepts, ?_,
      rfl, hins⟩
    rintro ⟨b, hb, hb', hblock, hlive, hinterval⟩
    exact hfree b hb ⟨hb'.trans hid, hinterval⟩
      ((Booking.keepsOut_iff (h.holdExpiresAt hb)).mpr ⟨hblock, hlive⟩)

end

/-- What a granted hold leaves behind: the lapsed holds of its charge point are expired, and one
booking is added. -/
theorem createBookingHold_rows {holdMinutes : Int} {user : User} {payload : BookingHoldRequest}
    {bookingId : Uuid} {now : Timestamp} {db db' : Database} {b : Booking}
    (h : createBookingHold holdMinutes user payload bookingId now db = (.ok b, db')) :
    ∃ point, db.chargePoints.find payload.chargePointId = some point ∧
      b = payload.booking holdMinutes user point bookingId now ∧
      db'.bookings.rows = db.bookings.rows.map (fun c =>
        if c.chargePointId = payload.chargePointId ∧ c.holdLapsed now then c.expire else c) ++ [b] ∧
      db' = { db with bookings := db'.bookings } := by
  obtain ⟨_, point, hpoint, _, _, hb, hins⟩ := createBookingHold_eq_ok.mp h
  have hid : point.id = payload.chargePointId := Table.key_of_find hpoint
  refine ⟨point, hpoint, hb, ?_⟩
  obtain ⟨_, bookings, hinserted, rfl⟩ := Database.insertBooking_eq_ok.mp hins
  refine ⟨?_, rfl⟩
  rw [(Table.insert_eq_some.mp hinserted).2]
  simp only [expireStaleHolds, expireHolds, Table.updateWhere, hid, Bool.and_eq_true,
    decide_eq_true_eq]

/-- A hold is granted exactly when its start lies ahead, its charge point takes bookings and no
booking keeps others out of its interval. It then expires the lapsed holds of the charge point
and adds its booking; otherwise nothing changes. -/
theorem booking_hold_exact {Body : Type} (env : Env Body) {w : World} (h : w.Reachable env)
    (user : User) (payload : BookingHoldRequest) {bookingId : Uuid} (now : Timestamp)
    (hfresh : w.db.bookings.find bookingId = none) :
    ((∃ b db', createBookingHold env.bookingHoldMinutes user payload bookingId now w.db =
        (.ok b, db')) ↔ payload.Admissible now w.db) ∧
    (∀ b db', createBookingHold env.bookingHoldMinutes user payload bookingId now w.db =
        (.ok b, db') →
      ∃ point, w.db.chargePoints.find payload.chargePointId = some point ∧
        b = payload.booking env.bookingHoldMinutes user point bookingId now ∧
        db'.bookings.rows = w.db.bookings.rows.map (fun c =>
          if c.chargePointId = payload.chargePointId ∧ c.holdLapsed now then
            { c with status := .expired, version := c.version + 1 } else c) ++ [b] ∧
        db' = { w.db with bookings := db'.bookings }) ∧
    ∀ e db', createBookingHold env.bookingHoldMinutes user payload bookingId now w.db =
        (.error e, db') → db' = w.db := by
  refine ⟨h.createBookingHold_iff user payload now hfresh, fun b db' hok =>
    createBookingHold_rows hok, ?_⟩
  intro e db' herror
  rcases createBookingHold_commits env.bookingHoldMinutes user payload bookingId now w.db with
    hkept | ⟨b, hok⟩
  · rw [herror] at hkept
    exact hkept
  · rw [herror] at hok
    cases hok

/-- A request for one hour of the sample charge point. -/
def sampleHoldRequest (hour : Nat) : BookingHoldRequest where
  chargePointId := 3
  startsAt := minutes (60 * hour)
  endsAt := minutes (60 * hour + 60)
  endsLater := sampleHour_positive hour
  notTooLong := sampleHour_short hour

/-- The hour after a held one is free. -/
theorem booking_hold_exact_sample :
    ∃ b db', createBookingHold sampleEnv.bookingHoldMinutes sampleUser (sampleHoldRequest 2) 21 0
      (sampleWorld.run sampleEnv [sampleHold 20 1]).db = (.ok b, db') := by
  refine (booking_hold_exact sampleEnv (sampleWorld_reachable [sampleHold 20 1]) sampleUser
    (sampleHoldRequest 2) 0 (by decide +kernel)).1.mpr ⟨by decide, ?_, by decide +kernel⟩
  exact ⟨samplePoint, by decide +kernel, rfl, rfl, sampleStation, by decide +kernel, rfl⟩

/-! ### Abandoned bookings -/

/-- An unpaid booking whose time to pay is over: a lapsed hold, or one whose checkout was opened
and that has no payment under way or made. -/
def Database.Abandoned (db : Database) (b : Booking) (now : Timestamp) : Prop :=
  (∃ t ∈ b.holdExpiresAt, t ≤ now) ∧
    (b.status = .held ∨ (b.status = .paymentPending ∧ ∀ p ∈ db.payments, p.bookingId = b.id →
      p.status ≠ .initiated ∧ p.status ≠ .authorized ∧ p.status ≠ .captured))

instance (db : Database) (b : Booking) (now : Timestamp) : Decidable (db.Abandoned b now) := by
  unfold Database.Abandoned
  infer_instance

/-- Where nothing but abandoned bookings stands against a request, it is granted exactly when none
of them has entered its checkout: `_expire_stale_holds` sees `HELD` bookings only. -/
theorem abandoned_slot_released {Body : Type} (env : Env Body) {w : World} (h : w.Reachable env)
    (user : User) (payload : BookingHoldRequest) {bookingId : Uuid} {now : Timestamp}
    (hfresh : w.db.bookings.find bookingId = none) (hfuture : now < payload.startsAt)
    {point : ChargePoint} (hpoint : w.db.chargePoints.find payload.chargePointId = some point)
    (haccepts : chargePointAcceptsBookings w.db point = true)
    (habandoned : ∀ b ∈ w.db.bookings, payload.Meets b → b.Blocking → w.db.Abandoned b now) :
    (∃ b db', createBookingHold env.bookingHoldMinutes user payload bookingId now w.db =
        (.ok b, db')) ↔
      ∀ b ∈ w.db.bookings, payload.Meets b → b.status ≠ .paymentPending := by
  rw [h.createBookingHold_iff user payload now hfresh]
  constructor
  · intro hadmissible b hb hmeets hpending
    exact hadmissible.free b hb hmeets (Or.inl hpending)
  · intro hheld
    refine ⟨hfuture, ⟨point, hpoint, chargePointAcceptsBookings_eq_true.mp haccepts⟩, ?_⟩
    intro b hb hmeets hout
    obtain ⟨hblock, hlive⟩ := (Booking.keepsOut_iff (h.holdExpiresAt hb)).mp hout
    obtain ⟨hexpired, hstatus | ⟨hpending, _⟩⟩ := habandoned b hb hmeets hblock
    · -- a lapsed hold, which no longer keeps anyone out
      rw [Booking.holdLapsed_eq_true.mpr ⟨hstatus, hexpired⟩] at hlive
      cases hlive
    · exact hheld b hb hmeets hpending

/-- The customer opens the checkout of a hold and leaves it there. -/
def sampleUnpaid : List (Action Json) := sampleHold 20 1 :: sampleOrder 30 1 "order_A"

/-- Half an hour before the slot starts its hold has long expired, and it is still refused. -/
theorem abandoned_slot_released_counterexample :
    (sampleWorld.run sampleEnv sampleUnpaid).Reachable sampleEnv ∧
      minutes 30 < (sampleHoldRequest 1).startsAt ∧
      (∃ point, (sampleWorld.run sampleEnv sampleUnpaid).db.chargePoints.find 3 = some point ∧
        chargePointAcceptsBookings (sampleWorld.run sampleEnv sampleUnpaid).db point = true) ∧
      (∀ b ∈ (sampleWorld.run sampleEnv sampleUnpaid).db.bookings, (sampleHoldRequest 1).Meets b →
        b.Blocking → (sampleWorld.run sampleEnv sampleUnpaid).db.Abandoned b (minutes 30)) ∧
      (createBookingHold sampleEnv.bookingHoldMinutes sampleUser (sampleHoldRequest 1) 21
          (minutes 30) (sampleWorld.run sampleEnv sampleUnpaid).db).1 =
        .error .bookingUnavailableError :=
  ⟨sampleWorld_reachable _, by decide, ⟨samplePoint, by decide +kernel, by decide +kernel⟩,
    by decide +kernel, by decide +kernel⟩

/-- The slot of a lapsed hold is granted to the next customer. -/
theorem abandoned_slot_released_sample :
    ∃ b db', createBookingHold sampleEnv.bookingHoldMinutes sampleUser (sampleHoldRequest 1) 21
      (minutes 30) (sampleWorld.run sampleEnv [sampleHold 20 1]).db = (.ok b, db') := by
  have hpoint : (sampleWorld.run sampleEnv [sampleHold 20 1]).db.chargePoints.find 3 =
      some samplePoint := by decide +kernel
  exact (abandoned_slot_released sampleEnv (sampleWorld_reachable [sampleHold 20 1]) sampleUser
    (sampleHoldRequest 1) (by decide +kernel) (by decide) hpoint (by decide +kernel)
    (by decide +kernel)).mpr (by decide +kernel)

end ChargeMate
