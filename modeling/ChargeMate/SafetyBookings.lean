import ChargeMate.RefineSystem

/-! Bookings in every run: no two customers hold one charger at one time, and every booking goes
through its lifecycle one version at a time. -/

namespace ChargeMate

open Relational

/-- The exclusion constraint `prevent_overlapping_bookings`: blocking bookings of one charge point
have disjoint half-open intervals. No transaction of the model checks it. -/
def Database.preventOverlappingBookings (db : Database) : Prop :=
  ∀ b ∈ db.bookings, ∀ c ∈ db.bookings, b.id ≠ c.id → b.chargePointId = c.chargePointId →
    b.Blocking → c.Blocking → b.endsAt ≤ c.startsAt ∨ c.endsAt ≤ b.startsAt

theorem Ledger.BookingsSound.preventOverlappingBookings {db : Database}
    (h : db.ledger.BookingsSound) : db.preventOverlappingBookings := by
  intro b hb c hc hid hpoint hbb hcb
  have hover := h.disjoint b.id c.id b c (Table.find_key hb) (Table.find_key hc) hid hbb hcb
  by_contra hmeet
  obtain ⟨hbc, hcb⟩ := not_or.mp hmeet
  exact hover ⟨hpoint, not_le.mp hcb, not_le.mp hbc⟩

/-- Advancing one booking makes no new overlap. -/
theorem Ledger.BookingsSound.advance {db : Database} (h : db.ledger.BookingsSound)
    {b b' : Booking} (hb : db.bookings.find b.id = some b) (hadv : b.Advances b') :
    (db.updateBooking b').preventOverlappingBookings := by
  have hold : ∀ {c : Booking}, c ∈ (db.updateBooking b').bookings → c.Blocking →
      ∃ c₀, db.bookings.find c.id = some c₀ ∧ c₀.Blocking ∧ c₀.SameTerms c := by
    intro c hc hcb
    rcases (Table.mem_set (r := b') (by rw [Booking.key_eq, hadv.id]; exact hb)).mp hc with
      rfl | ⟨hc, _⟩
    · exact ⟨b, by rw [hadv.id]; exact hb, hadv.blocking hcb, hadv.toSameTerms⟩
    · exact ⟨c, Table.find_key hc, hcb, Booking.SameTerms.refl c⟩
  intro c hc d hd hid hpoint hcb hdb
  obtain ⟨c₀, hc₀, hc₀b, hcterms⟩ := hold hc hcb
  obtain ⟨d₀, hd₀, hd₀b, hdterms⟩ := hold hd hdb
  have hover := h.disjoint c.id d.id c₀ d₀ hc₀ hd₀ hid hc₀b hd₀b
  by_contra hmeet
  obtain ⟨hcd, hdc⟩ := not_or.mp hmeet
  exact hover (Booking.Overlaps.of_sameTerms hcterms hdterms
    ⟨hpoint, not_le.mp hdc, not_le.mp hcd⟩)

/-! ### Histories of bookings -/

/-- A later version of a booking: the same row, or one with a higher version that an open status
has led to. -/
structure Booking.Follows (b b' : Booking) : Prop extends b.SameTerms b' where
  later : b' = b ∨ (b.version < b'.version ∧ ¬b.status.Final)

theorem Booking.Follows.refl (b : Booking) : b.Follows b :=
  ⟨Booking.SameTerms.refl b, Or.inl rfl⟩

theorem Booking.Follows.trans {a b c : Booking} (hab : a.Follows b) (hbc : b.Follows c) :
    a.Follows c where
  toSameTerms := hab.toSameTerms.trans hbc.toSameTerms
  later := by
    rcases hab.later with rfl | ⟨hv, hopen⟩
    · exact hbc.later
    · rcases hbc.later with rfl | ⟨hv', _⟩
      · exact Or.inr ⟨hv, hopen⟩
      · exact Or.inr ⟨hv.trans hv', hopen⟩

theorem Booking.Advances.follows {b b' : Booking} (h : b.Advances b') : b.Follows b' where
  toSameTerms := h.toSameTerms
  later := by
    refine Or.inr ⟨?_, h.not_final⟩
    have hversion := h.version
    omega

/-- A booking with the version it had is the booking it was. -/
theorem Booking.Follows.eq_of_version {b b' : Booking} (h : b.Follows b')
    (hversion : b'.version = b.version) : b' = b := by
  rcases h.later with heq | ⟨hlt, _⟩
  · exact heq
  · omega

section

variable {Body : Type} {env : Env Body}

theorem World.Reachable.booking_next {w : World} (h : w.Reachable env) (a : Action Body) {id : Uuid}
    {b : Booking} (hb : w.db.bookings.find id = some b) :
    ∃ b', (w.step env a).db.bookings.find id = some b' ∧ (b' = b ∨ b.Advances b') := by
  obtain ⟨c, _, hmove⟩ := h.move a
  exact hmove.booking_next hb

theorem World.Reachable.booking_run {w : World} (h : w.Reachable env) (actions : List (Action Body))
    {id : Uuid} {b : Booking} (hb : w.db.bookings.find id = some b) :
    ∃ b', (w.run env actions).db.bookings.find id = some b' ∧ b.Follows b' := by
  refine h.run_part (f := fun s : World => s.db.bookings.find id) Booking.Follows.refl
    Booking.Follows.trans ?_ actions hb
  intro s a b hs hb
  obtain ⟨b', hb', rfl | hadv⟩ := World.Reachable.booking_next hs a hb
  · exact ⟨_, hb', Booking.Follows.refl _⟩
  · exact ⟨b', hb', hadv.follows⟩

/-! ### Expected versions -/

/-- The booking and the version that the client of an action has read: of a cancellation, of the
start of a payment and of the start of a session. -/
def Action.expects (w : World) : Action Body → Option (Uuid × Nat)
  | .requestCancellation _ _ bookingId expectedVersion _ _ _ _ => some (bookingId, expectedVersion)
  | .cancelUserBooking _ bookingId expectedVersion _ => some (bookingId, expectedVersion)
  | .beginOrder requestId _ _ =>
      (w.orderRequests.find requestId).map fun r => (r.payload.bookingId, r.payload.bookingVersion)
  | .startChargingSession _ payload _ _ => some (payload.bookingId, payload.bookingVersion)
  | _ => none

/-- An action with an expected version changes the booking only from that version. -/
theorem World.step_expects {w : World} {a : Action Body} {id : Uuid} {v : Nat}
    (hexp : a.expects w = some (id, v))
    (hne : (w.step env a).db.bookings.find id ≠ w.db.bookings.find id) :
    ∃ b, w.db.bookings.find id = some b ∧ b.version = v := by
  cases a with
  | requestCancellation requestId userId bookingId expectedVersion refundId choice now createdAt =>
      simp only [Action.expects, Option.some.injEq, Prod.mk.injEq] at hexp
      obtain ⟨rfl, rfl⟩ := hexp
      rw [World.step] at hne
      rcases w.requestCancellation_cases requestId userId bookingId expectedVersion refundId choice
        now createdAt with heq | ⟨_, _, _, _, _, _, _, _, heq⟩
      · rw [heq] at hne
        exact absurd rfl hne
      rw [heq] at hne
      rcases prepareCancellation_cases userId bookingId expectedVersion refundId choice now createdAt
        w.db with ⟨e, hc⟩ | ⟨b, _, _, _, _, hc⟩ | ⟨b, hb, _, hversion, _, _⟩ |
          ⟨b, _, _, _, hb, _, hversion, _, _, _, _, _⟩
      · simp [hc] at hne
      · simp [hc] at hne
      · exact ⟨b, hb, hversion⟩
      · exact ⟨b, hb, hversion⟩
  | cancelUserBooking userId bookingId expectedVersion now =>
      simp only [Action.expects, Option.some.injEq, Prod.mk.injEq] at hexp
      obtain ⟨rfl, rfl⟩ := hexp
      rw [World.step] at hne
      rcases cancelUserBooking_commits userId bookingId expectedVersion now w.db with heq | ⟨_, hok⟩
      · simp [heq] at hne
      · obtain ⟨b, hb, _, hversion, _⟩ := cancelUserBooking_eq_ok.mp hok
        exact ⟨b, hb, hversion⟩
  | beginOrder requestId paymentId now =>
      simp only [Action.expects, Option.map_eq_some_iff, Prod.mk.injEq] at hexp
      obtain ⟨r, hr, rfl, rfl⟩ := hexp
      rw [World.step, World.beginOrder] at hne
      split at hne
      · next rid user payload hfind =>
        rw [hr] at hfind
        cases hfind
        rcases beginPaymentAttempt_cases user payload paymentId now w.db with
          ⟨e, hb⟩ | ⟨b, _, _, hb, _, _, hversion, _⟩
        · simp [hb] at hne
        · exact ⟨b, hb, hversion⟩
      · exact absurd rfl hne
  | startChargingSession operator payload sessionId now =>
      simp only [Action.expects, Option.some.injEq, Prod.mk.injEq] at hexp
      obtain ⟨rfl, rfl⟩ := hexp
      rw [World.step] at hne
      rcases startChargingSession_commits operator payload sessionId now w.db with heq | ⟨_, hok⟩
      · simp [heq] at hne
      · obtain ⟨b, _, hb, _, hversion, _⟩ := startChargingSession_eq_ok.mp hok
        exact ⟨b, hb, hversion⟩
  | _ => cases hexp

end

/-! ### Main results -/

/-- No double booking: the exclusion constraint holds in every reachable state and after every
action from one, it is met by every single statement that writes bookings, and no action takes a
booking back to a blocking status. -/
theorem no_double_booking {Body : Type} (env : Env Body) {w : World} (h : w.Reachable env) :
    w.db.preventOverlappingBookings ∧
    (∀ a : Action Body, (w.step env a).db.preventOverlappingBookings) ∧
    (∀ among now, (expireHolds among now w.db).preventOverlappingBookings) ∧
    (∀ b b', w.db.bookings.find b.id = some b → b.Advances b' →
      (w.db.updateBooking b').preventOverlappingBookings) ∧
    ∀ (a : Action Body) id b b', w.db.bookings.find id = some b →
      (w.step env a).db.bookings.find id = some b' → b'.Blocking → b.Blocking := by
  have hsound := h.sound.ledger.bookings
  refine ⟨hsound.preventOverlappingBookings, ?_, ?_, ?_, ?_⟩
  · intro a
    exact (World.step_sound env h.sound a).ledger.bookings.preventOverlappingBookings
  · intro among now
    exact ((expireHolds_move among now w.db).bookingsSound hsound).preventOverlappingBookings
  · intro b b' hb hadv
    exact hsound.advance hb hadv
  · intro a id b b' hb hb' hblock
    obtain ⟨b'', hb'', hcase⟩ := h.booking_next a hb
    rw [hb'] at hb''
    cases hb''
    rcases hcase with rfl | hadv
    · exact hblock
    · exact hadv.blocking hblock

/-- The lifecycle of bookings, and what a version stands for. -/
theorem booking_lifecycle {Body : Type} (env : Env Body) {w : World} (h : w.Reachable env) :
    (∀ (a : Action Body) id b, w.db.bookings.find id = some b →
      ∃ b', (w.step env a).db.bookings.find id = some b' ∧ (b' = b ∨ b.Advances b')) ∧
    (∀ (actions : List (Action Body)) id b, w.db.bookings.find id = some b → b.status.Final →
      (w.run env actions).db.bookings.find id = some b) ∧
    (∀ (actions : List (Action Body)) id b, w.db.bookings.find id = some b →
      ∃ b', (w.run env actions).db.bookings.find id = some b' ∧ b.SameTerms b') ∧
    (∀ id b, w.db.bookings.find id = some b → (b.cancelledAt ≠ none ↔ b.status = .cancelled)) ∧
    (∀ (actions : List (Action Body)) id b b', w.db.bookings.find id = some b →
      (w.run env actions).db.bookings.find id = some b' → b'.version = b.version → b' = b) ∧
    ∀ (actions : List (Action Body)) (a : Action Body) id b v, w.db.bookings.find id = some b →
      b.version = v → a.expects (w.run env actions) = some (id, v) →
      ((w.run env actions).step env a).db.bookings.find id ≠
        (w.run env actions).db.bookings.find id →
      (w.run env actions).db.bookings.find id = some b := by
  have hsame : ∀ (actions : List (Action Body)) id b b', w.db.bookings.find id = some b →
      (w.run env actions).db.bookings.find id = some b' → b'.version = b.version → b' = b := by
    intro actions id b b' hb hb' hversion
    obtain ⟨b'', hb'', hfollows⟩ := h.booking_run actions hb
    rw [hb'] at hb''
    cases hb''
    exact hfollows.eq_of_version hversion
  refine ⟨fun a id b hb => h.booking_next a hb, ?_, ?_, ?_, hsame, ?_⟩
  · intro actions id b hb hfinal
    obtain ⟨b', hb', hfollows⟩ := h.booking_run actions hb
    rcases hfollows.later with rfl | ⟨_, hopen⟩
    · exact hb'
    · exact absurd hfinal hopen
  · intro actions id b hb
    obtain ⟨b', hb', hfollows⟩ := h.booking_run actions hb
    exact ⟨b', hb', hfollows.toSameTerms⟩
  · intro id b hb
    exact h.sound.ledger.bookings.cancelled id b hb
  · intro actions a id b v hb hv hexp hne
    obtain ⟨b', hb', hv'⟩ := World.step_expects hexp hne
    rw [hsame actions id b b' hb hb' (hv'.trans hv.symm)] at hb'
    exact hb'

/-! ### A sample world

One charge point with a fee of 100, and requests of one user. A body is the JSON value it encodes,
and every body has the same digests. -/

def sampleDigest : String := "7d793037a0760186574b0282f2f435e77d793037a0760186574b0282f2f435e7"

def sampleEnv : Env Json where
  razorpayKeyId := some "rzp_test_key"
  razorpayKeySecret := some "key_secret"
  razorpayWebhookSecret := some "webhook_secret"
  bookingHoldMinutes := 15
  encode s := .str s
  hmacSha256Hex _ _ := sampleDigest
  sha256Hex _ := sampleDigest
  jsonLoads := .ok

def sampleStation : ChargingStation where
  id := 1
  ownerId := 2
  name := "Depot"
  description := none
  addressLine1 := "1 Main Road"
  addressLine2 := none
  city := "Pune"
  state := "MH"
  postalCode := "411001"
  countryCode := "IN"
  latitude := 18
  longitude := 73
  timezone := "Asia/Kolkata"
  phone := none
  is24Hours := true
  status := .active
  version := 1

theorem sampleFee_nonneg : (0 : Decimal) ≤ 100 := by decide

def samplePoint : ChargePoint where
  id := 3
  stationId := 1
  code := "CP1"
  maxPowerKw := 50
  bookingFee := 100
  nonNegativeBookingFee := sampleFee_nonneg
  isBookable := true
  status := .available
  version := 1

def sampleWorld : World where
  db := {
    stations := ⟨[sampleStation], List.nodup_singleton _⟩
    chargePoints := ⟨[samplePoint], List.nodup_singleton _⟩
    bookings := ∅
    payments := ∅
    refunds := ∅
    chargingSessions := ∅
    paymentWebhookEvents := ∅ }
  orderRequests := ∅
  cancellationRequests := ∅
  deliveries := ∅
  reconciliations := ∅
  orderCalls := []
  refundCalls := []

theorem sampleWorld_initial : sampleWorld.Initial :=
  ⟨rfl, rfl, rfl, rfl, rfl, rfl, rfl, rfl, rfl, rfl, rfl⟩

theorem sampleWorld_reachable (actions : List (Action Json)) :
    (sampleWorld.run sampleEnv actions).Reachable sampleEnv :=
  (Transition.Reachable.initial sampleWorld_initial).run actions

def sampleUser : User := ⟨10, .user⟩

theorem sampleUnset_nonneg : ∀ fee ∈ (none : Option Decimal), 0 ≤ fee := by simp

theorem sampleHour_positive (hour : Nat) : minutes (60 * hour) < minutes (60 * hour + 60) := by
  show (60 * hour : Int) * 60000000 < (60 * hour + 60) * 60000000
  omega

theorem sampleHour_short (hour : Nat) :
    minutes (60 * hour + 60) - minutes (60 * hour) ≤ maximumBookingDuration := by
  show (60 * hour + 60 : Int) * 60000000 - 60 * hour * 60000000 ≤ 480 * 60000000
  omega

/-- A hold on the hour that starts at the given one. -/
def sampleHold (bookingId : Uuid) (hour : Nat) : Action Json :=
  .createBookingHold sampleUser
    { chargePointId := 3
      startsAt := minutes (60 * hour)
      endsAt := minutes (60 * hour + 60)
      endsLater := sampleHour_positive hour
      notTooLong := sampleHour_short hour } bookingId 0

/-- Two neighbouring hours and one hour that is taken: the third hold is refused. -/
theorem no_double_booking_sample :
    (sampleWorld.run sampleEnv [sampleHold 20 1, sampleHold 21 2, sampleHold 22 1]).db.bookings.rows.map
        Booking.id = [20, 21] ∧
      (sampleWorld.run sampleEnv
        [sampleHold 20 1, sampleHold 21 2, sampleHold 22 1]).db.preventOverlappingBookings :=
  ⟨by decide +kernel, (no_double_booking sampleEnv (sampleWorld_reachable _)).1⟩

/-- A cancelled booking outlives the next sweep of lapsed holds. -/
theorem booking_lifecycle_sample :
    ((sampleWorld.run sampleEnv [sampleHold 20 1, .requestCancellation 50 10 20 1 60 0 0 0]).run
      sampleEnv [.expireStaleBookingHolds (minutes 90) 100 []]).db.bookings.find 20 =
    (sampleWorld.run sampleEnv
      [sampleHold 20 1, .requestCancellation 50 10 20 1 60 0 0 0]).db.bookings.find 20 := by
  have hstatus : ((sampleWorld.run sampleEnv [sampleHold 20 1,
      .requestCancellation 50 10 20 1 60 0 0 0]).db.bookings.find 20).map Booking.status =
      some .cancelled := by decide +kernel
  obtain ⟨b, hb, hcancelled⟩ := Option.map_eq_some_iff.mp hstatus
  rw [hb]
  exact (booking_lifecycle sampleEnv (sampleWorld_reachable _)).2.1
    [.expireStaleBookingHolds (minutes 90) 100 []] 20 b hb (by rw [hcancelled]; rfl)

end ChargeMate
