import Mathlib.Tactic.Linarith
import Mathlib.Tactic.Positivity
import ChargeMate.LedgerSessions
import ChargeMate.RefineFrames
import ChargeMate.SafetyWebhooks

/-! Charging sessions in every run: in step with their bookings, one at a time on each charger, and
metered exactly. -/

namespace ChargeMate

open Relational

/-! ### Meters -/

/-- The difference of two values of a column is one too, unless it is negative. -/
theorem Numeric.sub {precision scale : Nat} {x y : Decimal} (hx : Numeric precision scale x)
    (hy : Numeric precision scale y) (hnonneg : 0 ≤ y) (hle : y ≤ x) :
    Numeric precision scale (x - y) := by
  have hpos : (0 : Rat) < 10 ^ (precision - scale) := by positivity
  refine ⟨?_, by linarith [hx.2.1], by linarith [hx.2.2]⟩
  have hxn : ((x * 10 ^ scale).num : Rat) = x * 10 ^ scale := (Rat.den_eq_one_iff _).mp hx.1
  have hyn : ((y * 10 ^ scale).num : Rat) = y * 10 ^ scale := (Rat.den_eq_one_iff _).mp hy.1
  rw [sub_mul, ← hxn, ← hyn, ← Int.cast_sub]
  exact Rat.den_intCast _

/-- The meter columns of a session: nothing is consumed while it is active, and the exact
difference of the readings once it is completed. -/
structure ChargingSession.Metered (s : ChargingSession) : Prop where
  nonneg : 0 ≤ s.meterStartKwh
  fits : Numeric 12 3 s.meterStartKwh
  active : s.status = .active → s.meterEndKwh = none ∧ s.energyConsumedKwh = none
  completed : s.status = .completed → ∃ e, s.meterEndKwh = some e ∧
    s.energyConsumedKwh = some (e - s.meterStartKwh) ∧ s.meterStartKwh ≤ e ∧ Numeric 12 3 e

theorem StartChargingSessionRequest.metered_session (payload : StartChargingSessionRequest)
    (b : Booking) (sessionId : Uuid) (now : Timestamp) :
    (payload.session b sessionId now).Metered where
  nonneg := payload.nonNegativeMeterStart
  fits := payload.meterStartFits
  active _ := ⟨rfl, rfl⟩
  completed h := by cases h

theorem ChargingSession.Metered.complete {s : ChargingSession} (h : s.Metered)
    {payload : CompleteChargingSessionRequest} (hle : s.meterStartKwh ≤ payload.meterEndKwh)
    (now : Timestamp) : (s.complete payload.meterEndKwh now).Metered where
  nonneg := h.nonneg
  fits := h.fits
  active hs := by cases hs
  completed _ := ⟨payload.meterEndKwh, rfl, rfl, hle, payload.meterEndFits⟩

def Database.Metered (db : Database) : Prop := ∀ s ∈ db.chargingSessions, s.Metered

theorem Database.Metered.start {db : Database} (h : db.Metered) (operator : User)
    (payload : StartChargingSessionRequest) (sessionId : Uuid) (now : Timestamp) :
    (startChargingSession operator payload sessionId now db).2.Metered := by
  rcases startChargingSession_commits operator payload sessionId now db with heq | ⟨_, hok⟩
  · rwa [heq]
  · obtain ⟨b, _, _, _, _, _, _, _, _, rfl, hins⟩ := startChargingSession_eq_ok.mp hok
    obtain ⟨_, _, t, hins, hdb⟩ := Database.insertChargingSession_eq_ok.mp hins
    rw [hdb]
    intro s hs
    rcases (Table.mem_insert hins).mp hs with hold | rfl
    · exact h s hold
    · exact payload.metered_session b sessionId now

theorem Database.Metered.complete {db : Database} (h : db.Metered) (operator : User)
    (sessionId : Uuid) (payload : CompleteChargingSessionRequest) (now : Timestamp) :
    (completeChargingSession operator sessionId payload now db).2.Metered := by
  rcases completeChargingSession_commits operator sessionId payload now db with heq | ⟨_, hok⟩
  · rwa [heq]
  · obtain ⟨s, b, _, db₁, hs, _, _, hle, _, _, _, _, rfl, hupd, hdb⟩ :=
      completeChargingSession_eq_ok.mp hok
    obtain rfl := Database.updateChargingSession_ok hupd
    rw [hdb]
    intro t ht
    have hsid : db.chargingSessions.find s.id = some s := Database.find_session_id hs
    rcases (Table.mem_set (r := s.complete payload.meterEndKwh now) hsid).mp ht with rfl | ⟨ht, _⟩
    · exact (h s (Table.mem_of_find hs)).complete hle now
    · exact h t ht

section

variable {Body : Type} {env : Env Body}

theorem World.step_metered {w : World} (h : w.db.Metered) (a : Action Body) :
    (w.step env a).db.Metered := by
  by_cases hplain : a.Plain
  · rw [Database.Metered, (w.step_spares env hplain).chargingSessions]
    exact h
  · cases a with
    | storeDelivery deliveryId eventRowId now =>
        simp only [World.step, World.storeDelivery]
        split
        · next id d _ =>
          rcases storeDelivery_events d eventRowId now w.db with
            ⟨_, heq⟩ | ⟨_, _, _, _, hsessions, _⟩
          · rwa [heq]
          · rw [Database.Metered, hsessions]
            exact h
        · exact h
    | startChargingSession operator payload sessionId now =>
        exact h.start operator payload sessionId now
    | completeChargingSession operator sessionId payload now =>
        exact h.complete operator sessionId payload now
    | _ => exact absurd trivial hplain

theorem World.Reachable.metered {w : World} (h : w.Reachable env) : w.db.Metered := by
  refine Transition.Reachable.invariant (P := fun w : World => w.db.Metered) ?_ ?_ h
  · intro w hinit
    rw [Database.Metered, hinit.chargingSessions]
    exact fun s hs => absurd hs (Table.notMem_empty s)
  · exact fun w a _ hw => World.step_metered hw a

theorem World.Reachable.sessionsSound {w : World} (h : w.Reachable env) :
    w.db.ledger.SessionsSound := by
  refine Transition.Reachable.invariant (P := fun w : World => w.db.ledger.SessionsSound) ?_ ?_ h
  · intro w hinit
    have hnone : ∀ id s, w.db.ledger.sessions id ≠ some s := by simp [hinit.chargingSessions]
    refine ⟨?_, ?_, ?_, ?_⟩
    · exact fun id s hs => absurd hs (hnone id s)
    · intro id b hb
      simp [hinit.bookings] at hb
    · exact fun i j s t v hs => absurd hs (hnone i s)
    · exact fun i j s t hs => absurd hs (hnone i s)
  · intro w a hreach hw
    obtain ⟨c, _, hmove⟩ := World.Reachable.move hreach a
    exact hmove.sessionsSound hw

end

/-! ### Lockstep -/

/-- A completion that finds its session and its booking active meets no conflict. -/
theorem completeChargingSession_ne_conflict (operator : User) {sessionId : Uuid}
    {payload : CompleteChargingSessionRequest} (now : Timestamp) {db : Database}
    {s : ChargingSession} {b : Booking} (hs : db.chargingSessions.find sessionId = some s)
    (hactive : s.status = .active) (hversion : s.version = payload.version)
    (hb : db.bookings.find s.bookingId = some b) (hbactive : b.status = .active) :
    (completeChargingSession operator sessionId payload now db).1 ≠
      .error .chargingSessionStateConflictError := by
  intro h
  rcases raised_of_transaction h with hr | hblock
  · cases hr
  · simp [-bind_pure_comp, hs, hactive, hversion, hb, hbactive,
      Database.updateChargingSession] at hblock

/-- The session of a booking in use is the one whose status is the booking's. -/
theorem Ledger.SessionsSound.status_iff {db : Database} (h : db.ledger.SessionsSound) {b : Booking}
    (hb : b ∈ db.bookings) :
    (b.status = .active ↔ ∃ s ∈ db.chargingSessions, s.bookingId = b.id ∧ s.status = .active) ∧
    (b.status = .completed ↔
      ∃ s ∈ db.chargingSessions, s.bookingId = b.id ∧ s.status = .completed) := by
  have hbid : db.bookings.find b.id = some b := Table.find_key hb
  have hof : ∀ s ∈ db.chargingSessions, s.bookingId = b.id → s.Uses b := by
    intro s hs hbooking
    obtain ⟨d, hd, huses⟩ := h.uses s.id s (Table.find_key hs)
    rw [← huses.bookingId, hbooking, Database.bookings_ledger, hbid] at hd
    cases hd
    exact huses
  have hused : b.InUse → ∃ s ∈ db.chargingSessions, s.Uses b := by
    intro huse
    obtain ⟨s, hs, huses⟩ := h.used b.id b hbid huse
    exact ⟨s, Table.mem_of_find hs, huses⟩
  constructor
  · constructor
    · intro hactive
      obtain ⟨s, hs, huses⟩ := hused (Or.inl hactive)
      exact ⟨s, hs, huses.bookingId, huses.active_iff.mpr hactive⟩
    · rintro ⟨s, hs, hbooking, hsactive⟩
      exact (hof s hs hbooking).active_iff.mp hsactive
  · constructor
    · intro hcompleted
      obtain ⟨s, hs, huses⟩ := hused (Or.inr hcompleted)
      exact ⟨s, hs, huses.bookingId, huses.completed_iff.mpr hcompleted⟩
    · rintro ⟨s, hs, hbooking, hscompleted⟩
      exact (hof s hs hbooking).completed_iff.mp hscompleted

/-- Charging sessions and bookings move in lockstep, and so a completion that finds its session
active in the expected version finds the booking active too. -/
theorem sessions_lockstep {Body : Type} (env : Env Body) {w : World} (h : w.Reachable env) :
    (∀ s ∈ w.db.chargingSessions, ∀ t ∈ w.db.chargingSessions, s.status = .active →
      t.status = .active → s.chargePointId = t.chargePointId → s = t) ∧
    (∀ b ∈ w.db.bookings,
      (b.status = .active ↔
        ∃ s ∈ w.db.chargingSessions, s.bookingId = b.id ∧ s.status = .active) ∧
      (b.status = .completed ↔
        ∃ s ∈ w.db.chargingSessions, s.bookingId = b.id ∧ s.status = .completed) ∧
      (b.status ≠ .active → b.status ≠ .completed →
        ∀ s ∈ w.db.chargingSessions, s.bookingId ≠ b.id)) ∧
    (∀ s ∈ w.db.chargingSessions, ∃ b ∈ w.db.bookings, b.id = s.bookingId ∧
      s.userId = b.userId ∧ s.chargePointId = b.chargePointId) ∧
    (∀ s ∈ w.db.chargingSessions, s.status = .completed → ∃ meterEnd energy,
      s.meterEndKwh = some meterEnd ∧ s.energyConsumedKwh = some energy ∧
      energy = meterEnd - s.meterStartKwh ∧ 0 ≤ energy ∧ Numeric 12 3 s.meterStartKwh ∧
      Numeric 12 3 meterEnd ∧ Numeric 12 3 energy) ∧
    ∀ sessionId s, w.db.chargingSessions.find sessionId = some s → s.status = .active →
      (∃ b, w.db.bookings.find s.bookingId = some b ∧ b.status = .active) ∧
      ∀ operator payload now, s.version = payload.version →
        (completeChargingSession operator sessionId payload now w.db).1 ≠
          .error .chargingSessionStateConflictError := by
  have hsound := h.sessionsSound
  have hsingle : ∀ s ∈ w.db.chargingSessions, ∃ b, w.db.bookings.find s.bookingId = some b ∧
      s.Uses b := by
    intro s hs
    obtain ⟨b, hb, huses⟩ := hsound.uses s.id s (Table.find_key hs)
    exact ⟨b, huses.bookingId ▸ hb, huses⟩
  refine ⟨?_, ?_, ?_, ?_, ?_⟩
  · intro s hs t ht hsactive htactive hpoint
    exact Table.eq_of_key_eq hs ht
      (hsound.idle s.id t.id s t (Table.find_key hs) (Table.find_key ht) hsactive htactive hpoint)
  · intro b hb
    obtain ⟨hactive, hcompleted⟩ := hsound.status_iff hb
    refine ⟨hactive, hcompleted, ?_⟩
    intro hna hnc s hs hbooking
    obtain ⟨d, hd, huses⟩ := hsingle s hs
    rw [hbooking, show w.db.bookings.find b.id = some b from Table.find_key hb] at hd
    cases hd
    rcases huses.inUse with hu | hu
    · exact hna hu
    · exact hnc hu
  · intro s hs
    obtain ⟨b, hb, huses⟩ := hsingle s hs
    exact ⟨b, Table.mem_of_find hb, huses.bookingId.symm, huses.userId, huses.chargePointId⟩
  · intro s hs hcompleted
    have hmetered := h.metered s hs
    obtain ⟨e, hend, henergy, hle, hfits⟩ := hmetered.completed hcompleted
    exact ⟨e, e - s.meterStartKwh, hend, henergy, rfl, sub_nonneg.mpr hle, hmetered.fits, hfits,
      hfits.sub hmetered.fits hmetered.nonneg hle⟩
  · intro sessionId s hs hactive
    obtain ⟨b, hb, huses⟩ := hsingle s (Table.mem_of_find hs)
    have hbactive := huses.active_iff.mp hactive
    refine ⟨⟨b, hb, hbactive⟩, fun operator payload now hversion => ?_⟩
    exact completeChargingSession_ne_conflict operator now hs hactive hversion hb hbactive

def sampleOperator : User := ⟨1, .systemAdmin⟩

theorem sampleReading_fits : Numeric 12 3 100 := by decide +kernel

/-- The confirmed booking is used, and 12.5 kWh are consumed. -/
def sampleUsage : List (Action Json) :=
  sampleConfirmed ++
    [.startChargingSession sampleOperator
      { bookingId := 20
        bookingVersion := 3
        meterStartKwh := 100
        nonNegativeMeterStart := sampleFee_nonneg
        meterStartFits := sampleReading_fits } 70 (minutes 60),
    .completeChargingSession sampleOperator 70
      { version := 1
        meterEndKwh := 225 / 2
        nonNegativeMeterEnd := by decide +kernel
        meterEndFits := by decide +kernel } (minutes 90)]

theorem sessions_lockstep_sample :
    ∃ s ∈ (sampleWorld.run sampleEnv sampleUsage).db.chargingSessions,
      s.energyConsumedKwh = some (225 / 2 - 100) := by
  have hrow : ∃ s ∈ (sampleWorld.run sampleEnv sampleUsage).db.chargingSessions,
      s.status = .completed ∧ s.meterStartKwh = 100 ∧ s.meterEndKwh = some (225 / 2) := by
    decide +kernel
  obtain ⟨s, hs, hcompleted, hstart, hend⟩ := hrow
  obtain ⟨e, energy, he, henergy, hexact, _⟩ :=
    (sessions_lockstep sampleEnv (sampleWorld_reachable _)).2.2.2.1 s hs hcompleted
  rw [hend] at he
  cases he
  exact ⟨s, hs, by rw [henergy, hexact, hstart]⟩

end ChargeMate
