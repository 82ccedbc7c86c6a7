import ChargeMate.LedgerBookings

/-! Charging sessions along moves: a booking in use has one session, in step with it, and a charger
serves one session at a time. Only `start` and `complete` write sessions or put a booking to use. -/

namespace ChargeMate

open Relational

/-- A booking that its customer has come for. -/
def Booking.InUse (b : Booking) : Prop := b.status = .active ∨ b.status = .completed

/-- A session and its booking in step. -/
structure ChargingSession.Uses (s : ChargingSession) (b : Booking) : Prop where
  bookingId : s.bookingId = b.id
  userId : s.userId = b.userId
  chargePointId : s.chargePointId = b.chargePointId
  status : (s.status = .active ∧ b.status = .active) ∨ (s.status = .completed ∧ b.status = .completed)

structure Ledger.SessionsSound (L : Ledger) : Prop where
  uses : ∀ id s, L.sessions id = some s → ∃ b, L.bookings b.id = some b ∧ s.Uses b
  used : ∀ id b, L.bookings id = some b → b.InUse → ∃ s, L.sessions s.id = some s ∧ s.Uses b
  single : L.sessions.Unique fun s => some s.bookingId
  idle : ∀ i j s t, L.sessions i = some s → L.sessions j = some t → s.status = .active →
    t.status = .active → s.chargePointId = t.chargePointId → i = j

theorem ChargingSession.Uses.inUse {s : ChargingSession} {b : Booking} (h : s.Uses b) : b.InUse := by
  rcases h.status with ⟨_, hb⟩ | ⟨_, hb⟩
  · exact Or.inl hb
  · exact Or.inr hb

theorem ChargingSession.Uses.active_iff {s : ChargingSession} {b : Booking} (h : s.Uses b) :
    s.status = .active ↔ b.status = .active := by
  rcases h.status with ⟨hs, hb⟩ | ⟨hs, hb⟩ <;> simp [hs, hb]

theorem ChargingSession.Uses.completed_iff {s : ChargingSession} {b : Booking} (h : s.Uses b) :
    s.status = .completed ↔ b.status = .completed := by
  rcases h.status with ⟨hs, hb⟩ | ⟨hs, hb⟩ <;> simp [hs, hb]

/-- What a move does to sessions: nothing, and then it leaves the bookings in use alone, or it is a
start or a completion. -/
theorem Move.sessions_cases {c : Cause} {L L' : Ledger} (h : Move L c L') :
    (L'.sessions = L.sessions ∧
      ∀ id b, L'.bookings id = some b → b.InUse → L.bookings id = some b) ∨
    (∃ b s, L'.bookings = L.bookings.put (b.advance .active) ∧ L'.sessions = L.sessions.put s ∧
      L.bookings b.id = some b ∧ b.status = .confirmed ∧ L.sessions s.id = none ∧
      s.Uses (b.advance .active) ∧ s.status = .active ∧
      (∀ id t, L.sessions id = some t → t.bookingId ≠ b.id) ∧
      ∀ id t, L.sessions id = some t → t.status = .active → t.chargePointId ≠ b.chargePointId) ∨
    ∃ b s s', L'.bookings = L.bookings.put (b.advance .completed) ∧
      L'.sessions = L.sessions.put s' ∧ L.bookings b.id = some b ∧ b.status = .active ∧
      L.sessions s.id = some s ∧ s.bookingId = b.id ∧ s'.id = s.id ∧ s'.bookingId = s.bookingId ∧
      s'.userId = s.userId ∧ s'.chargePointId = s.chargePointId ∧ s'.status = .completed := by
  have hput : ∀ {d : Booking}, ¬d.InUse → ∀ id b, (L.bookings.put d) id = some b → b.InUse →
      L.bookings id = some b := by
    intro d hd id b hb huse
    rcases Register.of_put hb with ⟨_, rfl⟩ | hold
    · exact absurd huse hd
    · exact hold
  have hexp : ∀ (among : Booking → Bool) (now : Timestamp) id b,
      (L.expire among now).bookings id = some b → b.InUse → L.bookings id = some b := by
    intro among now id b hb huse
    obtain ⟨d, hd, rfl⟩ := Option.map_eq_some_iff.mp hb
    by_cases hl : (among d && d.holdLapsed now) = true
    · rw [if_pos hl] at huse
      rcases huse with hs | hs <;> simp at hs
    · rw [if_neg hl]
      exact hd
  have hrel : ∀ {d : Booking} {k : Uuid} (now : Timestamp), L.bookings k = some d →
      ∀ id b, (L.bookings.put (d.release now)) id = some b → b.InUse → L.bookings id = some b := by
    intro d k now hd
    rcases d.release_cases now with ⟨_, heq⟩ | ⟨_, heq⟩
    · rw [heq, Register.put_of_get hd]
      exact fun _ _ hb _ => hb
    · rw [heq]
      refine hput ?_
      rcases d.releasedStatus_cases now with hr | hr <;> simp [Booking.InUse, Booking.advance, hr]
  cases h with
  | stay | orderCreated | orderRefused | authorize | pin | mismatch | captureAgain | captureLate
  | refundChange | refundProcess => exact Or.inl ⟨rfl, fun _ _ hb _ => hb⟩
  | expire among now => exact Or.inl ⟨rfl, hexp among now⟩
  | hold among now d hnew hfresh =>
      refine Or.inl ⟨rfl, fun id b hb huse => ?_⟩
      rcases Register.of_put hb with ⟨_, rfl⟩ | hold
      · rcases huse with hs | hs <;> simp [hfresh.status] at hs
      · exact hexp among now id b hold huse
  | begin d => exact Or.inl ⟨rfl, hput (by simp [Booking.InUse, Booking.advance])⟩
  | compensate p d now hp hd => exact Or.inl ⟨rfl, hrel now hd⟩
  | fail p d paymentId now hp hd => exact Or.inl ⟨rfl, hrel now hd⟩
  | confirm p d => exact Or.inl ⟨rfl, hput (by simp [Booking.InUse, Booking.advance])⟩
  | cancel d now => exact Or.inl ⟨rfl, hput (by simp [Booking.InUse, Booking.cancel])⟩
  | cancelRefund d p r now => exact Or.inl ⟨rfl, hput (by simp [Booking.InUse, Booking.cancel])⟩
  | start b s hb hconfirmed hnew hactive hbooking huser hcharge hversion hfirst hidle =>
      exact Or.inr (Or.inl ⟨b, s, rfl, rfl, hb, hconfirmed, hnew,
        ⟨hbooking, huser, hcharge, Or.inl ⟨hactive, rfl⟩⟩, hactive, hfirst, hidle⟩)
  | complete b s s' hb hactive hs hsactive hbooking hid hsbooking huser hcharge hcompleted =>
      exact Or.inr (Or.inr ⟨b, s, s', rfl, rfl, hb, hactive, hs, hbooking, hid, hsbooking, huser,
        hcharge, hcompleted⟩)

/-- A booking in use that a move without sessions finds is left as it is. -/
theorem Move.inUse_kept {c : Cause} {L L' : Ledger} (h : Move L c L')
    (hsame : ∀ id b, L'.bookings id = some b → b.InUse → L.bookings id = some b) {id : Uuid}
    {b : Booking} (hb : L.bookings id = some b) (huse : b.InUse) : L'.bookings id = some b := by
  obtain ⟨b', hb', rfl | hadv⟩ := h.booking_next hb
  · exact hb'
  · have hused : b'.InUse := by
      have hedge := hadv.edge
      rcases huse with hs | hs <;> rw [hs] at hedge <;>
        simp only [BookingStatus.successors, List.mem_cons, List.not_mem_nil, or_false] at hedge
      exact Or.inr hedge
    have heq := hsame id b' hb' hused
    rw [hb] at heq
    cases heq
    exact hb'

/-- The session of a booking that a move advances to another status in use. -/
theorem Ledger.SessionsSound.uses_put {L : Ledger} {b b' : Booking} (hid : b'.id = b.id)
    {s : ChargingSession} (hs : s.bookingId ≠ b.id)
    (huses : ∃ d, L.bookings d.id = some d ∧ s.Uses d) :
    ∃ d, (L.bookings.put b') d.id = some d ∧ s.Uses d := by
  obtain ⟨d, hd, huses⟩ := huses
  refine ⟨d, ?_, huses⟩
  rw [Register.get_put, if_neg, hd]
  rw [Booking.key_eq, hid, ← huses.bookingId]
  exact hs.symm

theorem Move.sessionsSound {c : Cause} {L L' : Ledger} (h : Move L c L') (hS : L.SessionsSound) :
    L'.SessionsSound := by
  rcases h.sessions_cases with ⟨hsessions, hsame⟩ |
    ⟨b, s, hbookings, hsessions, hb, hconfirmed, hnew, huses, hactive, hfirst, hidle⟩ |
    ⟨b, s, s', hbookings, hsessions, hb, hactive, hs, hbooking, hid, hsbooking, huser, hcharge,
      hcompleted⟩
  · refine ⟨?_, ?_, ?_, ?_⟩ <;> rw [hsessions]
    · intro id s hs
      obtain ⟨b, hb, huses⟩ := hS.uses id s hs
      exact ⟨b, h.inUse_kept hsame hb huses.inUse, huses⟩
    · intro id b hb huse
      exact hS.used id b (hsame id b hb huse) huse
    · exact hS.single
    · exact hS.idle
  · refine ⟨?_, ?_, ?_, ?_⟩ <;> rw [hsessions]
    · intro id t ht
      rw [hbookings]
      rcases Register.of_put ht with ⟨_, rfl⟩ | ht
      · exact ⟨b.advance .active, by simp, huses⟩
      · exact Ledger.SessionsSound.uses_put rfl (hfirst id t ht) (hS.uses id t ht)
    · intro id d hd huse
      rw [hbookings] at hd
      rcases Register.of_put hd with ⟨_, rfl⟩ | hd
      · exact ⟨s, by simp, huses⟩
      · obtain ⟨t, ht, htuses⟩ := hS.used id d hd huse
        exact ⟨t, Register.put_of_new hnew ht, htuses⟩
    · refine hS.single.put ?_
      intro v k t hv ht htv
      cases hv
      exact absurd (Option.some.inj htv) (huses.bookingId ▸ hfirst k t ht)
    · intro i j t u ht hu htactive huactive hpoint
      rcases Register.of_put ht with ⟨hi, hts⟩ | ht <;> rcases Register.of_put hu with ⟨hj, hus⟩ | hu
      · exact hi.symm.trans hj
      · rw [hts, huses.chargePointId] at hpoint
        exact absurd hpoint.symm (hidle j u hu huactive)
      · rw [hus, huses.chargePointId] at hpoint
        exact absurd hpoint (hidle i t ht htactive)
      · exact hS.idle i j t u ht hu htactive huactive hpoint
  · have hother : ∀ {k : Uuid} {t : ChargingSession}, L.sessions k = some t → t.bookingId = b.id →
        k = s.id := fun {k t} ht htb => hS.single k s.id t s b.id ht hs (congrArg some htb)
          (congrArg some hbooking)
    obtain ⟨d, hd, hsuses⟩ := hS.uses s.id s hs
    rw [← hsuses.bookingId, hbooking, hb] at hd
    cases hd
    have huses : s'.Uses (b.advance .completed) :=
      ⟨hsbooking.trans hsuses.bookingId, huser.trans hsuses.userId,
        hcharge.trans hsuses.chargePointId, Or.inr ⟨hcompleted, rfl⟩⟩
    refine ⟨?_, ?_, ?_, ?_⟩ <;> rw [hsessions]
    · intro id t ht
      rw [hbookings]
      rcases Register.put_cases ht with ⟨_, rfl⟩ | ⟨hk, ht⟩
      · exact ⟨b.advance .completed, by simp, huses⟩
      · refine Ledger.SessionsSound.uses_put rfl (fun htb => hk ?_) (hS.uses id t ht)
        rw [hother ht htb, ChargingSession.key_eq, hid]
    · intro id e he huse
      rw [hbookings] at he
      rcases Register.put_cases he with ⟨_, rfl⟩ | ⟨hk, he⟩
      · exact ⟨s', by simp, huses⟩
      · obtain ⟨t, ht, htuses⟩ := hS.used id e he huse
        refine ⟨t, ?_, htuses⟩
        rw [Register.get_put, if_neg, ht]
        intro hts
        rw [← hts, ChargingSession.key_eq, hid, hs] at ht
        cases ht
        have heb : e.id = b.id := htuses.bookingId.symm.trans hbooking
        exact hk (heb.symm.trans (Register.key_eq he))
    · refine hS.single.put ?_
      intro v k t hv ht htv
      rw [ChargingSession.key_eq, hid]
      refine hother ht ?_
      cases hv
      rw [Option.some.inj htv, huses.bookingId]
      rfl
    · intro i j t u ht hu htactive huactive hpoint
      have hold : ∀ {k : Uuid} {x : ChargingSession}, (L.sessions.put s') k = some x →
          x.status = .active → L.sessions k = some x := by
        intro k x hx hxactive
        rcases Register.of_put hx with ⟨_, rfl⟩ | hx
        · rw [hcompleted] at hxactive
          cases hxactive
        · exact hx
      exact hS.idle i j t u (hold ht htactive) (hold hu huactive) htactive huactive hpoint

end ChargeMate
