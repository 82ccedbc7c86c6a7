import ChargeMate.RefineFrames
import ChargeMate.SafetyHolds

/-! Where bookings are. Charge points and stations are never deleted, no charge point moves to another
station and no station changes its owner; every booking is at a charge point of a station. -/

namespace ChargeMate

open Relational

theorem apart_places : Database.Apart fun db => (db.stations, db.chargePoints) :=
  ⟨fun _ _ => rfl, fun _ _ => rfl, fun _ _ => rfl⟩

section

variable {Body : Type} (env : Env Body)

/-- Only the edits of operators write stations and charge points. -/
theorem World.step_places (w : World) {a : Action Body} (hedits : ¬a.EditsStation) :
    ((w.step env a).db.stations, (w.step env a).db.chargePoints) =
      (w.db.stations, w.db.chargePoints) := by
  by_cases hholds : a.Holds
  · cases a with
    | createBookingHold user payload bookingId now =>
        exact apart_places.respected.createBookingHold _ user payload bookingId now w.db
    | _ => exact hholds.elim
  · exact w.step_preserved_unedited env apart_places.respected.preserved (fun _ _ _ => rfl) hholds
      hedits

theorem World.station_kept (w : World) (a : Action Body) {id : Uuid} {station : ChargingStation}
    (hstation : w.db.stations.find id = some station) :
    ∃ station', (w.step env a).db.stations.find id = some station' ∧
      station'.ownerId = station.ownerId := by
  by_cases hedits : a.EditsStation
  · cases a with
    | createStation owner payload stationId pointIds =>
        exact ⟨station, (createStation_find owner payload stationId pointIds w.db).1 id station
          hstation, rfl⟩
    | updateStation operator stationId payload =>
        rw [World.step]
        rcases updateStation_commits operator stationId payload w.db with heq | ⟨_, hok⟩
        · exact ⟨station, by rwa [heq], rfl⟩
        · obtain ⟨old, hold, _, _, _, _, hdb⟩ := updateStation_eq_ok.mp hok
          have hkey : w.db.stations.find (key (old.patch payload)) = some old :=
            Table.find_key (Table.mem_of_find hold)
          rw [hdb]
          rcases Table.find_set_of_find hkey hstation with ⟨hnew, rfl⟩ | hsame
          · exact ⟨_, hnew, rfl⟩
          · exact ⟨station, hsame, rfl⟩
    | updateChargePoint operator stationId chargePointId payload =>
        obtain ⟨chargePoints, heq⟩ :=
          updateChargePoint_kept operator stationId chargePointId payload w.db
        exact ⟨station, by rw [World.step, heq]; exact hstation, rfl⟩
    | _ => exact hedits.elim
  · obtain ⟨hstations, _⟩ := Prod.mk.inj (w.step_places env hedits)
    exact ⟨station, by rwa [hstations], rfl⟩

theorem World.point_kept (w : World) (a : Action Body) {id : Uuid} {point : ChargePoint}
    (hpoint : w.db.chargePoints.find id = some point) :
    ∃ point', (w.step env a).db.chargePoints.find id = some point' ∧
      point'.stationId = point.stationId := by
  by_cases hedits : a.EditsStation
  · cases a with
    | createStation owner payload stationId pointIds =>
        exact ⟨point, (createStation_find owner payload stationId pointIds w.db).2 id point hpoint,
          rfl⟩
    | updateStation operator stationId payload =>
        obtain ⟨stations, heq⟩ := updateStation_kept operator stationId payload w.db
        exact ⟨point, by rw [World.step, heq]; exact hpoint, rfl⟩
    | updateChargePoint operator stationId chargePointId payload =>
        rw [World.step]
        rcases updateChargePoint_commits operator stationId chargePointId payload w.db with
          heq | ⟨_, hok⟩
        · exact ⟨point, by rwa [heq], rfl⟩
        · obtain ⟨_, old, _, _, hold, _, _, _, _, hdb⟩ := updateChargePoint_eq_ok.mp hok
          have hkey : w.db.chargePoints.find (key (old.patch payload)) = some old :=
            Table.find_key (Table.mem_of_find hold)
          rw [hdb]
          rcases Table.find_set_of_find hkey hpoint with ⟨hnew, rfl⟩ | hsame
          · exact ⟨_, hnew, rfl⟩
          · exact ⟨point, hsame, rfl⟩
    | _ => exact hedits.elim
  · obtain ⟨_, hpoints⟩ := Prod.mk.inj (w.step_places env hedits)
    exact ⟨point, by rwa [hpoints], rfl⟩

theorem World.point_run (w : World) (actions : List (Action Body)) {id : Uuid} {point : ChargePoint}
    (hpoint : w.db.chargePoints.find id = some point) :
    ∃ point', (w.run env actions).db.chargePoints.find id = some point' ∧
      point'.stationId = point.stationId := by
  induction actions generalizing w point with
  | nil => exact ⟨point, hpoint, rfl⟩
  | cons a actions ih =>
      obtain ⟨next, hnext, hsame⟩ := w.point_kept env a hpoint
      obtain ⟨point', hpoint', hlater⟩ := ih (w.step env a) hnext
      exact ⟨point', hpoint', hlater.trans hsame⟩

end

/-- The charge point is found, and so is its station. -/
def Database.Located (db : Database) (chargePointId : Uuid) : Prop :=
  ∃ point station, db.chargePoints.find chargePointId = some point ∧
    db.stations.find point.stationId = some station

theorem Database.Located.congr {db db' : Database} {chargePointId : Uuid}
    (h : db.Located chargePointId)
    (hkept : (db'.stations, db'.chargePoints) = (db.stations, db.chargePoints)) :
    db'.Located chargePointId := by
  obtain ⟨hstations, hpoints⟩ := Prod.mk.inj hkept
  obtain ⟨point, station, hpoint, hstation⟩ := h
  exact ⟨point, station, hpoints ▸ hpoint, hstations ▸ hstation⟩

section

variable {Body : Type} {env : Env Body}

theorem Database.Located.step {w : World} {id : Uuid} (h : w.db.Located id) (a : Action Body) :
    (w.step env a).db.Located id := by
  obtain ⟨point, station, hpoint, hstation⟩ := h
  obtain ⟨point', hpoint', hsame⟩ := w.point_kept env a hpoint
  obtain ⟨station', hstation', _⟩ := w.station_kept env a hstation
  exact ⟨point', station', hpoint', by rwa [hsame]⟩

theorem preserved_bookingIds : Database.Preserved fun db db' =>
    db'.bookings.rows.map key = db.bookings.rows.map key where
  refl _ := rfl
  trans h₁ h₂ := h₂.trans h₁
  updateBooking db b := db.bookings.map_key_set b
  expireHolds among now db := db.bookings.map_key_updateWhere _ Booking.expire fun _ => rfl
  insertPayment _ _ hins := by
    obtain ⟨_, t, _, rfl⟩ := Database.insertPayment_ok hins
    rfl
  updatePayment hupd := by
    obtain ⟨_, rfl⟩ := Database.updatePayment_eq_ok.mp hupd
    rfl
  insertRefund _ hins := by
    obtain ⟨_, t, _, rfl⟩ := Database.insertRefund_ok hins
    rfl
  updateRefund hupd := by
    obtain ⟨_, rfl⟩ := Database.updateRefund_eq_ok.mp hupd
    rfl

/-- Every booking is at a charge point of a station. -/
def Database.Placed (db : Database) : Prop := ∀ b ∈ db.bookings, db.Located b.chargePointId

theorem Database.Placed.createBookingHold {db : Database} (h : db.Placed) (holdMinutes : Int)
    (user : User) (payload : BookingHoldRequest) (bookingId : Uuid) (now : Timestamp) :
    (createBookingHold holdMinutes user payload bookingId now db).2.Placed := by
  have hplaces := apart_places.respected.createBookingHold holdMinutes user payload bookingId now db
  rcases createBookingHold_commits holdMinutes user payload bookingId now db with heq | ⟨b, hok⟩
  · rwa [heq]
  obtain ⟨_, point, hpoint, haccepts, _, rfl, _⟩ := createBookingHold_eq_ok.mp hok
  obtain ⟨_, _, _, hrows, _⟩ := createBookingHold_rows hok
  intro b' hb'
  rw [Table.mem_def, hrows, List.mem_append] at hb'
  rcases hb' with hmapped | hnew
  · obtain ⟨b, hb, rfl⟩ := List.mem_map.mp hmapped
    have hlocated := (h b hb).congr hplaces
    split <;> exact hlocated
  · obtain rfl := List.mem_singleton.mp hnew
    obtain ⟨_, _, station, hstation, _⟩ := chargePointAcceptsBookings_eq_true.mp haccepts
    have hfound : db.chargePoints.find point.id = some point :=
      Table.find_key (Table.mem_of_find hpoint)
    exact Database.Located.congr ⟨point, station, hfound, hstation⟩ hplaces

theorem World.Reachable.placed {w : World} (h : w.Reachable env) : w.db.Placed := by
  refine Transition.Reachable.invariant (P := fun w : World => w.db.Placed) ?_ ?_ h
  · intro w hinit b hb
    rw [hinit.bookings] at hb
    exact absurd hb (Table.notMem_empty b)
  · intro w a hreach hw
    by_cases hholds : a.Holds
    · cases a with
      | createBookingHold user payload bookingId now =>
          exact hw.createBookingHold env.bookingHoldMinutes user payload bookingId now
      | _ => exact hholds.elim
    · intro b' hb'
      -- the booking was there, at the same charge point
      have hfind' : (w.step env a).db.bookings.find b'.id = some b' := Table.find_key hb'
      have hids := w.step_preserved_all env preserved_bookingIds (fun _ _ _ _ _ => rfl) hholds
      obtain ⟨b, hb⟩ := Table.exists_find_of_map_key hids hfind'
      obtain ⟨c, _, hmove⟩ := World.Reachable.move hreach a
      obtain ⟨b'', hb'', hterms⟩ := hmove.sameTerms hb
      obtain rfl : b'' = b' := Option.some.inj (hb''.symm.trans hfind')
      have hlocated := hw b (Table.mem_of_find hb)
      rw [← hterms.chargePointId] at hlocated
      exact hlocated.step a

end

end ChargeMate
