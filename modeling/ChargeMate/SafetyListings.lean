import Mathlib.Algebra.Order.Ring.Unbundled.Rat
import Mathlib.Data.List.Lex
import ChargeMate.FoundationPages
import ChargeMate.ModelListings
import ChargeMate.SafetyBookings

/-! Reading a listing page by page: all pages together hold every matching row once and in the
declared order. -/

namespace ChargeMate

open Relational Pages

/-- The same query for another page, numbered from zero here. -/
def BookingListQuery.onPage (query : BookingListQuery) (k : Nat) : BookingListQuery :=
  { query with page := k + 1, positivePage := Nat.le_add_left 1 k }

def ChargingSessionListQuery.onPage (query : ChargingSessionListQuery) (k : Nat) :
    ChargingSessionListQuery :=
  { query with page := k + 1, positivePage := Nat.le_add_left 1 k }

def ChargingOperationListQuery.onPage (query : ChargingOperationListQuery) (k : Nat) :
    ChargingOperationListQuery :=
  { query with page := k + 1, positivePage := Nat.le_add_left 1 k }

def OwnedStationListQuery.onPage (query : OwnedStationListQuery) (k : Nat) :
    OwnedStationListQuery :=
  { query with page := k + 1, positivePage := Nat.le_add_left 1 k }

def StationSearchQuery.onPage (query : StationSearchQuery) (k : Nat) : StationSearchQuery :=
  { query with page := k + 1, positivePage := Nat.le_add_left 1 k }

/-- The furthest page read, of those up to number `n` and those that the count announces, starts at
an offset that `OFFSET` takes. -/
def OffsetFits (n total perPage : Nat) : Prop :=
  max n (pageCount total perPage - 1) * perPage < bigintLimit

instance (n total perPage : Nat) : Decidable (OffsetFits n total perPage) :=
  inferInstanceAs (Decidable (_ < _))

/-- `OFFSET` takes the offsets of all pages that the count of so many rows announces. -/
theorem offsetFits_of_le {total perPage : Nat} (hperPage : 1 ≤ perPage)
    (htotal : total ≤ bigintLimit) : OffsetFits 0 total perPage := by
  unfold OffsetFits
  rw [Nat.zero_max]
  rcases Nat.eq_zero_or_pos (pageCount total perPage) with hnone | hsome
  · rw [hnone, Nat.zero_sub, Nat.zero_mul]
    decide
  · have hlast := mul_lt_of_lt_pageCount hperPage (Nat.sub_lt hsome Nat.one_pos)
    exact hlast.trans_le htotal

theorem pageOf_eq_ok {R : Type} {k perPage : Nat} {rows items : List R} :
    pageOf (k + 1) perPage rows = .ok items ↔
      k * perPage < bigintLimit ∧ items = slice perPage k rows := by
  simp only [pageOf, bind_eq_ok, ensure_eq_ok, pure_eq_ok, exists_const, Nat.add_sub_cancel]
  exact and_congr_right fun _ => eq_comm

/-- Rows in a declared order: by a sort key, and by identifier where the sort key ties. -/
def sortedBy {R α : Type} [LT α] [Keyed R Uuid] (f : R → α) (a b : R) : Prop :=
  f a < f b ∨ f a = f b ∧ key a < key b

section

variable {R α : Type} [LinearOrder α] [Keyed R Uuid]

theorem nodup_map_toNat_key (t : Table R) (p : R → Bool) :
    ((t.rows.filter p).map fun r => (key r).toNat).Nodup := by
  have hkeys : ((t.rows.filter p).map key).Nodup :=
    t.nodup_keys.sublist (List.filter_sublist.map key)
  have hvalues := hkeys.map fun _ _ => BitVec.eq_of_toNat_eq
  rwa [List.map_map] at hvalues

/-- Every listing of the services is this one: rows of a table under a filter, sorted by a key and
by identifier, read by statements whose parameters the database takes if `c` holds. -/
theorem paginated_filter (f : R → α) (le : R → R → Bool) (t : Table R) (p : R → Bool)
    {n perPage : Nat} {c : Prop} {matching : R → Prop}
    {page : Nat → Except Raised (List R × Nat)} (hperPage : 1 ≤ perPage)
    (hle : ∀ a b, le a b = true ↔ f a < f b ∨ f a = f b ∧ key a ≤ key b)
    (hmatching : ∀ r, r ∈ t ∧ p r = true ↔ matching r)
    (hpage : ∀ k r, page k = .ok r ↔ (c ∧ k * perPage < bigintLimit) ∧
      r = (slice perPage k ((t.rows.filter p).insertionSort fun a b => le a b),
        (t.rows.filter p).length)) :
    PaginatedUpTo n matching (sortedBy f) perPage page ↔
      c ∧ OffsetFits n (t.rows.filter p).length perPage := by
  have hsortKey : ∀ a b, le a b = true ↔
      tieBroken f (fun r => (key r).toNat) a ≤ tieBroken f (fun r => (key r).toNat) b := by
    intro a b
    rw [hle, tieBroken_le, BitVec.le_def]
  have hpages := paginated_of_sortKey hperPage hsortKey
    (nodup_tieBroken (f := f) (nodup_map_toNat_key t p))
  refine (hpages.congr (fun r => List.mem_filter.trans (hmatching r)) fun a b hab => ?_).upTo_iff
    hpage
  rwa [tieBroken_lt, ← BitVec.lt_def] at hab

end

/-! ### The five listings -/

variable {n : Nat}

variable (db : Database)

/-- The calls may be at different times, as long as no booking ends between them. -/
theorem operatorOperations_paginated (operator : User) (query : ChargingOperationListQuery)
    (clock : Nat → Timestamp) (now : Timestamp)
    (hsame : ∀ k, ∀ b ∈ db.bookings, isOperatorOperation operator query.stationId (clock k) db b =
      isOperatorOperation operator query.stationId now db b) :
    PaginatedUpTo n
        (fun b => b ∈ db.bookings ∧ isOperatorOperation operator query.stationId now db b = true)
        (sortedBy Booking.startsAt) query.perPage
        (fun k => (findOperatorChargingOperations operator (query.onPage k) (clock k) db).map
          fun page => (page.items, page.total)) ↔
      OffsetFits n
        (db.bookings.rows.filter (isOperatorOperation operator query.stationId now db)).length
        query.perPage := by
  have hfilter : ∀ k,
      db.bookings.rows.filter (isOperatorOperation operator query.stationId (clock k) db) =
        db.bookings.rows.filter (isOperatorOperation operator query.stationId now db) :=
    fun k => List.filter_congr (hsame k)
  refine (paginated_filter Booking.startsAt operationListOrder db.bookings _ query.perPageRange.1
    (fun a b => ?_) (fun _ => Iff.rfl) fun k r => ?_).trans (iff_of_eq (true_and _))
  · simp [operationListOrder]
  · simp only [findOperatorChargingOperations, ChargingOperationListQuery.onPage, hfilter k,
      map_eq_ok, pageOf_eq_ok]
    grind

theorem sampleFirstPage_positive : 1 ≤ 1 := Nat.le_refl 1

theorem samplePairs_inRange : 1 ≤ 2 ∧ 2 ≤ 100 := by decide

end ChargeMate
