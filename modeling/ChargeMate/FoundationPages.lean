import Mathlib.Data.List.Sort
import Mathlib.Data.Prod.Lex
import Mathlib.Order.Lattice
import Mathlib.Tactic.Common

/-! Listings in pages. A listing sorts the rows that match, counts them, and answers one slice of
fixed length at a time; whoever reads it computes from the count how many slices there are. Slices
are numbered from zero here. -/

namespace Pages

variable {R : Type}

/-- The quotient rounded up. -/
def pageCount (total perPage : Nat) : Nat := (total + perPage - 1) / perPage

def slice (perPage k : Nat) (rows : List R) : List R := (rows.drop (k * perPage)).take perPage

/-- The first pages, one after another. -/
def concatenated (n : Nat) (items : Nat → List R) : List R := (List.range n).flatMap items

/-- What a reader of all pages relies on, who computes from the total of any page how many there
are. The order is strict, so it leaves no freedom to a sort. -/
structure Paginated (matching : R → Prop) (before : R → R → Prop) (perPage : Nat)
    (items : Nat → List R) (total : Nat → Nat) : Prop where
  agreed : ∀ j k, pageCount (total j) perPage = pageCount (total k) perPage
  complete : ∀ k r, r ∈ concatenated (pageCount (total k) perPage) items ↔ matching r
  once : ∀ k, (concatenated (pageCount (total k) perPage) items).Nodup
  ordered : ∀ k, (concatenated (pageCount (total k) perPage) items).Pairwise before
  full : ∀ k, k + 1 < pageCount (total k) perPage → (items k).length = perPage
  beyond : ∀ k, pageCount (total k) perPage ≤ k → items k = []

/-- The reader asks for every page that the count announces, and for all up to number `n`. -/
def PaginatedUpTo {ε : Type} (n : Nat) (matching : R → Prop) (before : R → R → Prop)
    (perPage : Nat) (page : Nat → Except ε (List R × Nat)) : Prop :=
  ∃ items total, Paginated matching before perPage items total ∧
    ∀ k, k ≤ n ∨ k < pageCount (total k) perPage → page k = .ok (items k, total k)

/-! ### Slices -/

variable {perPage : Nat}

theorem le_pageCount_mul (hperPage : 1 ≤ perPage) (total : Nat) :
    total ≤ pageCount total perPage * perPage := by
  have hdiv := Nat.div_add_mod (total + perPage - 1) perPage
  have hmod := Nat.mod_lt (total + perPage - 1) hperPage
  rw [Nat.mul_comm] at hdiv
  unfold pageCount
  omega

theorem mul_lt_of_lt_pageCount (hperPage : 1 ≤ perPage) {total k : Nat}
    (hk : k < pageCount total perPage) : k * perPage < total := by
  have hle : (k + 1) * perPage ≤ total + perPage - 1 :=
    (Nat.le_div_iff_mul_le hperPage).mp hk
  rw [Nat.add_mul] at hle
  omega

theorem length_slice (perPage k : Nat) (rows : List R) :
    (slice perPage k rows).length = min perPage (rows.length - k * perPage) := by
  rw [slice, List.length_take, List.length_drop]

theorem concatenated_slice (perPage n : Nat) (rows : List R) :
    concatenated n (fun k => slice perPage k rows) = rows.take (n * perPage) := by
  induction n with
  | zero => simp [concatenated]
  | succ n ih =>
      have hlast : concatenated (n + 1) (fun k => slice perPage k rows) =
          concatenated n (fun k => slice perPage k rows) ++ slice perPage n rows := by
        simp [concatenated, List.range_succ]
      rw [hlast, ih, Nat.succ_mul, List.take_add]
      rfl

/-- All pages together are all rows. -/
theorem concatenated_pageCount (hperPage : 1 ≤ perPage) (rows : List R) :
    concatenated (pageCount rows.length perPage) (fun k => slice perPage k rows) = rows := by
  rw [concatenated_slice]
  exact List.take_of_length_le (le_pageCount_mul hperPage rows.length)

theorem length_slice_full (hperPage : 1 ≤ perPage) {rows : List R} {k : Nat}
    (hk : k + 1 < pageCount rows.length perPage) : (slice perPage k rows).length = perPage := by
  have hlt := mul_lt_of_lt_pageCount hperPage hk
  rw [Nat.add_mul] at hlt
  rw [length_slice]
  omega

theorem slice_beyond (hperPage : 1 ≤ perPage) {rows : List R} {k : Nat}
    (hk : pageCount rows.length perPage ≤ k) : slice perPage k rows = [] := by
  have hrows := le_pageCount_mul hperPage rows.length
  have hle : rows.length ≤ k * perPage := hrows.trans (Nat.mul_le_mul_right perPage hk)
  rw [slice, List.drop_eq_nil_of_le hle, List.take_nil]

/-! ### Sorted rows -/

section

variable {κ : Type} [LinearOrder κ] {le : R → R → Bool} {sortKey : R → κ} {rows : List R}

theorem pairwise_le_insertionSort (hle : ∀ a b, le a b = true ↔ sortKey a ≤ sortKey b)
    (rows : List R) : (rows.insertionSort fun a b => le a b).Pairwise fun a b => le a b := by
  have : Std.Total fun a b => le a b = true := ⟨fun a b => by
    simpa only [hle] using le_total (sortKey a) (sortKey b)⟩
  have : IsTrans R fun a b => le a b = true := ⟨fun a b c => by
    simpa only [hle] using le_trans⟩
  exact List.pairwise_insertionSort _ rows

omit [LinearOrder κ] in
theorem nodup_insertionSort (le : R → R → Bool) (hnodup : (rows.map sortKey).Nodup) :
    ((rows.insertionSort fun a b => le a b).map sortKey).Nodup :=
  ((List.perm_insertionSort _ rows).map sortKey).nodup_iff.mpr hnodup

/-- Distinct keys are never equal, so the sorted rows are in strict order. -/
theorem pairwise_lt_insertionSort (hle : ∀ a b, le a b = true ↔ sortKey a ≤ sortKey b)
    (hnodup : (rows.map sortKey).Nodup) :
    (rows.insertionSort fun a b => le a b).Pairwise fun a b => sortKey a < sortKey b := by
  have hdistinct := List.pairwise_map.mp (nodup_insertionSort le hnodup)
  refine (pairwise_le_insertionSort hle rows).imp₂ (fun a b hab hne => ?_) hdistinct
  exact lt_of_le_of_ne ((hle a b).mp hab) hne

/-- A listing that sorts by a key which no two matching rows share. -/
theorem paginated_of_sortKey (hperPage : 1 ≤ perPage)
    (hle : ∀ a b, le a b = true ↔ sortKey a ≤ sortKey b) (hnodup : (rows.map sortKey).Nodup) :
    Paginated (· ∈ rows) (fun a b => sortKey a < sortKey b) perPage
      (fun k => slice perPage k (rows.insertionSort fun a b => le a b)) fun _ => rows.length := by
  have hlength : (rows.insertionSort fun a b => le a b).length = rows.length :=
    List.length_insertionSort _ rows
  have hall := concatenated_pageCount hperPage (rows.insertionSort fun a b => le a b)
  rw [hlength] at hall
  refine ⟨fun _ _ => rfl, fun _ r => ?_, fun _ => ?_, fun _ => ?_, fun k hk => ?_, fun k hk => ?_⟩
  · rw [hall]
    exact List.mem_insertionSort _
  · rw [hall]
    exact (nodup_insertionSort le hnodup).of_map
  · rw [hall]
    exact pairwise_lt_insertionSort hle hnodup
  · exact length_slice_full hperPage (by rwa [hlength])
  · exact slice_beyond hperPage (by rwa [hlength])

end

/-! ### Sort keys with ties -/

section

variable {α κ : Type} [LinearOrder α] [LinearOrder κ] {f : R → α} {id : R → κ}

/-- A sort key, and an identifier between rows that tie. -/
def tieBroken (f : R → α) (id : R → κ) (r : R) : α ×ₗ κ := toLex (f r, id r)

theorem tieBroken_le {a b : R} :
    tieBroken f id a ≤ tieBroken f id b ↔ f a < f b ∨ f a = f b ∧ id a ≤ id b :=
  Prod.Lex.toLex_le_toLex

theorem tieBroken_lt {a b : R} :
    tieBroken f id a < tieBroken f id b ↔ f a < f b ∨ f a = f b ∧ id a < id b :=
  Prod.Lex.toLex_lt_toLex

omit [LinearOrder α] [LinearOrder κ] in
theorem nodup_tieBroken {rows : List R} (h : (rows.map id).Nodup) :
    (rows.map (tieBroken f id)).Nodup := by
  refine List.Nodup.of_map (fun k => (ofLex k).2) ?_
  rw [List.map_map]
  exact h

end

theorem Paginated.congr {matching matching' : R → Prop} {before before' : R → R → Prop}
    {items : Nat → List R} {total : Nat → Nat}
    (h : Paginated matching before perPage items total) (hmatching : ∀ r, matching r ↔ matching' r)
    (hbefore : ∀ a b, before a b → before' a b) :
    Paginated matching' before' perPage items total where
  agreed := h.agreed
  complete k r := (h.complete k r).trans (hmatching r)
  once := h.once
  ordered k := (h.ordered k).imp (hbefore _ _)
  full := h.full
  beyond := h.beyond

/-- Where pages are answered only up to some offset, a reader gets all it asks for as long as the
furthest page starts below that offset. -/
theorem Paginated.upTo_iff {ε : Type} {c : Prop} {matching : R → Prop} {before : R → R → Prop}
    {items : Nat → List R} {total limit n : Nat} {page : Nat → Except ε (List R × Nat)}
    (h : Paginated matching before perPage items fun _ => total)
    (hpage : ∀ k r, page k = .ok r ↔ (c ∧ k * perPage < limit) ∧ r = (items k, total)) :
    PaginatedUpTo n matching before perPage page ↔
      c ∧ max n (pageCount total perPage - 1) * perPage < limit := by
  constructor
  · rintro ⟨items', total', hpages, hanswered⟩
    -- the count of the first page is the count
    obtain ⟨_, hfirst⟩ := (hpage 0 _).mp (hanswered 0 (Or.inl n.zero_le))
    obtain ⟨_, htotal⟩ := Prod.mk.inj hfirst
    have hreached : ∀ k, k ≤ n ∨ k < pageCount total perPage → c ∧ k * perPage < limit := by
      intro k hk
      refine ((hpage k _).mp (hanswered k ?_)).1
      rwa [hpages.agreed k 0, htotal]
    refine ⟨(hreached 0 (Or.inl n.zero_le)).1, (hreached _ ?_).2⟩
    omega
  · rintro ⟨hc, hlimit⟩
    refine ⟨items, fun _ => total, h, fun k hk => (hpage k _).mpr ⟨⟨hc, ?_⟩, rfl⟩⟩
    have hasked : k ≤ n ∨ k < pageCount total perPage := hk
    have hle : k ≤ max n (pageCount total perPage - 1) := by omega
    exact (Nat.mul_le_mul_right perPage hle).trans_lt hlimit

/-- A matching row is on a page. -/
theorem PaginatedUpTo.exists_page {ε : Type} {n : Nat} {matching : R → Prop}
    {before : R → R → Prop} {page : Nat → Except ε (List R × Nat)}
    (h : PaginatedUpTo n matching before perPage page) {r : R} (hr : matching r) :
    ∃ k items total, page k = .ok (items, total) ∧ r ∈ items := by
  obtain ⟨items, total, hpages, hanswered⟩ := h
  rw [← hpages.complete 0 r, concatenated, List.mem_flatMap] at hr
  obtain ⟨k, hk, hmem⟩ := hr
  refine ⟨k, items k, total k, hanswered k (Or.inr ?_), hmem⟩
  rw [hpages.agreed k 0]
  exact List.mem_range.mp hk

end Pages
