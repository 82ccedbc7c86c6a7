import Mathlib.Data.List.Nodup
import Mathlib.Tactic.Common

/-! Rounds over a queue. Each round takes the first items that remain, up to a limit, and removes
those of them that it settles. What is taken and not settled stands in front of the next round
again, so a round reaches one item further for every item that the rounds before it have
settled. -/

namespace Rounds

variable {R : Type} [DecidableEq R] (limit : Nat) (settles : Nat → R → Bool) (queue : List R)

/-- What is left of the queue after some rounds. -/
def remaining : Nat → List R
  | 0 => queue
  | k + 1 =>
      (remaining k).filter fun x => !(decide (x ∈ (remaining k).take limit) && settles k x)

/-- What a round takes. -/
def taken (k : Nat) : List R := (remaining limit settles queue k).take limit

/-- What some rounds settle, as it follows from the answers alone: round `k` reaches the first
items of the queue, `limit` of them and one for each item settled before it. -/
def settled : Nat → List R
  | 0 => []
  | k + 1 =>
      settled k ++ (queue.take (limit + (settled k).length)).filter fun x =>
        decide (x ∉ settled k) && settles k x

/-- How far into the queue the rounds up to `k` come. -/
def reach (k : Nat) : Nat := limit + (settled limit settles queue k).length

section

variable {queue} {l s : List R}

/-- The items of a list without those of an initial segment, up to the limit. -/
theorem take_filter_notMem (hl : l.Nodup) (hs : s.Nodup) (hsub : s ⊆ l.take (limit + s.length)) :
    (l.filter fun x => decide (x ∉ s)).take limit =
      (l.take (limit + s.length)).filter fun x => decide (x ∉ s) := by
  have hsplit : l.filter (fun x => decide (x ∉ s)) =
      (l.take (limit + s.length)).filter (fun x => decide (x ∉ s)) ++
        (l.drop (limit + s.length)).filter (fun x => decide (x ∉ s)) := by
    rw [← List.filter_append, List.take_append_drop]
  have hmembers : ((l.take (limit + s.length)).filter fun x => decide (x ∈ s)).length = s.length := by
    apply List.Perm.length_eq
    rw [List.perm_ext_iff_of_nodup ((hl.sublist (List.take_sublist _ _)).filter _) hs]
    intro x
    rw [List.mem_filter, decide_eq_true_eq]
    exact ⟨And.right, fun hx => ⟨hsub hx, hx⟩⟩
  have hlength : ((l.take (limit + s.length)).filter fun x => decide (x ∉ s)).length + s.length =
      min (limit + s.length) l.length := by
    have hcount := List.length_eq_length_filter_add (l := l.take (limit + s.length))
      fun x => decide (x ∈ s)
    rw [hmembers, List.length_take] at hcount
    simp only [decide_not]
    omega
  rw [hsplit]
  by_cases hshort : limit + s.length ≤ l.length
  · apply List.take_left'
    omega
  · rw [List.drop_eq_nil_of_le (by omega), List.filter_nil, List.append_nil]
    apply List.take_of_length_le
    omega

theorem mem_settled_succ {k : Nat} {x : R} :
    x ∈ settled limit settles queue (k + 1) ↔
      x ∈ settled limit settles queue k ∨
        x ∈ queue.take (reach limit settles queue k) ∧ x ∉ settled limit settles queue k ∧
          settles k x = true := by
  rw [settled, List.mem_append, List.mem_filter, Bool.and_eq_true, decide_eq_true_eq, reach]

theorem length_settled_mono {j k : Nat} (h : j ≤ k) :
    (settled limit settles queue j).length ≤ (settled limit settles queue k).length := by
  induction h with
  | refl => exact Nat.le_refl _
  | step _ ih =>
      rw [settled, List.length_append]
      omega

theorem take_reach_mono {j k : Nat} (h : j ≤ k) :
    queue.take (reach limit settles queue j) ⊆ queue.take (reach limit settles queue k) :=
  List.take_subset_take_left queue (Nat.add_le_add_left (length_settled_mono limit settles h) limit)

/-- The rounds settle nothing beyond their reach. -/
theorem settled_subset (k : Nat) :
    settled limit settles queue k ⊆ queue.take (reach limit settles queue k) := by
  induction k with
  | zero => exact List.nil_subset _
  | succ k ih =>
      intro x hx
      apply take_reach_mono limit settles (Nat.le_succ k)
      rcases (mem_settled_succ limit settles).mp hx with hx | hx
      · exact ih hx
      · exact hx.1

theorem nodup_settled (hqueue : queue.Nodup) (k : Nat) :
    (settled limit settles queue k).Nodup := by
  induction k with
  | zero => exact List.nodup_nil
  | succ k ih =>
      refine ih.append ((hqueue.sublist (List.take_sublist _ _)).filter _) ?_
      intro x hx hnew
      have hnot := (Bool.and_eq_true _ _ ▸ (List.mem_filter.mp hnew).2).1
      exact of_decide_eq_true hnot hx

/-- A round takes what the rounds before it have not settled, as far as it reaches. -/
theorem taken_of_remaining (hqueue : queue.Nodup) {k : Nat}
    (hremaining : remaining limit settles queue k =
      queue.filter fun x => decide (x ∉ settled limit settles queue k)) :
    taken limit settles queue k = (queue.take (reach limit settles queue k)).filter fun x =>
      decide (x ∉ settled limit settles queue k) := by
  rw [taken, hremaining]
  exact take_filter_notMem limit hqueue (nodup_settled limit settles hqueue k)
    (settled_subset limit settles k)

theorem remaining_eq (hqueue : queue.Nodup) (k : Nat) :
    remaining limit settles queue k =
      queue.filter fun x => decide (x ∉ settled limit settles queue k) := by
  induction k with
  | zero => exact (List.filter_eq_self.mpr fun x _ => decide_eq_true List.not_mem_nil).symm
  | succ k ih =>
      have htaken := taken_of_remaining limit settles hqueue ih
      rw [taken] at htaken
      rw [remaining, htaken, ih, List.filter_filter]
      apply List.filter_congr
      intro x _
      have hiff : x ∈ settled limit settles queue (k + 1) ↔ _ := mem_settled_succ limit settles
      by_cases hsettled : x ∈ settled limit settles queue k
      · simp [hiff, hsettled]
      · simp [List.mem_filter, hiff, hsettled]

theorem mem_taken (hqueue : queue.Nodup) {k : Nat} {x : R} :
    x ∈ taken limit settles queue k ↔
      x ∈ queue.take (reach limit settles queue k) ∧ x ∉ settled limit settles queue k := by
  rw [taken_of_remaining limit settles hqueue (remaining_eq limit settles hqueue k),
    List.mem_filter, decide_eq_true_eq]

/-- What is settled was taken by an earlier round. -/
theorem exists_taken_of_settled (hqueue : queue.Nodup) {k : Nat} {x : R}
    (hx : x ∈ settled limit settles queue k) : ∃ j < k, x ∈ taken limit settles queue j := by
  induction k with
  | zero => cases hx
  | succ k ih =>
      rcases (mem_settled_succ limit settles).mp hx with hx | ⟨hreach, hnew, -⟩
      · obtain ⟨j, hj, htaken⟩ := ih hx
        exact ⟨j, Nat.lt_succ_of_lt hj, htaken⟩
      · exact ⟨k, Nat.lt_succ_self k, (mem_taken limit settles hqueue).mpr ⟨hreach, hnew⟩⟩

/-- The rounds up to `k` take together what `k` reaches. -/
theorem exists_taken_iff (hqueue : queue.Nodup) {k : Nat} {x : R} :
    (∃ j < k + 1, x ∈ taken limit settles queue j) ↔
      x ∈ queue.take (reach limit settles queue k) := by
  constructor
  · rintro ⟨j, hj, htaken⟩
    exact take_reach_mono limit settles (Nat.le_of_lt_succ hj) ((mem_taken limit settles hqueue).mp htaken).1
  · intro hreach
    by_cases hsettled : x ∈ settled limit settles queue k
    · obtain ⟨j, hj, htaken⟩ := exists_taken_of_settled limit settles hqueue hsettled
      exact ⟨j, Nat.lt_succ_of_lt hj, htaken⟩
    · exact ⟨k, Nat.lt_succ_self k, (mem_taken limit settles hqueue).mpr ⟨hreach, hsettled⟩⟩

/-- The rounds take the whole queue exactly if what they reach is as long. -/
theorem forall_taken_iff (hqueue : queue.Nodup) (k : Nat) :
    (∀ x ∈ queue, ∃ j < k + 1, x ∈ taken limit settles queue j) ↔
      queue.length ≤ reach limit settles queue k := by
  simp only [exists_taken_iff limit settles hqueue]
  constructor
  · intro hall
    have hlength := hqueue.length_le_of_subset hall
    rw [List.length_take] at hlength
    omega
  · intro hlength x hx
    rwa [List.take_of_length_le hlength]

end

end Rounds
