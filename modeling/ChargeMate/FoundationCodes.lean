import Mathlib.Data.List.Basic
import Mathlib.Tactic.Common

/-! Codes that say where they end. A delimited code can be read off the front of any text, so that
texts written one after the other can be told apart again. -/

namespace Code

variable {α β S : Type}

/-- What is encoded at the front of a text is determined, and so is the rest of the text. -/
def Delimited (enc : α → List S) : Prop :=
  ∀ x y r r', enc x ++ r = enc y ++ r' → x = y ∧ r = r'

variable {enc : α → List S}

theorem Delimited.injective (h : Delimited enc) : Function.Injective enc := by
  intro x y hxy
  exact (h x y [] [] (by rw [hxy])).1

theorem Delimited.comp (h : Delimited enc) {f : β → α} (hf : Function.Injective f) :
    Delimited fun x => enc (f x) := by
  intro x y r r' heq
  obtain ⟨hxy, hr⟩ := h (f x) (f y) r r' heq
  exact ⟨hf hxy, hr⟩

/-- A fixed text before the code. -/
theorem Delimited.prepend (h : Delimited enc) (text : List S) :
    Delimited fun x => text ++ enc x := by
  intro x y r r' heq
  rw [List.append_assoc, List.append_assoc] at heq
  exact h x y r r' (List.append_cancel_left heq)

/-- A fixed text after the code. -/
theorem Delimited.append (h : Delimited enc) (text : List S) :
    Delimited fun x => enc x ++ text := by
  intro x y r r' heq
  rw [List.append_assoc, List.append_assoc] at heq
  obtain ⟨hxy, hr⟩ := h x y _ _ heq
  exact ⟨hxy, List.append_cancel_left hr⟩

theorem Delimited.pair {enc' : β → List S} (h : Delimited enc) (h' : Delimited enc') :
    Delimited fun p : α × β => enc p.1 ++ enc' p.2 := by
  rintro ⟨x, z⟩ ⟨y, w⟩ r r' heq
  rw [List.append_assoc, List.append_assoc] at heq
  obtain ⟨hxy, hrest⟩ := h x y _ _ heq
  obtain ⟨hzw, hr⟩ := h' z w _ _ hrest
  exact ⟨Prod.ext hxy hzw, hr⟩

/-- A text that begins no code word stands for a missing value. -/
theorem Delimited.option (h : Delimited enc) {none : List S}
    (hnone : ∀ x r r', none ++ r ≠ enc x ++ r') :
    Delimited fun x : Option α => x.elim none enc := by
  intro x y r r' heq
  cases x with
  | none =>
      cases y with
      | none => exact ⟨rfl, List.append_cancel_left heq⟩
      | some y => exact absurd heq (hnone y r r')
  | some x =>
      cases y with
      | none => exact absurd heq.symm (hnone x r' r)
      | some y =>
          obtain ⟨hxy, hr⟩ := h x y r r' heq
          exact ⟨congrArg some hxy, hr⟩

/-- Code words in a row, up to a text that begins none of them. -/
theorem Delimited.list (h : Delimited enc) {stop : List S}
    (hstop : ∀ x r r', stop ++ r ≠ enc x ++ r') :
    Delimited fun xs : List α => xs.flatMap enc ++ stop := by
  intro xs
  induction xs with
  | nil =>
      intro ys r r' heq
      cases ys with
      | nil => exact ⟨rfl, List.append_cancel_left heq⟩
      | cons y ys =>
          simp only [List.flatMap_nil, List.nil_append, List.flatMap_cons, List.append_assoc] at heq
          exact absurd heq (hstop y r _)
  | cons x xs ih =>
      intro ys r r' heq
      cases ys with
      | nil =>
          simp only [List.flatMap_nil, List.nil_append, List.flatMap_cons, List.append_assoc] at heq
          exact absurd heq.symm (hstop x r' _)
      | cons y ys =>
          simp only [List.flatMap_cons, List.append_assoc] at heq
          obtain ⟨hxy, hrest⟩ := h x y _ _ heq
          obtain ⟨hxs, hr⟩ := ih ys r r' (by simpa only [List.append_assoc] using hrest)
          exact ⟨by rw [hxy, hxs], hr⟩

/-- Two texts are told apart up to the first mark. -/
theorem append_mark_inj {mark : S} {r r' : List S} : ∀ {xs ys : List S}, mark ∉ xs → mark ∉ ys →
    xs ++ mark :: r = ys ++ mark :: r' → xs = ys ∧ r = r' := by
  intro xs
  induction xs with
  | nil =>
      intro ys _ hys heq
      cases ys with
      | nil => exact ⟨rfl, (List.cons.inj heq).2⟩
      | cons y ys => exact absurd (List.cons.inj heq).1 (List.ne_of_not_mem_cons hys)
  | cons x xs ih =>
      intro ys hxs hys heq
      cases ys with
      | nil => exact absurd (List.cons.inj heq).1.symm (List.ne_of_not_mem_cons hxs)
      | cons y ys =>
          obtain ⟨hxy, hrest⟩ := List.cons.inj heq
          obtain ⟨hrows, hr⟩ :=
            ih (List.not_mem_of_not_mem_cons hxs) (List.not_mem_of_not_mem_cons hys) hrest
          exact ⟨by rw [hxy, hrows], hr⟩

/-- A mark that is in no code word ends it. -/
theorem delimited_of_mark (hinj : Function.Injective enc) {mark : S} (hmark : ∀ x, mark ∉ enc x) :
    Delimited fun x => enc x ++ [mark] := by
  intro x y r r' heq
  simp only [List.append_assoc, List.singleton_append] at heq
  obtain ⟨hxy, hr⟩ := append_mark_inj (hmark x) (hmark y) heq
  exact ⟨hinj hxy, hr⟩

end Code
