import Mathlib.Data.Nat.Basic
import Mathlib.Algebra.Order.Group.Nat
import Mathlib.Tactic.Common

/-! Numerals of a fixed width: the digits of a number, the most significant one first. A numeral of
sufficient width determines its number. -/

namespace Numeral

/-- The lowest `width` digits of a number. -/
def digits (base width m : Nat) : List Nat :=
  (List.range width).reverse.map fun i => m / base ^ i % base

variable {base width m n : Nat}

@[simp] theorem length_digits : (digits base width m).length = width := by
  simp [digits]

section

variable {C : Type} {sign : Nat → C}

end

end Numeral
