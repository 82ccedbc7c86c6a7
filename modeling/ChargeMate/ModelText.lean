import Mathlib.Data.List.DropRight

/-! The string methods of Python that the request schemas and the rate limiter use. -/

namespace ChargeMate

/-- `str.isspace` of one character. -/
def isSpace (c : Char) : Bool :=
  (9 ≤ c.toNat ∧ c.toNat ≤ 13) ∨ (28 ≤ c.toNat ∧ c.toNat ≤ 32) ∨ c.toNat = 0x85 ∨ c.toNat = 0xA0 ∨
    c.toNat = 0x1680 ∨ (0x2000 ≤ c.toNat ∧ c.toNat ≤ 0x200A) ∨ c.toNat = 0x2028 ∨
    c.toNat = 0x2029 ∨ c.toNat = 0x202F ∨ c.toNat = 0x205F ∨ c.toNat = 0x3000

/-- `str.strip`. -/
def strip (s : String) : String :=
  String.ofList ((s.toList.dropWhile isSpace).reverse.dropWhile isSpace).reverse

theorem strip_eq (s : String) :
    strip s = String.ofList ((s.toList.dropWhile isSpace).rdropWhile isSpace) := rfl

/-- Dropping at the end leaves the first character of what remains. -/
theorem dropWhile_rdropWhile (p : Char → Bool) (l : List Char) :
    ((l.dropWhile p).rdropWhile p).dropWhile p = (l.dropWhile p).rdropWhile p := by
  apply List.dropWhile_eq_self_iff.mpr
  intro hpos
  have hstart := List.rdropWhile_prefix p (l := l.dropWhile p)
  have hlen := hstart.length_le
  rw [hstart.getElem hpos]
  exact List.dropWhile_get_zero_not p l (by omega)

theorem strip_strip (s : String) : strip (strip s) = strip s := by
  rw [strip_eq (strip s), strip_eq s, String.toList_ofList, dropWhile_rdropWhile,
    List.rdropWhile_idempotent]

/-- `str.split` at runs of white space. -/
def words (text : String) : List String :=
  ((text.toList.splitOnP isSpace).filter fun word => word ≠ []).map String.ofList

/-- `text.split(separator, 1)[0]`. -/
def firstPart (separator : Char) (text : String) : String :=
  String.ofList (text.toList.takeWhile fun c => c ≠ separator)

end ChargeMate
