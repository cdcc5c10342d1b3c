/-!
# Character classes as tables

A class of characters is given by the sorted list of the code points at which
membership changes: the first character of the class, the first one after it that
is outside, and so on.  A character belongs to the class when the number of
changes up to it is odd.
-/

namespace LinkParsing.Text

/-- The code points at which membership in a class changes, in increasing order. -/
structure RangeTable where
  changes : Array Nat

namespace RangeTable

/-- Of the positions from `low` to `high`, find the first one whose change lies above
`code`; `steps` bounds the number of halvings. -/
def search (changes : Array Nat) (code : Nat) : (steps low high : Nat) → Nat
  | 0, low, _ => low
  | steps + 1, low, high =>
    if low < high then
      let middle := (low + high) / 2
      if changes[middle]?.getD 0 ≤ code then search changes code steps (middle + 1) high
      else search changes code steps low middle
    else low

/-- Whether a code point belongs to the class. -/
def containsCode (t : RangeTable) (code : Nat) : Bool :=
  search t.changes code 24 0 t.changes.size % 2 == 1

/-- Whether a character belongs to the class. -/
def contains (t : RangeTable) (c : Char) : Bool := t.containsCode c.toNat

end RangeTable

end LinkParsing.Text
