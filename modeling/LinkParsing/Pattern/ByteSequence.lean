import LinkParsing.Pattern.CharSet
import LinkParsing.Text.Utf8

/-!
# Character sets as byte sequences

In UTF-8 a range of code points falls into runs that are products of byte ranges: every
choice of one byte from each range, in order, is a character of the run, and there are no
others.  The runs of a range are ordered as its code points are.
-/

namespace LinkParsing.Pattern

open Text

/-- A range of bytes: first and last. -/
abbrev ByteRange := Nat × Nat

/-- Where to cut a range of code points that is no product of byte ranges: the first code
point of the second part.  Code points of different lengths are parted first; then, from
the last byte to the first, the ends are cut off that do not cover all values of the bytes
behind them. -/
def cut? (low high : Nat) : Option Nat :=
  match [0x80, 0x800, 0x10000].find? fun bound => low < bound && bound ≤ high with
  | some bound => some bound
  | none =>
    if high < 0x80 then none
    else
      [64, 4096, 262144].findSome? fun block =>
        if low / block = high / block then none
        else if low % block ≠ 0 then some ((low / block + 1) * block)
        else if (high + 1) % block ≠ 0 then some (high / block * block)
        else none

/-- The runs of a range of code points without surrogates. -/
def byteSequencesOf (low high : Nat) : List (List ByteRange) :=
  match cut? low high with
  | some code =>
    if low < code ∧ code ≤ high then
      byteSequencesOf low (code - 1) ++ byteSequencesOf code high
    else []
  | none => [(utf8Bytes (Char.ofNat low)).zip (utf8Bytes (Char.ofNat high))]
termination_by high - low

/-- The runs of a range of characters; surrogates are none. -/
def byteSequencesOfRange (low high : Nat) : List (List ByteRange) :=
  if low < 0xE000 ∧ 0xD7FF < high then
    (if low < 0xD800 then byteSequencesOf low 0xD7FF else []) ++
      (if 0xDFFF < high then byteSequencesOf 0xE000 high else [])
  else byteSequencesOf low high

/-- The runs of a set, in the order of its characters. -/
def CharSet.byteSequences (set : CharSet) : List (List ByteRange) :=
  set.ranges.flatMap fun (low, high) => byteSequencesOfRange low high

end LinkParsing.Pattern
