import LinkParsing.Pattern.RecentTable
import LinkParsing.Text.Alphanumeric
import LinkParsing.Text.Fold
import LinkParsing.Text.Letter
import LinkParsing.Text.RangeSet
import LinkParsing.Text.WordClassTable

/-!
# Sets of characters in patterns

The classes that patterns can name, and what becomes of a class when case is ignored.
-/

namespace LinkParsing.Pattern

open Text

/-- A set of characters, as a pattern describes it. -/
abbrev CharSet := RangeTable

namespace CharSet

/-- The set of a single character. -/
def single (c : Char) : CharSet := .ofRange c.toNat c.toNat

/-- The set of the characters from one to another, both included. -/
def range (low high : Char) : CharSet := .ofRange low.toNat high.toNat

/-- The set of some characters. -/
def ofList (chars : List Char) : CharSet := .unionAll chars.length (chars.map single)

/-- The members of a class that patterns know. -/
def known (t : RangeTable) : CharSet := t.difference recent

/-- The digits of the decimal systems. -/
def digit : CharSet := known decimalDigits

/-- Blanks, and what ends lines, paragraphs and pages. -/
def space : CharSet :=
  .unionAll 8 (([(0x09, 0x0D), (0x20, 0x20), (0x85, 0x85), (0xA0, 0xA0), (0x1680, 0x1680),
    (0x2000, 0x200A), (0x2028, 0x2029), (0x202F, 0x202F), (0x205F, 0x205F), (0x3000, 0x3000)]).map
      fun (low, high) => .ofRange low high)

/-- Letters of every case and of none. -/
def letter : CharSet := known letters

/-- Uppercase letters. -/
def capital : CharSet := known capitals

/-- Lowercase letters; the pharyngeal voiced fricative counts as one. -/
def small : CharSet := (known smallLetters).union (single 'ʕ')

/-- Numbers of all kinds. -/
def number : CharSet := known numbers

/-- Combining marks. -/
def mark : CharSet := known marks

/-- Letters, letter numbers, and the marks that belong to letters. -/
def alphabetic : CharSet := known Text.alphabetic

/-- The characters of words: letters, marks, digits, joining punctuation and the invisible
joiners. -/
def word : CharSet :=
  .unionAll 8 [alphabetic, mark, digit, connectorMarks.difference (single '\u202F'),
    range '\u200C' '\u200D']

/-- The next forms, regardless of case, of the characters of a set. -/
def nextForms (set : CharSet) : CharSet :=
  .unionAll 16 <| foldRuns.runs.toList.flatMap fun (first, last, step, target) =>
    (List.range ((last - first) / step + 1)).filterMap fun i =>
      let code := first + i * step
      if set.containsCode code then some (.ofRange (target + i * step) (target + i * step))
      else none

/-- All characters that are some character of a set regardless of case.  No letter has more
than four forms. -/
def ignoringCase (set : CharSet) : CharSet :=
  let two := set.union (nextForms set)
  two.union (nextForms (nextForms two))

/-- The only member of a set that has one. -/
def single? (set : CharSet) : Option Char :=
  match set.changes.toList with
  | [low, high] => if high = low + 1 && low.isValidChar then some (Char.ofNat low) else none
  | _ => none

/-- Whether a set has no members. -/
def isEmpty (set : CharSet) : Bool := set.changes.isEmpty

/-- Whether all members of a set are ASCII characters. -/
def isAscii (set : CharSet) : Bool := set.changes.back?.all (· ≤ 0x80)

end CharSet

/-- Whether a character is one of a word. -/
def isWordChar (c : Char) : Bool := CharSet.word.contains c

end LinkParsing.Pattern
