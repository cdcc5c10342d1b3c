import LinkParsing.Cost
import LinkParsing.Error

/-!
# Linkages

A linkage shows how the words of a sentence are linked.  Its links are kept in order
of their ends.  Of two linkages the one with fewer words left out is better, then the
one whose disjuncts cost less, then the one whose links skip fewer words.
-/

namespace LinkParsing

/-- A link between two words, the earlier one on the left. -/
structure Link where
  left : Nat
  right : Nat
  label : String
  /-- The connector used on the left word. -/
  leftConnector : String
  /-- The connector used on the right word. -/
  rightConnector : String
  deriving DecidableEq, Repr

/-- The distance between the two words of a link. -/
def Link.length (l : Link) : Nat := l.right - l.left

/-- A word as it stands in a linkage. -/
structure LinkageWord where
  text : String
  isWall : Bool
  /-- The word has no links. -/
  isNull : Bool
  /-- The disjunct that was chosen, as text. -/
  disjunct : Option String
  cost : Cost
  deriving DecidableEq, Repr

/-- The words of a sentence and the links between them. -/
structure Linkage where
  words : List LinkageWord
  links : List Link
  deriving DecidableEq, Repr

namespace Linkage

/-- The order of links by their ends. -/
def endsLe (a b : Link) : Bool := a.left < b.left || (a.left == b.left && a.right ≤ b.right)

/-- The linkage with these words and links; links with the same ends stay in order. -/
def ofLinks (words : List LinkageWord) (links : List Link) : Linkage :=
  ⟨words, links.mergeSort endsLe⟩

/-- The number of words without links. -/
def nullCount (l : Linkage) : Nat := (l.words.filter (·.isNull)).length

/-- What the chosen disjuncts cost together.  Where this has overflowed, the program has stopped
instead of making the linkage. -/
def disjunctCost (l : Linkage) : Cost := (l.words.map (·.cost)).foldl (· + ·) 0

/-- The number of words that the links skip together. -/
def linkCost (l : Linkage) : Nat := (l.links.map (·.length - 1)).foldl (· + ·) 0

/-- Whether every word is linked. -/
def isValid (l : Linkage) : Bool := l.nullCount == 0

/-- Whether one linkage is at least as good as another. -/
def rankLe (a b : Linkage) : Bool :=
  if a.nullCount != b.nullCount then a.nullCount < b.nullCount
  else if a.disjunctCost.toNat != b.disjunctCost.toNat then
    a.disjunctCost.toNat < b.disjunctCost.toNat
  else a.linkCost ≤ b.linkCost

/-- Linkages from the best to the worst; equally good ones stay in order. -/
def ranked (linkages : List Linkage) : List Linkage := linkages.mergeSort rankLe

end Linkage

/-- All that parsing a sentence has brought about, and which linkage is selected. -/
structure LinkageSet where
  sentence : String
  linkages : Array Linkage
  /-- The number of linkages there are, kept or not. -/
  numFound : Nat
  /-- The number of words without links in every linkage. -/
  nullCount : Nat
  timerExpired : Bool
  selected : Option Nat
  deriving DecidableEq, Repr

namespace LinkageSet

/-- A set in which nothing is selected. -/
def make (sentence : String) (linkages : Array Linkage) (numFound nullCount : Nat)
    (timerExpired : Bool) : LinkageSet :=
  ⟨sentence, linkages, numFound, nullCount, timerExpired, none⟩

/-- The set of a sentence without words. -/
def blank (sentence : String) : LinkageSet := make sentence #[] 0 0 false

/-- The number of linkages that can be selected. -/
def numLinkages (s : LinkageSet) : Nat := s.linkages.size

/-- The number of linkages that link every word. -/
def numValid (s : LinkageSet) : Nat := (s.linkages.toList.filter Linkage.isValid).length

/-- The linkage with a number. -/
def get? (s : LinkageSet) (index : Nat) : Option Linkage := s.linkages[index]?

/-- The selected linkage. -/
def selectedLinkage (s : LinkageSet) : Option Linkage := s.selected.bind s.get?

/-- Select the linkage with a number, and give it. -/
def select (s : LinkageSet) (index : Int) : Except Error (Linkage × LinkageSet) :=
  if index < 0 then .error (.rangeUnderflow index)
  else
    match s.get? index.toNat with
    | some linkage => .ok (linkage, { s with selected := some index.toNat })
    | none => .error (.rangeOutOfBounds index s.numLinkages)

end LinkageSet

end LinkParsing
