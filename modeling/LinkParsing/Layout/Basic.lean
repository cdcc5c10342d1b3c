import LinkParsing.Linkage
import LinkParsing.Text.Width

/-!
# Layout of a linkage

The words of a linkage stand side by side on a grid of columns and its links are drawn
as arcs above them.  A layout gives every shown word its columns and every shown link
its height.  A link is shown when both of its words are; walls can be left out.
-/

namespace LinkParsing

/-- A word and the columns it takes. -/
structure PlacedWord where
  text : String
  /-- The first column. -/
  start : Nat
  /-- The number of columns, at least one. -/
  width : Nat
  deriving DecidableEq, Repr

/-- The column at which links meet the word: the middle one, or the left one of two. -/
def PlacedWord.anchor (w : PlacedWord) : Nat := w.start + (w.width - 1) / 2

/-- The first column behind the word. -/
def PlacedWord.stop (w : PlacedWord) : Nat := w.start + w.width

/-- A link between two shown words, by their places among the shown words. -/
structure Arc where
  left : Nat
  right : Nat
  label : String
  deriving DecidableEq, Repr

namespace Arc

/-- The distance between the two words. -/
def span (a : Arc) : Nat := a.right - a.left

/-- The order in which heights are given: short arcs first, of equally long ones those
further left. -/
def spanLe (a b : Arc) : Bool := a.span < b.span || (a.span == b.span && a.left ≤ b.left)

/-- Whether an arc lies within another one. -/
def within (inner outer : Arc) : Bool := outer.left ≤ inner.left && inner.right ≤ outer.right

end Arc

/-- An arc and its height above the words, at least one. -/
structure PlacedLink extends Arc where
  height : Nat
  deriving DecidableEq, Repr

/-- The order of placed links by their ends. -/
def PlacedLink.endsLe (a b : PlacedLink) : Bool :=
  a.left < b.left || (a.left == b.left && a.right ≤ b.right)

/-- Where the words and links of a linkage are drawn. -/
structure Layout where
  words : List PlacedWord
  links : List PlacedLink
  deriving DecidableEq, Repr

namespace Layout

/-! ## What is shown -/

/-- Whether a word is shown. -/
def isShown (displayWalls : Bool) (w : LinkageWord) : Bool := displayWalls || !w.isWall

/-- The place of a word among the shown words, if it is one of them.  A number that is that of no
word has no place; a linkage has no link that ends there, and the program stops where one is given
by hand. -/
def shownPlace (displayWalls : Bool) (words : List LinkageWord) (i : Nat) : Option Nat :=
  if (words[i]?).any (isShown displayWalls) then
    some ((words.take i).countP (isShown displayWalls))
  else none

/-- The texts of the shown words. -/
def shownTexts (displayWalls : Bool) (linkage : Linkage) : List String :=
  (linkage.words.filter (isShown displayWalls)).map (·.text)

/-- The shown links, in the linkage's order. -/
def shownArcs (displayWalls : Bool) (linkage : Linkage) : List Arc :=
  linkage.links.filterMap fun l => do
    let left ← shownPlace displayWalls linkage.words l.left
    let right ← shownPlace displayWalls linkage.words l.right
    return ⟨left, right, l.label⟩

/-! ## Heights -/

/-- The height of an arc above those that are placed already: one more than the highest
of them within it. -/
def heightAbove (placed : List PlacedLink) (a : Arc) : Nat :=
  ((placed.filter (·.toArc.within a)).map (·.height)).foldl max 0 + 1

/-- Give heights to arcs, one after the other. -/
def placeArcs (placed : List PlacedLink) : List Arc → List PlacedLink
  | [] => placed
  | a :: arcs => placeArcs (placed ++ [⟨a, heightAbove placed a⟩]) arcs

/-- The links with their heights, in order of their ends. -/
def placeLinks (arcs : List Arc) : List PlacedLink :=
  (placeArcs [] (arcs.mergeSort Arc.spanLe)).mergeSort PlacedLink.endsLe

/-! ## Columns -/

/-- The columns that a link takes between its ends besides its label. -/
def labelPadding : Nat := 4

/-- The column at which links meet a word. -/
def anchorOf (words : List PlacedWord) (i : Nat) : Nat :=
  match words[i]? with
  | some w => w.anchor
  | none => 0

/-- The columns that a text takes, at least one. -/
def columns (text : String) : Nat := max (Text.displayWidth text.toList) 1

/-- The first column behind the last word and the blank that follows it. -/
def nextFree (placed : List PlacedWord) : Nat :=
  match placed.getLast? with
  | some w => w.stop + 1
  | none => 0

/-- The first column at which a word of some width can start, so that the label of a
link that ends there fits. -/
def startBehind (placed : List PlacedWord) (width : Nat) (l : PlacedLink) : Nat :=
  anchorOf placed l.left + Text.displayWidth l.label.toList + labelPadding - (width - 1) / 2

/-- Place one more word. -/
def placeNext (links : List PlacedLink) (placed : List PlacedWord) (text : String) : PlacedWord :=
  let width := columns text
  let ending := links.filter (·.right == placed.length)
  ⟨text, (ending.map (startBehind placed width)).foldl max (nextFree placed), width⟩

/-- Place words behind those that are placed already. -/
def placeWords (links : List PlacedLink) (placed : List PlacedWord) :
    List String → List PlacedWord
  | [] => placed
  | text :: texts => placeWords links (placed ++ [placeNext links placed text]) texts

/-! ## The whole layout -/

/-- The layout of a linkage, with its walls or without. -/
def make (linkage : Linkage) (displayWalls : Bool) : Layout :=
  let links := placeLinks (shownArcs displayWalls linkage)
  ⟨placeWords links [] (shownTexts displayWalls linkage), links⟩

/-- The number of columns. -/
def width (l : Layout) : Nat :=
  match l.words.getLast? with
  | some w => w.stop
  | none => 0

/-- The greatest height of a link. -/
def maxHeight (l : Layout) : Nat := (l.links.map (·.height)).foldl max 0

/-- The column at which links meet a word. -/
def anchor (l : Layout) (i : Nat) : Nat := anchorOf l.words i

end Layout

end LinkParsing
