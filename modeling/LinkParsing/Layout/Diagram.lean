import LinkParsing.Layout.Basic
import LinkParsing.Options.Basic
import LinkParsing.Text.Whitespace

/-!
# Diagrams

A diagram draws the arcs of a linkage with characters, a row for each height, above a
row of stems and the row of the words.  At higher verbosities tables of the links and
of the chosen disjuncts follow.

```text
    +------Xp------+
    +-Wd--+-S--+   |
    |     |    |   |
LEFT-WALL я  иду.v .
```
-/

namespace LinkParsing

namespace Diagram

/-! ## Arcs -/

/-- What an arc from one column to another shows strictly between them: its label in
the middle, if it fits, and dashes. -/
def arcInside (label : List Char) (start stop column : Nat) : Char :=
  let room := stop - start - 1
  let first := start + 1 + (room - label.length) / 2
  if label.length ≤ room && first ≤ column then (label[column - first]?).getD '-' else '-'

/-- A column after an arc has been drawn over it. -/
def drawArc (layout : Layout) (column : Nat) (before : Char) (link : PlacedLink) : Char :=
  let start := layout.anchor link.left
  let stop := layout.anchor link.right
  if column = start || column = stop then '+'
  else if start < column && column < stop then arcInside link.label.toList start stop column
  else before

/-- Whether a link ends in a column. -/
def endsIn (layout : Layout) (column : Nat) (link : PlacedLink) : Bool :=
  layout.anchor link.left == column || layout.anchor link.right == column

/-- The character in a column of the row for a height: the arcs of that height, and
where they leave a blank the stems of higher links. -/
def cell (layout : Layout) (height column : Nat) : Char :=
  let arcs := (layout.links.filter (·.height == height)).foldl (drawArc layout column) ' '
  let higher := layout.links.filter (height < ·.height)
  if arcs = ' ' && higher.any (endsIn layout column) then '|' else arcs

/-- The row for a height, without the blanks at its end.  The row for zero has stems
only. -/
def row (layout : Layout) (height : Nat) : List Char :=
  Text.trimEnd ((List.range (layout.width + 1)).map (cell layout height))

/-- The heights that have a row, from the top. -/
def heights (layout : Layout) : List Nat :=
  if layout.maxHeight = 0 then [] else (List.range (layout.maxHeight + 1)).reverse

/-! ## Words -/

/-- The row of words, each behind as many blanks as bring it to its first column. -/
def wordsFrom (column : Nat) : List PlacedWord → List Char
  | [] => []
  | w :: words =>
    List.replicate (w.start - column) ' ' ++ w.text.toList ++
      wordsFrom (max column w.start + w.width) words

/-! ## Tables -/

/-- A text with blanks before it, up to a number of characters. -/
def padLeft (width : Nat) (text : String) : String :=
  String.ofList (List.replicate (width - text.length) ' ') ++ text

/-- A text with blanks behind it, up to a number of characters. -/
def padRight (width : Nat) (text : String) : String :=
  text ++ String.ofList (List.replicate (width - text.length) ' ')

/-- The length of the longest text of a word that is on the left of a link. -/
def leftWidth (linkage : Linkage) : Nat :=
  (linkage.links.filterMap fun l => (linkage.words[l.left]?).map (·.text.length)).foldl max 0

/-- The line of a link in the table of links. -/
def linkLine (linkage : Linkage) (l : Link) : Option String := do
  let left ← linkage.words[l.left]?
  let right ← linkage.words[l.right]?
  return padLeft (leftWidth linkage) left.text ++ " " ++ padLeft 6 l.leftConnector ++ " <---" ++
    l.label ++ "---> " ++ padRight 6 l.rightConnector ++ " " ++ right.text

/-- The costs of a linkage and its links, walls included. -/
def linkTable (linkage : Linkage) : List String :=
  let unused := linkage.nullCount
  let disjuncts := linkage.disjunctCost
  let length := linkage.linkCost
  s!"cost vector = (UNUSED={unused} DIS={disjuncts} LEN={length})" ::
    linkage.links.filterMap (linkLine linkage)

/-- The line of a word in the table of disjuncts. -/
def disjunctLine (w : LinkageWord) : String :=
  match w.disjunct with
  | some d => padRight 16 w.text ++ " " ++ padRight 24 d ++ s!" cost={w.cost}"
  | none => padRight 16 w.text ++ " (null)"

/-- The words of a linkage and their disjuncts, walls included. -/
def disjunctTable (linkage : Linkage) : List String := linkage.words.map disjunctLine

/-! ## The whole diagram -/

/-- The lines of a drawing. -/
def drawing (layout : Layout) : List String :=
  (heights layout).map (fun h => String.ofList (row layout h)) ++
    [String.ofList (wordsFrom 0 layout.words)]

/-- The lines of a diagram. -/
def lines (linkage : Linkage) (options : Options) : List String :=
  drawing (Layout.make linkage options.displayWalls) ++
    (if 1 ≤ options.verbosity then "" :: linkTable linkage else []) ++
    (if 2 ≤ options.verbosity then "" :: disjunctTable linkage else [])

end Diagram

/-- Every line with the sign that ends it, in one text. -/
def unlines (lines : List String) : String := String.join (lines.map (· ++ "\n"))

/-- The diagram of a linkage. -/
def Linkage.diagram (linkage : Linkage) (options : Options) : String :=
  unlines (Diagram.lines linkage options)

end LinkParsing
