import LinkParsing.Layout.Diagram
import LinkParsing.Text.Utf8

/-!
# PostScript documents

A linkage as an encapsulated PostScript document, on the same grid as a diagram.
Texts stand in string literals between parentheses; what could end a literal or is not
printable ASCII is escaped, so that no text can break the document.
-/

namespace LinkParsing

namespace PostScript

/-- The width of a column, in points. -/
def columnWidth : Nat := 6

/-- The height of a row of arcs. -/
def rowHeight : Nat := 12

/-- What is left free on all sides. -/
def margin : Nat := 10

/-- The base line of the words. -/
def wordY : Nat := margin

/-- The height at which arcs leave the words. -/
def stemY : Nat := wordY + 10

/-- The version in the name of the creator. -/
def version : String := "0.1.0"

/-! ## Literals -/

/-- The digit of a number below eight. -/
def octalDigit (n : Nat) : Char := Char.ofNat (48 + n % 8)

/-- A byte as it is written in a string literal. -/
def escapeByte (b : Nat) : List Char :=
  if b = 40 || b = 41 || b = 92 then ['\\', Char.ofNat b]
  else if 32 ≤ b && b ≤ 126 then [Char.ofNat b]
  else ['\\', octalDigit (b / 64), octalDigit (b / 8), octalDigit b]

/-- A text as it is written in a string literal, byte by byte. -/
def escapeChars (text : List Char) : List Char := (text.flatMap Text.utf8Bytes).flatMap escapeByte

/-- A text as it is written in a string literal. -/
def escape (text : String) : String := String.ofList (escapeChars text.toList)

/-! ## The document -/

/-- How words and links are drawn. -/
def prolog : List String :=
  ["/Courier findfont 10 scalefont setfont",
    "0.5 setlinewidth",
    "% word: (text) x y",
    "/word \x7b moveto show \x7d def",
    "% link: (label) x1 x2 y",
    "/link \x7b",
    "  /ly exch def /lx2 exch def /lx1 exch def /lab exch def",
    "  newpath lx1 STEM moveto lx1 ly lineto lx2 ly lineto lx2 STEM lineto stroke",
    "  lx1 lx2 add 2 div lab stringwidth pop 2 div sub ly 2 add moveto lab show",
    "\x7d def"]

/-- What comes before the words. -/
def header (layout : Layout) : List String :=
  let width := layout.width * columnWidth + 2 * margin
  let height := stemY + layout.maxHeight * rowHeight + rowHeight + margin
  let title := " ".intercalate (layout.words.map (·.text))
  ["%!PS-Adobe-3.0 EPSF-3.0",
    s!"%%BoundingBox: 0 0 {width} {height}",
    s!"%%Creator: link-grammar {version}",
    s!"%%Title: {escape title}",
    "%%Pages: 1",
    "%%EndComments",
    "%%BeginProlog",
    s!"/STEM {stemY} def"] ++ prolog ++
  ["%%EndProlog",
    "%%Page: 1 1"]

/-- The line that draws a word. -/
def wordLine (w : PlacedWord) : String :=
  s!"({escape w.text}) {margin + w.start * columnWidth} {wordY} word"

/-- The place of a word's anchor, in points. -/
def anchorX (layout : Layout) (i : Nat) : Nat :=
  margin + layout.anchor i * columnWidth + columnWidth / 2

/-- The line that draws a link. -/
def linkLine (layout : Layout) (l : PlacedLink) : String :=
  s!"({escape l.label}) {anchorX layout l.left} {anchorX layout l.right} " ++
    s!"{stemY + l.height * rowHeight} link"

/-- What comes behind the links. -/
def trailer : List String := ["showpage", "%%EOF"]

/-- The lines of the document of a layout. -/
def lines (layout : Layout) : List String :=
  header layout ++ layout.words.map wordLine ++ layout.links.map (linkLine layout) ++ trailer

end PostScript

/-- A linkage as a PostScript document. -/
def Linkage.postscript (linkage : Linkage) (options : Options) : String :=
  unlines (PostScript.lines (Layout.make linkage options.displayWalls))

end LinkParsing
