/-!
# Places in YAML texts

A cursor is what is left of a text, together with the place that has been reached in it.
Places are told by line and column, both from zero, because indentation and the ends of
lines decide on the structure of a text.
-/

namespace LinkParsing.Options.Yaml

/-- The blanks inside a line. -/
def isBlank (c : Char) : Bool := c == ' ' || c == '\t'

/-- The characters that end lines. -/
def isBreak (c : Char) : Bool :=
  c == '\n' || c == '\r' || c == '\u0085' || c == '\u2028' || c == '\u2029'

/-- The characters that may occur in a text. -/
def isAllowed (c : Char) : Bool :=
  c == '\t' || c == '\n' || c == '\r' || (' ' ≤ c && c ≤ '~') || c == '\u0085' ||
    ('\u00A0' ≤ c && c ≤ '\uFFFD') || '\uFFFF' < c

/-- Letters, digits, low line and hyphen. -/
def isNameChar (c : Char) : Bool := c.isAlphanum || c == '_' || c == '-'

/-- Whether a text has come to its end, or to a blank or the end of a line. -/
def endsWord (text : List Char) : Bool := text.head?.all fun c => isBlank c || isBreak c

/-- Whether a text has come to its end or to the end of a line. -/
def endsLine (text : List Char) : Bool := text.head?.all isBreak

/-- What is left of a text, and the place that has been reached: the number of characters up to
there, the line and the column. -/
structure Cursor where
  rest : List Char
  index : Nat
  line : Nat
  column : Nat

namespace Cursor

/-- The start of a text. -/
def start (text : List Char) : Cursor := ⟨text, 0, 0, 0⟩

/-- Pass over so many characters of a line. -/
def advance (c : Cursor) (count : Nat) : Cursor :=
  ⟨c.rest.drop count, c.index + count, c.line, c.column + count⟩

/-- Pass over the characters that meet a condition. -/
def skipWhile (c : Cursor) (p : Char → Bool) : Cursor := c.advance (c.rest.takeWhile p).length

/-- Pass over blanks. -/
def skipBlanks (c : Cursor) : Cursor := c.skipWhile isBlank

/-- Pass over a comment, if there is one. -/
def skipComment (c : Cursor) : Cursor :=
  if c.rest.head? = some '#' then c.skipWhile (!isBreak ·) else c

/-- Pass over the end of a line, if it is there: what it counts for in a scalar, and the cursor at
the start of the next line.  A carriage return and a line feed are one end. -/
def nextLine? (c : Cursor) : Option (Char × Cursor) :=
  match c.rest with
  | '\r' :: '\n' :: rest => some ('\n', ⟨rest, c.index + 2, c.line + 1, 0⟩)
  | b :: rest =>
    if isBreak b then
      some (if b = '\u2028' || b = '\u2029' then b else '\n', ⟨rest, c.index + 1, c.line + 1, 0⟩)
    else none
  | [] => none

/-- Whether a mark of three equal characters stands at the start of a line, and nothing else. -/
def isAtMark (c : Cursor) (mark : Char) : Bool :=
  c.column = 0 && c.rest.take 3 == [mark, mark, mark] && endsWord (c.rest.drop 3)

/-- Whether a mark stands at the start of a line that begins or ends a document. -/
def isAtDocumentMark (c : Cursor) : Bool := c.isAtMark '-' || c.isAtMark '.'

end Cursor

end LinkParsing.Options.Yaml
