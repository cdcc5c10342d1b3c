import LinkParsing.Text.Span
import LinkParsing.Text.Whitespace

/-!
# Word patterns

A file of word patterns gives names to patterns, one per line: `NAME: /pattern/;`.
A word that the lexicon does not have belongs to the first pattern that matches
somewhere in it.  Blank lines and lines that start with `%` are comments.

The notation of the patterns themselves is left to whatever compiles them.
-/

namespace LinkParsing.Lexicon

open Text

/-- A way to compile patterns: what is written, if it is a pattern, to whether that matches
somewhere in a text. -/
abbrev PatternCompiler := List Char → Option (List Char → Bool)

/-- A pattern with its name. -/
structure WordPattern where
  name : List Char
  /-- The pattern as it is written. -/
  source : List Char
  /-- Whether the pattern matches somewhere in a text. -/
  isMatch : List Char → Bool

namespace WordPattern

/-- What is wrong with a line. -/
inductive LineFault where
  | malformed
  /-- The pattern under this name is none. -/
  | invalidPattern (name : String)
  deriving DecidableEq, Repr

/-- A faulty line and where it stands, without the white space behind it. -/
structure LineError where
  fault : LineFault
  span : Span
  deriving DecidableEq, Repr

/-- The wording of a fault. -/
def LineFault.message : LineFault → String
  | malformed => "expected `CLASS-NAME: /pattern/;`"
  | invalidPattern name => s!"invalid pattern for {name}"

def LineError.message (e : LineError) : String := e.fault.message

/-- The lines of a text, each with the line feed that ends it. -/
def linesOf : List Char → List (List Char)
  | [] => []
  | c :: rest =>
    if c = '\n' then [c] :: linesOf rest
    else
      match linesOf rest with
      | [] => [[c]]
      | line :: lines => (c :: line) :: lines

/-- The characters of names behind the first one. -/
def isNameChar (c : Char) : Bool := c.isUpper || c.isDigit || c == '_' || c == '-'

/-- Whether a text can name a pattern. -/
def isName : List Char → Bool
  | [] => false
  | c :: rest => c.isUpper && (c :: rest).all isNameChar

/-- Take a character off the end of a text. -/
def dropLast? (c : Char) (text : List Char) : Option (List Char) :=
  if text.getLast? = some c then some text.dropLast else none

/-- Take a character off the start of a text. -/
def dropFirst? (c : Char) : List Char → Option (List Char)
  | [] => none
  | d :: rest => if d = c then some rest else none

/-- Split a line into name and pattern text. -/
def splitLine (line : List Char) : Option (List Char × List Char) := do
  let name := trim (line.takeWhile (· != ':'))
  let rest ← dropFirst? ':' (line.dropWhile (· != ':'))
  if isName name then
    let body ← dropLast? ';' (trim rest)
    let body ← dropFirst? '/' (trimEnd body)
    let body ← dropLast? '/' body
    some (name, body)
  else none

/-- The pattern of a line, if it is not blank or a comment. -/
def ofLine (compile : PatternCompiler) (line : List Char) : Except LineFault (Option WordPattern) :=
  match trim line with
  | [] => .ok none
  | '%' :: _ => .ok none
  | content =>
    match splitLine content with
    | none => .error .malformed
    | some (name, source) =>
      match compile source with
      | some isMatch => .ok (some ⟨name, source, isMatch⟩)
      | none => .error (.invalidPattern (String.ofList name))

/-- The patterns of lines of which the first one starts at an offset. -/
def ofLines (compile : PatternCompiler) (offset : Nat) :
    List (List Char) → Except LineError (List WordPattern)
  | [] => .ok []
  | line :: lines =>
    match ofLine compile line with
    | .error fault => .error ⟨fault, ⟨offset, byteLength (trimEnd line)⟩⟩
    | .ok found => do
      let others ← ofLines compile (offset + byteLength line) lines
      return found.toList ++ others

/-- The patterns of a file, in order. -/
def parse (compile : PatternCompiler) (text : String) : Except LineError (List WordPattern) :=
  ofLines compile 0 (linesOf text.toList)

/-- The name of the first pattern that matches somewhere in a word. -/
def classify (patterns : List WordPattern) (word : List Char) : Option String :=
  (patterns.find? (·.isMatch word)).map fun p => String.ofList p.name

end WordPattern

end LinkParsing.Lexicon
