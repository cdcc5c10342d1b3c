import LinkParsing.Formula.Equality
import LinkParsing.Lexicon.Lexeme

/-!
# Entries of a lexicon

A lexicon is a list of entries `words: formula;`.  Words are bare, quoted or names
in angle brackets.  In a formula `&` binds closer than `or`, parentheses group,
braces make optional, brackets add cost and `()` is the empty formula.  Between
lexemes blanks and comments may stand.
-/

namespace LinkParsing.Lexicon

open Reader

/-- A word of an entry and where it is written, quotes included. -/
structure EntryWord where
  text : String
  span : Span
  deriving DecidableEq, Repr

/-- Words that connect as one formula says. -/
structure Entry where
  words : List EntryWord
  formula : Formula
  /-- From the first word to the semicolon. -/
  span : Span
  deriving DecidableEq, Repr

/-- One or more items with something between each two of them. -/
def chain {α : Type} (item : Reader α) (joint : Reader Unit) : Reader (List α) := do
  let first ← item
  let others ← repeated (do skip; joint; skip; item)
  return first :: others

/-- Items one after the other, none being allowed. -/
def many {α : Type} (item : Reader α) : Reader (List α) :=
  orElse
    (do
      let first ← item
      let others ← repeated (do skip; item)
      return first :: others)
    (pure [])

/-- A single item stands for itself. -/
def joinItems (join : List Formula → Formula) : List Formula → Formula
  | [item] => item
  | items => join items

/-- Read a connector. -/
def connector : Reader Formula := named .connector do
  let start ← here
  let text ← lexeme scanConnector
  match Connector.ofChars? text with
  | some c => pure (.connector c)
  | none => fun _ furthest =>
    (.refused ⟨.invalidConnector (String.ofList text), ⟨start.offset, byteLength text⟩⟩, furthest)

/-- Read `()`. -/
def emptyFormula : Reader Formula := named .empty do
  symbol '('
  skip
  symbol ')'
  return .empty

/-- Read a formula between two characters. -/
def enclosed (opening closing : Char) (inner : Reader Formula) : Reader Formula := do
  symbol opening
  skip
  let f ← inner
  skip
  symbol closing
  return f

/-- Read the name of a formula. -/
def macroReference : Reader Formula := named .macroRef do
  let text ← lexeme scanMacro
  return .macroRef (String.ofList text)

/-- Read a formula without `&` or `or` outside brackets. -/
def unit (inner : Reader Formula) : Reader Formula :=
  orElse connector <|
  orElse emptyFormula <|
  orElse (named .group (enclosed '(' ')' inner)) <|
  orElse (named .optional (do return .optional (← enclosed '{' '}' inner))) <|
  orElse (named .cost (do return .cost (← enclosed '[' ']' inner))) macroReference

/-- Read units joined by `&`. -/
def conjunction (inner : Reader Formula) : Reader Formula := named .andExpr do
  return joinItems .and (← chain (unit inner) (symbol '&'))

/-- Read conjunctions joined by `or`. -/
def disjunction (inner : Reader Formula) : Reader Formula := named .expr do
  return joinItems .or (← chain (conjunction inner) (symbols ['o', 'r']))

/-- Read a formula whose brackets nest less than `depth` deep. -/
def formulaWithin : Nat → Reader Formula
  | 0 => fail
  | depth + 1 => disjunction (formulaWithin depth)

/-- Read a formula.  Every bracket takes a character, so no formula nests deeper than
there are characters left. -/
def formula : Reader Formula := fun place furthest =>
  formulaWithin (place.rest.length + 1) place furthest

/-- Read one word. -/
def word : Reader EntryWord :=
  orElse (named .macroName (located scanMacro id)) <|
  orElse (named .quotedWord (located scanQuoted unquote))
    (named .bareWord (located scanBare id))
where
  located (scan : List Char → Option (List Char × List Char))
      (inside : List Char → List Char) : Reader EntryWord := do
    let start ← here
    let text ← lexeme scan
    return ⟨String.ofList (inside text), ⟨start.offset, byteLength text⟩⟩

/-- Read the words of an entry. -/
def wordList : Reader (List EntryWord) := named .wordList (chain word (pure ()))

/-- Read an entry. -/
def entry : Reader Entry := named .entry do
  let start ← here
  let words ← wordList
  skip
  symbol ':'
  skip
  let f ← formula
  skip
  symbol ';'
  let stop ← here
  return ⟨words, f, ⟨start.offset, stop.offset - start.offset⟩⟩

/-- Read a whole lexicon. -/
def file : Reader (List Entry) := named .file do
  skip
  let entries ← many entry
  skip
  named .endOfInput endOfText
  return entries

/-- The entries of a lexicon text, given as characters. -/
def entriesOfChars (text : List Char) : Except SyntaxError (List Entry) :=
  match file ⟨text, 0⟩ .start with
  | (.matched entries _, _) => .ok entries
  | (.refused e, _) => .error e
  | (.unmatched, furthest) => .error ⟨.expected furthest.expected, ⟨furthest.offset, 0⟩⟩

/-- The entries of a lexicon text. -/
def readEntries (text : String) : Except SyntaxError (List Entry) := entriesOfChars text.toList

end LinkParsing.Lexicon
