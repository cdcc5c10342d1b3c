import LinkParsing.Text.Span

/-!
# Errors in lexicon text

Text that is not a lexicon is reported by the furthest place that reading got to
and the constructs that would have been possible there.
-/

namespace LinkParsing.Lexicon

/-- The constructs of lexicon text, in the order in which messages list them. -/
inductive Construct where
  | endOfInput
  | file
  | entry
  | wordList
  | macroName
  | quotedWord
  | bareWord
  | expr
  | andExpr
  | empty
  | group
  | optional
  | cost
  | macroRef
  | connector
  deriving DecidableEq, Repr

namespace Construct

/-- All constructs, in the order of messages. -/
def all : List Construct :=
  [endOfInput, file, entry, wordList, macroName, quotedWord, bareWord, expr, andExpr, empty,
    group, optional, cost, macroRef, connector]

/-- The name of a construct in messages. -/
def name : Construct → String
  | endOfInput => "EOI"
  | file => "file"
  | entry => "entry"
  | wordList => "word_list"
  | macroName => "macro_name"
  | quotedWord => "quoted_word"
  | bareWord => "bare_word"
  | expr => "expr"
  | andExpr => "and_expr"
  | empty => "empty"
  | group => "group"
  | optional => "optional"
  | cost => "cost"
  | macroRef => "macro_ref"
  | connector => "connector"

end Construct

/-- What is wrong with the text. -/
inductive SyntaxFault where
  /-- None of these constructs stands where one of them has to. -/
  | expected (constructs : List Construct)
  /-- A text of the shape of a connector is none. -/
  | invalidConnector (text : String)
  deriving DecidableEq, Repr

/-- A fault and the place of it. -/
structure SyntaxError where
  fault : SyntaxFault
  span : Span
  deriving DecidableEq, Repr

/-- A list of alternatives in words: `a`, `a or b`, `a, b, or c`. -/
def alternativesText : List String → String
  | [] => ""
  | [a] => a
  | [a, b] => s!"{a} or {b}"
  | names => ", ".intercalate names.dropLast ++ ", or " ++ names.getLast?.getD ""

namespace SyntaxFault

/-- The wording of a fault.  Where a whole entry was possible the shape of an entry
is shown; otherwise the possible constructs are listed, each once. -/
def message : SyntaxFault → String
  | expected constructs =>
    if Construct.entry ∈ constructs then
      "expected a dictionary entry `words: expression;`"
    else
      let listed := Construct.all.filter (· ∈ constructs)
      "syntax error: expected " ++ alternativesText (listed.map Construct.name)
  | invalidConnector text => s!"invalid connector '{text}'"

end SyntaxFault

def SyntaxError.message (e : SyntaxError) : String := e.fault.message

end LinkParsing.Lexicon
