import LinkParsing.Dictionary
import LinkParsing.Sentence.Token
import LinkParsing.Text.Lowercase

/-!
# Words of a sentence

Every token is looked up in the dictionary, and with what is found it becomes a word
with its readings.  A token that the dictionary does not have is tried in small
letters if it begins the sentence, then by the word patterns, and last as an unknown
word.  Walls stand before and, if the dictionary has a right one, behind the tokens.
-/

namespace LinkParsing

/-- How a word was found. -/
inductive WordSource where
  | wall
  | lexicon
  /-- In small letters, at the start of the sentence. -/
  | lowercased
  /-- By a word pattern. -/
  | pattern
  | unknown
  deriving DecidableEq, Repr

/-- One reading of a word. -/
structure Candidate where
  display : String
  disjunct : Disjunct
  deriving DecidableEq, Repr

/-- A word of a sentence with all its readings. -/
structure SentenceWord where
  token : String
  source : WordSource
  candidates : Array Candidate
  deriving Repr

namespace SentenceWord

/-- Whether a word is a wall. -/
def isWall (w : SentenceWord) : Bool := w.source == .wall

/-- All readings that entries give, in order; `display` says how they are shown if not
as the lexicon has them. -/
def readings (display : Option String) (entries : List WordEntry) : List Candidate :=
  entries.flatMap fun e => e.disjuncts.map fun d => ⟨display.getD e.display, d⟩

/-- The word that entries make of a token. -/
def ofEntries (token : String) (source : WordSource) (display : Option String)
    (entries : List WordEntry) : SentenceWord :=
  ⟨token, source, (readings display entries).toArray⟩

/-- A wall. -/
def wall (dict : Dictionary) (name : String) : Except Error SentenceWord :=
  match dict.lookup name with
  | some entries => .ok (ofEntries name .wall none entries)
  | none => .error (.parse (.noWall dict.language name))

/-- A token found as it is. -/
def asWritten (dict : Dictionary) (token : List Char) : Option SentenceWord :=
  let text := String.ofList token
  (dict.lookup text).map (ofEntries text .lexicon none)

/-- A token found in small letters, if that makes a difference. -/
def inLowercase (dict : Dictionary) (token : List Char) : Option SentenceWord :=
  let lower := Text.lowercase token
  if lower = token then none
  else (dict.lookup (String.ofList lower)).map (ofEntries (String.ofList token) .lowercased none)

/-- A token found by the first pattern that matches it. -/
def byPattern (dict : Dictionary) (token : List Char) : Option SentenceWord := do
  let name ← Lexicon.WordPattern.classify dict.patterns token
  let entries ← dict.lookup name
  let text := String.ofList token
  return ofEntries text .pattern (some (text ++ "[!]")) entries

/-- A token taken for the unknown word. -/
def asUnknown (dict : Dictionary) (token : List Char) : Option SentenceWord :=
  let text := String.ofList token
  (dict.lookup unknownWord).map (ofEntries text .unknown (some (text ++ "[?]")))

/-- The word that a token becomes; `first` says that it begins the sentence. -/
def ofToken (dict : Dictionary) (token : List Char) (first : Bool) : Except Error SentenceWord :=
  let found := asWritten dict token
    <|> (if first then inLowercase dict token else none)
    <|> byPattern dict token
    <|> asUnknown dict token
  match found with
  | some w => .ok w
  | none => .error (.parse (.unknownWord (String.ofList token) dict.language))

/-- The words of tokens, of which only the first may begin the sentence. -/
def ofTokens (dict : Dictionary) (first : Bool) : List Token → Except Error (List SentenceWord)
  | [] => .ok []
  | t :: tokens => do
    let w ← ofToken dict t.chars first
    let others ← ofTokens dict false tokens
    return w :: others

/-- The words of a sentence: the left wall, the tokens, and the right wall if the
dictionary has one. -/
def build (dict : Dictionary) (tokens : List Token) : Except Error (Array SentenceWord) := do
  let left ← wall dict leftWall
  let words ← ofTokens dict true tokens
  if dict.hasRightWall then
    let right ← wall dict rightWall
    return (left :: words ++ [right]).toArray
  else
    return (left :: words).toArray

end SentenceWord

end LinkParsing
