import Std.Data.HashMap
import LinkParsing.Error
import LinkParsing.Formula.Structure
import LinkParsing.Lexicon.Entry
import LinkParsing.Text.Alphanumeric

/-!
# Dictionaries

A dictionary gives for every word form its entries, each with a display form and
disjuncts.  It is built from a lexicon text and, if there is one, a file of word
patterns.

A word of the lexicon is looked up without its subscript: `dog.n` is found as `dog`.
Entries whose words are all names in angle brackets only define formulas for use in
other entries; the last definition of a name counts, wherever it stands.
-/

namespace LinkParsing

/-- An entry of a word form. -/
structure WordEntry where
  /-- The word as the lexicon has it, with its subscript. -/
  display : String
  disjuncts : List Disjunct
  deriving Repr

/-- The words of a language with everything needed to parse its sentences. -/
structure Dictionary where
  language : String
  /-- The directory that the dictionary comes from. -/
  path : String
  entries : Std.HashMap String (List WordEntry)
  patterns : List Lexicon.WordPattern
  version : Option String
  locale : Option String

/-- The word that stands before every sentence. -/
def leftWall : String := "LEFT-WALL"

/-- The word that stands behind every sentence, if the dictionary has it. -/
def rightWall : String := "RIGHT-WALL"

/-- The word that stands in for words found nowhere. -/
def unknownWord : String := "UNKNOWN-WORD"

/-- A path below another one. -/
def joinPath (root name : String) : String :=
  if root.isEmpty then name
  else if root.toList.getLast? = some '/' then root ++ name
  else root ++ "/" ++ name

/-- The characters of a subscript. -/
def isSubscriptOfWord (c : Char) : Bool := Text.isAlphanumeric c || c == '-'

/-- The form under which a word is looked up: without the last stop and what follows,
provided both sides of it are there and the subscript consists of letters, digits and
hyphens. -/
def lookupKeyChars (word : List Char) : List Char :=
  let subscript := (word.reverse.takeWhile (· != '.')).reverse
  match word.reverse.dropWhile (· != '.') with
  | _ :: first :: stem =>
    if !subscript.isEmpty && subscript.all isSubscriptOfWord then (first :: stem).reverse else word
  | _ => word

/-- The form under which a word is looked up. -/
def lookupKey (word : String) : String := String.ofList (lookupKeyChars word.toList)

/-- A word that names a formula. -/
def isMacroName (word : String) : Bool :=
  word.toList.head? == some '<' && word.toList.getLast? == some '>'

namespace Dictionary

open Lexicon

/-- The formulas that the entries define by name. -/
def definitions (entries : List Entry) : Std.HashMap String Formula :=
  entries.foldl
    (fun found e => e.words.foldl
      (fun found w => if isMacroName w.text then found.insert w.text e.formula else found) found)
    ∅

/-- A formula that stands for a plain value: the name of its only connector. -/
def metadataText : Formula → String
  | .connector c => c.name
  | f => f.structureText

/-- Where the parts of a dictionary come from, for messages. -/
structure Source where
  language : String
  root : String
  lexicon : String

namespace Source

/-- An error at a place of the lexicon. -/
def errorAt (s : Source) (fault : DictionaryFault) (span : Span) (label : String) : Error :=
  .dictionary s.language s.root fault (some ⟨s.language ++ "/4.0.dict", s.lexicon, span, label⟩)

/-- An error at a place of the word patterns. -/
def patternErrorAt (s : Source) (patterns : String) (e : WordPattern.LineError) : Error :=
  .dictionary s.language s.root (.malformedPatterns e)
    (some ⟨s.language ++ "/4.0.regex", patterns, e.span, "here"⟩)

end Source

/-- The disjuncts of an entry's formula. -/
def disjunctsOf (source : Source) (definition : String → Option Formula) (e : Entry) :
    Except Error (List Disjunct) :=
  match e.formula.resolve definition with
  | .error err => .error (source.errorAt (.substitution err) e.span "in this entry")
  | .ok f =>
    match f.expand with
    | .error err => .error (source.errorAt (.expansion err) e.span "in this entry")
    | .ok disjuncts => .ok disjuncts

/-- Add a word behind the entries that its form already has. -/
def addWord (entries : Std.HashMap String (List WordEntry)) (word : String)
    (disjuncts : List Disjunct) : Std.HashMap String (List WordEntry) :=
  entries.alter (lookupKey word) fun old => some (old.getD [] ++ [⟨word, disjuncts⟩])

/-- Add words that share their disjuncts. -/
def addWords (source : Source) (disjuncts : List Disjunct)
    (entries : Std.HashMap String (List WordEntry)) :
    List EntryWord → Except Error (Std.HashMap String (List WordEntry))
  | [] => .ok entries
  | w :: words =>
    if disjuncts.isEmpty then
      .error (source.errorAt (.noDisjuncts w.text) w.span "defined here")
    else addWords source disjuncts (addWord entries w.text disjuncts) words

/-- Add all words of the entries, in order. -/
def addEntries (source : Source) (definition : String → Option Formula)
    (found : Std.HashMap String (List WordEntry)) :
    List Entry → Except Error (Std.HashMap String (List WordEntry))
  | [] => .ok found
  | e :: entries =>
    match e.words.filter (fun w => !isMacroName w.text) with
    | [] => addEntries source definition found entries
    | words => do
      let disjuncts ← disjunctsOf source definition e
      let found ← addWords source disjuncts found words
      addEntries source definition found entries

/-- Whether a sentence can begin: the left wall has a disjunct that needs nothing to its
left. -/
def hasLeftWall (entries : Std.HashMap String (List WordEntry)) : Bool :=
  (entries[leftWall]?.getD []).any fun e => e.disjuncts.any fun d => d.left.isEmpty

/-- The word patterns of a file, each with an entry of its name. -/
def patternsOf (compile : PatternCompiler) (source : Source)
    (entries : Std.HashMap String (List WordEntry)) :
    Option String → Except Error (List WordPattern)
  | none => .ok []
  | some text =>
    match WordPattern.parse compile text with
    | .error e => .error (source.patternErrorAt text e)
    | .ok patterns =>
      match patterns.find? fun p => !entries.contains (String.ofList p.name) with
      | some p => .error (.dictionary source.language source.root
          (.patternWithoutEntry (String.ofList p.name)) none)
      | none => .ok patterns

/-- Build a dictionary from a lexicon and word patterns.  The root is where the
dictionary was looked for. -/
def build (compile : PatternCompiler) (language root lexicon : String)
    (patterns : Option String) : Except Error Dictionary :=
  let source : Source := ⟨language, root, lexicon⟩
  match readEntries lexicon with
  | .error e => .error (source.errorAt (.malformed e) e.span "here")
  | .ok raw => do
    let defined := definitions raw
    let entries ← addEntries source (fun name => defined[name]?) ∅ raw
    if hasLeftWall entries then
      let patterns ← patternsOf compile source entries patterns
      return {
        language, path := joinPath root language, entries, patterns
        version := (defined["<dictionary-version-number>"]?).map metadataText
        locale := (defined["<dictionary-locale>"]?).map metadataText }
    else
      .error (source.errorAt .noLeftWall ⟨0, 0⟩ "dictionary starts here")

/-- Build a dictionary from texts that come from no directory. -/
def fromText (compile : PatternCompiler) (language lexicon : String) (patterns : Option String) :
    Except Error Dictionary :=
  build compile language "<memory>" lexicon patterns

/-- The entries of a word form. -/
def lookup (d : Dictionary) (word : String) : Option (List WordEntry) := d.entries[word]?

/-- The number of different word forms. -/
def numWords (d : Dictionary) : Nat := d.entries.size

/-- Whether sentences end with a wall. -/
def hasRightWall (d : Dictionary) : Bool := d.entries.contains rightWall

end Dictionary

end LinkParsing
