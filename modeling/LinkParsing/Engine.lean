import LinkParsing.Options.Basic
import LinkParsing.Sampling.Indices
import LinkParsing.Search.Extraction

/-!
# Parsing a sentence

The sentence is cut into tokens and looked up, its linkages are counted, first those
that link every word, then those that leave out one word, and so on up to the limit,
and at the first number of words left out that has linkages they are extracted, all
of them or a sample.

What a parse takes from its surroundings are the clock and the words that the system
draws at random for a sample that need not be repeatable.
-/

namespace LinkParsing

/-- What parsing a sentence has led to. -/
structure ParseOutcome where
  /-- The linkages that are kept, best first. -/
  linkages : List Linkage
  /-- The number of linkages there are, kept or not. -/
  numFound : Nat
  /-- The number of words without links in every linkage. -/
  nullCount : Nat
  timerExpired : Bool
  deriving DecidableEq, Repr

namespace ParseOutcome

/-- There are no linkages. -/
def nothing : ParseOutcome := ⟨[], 0, 0, false⟩

/-- The time was up while linkages that leave out so many words were counted. -/
def expired (nulls : Nat) : ParseOutcome := ⟨[], 0, nulls, true⟩

end ParseOutcome

/-- A way to parse the sentences of a dictionary. -/
structure Engine where
  version : String
  parse : Dictionary → String → Options → Except Error ParseOutcome

namespace Engine

open Search

/-- The most positions that a sample can be drawn from. -/
def maxPopulation : Nat := UInt64.size - 1

/-- The numbers of the linkages to keep, of so many that are found: all of them if they are
not too many, else a sample. -/
def pickIndices (entropy : Sampling.Generator) (repeatable : Bool) (limit found : Nat) :
    Except Error (List Nat) :=
  if found ≤ limit then .ok (List.range found)
  else if found ≤ maxPopulation then
    .ok (Sampling.sorted (Sampling.sample (Sampling.start entropy repeatable) found limit))
  else .error (.parse (.tooManyToSample found))

/-- What extracting linkages can end with apart from a linkage. -/
inductive Interruption where
  | expired
  | missing (index : Nat)

/-- Extract the linkages with these numbers, one after the other. -/
def extractAll (s : Sentence) (nulls : Nat) (clock : Clock) :
    List Nat → Progress → Except Interruption (List Linkage)
  | [], _ => .ok []
  | i :: indices, progress =>
    match extract s nulls clock i progress with
    | .ok (some linkage) progress => do
      let others ← extractAll s nulls clock indices progress
      return linkage :: others
    | .ok none _ => .error (.missing i)
    | .error .expired _ => .error .expired

/-- The outcome for linkages that leave out exactly so many words; nothing if there are
none.  Of so many linkages, those are kept that `pick` gives the numbers of. -/
def attempt (s : Sentence) (pick : Nat → Except Error (List Nat)) (nulls : Nat) (clock : Clock) :
    Except Error (Option ParseOutcome) :=
  match countLinkages s nulls clock .start with
  | .error .expired _ => .ok (some (.expired nulls))
  | .ok found progress =>
    if found = 0 then .ok none
    else do
      let indices ← pick found
      match extractAll s nulls clock indices progress with
      | .ok linkages => return some ⟨Linkage.ranked linkages, found, nulls, false⟩
      | .error .expired => return some (.expired nulls)
      | .error (.missing i) => .error (.parse (.notExtracted i found))

/-- Try `count` numbers of words to leave out, from `nulls` on. -/
def attempts (s : Sentence) (pick : Nat → Except Error (List Nat)) (clock : Nat → Clock) :
    (count nulls : Nat) → Except Error ParseOutcome
  | 0, _ => .ok .nothing
  | count + 1, nulls => do
    match ← attempt s pick nulls (clock nulls) with
    | some outcome => return outcome
    | none => attempts s pick clock count (nulls + 1)

/-- Parse a sentence.  The clock, one for each number of words left out, counts only if
the options limit the time, and the random words only if samples need not be repeatable. -/
def parseTimed (clock : Nat → Clock) (entropy : Sampling.Generator) (dict : Dictionary)
    (sentence : String) (options : Options) : Except Error ParseOutcome :=
  match Token.tokenize sentence with
  | [] => .ok .nothing
  | tokens => do
    let words ← SentenceWord.build dict tokens
    let clock := if options.parseTimeLimitSeconds = 0 then fun _ => Clock.never else clock
    let pick := pickIndices entropy options.repeatableRand options.maxLinkages.toNat
    attempts words pick clock (min options.maxNullCount.toNat tokens.length + 1) 0

/-- Parse a sentence without looking at a clock. -/
def parseSentence (entropy : Sampling.Generator) (dict : Dictionary) (sentence : String)
    (options : Options) : Except Error ParseOutcome :=
  parseTimed (fun _ => Clock.never) entropy dict sentence options

/-- The engine of this library, with the words that the system draws at random.  Where these differ
from parse to parse, so do the engines. -/
def linkEngine (entropy : Sampling.Generator) : Engine :=
  ⟨"link-grammar-0.1.0", parseSentence entropy⟩

/-- An engine that gives the same answer to every sentence. -/
def constant (version : String) (answer : Except Error ParseOutcome) : Engine :=
  ⟨version, fun _ _ _ => answer⟩

end Engine

end LinkParsing
