import LinkParsing.Sentence.Word

/-!
# Regions and how they split

A region is what lies between two words of a sentence, together with the connectors
that each of them still has to use towards the other and the number of words inside
that stay without links.

If the left word of a region has connectors left, the first of them links to some
word inside, and that word splits the region in two; otherwise the first connector
of the right word does so.  An alternative is one way to do this: the word, one of
its readings, the links made, and the two regions that remain.  Both are narrower.
-/

namespace LinkParsing

/-- The words of a sentence, in order, walls included. -/
abbrev Sentence := Array SentenceWord

namespace Search

/-- A connector of a word: the reading it belongs to and its position in the reading's
list, farthest partner first. -/
structure Cursor where
  candidate : Nat
  position : Nat
  deriving DecidableEq, Hashable, Repr

/-- What lies between two words. -/
structure Region where
  leftWord : Nat
  rightWord : Nat
  /-- The first right connector of the left word that is still unused. -/
  fromLeft : Option Cursor
  /-- The first left connector of the right word that is still unused. -/
  fromRight : Option Cursor
  /-- The number of words inside that stay without links. -/
  nulls : Nat
  deriving DecidableEq, Hashable, Repr

/-- How far apart the words of a region are. -/
def Region.width (r : Region) : Nat := r.rightWord - r.leftWord

/-- The number of words inside a region. -/
def Region.inner (r : Region) : Nat := r.rightWord - r.leftWord - 1

/-- A link: its words and the connectors of them that it uses. -/
structure LinkRef where
  leftWord : Nat
  leftCursor : Cursor
  rightWord : Nat
  rightCursor : Cursor
  deriving DecidableEq, Repr

/-- One way to split a region. -/
structure Alternative where
  /-- The word at which the region splits. -/
  word : Nat
  /-- The reading of that word. -/
  candidate : Nat
  links : List LinkRef
  left : Region
  right : Region
  deriving DecidableEq, Repr

end Search

namespace Sentence

open Search

/-- The readings of a word. -/
def numCandidates (s : Sentence) (word : Nat) : Nat :=
  (s[word]?.map (·.candidates.size)).getD 0

/-- A reading of a word. -/
@[inline] def candidate? (s : Sentence) (word candidate : Nat) : Option Candidate :=
  s[word]?.bind (·.candidates[candidate]?)

/-- The right connectors of a reading, farthest partner first. -/
@[inline] def rightConnectors (s : Sentence) (word candidate : Nat) : List Connector :=
  match s.candidate? word candidate with
  | some c => c.disjunct.right
  | none => []

/-- The left connectors of a reading, farthest partner first. -/
@[inline] def leftConnectors (s : Sentence) (word candidate : Nat) : List Connector :=
  match s.candidate? word candidate with
  | some c => c.disjunct.left
  | none => []

/-- The right connector at a cursor. -/
@[inline] def rightConnector? (s : Sentence) (word : Nat) (c : Cursor) : Option Connector :=
  (s.rightConnectors word c.candidate)[c.position]?

/-- The left connector at a cursor. -/
@[inline] def leftConnector? (s : Sentence) (word : Nat) (c : Cursor) : Option Connector :=
  (s.leftConnectors word c.candidate)[c.position]?

/-- The start of a list of so many connectors. -/
@[inline] def firstOf (connectors : List Connector) (candidate : Nat) : Option Cursor :=
  if connectors.isEmpty then none else some ⟨candidate, 0⟩

/-- The place behind a cursor in a list of connectors. -/
@[inline] def nextOf (connectors : List Connector) (c : Cursor) : Option Cursor :=
  if c.position + 1 < connectors.length then some ⟨c.candidate, c.position + 1⟩ else none

/-- The first right connector of a reading. -/
@[inline] def firstRight (s : Sentence) (word candidate : Nat) : Option Cursor :=
  firstOf (s.rightConnectors word candidate) candidate

/-- The first left connector of a reading. -/
@[inline] def firstLeft (s : Sentence) (word candidate : Nat) : Option Cursor :=
  firstOf (s.leftConnectors word candidate) candidate

/-- The right connector behind a cursor. -/
@[inline] def nextRight (s : Sentence) (word : Nat) (c : Cursor) : Option Cursor :=
  nextOf (s.rightConnectors word c.candidate) c

/-- The left connector behind a cursor. -/
@[inline] def nextLeft (s : Sentence) (word : Nat) (c : Cursor) : Option Cursor :=
  nextOf (s.leftConnectors word c.candidate) c

/-- The link between a right connector of one word and a left connector of a later one,
if both are there and match. -/
@[inline] def matching (s : Sentence) (left : Nat) (a : Option Cursor) (right : Nat)
    (b : Option Cursor) : Option LinkRef :=
  match a, b with
  | some a, some b =>
    match s.rightConnector? left a, s.leftConnector? right b with
    | some ca, some cb => if ca.linksTo cb then some ⟨left, a, right, b⟩ else none
    | _, _ => none
  | _, _ => none

/-- Whether the left end of a link may be used again. -/
def leftEndIsMulti (s : Sentence) (l : LinkRef) : Bool :=
  ((s.rightConnector? l.leftWord l.leftCursor).map (·.multi)).getD false

/-- Whether the right end of a link may be used again. -/
def rightEndIsMulti (s : Sentence) (l : LinkRef) : Bool :=
  ((s.leftConnector? l.rightWord l.rightCursor).map (·.multi)).getD false

/-- How the two words of a link may go on behind it: each goes on to its next connector
or, if its connector may link again, stays at it. -/
def continuations (s : Sentence) (l : LinkRef) : List (Option Cursor × Option Cursor) :=
  let a := s.nextRight l.leftWord l.leftCursor
  let b := s.nextLeft l.rightWord l.rightCursor
  let aStays := s.leftEndIsMulti l
  let bStays := s.rightEndIsMulti l
  [(a, b)]
    ++ (if aStays then [(some l.leftCursor, b)] else [])
    ++ (if bStays then [(a, some l.rightCursor)] else [])
    ++ (if aStays && bStays then [(some l.leftCursor, some l.rightCursor)] else [])

/-- The ways to split a region without connectors on its left, at a word whose reading links to
the right word. -/
def splitsFromRight (s : Sentence) (r : Region) (word candidate : Nat) : List Alternative :=
  match s.matching word (s.firstRight word candidate) r.rightWord r.fromRight with
  | none => []
  | some rl =>
    let dl := s.firstLeft word candidate
    let links := [rl]
    let rights := s.continuations rl
    (List.range (r.nulls + 1)).flatMap fun nulls =>
      let left : Region := ⟨r.leftWord, word, none, dl, nulls⟩
      rights.map fun (a, b) =>
        ⟨word, candidate, links, left, ⟨word, r.rightWord, a, b, r.nulls - nulls⟩⟩

/-- How to go on to the right of a word whose reading links to the left word: the links that are
made, where possible one with the right word too, and the connectors that remain between the
word and the right one. -/
def rightSides (s : Sentence) (r : Region) (word candidate : Nat) (leftLink : LinkRef) :
    List (List LinkRef × Option Cursor × Option Cursor) :=
  let dr := s.firstRight word candidate
  let alone := ([leftLink], dr, r.fromRight)
  match s.matching word dr r.rightWord r.fromRight with
  | none => [alone]
  | some rl =>
    let links := [leftLink, rl]
    (s.continuations rl).map (fun (a, b) => (links, a, b)) ++ [alone]

/-- The ways to split a region at a word whose reading links to the left word. -/
def splitsFromLeft (s : Sentence) (r : Region) (word candidate : Nat) : List Alternative :=
  match s.matching r.leftWord r.fromLeft word (s.firstLeft word candidate) with
  | none => []
  | some ll =>
    let lefts := s.continuations ll
    let rights := s.rightSides r word candidate ll
    (List.range (r.nulls + 1)).flatMap fun nulls =>
      lefts.flatMap fun (a, b) =>
        let left : Region := ⟨r.leftWord, word, a, b, nulls⟩
        rights.map fun (links, c, d) =>
          ⟨word, candidate, links, left, ⟨word, r.rightWord, c, d, r.nulls - nulls⟩⟩

/-- The ways to split a region at a word that takes a reading. -/
def splitsAt (s : Sentence) (r : Region) (word candidate : Nat) : List Alternative :=
  if r.fromLeft.isNone then s.splitsFromRight r word candidate
  else s.splitsFromLeft r word candidate

/-- All ways to split a region: word by word, reading by reading. -/
def alternatives (s : Sentence) (r : Region) : List Alternative :=
  (List.range' (r.leftWord + 1) r.inner).flatMap fun word =>
    (List.range (s.numCandidates word)).flatMap fun candidate => s.splitsAt r word candidate

/-- The region of the whole sentence for each reading of the first word that needs nothing
to its left.  Its right word is the end of the sentence, which has no connectors. -/
def roots (s : Sentence) (nulls : Nat) : List (Nat × Region) :=
  ((List.range (s.numCandidates 0)).filter fun c => (s.leftConnectors 0 c).isEmpty).map fun c =>
    (c, ⟨0, s.size, s.firstRight 0 c, none, nulls⟩)

end Sentence

end LinkParsing
