import LinkParsing.Search.Extraction
import Mathlib.Data.Finset.Max
import Mathlib.Data.Finset.Option
import Mathlib.Logic.Relation
import Mathlib.Order.Interval.Finset.Nat

/-!
# Wirings

A wiring says which reading each word of a sentence takes, if any, and which links
there are.  `IsLinkage` is what makes a wiring a linkage of a sentence, said without
regions: planarity, connection with the first word, and the use of all connectors of
all readings, farthest partner first.

What holds of the right connectors of a word holds of its left connectors in the same
way, so both are spoken of at once through the direction in which a connector points.
-/

namespace LinkParsing

namespace Search

namespace LinkRef

/-- The word whose connector of this direction the link uses. -/
def word (l : LinkRef) : Direction → Nat
  | .right => l.leftWord
  | .left => l.rightWord

/-- The connector of this direction that the link uses. -/
def cursor (l : LinkRef) : Direction → Cursor
  | .right => l.leftCursor
  | .left => l.rightCursor

/-- How far apart the two words of the link are. -/
def length (l : LinkRef) : Nat := l.rightWord - l.leftWord

@[simp] theorem word_right (l : LinkRef) : l.word .right = l.leftWord := rfl
@[simp] theorem word_left (l : LinkRef) : l.word .left = l.rightWord := rfl
@[simp] theorem cursor_right (l : LinkRef) : l.cursor .right = l.leftCursor := rfl
@[simp] theorem cursor_left (l : LinkRef) : l.cursor .left = l.rightCursor := rfl

end LinkRef

/-- The reading that each word takes, if it takes one, and the links that are made. -/
@[ext]
structure Wiring where
  reading : Nat → Option Nat
  links : Finset LinkRef

/-- Two words are neighbours if some link has them as its ends. -/
def Adjacent (links : Finset LinkRef) (v w : Nat) : Prop :=
  ∃ l ∈ links, (l.leftWord = v ∧ l.rightWord = w) ∨ (l.leftWord = w ∧ l.rightWord = v)

/-- Two words are joined if links lead from one to the other. -/
def Joined (links : Finset LinkRef) : Nat → Nat → Prop :=
  Relation.ReflTransGen (Adjacent links)

/-- The links that use connectors of this direction of a word. -/
def linksAt (links : Finset LinkRef) (d : Direction) (word : Nat) : Finset LinkRef :=
  links.filter fun l => l.word d = word

@[simp]
theorem mem_linksAt {links : Finset LinkRef} {d : Direction} {word : Nat} {l : LinkRef} :
    l ∈ linksAt links d word ↔ l ∈ links ∧ l.word d = word := by
  simp [linksAt]

end Search

namespace Sentence

open Search

variable (s : Sentence)

/-- The connectors of a reading that point in this direction, farthest partner first. -/
def connectors : Direction → (word candidate : Nat) → List Connector
  | .right => s.rightConnectors
  | .left => s.leftConnectors

/-- The first connector of a reading that points in this direction. -/
def first (d : Direction) (word candidate : Nat) : Option Cursor :=
  firstOf (s.connectors d word candidate) candidate

theorem firstRight_eq (word candidate : Nat) :
    s.firstRight word candidate = s.first .right word candidate := rfl

theorem firstLeft_eq (word candidate : Nat) :
    s.firstLeft word candidate = s.first .left word candidate := rfl

/-- The connector of this direction behind a cursor. -/
def next (d : Direction) (word : Nat) (c : Cursor) : Option Cursor :=
  nextOf (s.connectors d word c.candidate) c

/-- Whether the connector of this direction that a link uses may be used again. -/
def endIsMulti : Direction → LinkRef → Bool
  | .right => s.leftEndIsMulti
  | .left => s.rightEndIsMulti

/-- The two connectors of a link are there and match. -/
def Matches (l : LinkRef) : Prop :=
  ∃ a b, s.rightConnector? l.leftWord l.leftCursor = some a ∧
    s.leftConnector? l.rightWord l.rightCursor = some b ∧ a.linksTo b = true

end Sentence

namespace Search

/-- A wiring is a linkage of a sentence that leaves out so many words. -/
structure IsLinkage (s : Sentence) (nulls : Nat) (x : Wiring) : Prop where
  /-- The first word takes a reading. -/
  first_read : (x.reading 0).isSome
  /-- Words take readings that they have. -/
  reading_lt : ∀ w c, x.reading w = some c → c < s.numCandidates w
  /-- So many words take none. -/
  null_count : ((Finset.range s.size).filter fun w => x.reading w = none).card = nulls
  /-- Links go from earlier words to later ones. -/
  forward : ∀ l ∈ x.links, l.leftWord < l.rightWord
  /-- A link uses connectors of the readings that its words take. -/
  chosen : ∀ l ∈ x.links, ∀ d, x.reading (l.word d) = some (l.cursor d).candidate
  /-- The connectors of a link match. -/
  fits : ∀ l ∈ x.links, s.Matches l
  /-- No two words are linked twice. -/
  single : ∀ l ∈ x.links, ∀ m ∈ x.links,
    l.leftWord = m.leftWord → l.rightWord = m.rightWord → l = m
  /-- No two links cross. -/
  planar : ∀ l ∈ x.links, ∀ m ∈ x.links,
    ¬ (l.leftWord < m.leftWord ∧ m.leftWord < l.rightWord ∧ l.rightWord < m.rightWord)
  /-- Every connector of a reading that is taken is used. -/
  used : ∀ d w c, x.reading w = some c → ∀ p < (s.connectors d w c).length,
    ∃ l ∈ x.links, l.word d = w ∧ l.cursor d = ⟨c, p⟩
  /-- A connector that is used twice is one that may be. -/
  once : ∀ d, ∀ l ∈ x.links, ∀ m ∈ x.links,
    l.word d = m.word d → l.cursor d = m.cursor d → l ≠ m → s.endIsMulti d l = true
  /-- On each side of a word, earlier connectors link to words farther away. -/
  farther : ∀ d, ∀ l ∈ x.links, ∀ m ∈ x.links,
    l.word d = m.word d → (l.cursor d).position < (m.cursor d).position → m.length < l.length
  /-- Every word that takes a reading is joined to the first one. -/
  joined : ∀ w, (x.reading w).isSome → Joined x.links w 0

end Search

end LinkParsing
