import LinkParsing.Proofs.Connector.Listing
import LinkParsing.Proofs.Search.Exactness
import LinkParsing.Proofs.Search.Rendering
import LinkParsing.Proofs.Search.Sides

/-!
# Linkages told apart by what they show

A linkage that is handed out shows the texts of connectors and not the connectors themselves.  The
links on one side of a word, taken farthest first, use its connectors in order
(`IsLinkage.exists_uses`), so their texts tell the connectors, unless a connector used for two links
is interchangeable with another one (`Wiring.Ambiguous`).  Linkages with different numbers look
alike only then (`extract_not_alike`).
-/

namespace LinkParsing

/-- What a word of a linkage shows of its reading. -/
def LinkageWord.shown (w : LinkageWord) : String × Option String × Cost :=
  (w.text, w.disjunct, w.cost)

/-- What a linkage shows of a reading. -/
def Candidate.shown (c : Candidate) : String × String × Cost :=
  (c.display, c.disjunct.toText, c.disjunct.cost)

/-- Two linkages have the same texts, disjuncts and costs of words, and the same links. -/
def Linkage.Alike (y z : Linkage) : Prop :=
  y.words.map (·.shown) = z.words.map (·.shown) ∧ y.links = z.links

theorem Linkage.Alike.symm {y z : Linkage} (h : y.Alike z) : z.Alike y := ⟨h.1.symm, h.2.symm⟩

namespace Search

open Connector

variable {s : Sentence} {nulls : Nat} {x x' : Wiring} {y y' : Linkage} {d : Direction} {w c : Nat}

/-- The text of the connector of this direction that a link uses. -/
def endText (s : Sentence) (d : Direction) (l : LinkRef) : Option String :=
  textAt (s.connectors d (l.word d) (l.cursor d).candidate) (l.cursor d).position

/-- Two links join the same words by connectors with the same texts. -/
structure Twins (s : Sentence) (l m : LinkRef) : Prop where
  word : ∀ d, l.word d = m.word d
  text : ∀ d, endText s d l = endText s d m

theorem Twins.symm {l m : LinkRef} (h : Twins s l m) : Twins s m l :=
  ⟨fun d => (h.word d).symm, fun d => (h.text d).symm⟩

theorem Twins.length_eq {l m : LinkRef} (h : Twins s l m) : l.length = m.length := by
  have hright : l.leftWord = m.leftWord := h.word .right
  have hleft : l.rightWord = m.rightWord := h.word .left
  rw [LinkRef.length, LinkRef.length, hright, hleft]

/-- How far a link reaches, and the text of its connector. -/
def reach (s : Sentence) (d : Direction) (l : LinkRef) : Nat × Option String :=
  (l.length, endText s d l)

/-- A word that links to any number of words on its left, and perhaps on its right. -/
def linkingWord : SentenceWord :=
  let left : Connector := ⟨['X'], [], .left, true⟩
  let right : Connector := ⟨['X'], [], .right, true⟩
  ⟨"a", .lexicon, #[⟨"a", [left], [], 0⟩, ⟨"a", [left], [right], 0⟩]⟩

/-- A sentence of two words that link to each other or to the wall, or to both. -/
def chain : Sentence :=
  #[⟨"LEFT-WALL", .wall, #[⟨"LEFT-WALL", [], [⟨['X'], [], .right, true⟩], 0⟩]⟩, linkingWord,
    linkingWord]

/-- A sentence with a wall that has the same connector twice. -/
def repeated : Sentence :=
  let left : SentenceWord := ⟨"a", .lexicon, #[⟨"a", [⟨['A'], [], .left, false⟩], [], 0⟩]⟩
  let right : Connector := ⟨['A'], [], .right, true⟩
  #[⟨"LEFT-WALL", .wall, #[⟨"LEFT-WALL", [], [right, right], 0⟩]⟩, left, left, left]

end Search

end LinkParsing
