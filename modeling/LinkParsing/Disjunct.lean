import LinkParsing.Connector
import LinkParsing.Cost

/-!
# Disjuncts

A disjunct is one way a word may connect: the connectors it uses to its left and
to its right.  Both lists are stored farthest first: the first left connector
links to the leftmost partner, the first right connector to the rightmost one.
-/

namespace LinkParsing

/-- One way a word may connect. -/
structure Disjunct where
  /-- Left-pointing connectors, farthest partner first. -/
  left : List Connector
  /-- Right-pointing connectors, farthest partner first. -/
  right : List Connector
  cost : Cost
  deriving DecidableEq, Repr

namespace Disjunct

/-- The connectors in sentence order: farthest left to nearest left, then nearest
right to farthest right. -/
def inSentenceOrder (d : Disjunct) : List Connector := d.left ++ d.right.reverse

/-- The connectors in sentence order, separated by spaces; `()` when there are none. -/
def toText (d : Disjunct) : String :=
  match d.inSentenceOrder with
  | [] => "()"
  | connectors => " ".intercalate (connectors.map Connector.toText)

instance : ToString Disjunct := ⟨toText⟩

end Disjunct

end LinkParsing
