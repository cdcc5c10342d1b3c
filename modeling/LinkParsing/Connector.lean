/-!
# Connectors

A connector is one end of a possible link.  It is written `@MVp+`: an optional
`@` (the connector may link several times), capitals (the head), small letters,
digits and stars (the subscript), and the side of its word it points to.

A right-pointing connector of an earlier word links to a left-pointing connector
of a later word when their heads are equal and their subscripts agree at every
position both of them have, where a star agrees with anything.
-/

namespace LinkParsing

/-- The side of its word that a connector points to. -/
inductive Direction where
  | left
  | right
  deriving DecidableEq, Repr, Hashable

namespace Direction

/-- The sign that ends a connector's text. -/
def symbol : Direction → Char
  | left => '-'
  | right => '+'

/-- The direction that a sign stands for. -/
def ofSymbol? : Char → Option Direction
  | '-' => some left
  | '+' => some right
  | _ => none

theorem ofSymbol?_symbol (d : Direction) : ofSymbol? d.symbol = some d := by
  cases d <;> rfl

theorem symbol_of_ofSymbol? {c : Char} {d : Direction} (h : ofSymbol? c = some d) :
    d.symbol = c := by
  unfold ofSymbol? at h
  split at h
  · exact Option.some.inj h ▸ rfl
  · exact Option.some.inj h ▸ rfl
  · exact nomatch h

end Direction

/-- One end of a possible link. -/
structure Connector where
  /-- The capitals that name the kind of link. -/
  head : List Char
  /-- The refinement of the kind, position by position. -/
  subscript : List Char
  direction : Direction
  /-- Whether the connector may link more than once. -/
  multi : Bool
  deriving DecidableEq, Repr

namespace Connector

/-- The characters a head consists of. -/
def isHeadChar (c : Char) : Bool := c.isUpper

/-- The characters a subscript consists of. -/
def isSubscriptChar (c : Char) : Bool := c.isLower || c.isDigit || c == '*'

/-- A connector that can be written: it has a head, and both parts keep to their
character classes. -/
def WellFormed (c : Connector) : Prop :=
  c.head ≠ [] ∧ c.head.all isHeadChar = true ∧ c.subscript.all isSubscriptChar = true

instance (c : Connector) : Decidable c.WellFormed := by
  unfold WellFormed
  infer_instance

/-- Head and subscript, as characters. -/
def nameChars (c : Connector) : List Char := c.head ++ c.subscript

/-- Head and subscript, without direction and without the sign for many links. -/
def name (c : Connector) : String := String.ofList c.nameChars

/-- The written form of a connector, as characters. -/
def toChars (c : Connector) : List Char :=
  (if c.multi then ['@'] else []) ++ c.nameChars ++ [c.direction.symbol]

/-- The written form of a connector. -/
def toText (c : Connector) : String := String.ofList c.toChars

instance : ToString Connector := ⟨toText⟩

/-- Take off the leading `@`, if there is one. -/
def splitMulti : List Char → Bool × List Char
  | '@' :: rest => (true, rest)
  | text => (false, text)

/-- Read a whole text as a connector.  The sign is looked for at the end and the
head at the start; what lies between must be a subscript. -/
def ofChars? (text : List Char) : Option Connector :=
  let (multi, rest) := splitMulti text
  match rest.getLast? with
  | none => none
  | some sign =>
    match Direction.ofSymbol? sign with
    | none => none
    | some direction =>
      let body := rest.dropLast
      let head := body.takeWhile isHeadChar
      let subscript := body.dropWhile isHeadChar
      if head.isEmpty then none
      else if subscript.all isSubscriptChar then some ⟨head, subscript, direction, multi⟩
      else none

/-- Read a whole text as a connector. -/
def parse? (text : String) : Option Connector := ofChars? text.toList

/-- Two subscript positions agree when they are equal or one of them is a star. -/
def positionsAgree (a b : Char) : Bool := a == '*' || b == '*' || a == b

/-- Two subscripts agree at every position that both of them have. -/
def subscriptsAgree : List Char → List Char → Bool
  | a :: as, b :: bs => positionsAgree a b && subscriptsAgree as bs
  | _, _ => true

/-- Whether `a`, on the earlier word, can link to `b`, on the later one. -/
def linksTo (a b : Connector) : Bool :=
  a.direction == .right && b.direction == .left && a.head == b.head &&
    subscriptsAgree a.subscript b.subscript

/-- The more specific of two subscripts at every position: a star gives way, and
a missing position is filled from the other side. -/
def mergeSubscripts : List Char → List Char → List Char
  | [], bs => bs
  | as, [] => as
  | a :: as, b :: bs => (if a = '*' then b else a) :: mergeSubscripts as bs

/-- The label of the link that two connectors form, as characters. -/
def linkLabelChars (a b : Connector) : List Char :=
  a.head ++ mergeSubscripts a.subscript b.subscript

/-- The label of the link that two connectors form. -/
def linkLabel (a b : Connector) : String := String.ofList (linkLabelChars a b)

end Connector

end LinkParsing
