import LinkParsing.Pattern.Basic

/-!
# Building patterns

The parts of a pattern are put together in a simplified form: texts next to each other
become one, alternatives of single characters become a set, and what alternatives begin
with in common is written once.
-/

namespace LinkParsing.Pattern

/-- One character of a set; a set of one character is a text. -/
def ofSet (set : CharSet) : Pattern :=
  match set.single? with
  | some c => literal [c]
  | none => chars set

/-- A repetition.  What matches no character need not be repeated more than once. -/
def repetition (inner : Pattern) (least : Nat) (most : Option Nat) (greedy : Bool) : Pattern :=
  let clamp := inner.isAlwaysEmpty
  let least := if clamp then min least 1 else least
  let most := if clamp then some ((most.getD 1).min 1) else most
  match least, most with
  | _, some 0 => empty
  | 1, some 1 => inner
  | _, _ => .repeat inner least most greedy

/-- The items of a sequence, with those of sequences in it. -/
def itemsOf : Pattern → List Pattern
  | empty => []
  | concat items => items
  | p => [p]

/-- Put an item in front of a sequence, joining texts. -/
def consItem : Pattern → List Pattern → List Pattern
  | literal a, literal b :: rest => literal (a ++ b) :: rest
  | p, rest => p :: rest

/-- One after the other. -/
def sequence (items : List Pattern) : Pattern :=
  match (items.flatMap itemsOf).foldr consItem [] with
  | [] => empty
  | [p] => p
  | items => concat items

/-- The alternatives of a pattern. -/
def alternativesOf : Pattern → List Pattern
  | alternatives items => items
  | p => [p]

/-- The character of a text of one character. -/
def singleChar? : Pattern → Option Char
  | literal [c] => some c
  | _ => none

/-- The set of a pattern that is one. -/
def set? : Pattern → Option CharSet
  | chars set => some set
  | _ => none

/-- The items that two sequences begin with in common. -/
def commonItems : List Pattern → List Pattern → List Pattern
  | p :: ps, q :: qs => if p.same q then p :: commonItems ps qs else []
  | _, _ => []

/-- The items that all of several sequences begin with; only sequences of several items count
as such. -/
def commonStart : List Pattern → List Pattern
  | [] => []
  | concat items :: rest =>
    rest.foldl
      (fun common p =>
        match p with
        | concat items => commonItems common items
        | _ => [])
      items
  | _ => []

/-- Alternatives if no simpler form is known. -/
def chooseSimply (items : List Pattern) : Pattern :=
  match items.flatMap alternativesOf with
  | [] => chars .empty
  | [p] => p
  | items =>
    match items.mapM singleChar? with
    | some singles => ofSet (.ofList singles)
    | none =>
      match items.mapM set? with
      | some sets => ofSet (.unionAll 16 sets)
      | none => alternatives items

/-- One of several.  What is left of alternatives behind their common start begins with nothing
in common, so one look at their starts is enough. -/
def choice (items : List Pattern) : Pattern :=
  match chooseSimply items with
  | alternatives items =>
    match commonStart items with
    | [] => alternatives items
    | start =>
      let rests := items.map fun p => sequence ((itemsOf p).drop start.length)
      sequence (start ++ [chooseSimply rests])
  | p => p

end LinkParsing.Pattern
