import LinkParsing.Text.RangeTable

/-!
# Character classes as sets

The set operations on classes given by their changes of membership.  Two sorted lists of
changes are gone through together; where the joint membership changes, the result has
a change.
-/

namespace LinkParsing.Text

/-- The changes from a code point on, given those behind it and on which side of the result one is
before it and from it on. -/
def changeAt (code : Nat) (before after : Bool) (rest : List Nat) : List Nat :=
  if before == after then rest else code :: rest

/-- The changes of the class that `join` makes of two classes; `inA` and `inB` say on which
side of a change of each class one is. -/
def joinChanges (join : Bool → Bool → Bool) (inA inB : Bool) : List Nat → List Nat → List Nat
  | [], [] => []
  | a :: as, [] =>
    changeAt a (join inA inB) (join (!inA) inB) (joinChanges join (!inA) inB as [])
  | [], b :: bs =>
    changeAt b (join inA inB) (join inA (!inB)) (joinChanges join inA (!inB) [] bs)
  | a :: as, b :: bs =>
    if a < b then
      changeAt a (join inA inB) (join (!inA) inB) (joinChanges join (!inA) inB as (b :: bs))
    else if b < a then
      changeAt b (join inA inB) (join inA (!inB)) (joinChanges join inA (!inB) (a :: as) bs)
    else
      changeAt a (join inA inB) (join (!inA) (!inB)) (joinChanges join (!inA) (!inB) as bs)
termination_by as bs => as.length + bs.length

namespace RangeTable

/-- The class without members. -/
def empty : RangeTable := ⟨#[]⟩

/-- The class of the code points from one to another, both included. -/
def ofRange (low high : Nat) : RangeTable := ⟨#[low, high + 1]⟩

/-- The class of all code points. -/
def all : RangeTable := ofRange 0 0x10FFFF

/-- The class of the code points on which two memberships are joined to true; outside both
classes they must not be. -/
def join (f : Bool → Bool → Bool) (a b : RangeTable) : RangeTable :=
  ⟨(joinChanges f false false a.changes.toList b.changes.toList).toArray⟩

/-- The members of one class or the other. -/
def union (a b : RangeTable) : RangeTable := join (· || ·) a b

/-- The members of both classes. -/
def intersection (a b : RangeTable) : RangeTable := join (· && ·) a b

/-- The members of one class and not of the other. -/
def difference (a b : RangeTable) : RangeTable := join (fun x y => x && !y) a b

/-- The members of exactly one of two classes. -/
def symmetricDifference (a b : RangeTable) : RangeTable := join (· != ·) a b

/-- The code points outside a class. -/
def complement (a : RangeTable) : RangeTable := difference all a

/-- The union of classes, joined in pairs so that no list is gone through often; `rounds`
bounds the number of times that the classes are paired. -/
def unionAll : (rounds : Nat) → List RangeTable → RangeTable
  | _, [] => empty
  | _, [a] => a
  | 0, a :: rest => rest.foldl union a
  | rounds + 1, classes => unionAll rounds (pairs classes)
where
  /-- The unions of neighbours. -/
  pairs : List RangeTable → List RangeTable
    | a :: b :: rest => union a b :: pairs rest
    | rest => rest

/-- The longest ranges of a class: first and last code point. -/
def ranges (t : RangeTable) : List (Nat × Nat) := pairUp t.changes.toList
where
  /-- Every change to the inside with the change to the outside behind it. -/
  pairUp : List Nat → List (Nat × Nat)
    | low :: high :: rest => (low, high - 1) :: pairUp rest
    | _ => []

end RangeTable

end LinkParsing.Text
