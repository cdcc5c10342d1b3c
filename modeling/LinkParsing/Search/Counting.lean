import Std.Data.HashMap
import LinkParsing.Search.Region

/-!
# Counting linkages

A region without connectors left on either side has one linkage if exactly the words
inside are to stay without links.  Any other region has as many linkages as its
alternatives have together, and an alternative has the product of what its two parts
have.  Counts stop growing at `maxCount`.

The count of every region is remembered.  Now and then the clock is looked at; when
the time is up, counting ends, and what has been remembered so far stays.
-/

namespace LinkParsing.Search

/-- The largest count that is told apart from larger ones. -/
def maxCount : Nat := UInt64.size - 1

/-- A sum of counts. -/
def addCounts (a b : Nat) : Nat := min maxCount (a + b)

/-- A product of counts. -/
def mulCounts (a b : Nat) : Nat := min maxCount (a * b)

/-- The count of a region that needs no splitting. -/
def Region.baseCount? (r : Region) : Option Nat :=
  if r.nulls > r.inner then some 0
  else if r.inner = 0 then
    some (if r.fromLeft.isNone && r.fromRight.isNone && r.nulls == 0 then 1 else 0)
  else if r.fromLeft.isNone && r.fromRight.isNone then
    some (if r.nulls = r.inner then 1 else 0)
  else none

/-- Whether the time is up when the clock is looked at for the first time, the second
time, and so on. -/
abbrev Clock := Nat → Bool

/-- The clock of a search without time limit. -/
def Clock.never : Clock := fun _ => false

/-- The clock of a search whose time is over before it begins. -/
def Clock.passed : Clock := fun _ => true

/-- The time is up. -/
inductive TimerExpired where
  | expired
  deriving DecidableEq, Repr

/-- What a search has found out so far. -/
structure Progress where
  memo : Std.HashMap Region Nat
  /-- The number of regions that have been begun to split. -/
  calls : Nat

/-- Nothing has been found out. -/
def Progress.start : Progress := ⟨∅, 0⟩

/-- A step of a search.  What has been found out is kept when the time is up. -/
abbrev SearchM := EStateM TimerExpired Progress

/-- The number of regions between two looks at the clock. -/
def clockStride : Nat := 256

/-- Count a region that is about to be split, and look at the clock if it is time to. -/
def tick (clock : Clock) : SearchM Unit := fun p =>
  let p := { p with calls := p.calls + 1 }
  if p.calls % clockStride = 0 && clock (p.calls / clockStride) then .error .expired p
  else .ok () p

/-- Remember the count of a region. -/
def remember (r : Region) (n : Nat) : SearchM Unit := fun p =>
  .ok () { p with memo := p.memo.insert r n }

/-- Add up the counts of alternatives, given how to count a region.  The second part of
an alternative is left alone if the first has no linkage. -/
def sumAlternatives (count : Region → SearchM Nat) (total : Nat) :
    List Alternative → SearchM Nat
  | [] => pure total
  | a :: rest => do
    let first ← count a.left
    if first = 0 then sumAlternatives count total rest
    else
      let second ← count a.right
      sumAlternatives count (addCounts total (mulCounts first second)) rest

/-- The number of linkages of a region that is at most so wide. -/
def countWithin (s : Sentence) (clock : Clock) : Nat → Region → SearchM Nat
  | width, r =>
    match r.baseCount? with
    | some n => pure n
    | none => do
      let p ← get
      match p.memo[r]? with
      | some n => return n
      | none =>
        match width with
        | 0 => return 0
        | width + 1 =>
          tick clock
          let total ← sumAlternatives (countWithin s clock width) 0 (s.alternatives r)
          remember r total
          return total

/-- The number of linkages of a region. -/
def count (s : Sentence) (clock : Clock) (r : Region) : SearchM Nat :=
  countWithin s clock r.width r

/-- Add up the counts of the regions of the whole sentence. -/
def sumRoots (s : Sentence) (clock : Clock) (total : Nat) : List (Nat × Region) → SearchM Nat
  | [] => pure total
  | (_, root) :: roots => do
    let n ← count s clock root
    sumRoots s clock (addCounts total n) roots

/-- The number of linkages of a sentence in which exactly so many words have no links. -/
def countLinkages (s : Sentence) (nulls : Nat) (clock : Clock) : SearchM Nat :=
  sumRoots s clock 0 (s.roots nulls)

end LinkParsing.Search
