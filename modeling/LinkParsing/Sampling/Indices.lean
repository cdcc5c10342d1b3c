import Std.Data.HashSet
import LinkParsing.Sampling.Generator

/-!
# Samples of indices

So many different numbers below a bound are drawn at random, from a fixed seed or from
words that the system gives.  Which way of drawing is used depends on how many are
wanted and of how many: shuffling the front of a list of all of them, growing a set
while the bound is raised, or drawing again whatever has been drawn before.
-/

namespace LinkParsing.Sampling

/-- The seed of all repeatable samples. -/
def seed : UInt64 := 0x6C696E6B

/-- The generator that a sample starts with: from the seed if it is to be repeatable, else from
words drawn at random. -/
def start (entropy : Generator) (repeatable : Bool) : Generator :=
  if repeatable then .ofSeed seed else .ofEntropy entropy

/-- The numbers drawn so far: as a set, and in the order of drawing, the last one first. -/
structure Picked where
  set : Std.HashSet Nat
  list : List Nat

namespace Picked

/-- Nothing has been drawn. -/
def nothing : Picked := ⟨∅, []⟩

/-- One more number. -/
def add (p : Picked) (n : Nat) : Picked := ⟨p.set.insert n, n :: p.list⟩

/-- A number that has not been drawn. -/
def fresh? (p : Picked) (n : Nat) : Option Nat := if p.set.contains n then none else some n

end Picked

/-- Exchange the front of the numbers, position by position, with a random later one:
`todo` positions from `position` on. -/
def shuffleFront (last : Nat) : (todo position : Nat) → Array Nat → Generator → Array Nat
  | 0, _, numbers, _ => numbers
  | todo + 1, position, numbers, g =>
    let (other, g) := drawBetween position last g
    shuffleFront last todo (position + 1) (numbers.swapIfInBounds position other) g

/-- Sample by shuffling all numbers below `length`. -/
def sampleInPlace (length amount : Nat) (g : Generator) : List Nat :=
  ((shuffleFront (length - 1) amount 0 (Array.range length) g).toList).take amount

/-- Sample by raising the bound: below each bound a number is drawn, and the bound itself
taken if that number is there already. -/
def sampleGrowing : (todo bound : Nat) → Picked → Generator → Picked
  | 0, _, picked, _ => picked
  | todo + 1, bound, picked, g =>
    let (n, g) := drawBetween 0 bound g
    let n := if picked.set.contains n then bound else n
    sampleGrowing todo (bound + 1) (picked.add n) g

/-- Sample by drawing, each time until a number comes that has not been drawn before. -/
def sampleFresh (draw : Generator → Nat × Generator) : (todo : Nat) → Picked → Generator → Picked
  | 0, picked, _ => picked
  | todo + 1, picked, g =>
    let (n, g) := drawUntil picked.fresh? draw g
    sampleFresh draw todo (picked.add n) g

/-- Whether shuffling is worth it for a small sample. -/
def prefersShuffle (length amount : Nat) : Bool :=
  let size := length.toUInt64.toFloat32
  let count := amount.toUInt64.toFloat32
  if length < 500000 then size < (10 + 1.6 * count) * count
  else size < (70 / 9 + 8 / 45 * count) * count

/-- Whether shuffling is worth it for a large sample. -/
def prefersShuffleLarge (length amount : Nat) : Bool :=
  let size := length.toUInt64.toFloat32
  let count := amount.toUInt64.toFloat32
  if length < 500000 then size < 270 * count else size < 330 / 9 * count

/-- Different numbers below `length`, as many as `amount`, in no particular order. -/
def sample (g : Generator) (length amount : Nat) : List Nat :=
  if length ≥ UInt32.size then
    (sampleFresh (drawUniform Generator.next64 64 length) amount .nothing g).list
  else if amount < 163 then
    if amount > 11 && prefersShuffle length amount then sampleInPlace length amount g
    else (sampleGrowing amount (length - amount) .nothing g).list
  else if prefersShuffleLarge length amount then sampleInPlace length amount g
  else (sampleFresh (drawUniform Generator.next32 32 length) amount .nothing g).list

/-- Numbers in increasing order. -/
def sorted (numbers : List Nat) : List Nat := numbers.mergeSort (· ≤ ·)

end LinkParsing.Sampling
