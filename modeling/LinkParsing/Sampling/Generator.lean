/-!
# Pseudo-random numbers

The generator holds four words of 64 bits and gives one word per step, by shifts,
rotations and exclusive or.  It is seeded by a second, simpler generator that spreads
a single word over the four.

Draws are repeated until one is accepted.  Nothing bounds how often, but every number of 64 bits
comes at some time, from any state that is not zero on.
-/

namespace LinkParsing.Sampling

/-- The state of the generator. -/
structure Generator where
  a : UInt64
  b : UInt64
  c : UInt64
  d : UInt64
  deriving DecidableEq, Inhabited, Repr

namespace Generator

/-- The bits of a word moved left by so many places, those that fall out coming in again on
the right. -/
def rotateLeft (x : UInt64) (k : UInt64) : UInt64 := (x <<< k) ||| (x >>> (64 - k))

/-- The next word, and the generator behind it. -/
def next (g : Generator) : UInt64 × Generator :=
  let result := rotateLeft (g.b * 5) 7 * 9
  let t := g.b <<< 17
  let c := g.c ^^^ g.a
  let d := g.d ^^^ g.b
  (result, ⟨g.a ^^^ d, g.b ^^^ c, c ^^^ t, rotateLeft d 45⟩)

/-- The word that the seeding generator gives in a state. -/
def spread (x : UInt64) : UInt64 :=
  let z := (x ^^^ (x >>> 30)) * 0xBF58476D1CE4E5B9
  let z := (z ^^^ (z >>> 27)) * 0x94D049BB133111EB
  z ^^^ (z >>> 31)

/-- The distance between two states of the seeding generator. -/
def seedStep : UInt64 := 0x9E3779B97F4A7C15

/-- The generator that starts from a seed. -/
def ofSeed (seed : UInt64) : Generator :=
  let a := seed + seedStep
  let b := a + seedStep
  let c := b + seedStep
  let d := c + seedStep
  ⟨spread a, spread b, spread c, spread d⟩

/-- The generator that starts from words drawn at random.  From zeros alone nothing else would ever
come, so a seed is taken in their place. -/
def ofEntropy (words : Generator) : Generator :=
  if words = ⟨0, 0, 0, 0⟩ then ofSeed 0 else words

/-- A number of 64 bits. -/
def next64 (g : Generator) : Nat × Generator := (g.next.1.toNat, g.next.2)

/-- A number of 32 bits: the upper half of a word. -/
def next32 (g : Generator) : Nat × Generator := (g.next.1.toNat >>> 32, g.next.2)

end Generator

/-- Draw until a number is accepted, and give what it is accepted as. -/
def drawUntil (accept : Nat → Option Nat) (draw : Generator → Nat × Generator) :
    Generator → Nat × Generator :=
  repeatM (m := Id) fun g =>
    let (v, g) := draw g
    match accept v with
    | some n => .inr (n, g)
    | none => .inl g

/-- A number of so many bits multiplied by `n`: if the lower half of the product is at most `zone`,
it is accepted as the upper half, which is below `n`. -/
def upperHalf? (bits n zone v : Nat) : Option Nat :=
  let m := v * n
  if m % (1 <<< bits) ≤ zone then some (m >>> bits) else none

/-- A number from `low` to `high`, both below 2^32. -/
def drawBetween (low high : Nat) (g : Generator) : Nat × Generator :=
  let n := high - low + 1
  let zone := (n <<< (31 - n.log2)) - 1
  let (v, g) := drawUntil (upperHalf? 32 n zone) Generator.next32 g
  (low + v, g)

/-- A number below `n`, drawn in so many bits without favouring any. -/
def drawUniform (draw : Generator → Nat × Generator) (bits n : Nat) :
    Generator → Nat × Generator :=
  drawUntil (upperHalf? bits n ((1 <<< bits) - 1 - ((1 <<< bits) - n) % n)) draw

end LinkParsing.Sampling
