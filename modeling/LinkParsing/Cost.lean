/-!
# Costs

Costs are counted in 32 bits, and every sum is checked: the program stops where one does not fit.
A cost therefore is either held or has overflowed, and so has whatever an overflow goes into, be
it a sum or a choice of the lesser cost.  A result with such a cost in it is one that the program
stops short of.
-/

namespace LinkParsing

/-- A cost, as far as 32 bits hold it. -/
inductive Cost where
  | held (n : UInt32)
  /-- A sum that did not fit, where the program stops. -/
  | overflow
  deriving DecidableEq, Repr

namespace Cost

/-- The cost of so much: held if it fits. -/
def ofNat (n : Nat) : Cost := if n < UInt32.size then held (.ofNat n) else overflow

instance (n : Nat) : OfNat Cost n := ⟨ofNat n⟩

/-- How much is held, and nothing of an overflow. -/
def toNat : Cost → Nat
  | held n => n.toNat
  | overflow => 0

instance : Add Cost where
  add
    | held m, held n => ofNat (m.toNat + n.toNat)
    | _, _ => overflow

instance : Min Cost where
  min
    | held m, held n => held (min m n)
    | _, _ => overflow

/-- Costs by how much they are, with an overflow before all that are held: it is what every choice
comes to that it goes into. -/
instance : LE Cost where
  le
    | held m, held n => m ≤ n
    | held _, overflow => False
    | overflow, _ => True

instance : ToString Cost where
  toString
    | held n => toString n
    | overflow => "overflow"

end Cost

end LinkParsing
