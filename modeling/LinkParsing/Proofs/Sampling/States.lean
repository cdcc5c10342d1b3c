import LinkParsing.Sampling.Generator
import Mathlib.Algebra.Group.Basic
import Mathlib.Data.FinEnum
import Mathlib.Logic.Function.Iterate
import Mathlib.SetTheory.Cardinal.Finite

/-!
# States of the generator as bits that are added without carrying

The four words of a state are 256 bits, and exclusive or adds two states.  Every part of a step,
the shift, the rotation and the exclusive ors, keeps this sum, so the step does (`succ_add`): from
zero the generator never gets away, and from a sum of states it comes to the sum of what it comes
to from each of them.

The word that a state gives is its second word under a multiplication, a rotation and another
multiplication, all of which can be undone.  So some state gives any word (`exists_next_eq`).
-/

namespace LinkParsing.Sampling.Generator

attribute [ext] Generator

/-- The generator behind the next word. -/
def succ (g : Generator) : Generator := g.next.2

/-! ## Sums of states -/

instance : Zero Generator := ⟨⟨0, 0, 0, 0⟩⟩

instance : Add Generator := ⟨fun g h => ⟨g.a ^^^ h.a, g.b ^^^ h.b, g.c ^^^ h.c, g.d ^^^ h.d⟩⟩

theorem zero_def : (0 : Generator) = ⟨0, 0, 0, 0⟩ := rfl

theorem add_def (g h : Generator) :
    g + h = ⟨g.a ^^^ h.a, g.b ^^^ h.b, g.c ^^^ h.c, g.d ^^^ h.d⟩ := rfl

instance : AddCommMonoid Generator where
  add_assoc g h i := by simp [add_def, UInt64.xor_assoc]
  zero_add g := by simp [add_def, zero_def]
  add_zero g := by simp [add_def, zero_def]
  add_comm g h := by simp [add_def, UInt64.xor_comm]
  nsmul := nsmulRec

@[simp] theorem add_self (g : Generator) : g + g = 0 := by simp [add_def, zero_def]

/-- Of how often a state is taken only the parity counts. -/
@[simp] theorem mod_two_nsmul (n : ℕ) (g : Generator) : (n % 2) • g = n • g := by
  have htwo : (2 * (n / 2)) • g = 0 := by rw [mul_nsmul, two_nsmul, add_self, nsmul_zero]
  conv_rhs => rw [← Nat.div_add_mod n 2, add_nsmul, htwo, zero_add]

/-! ## Rotations -/

theorem toBitVec_rotateLeft (x : UInt64) {k : ℕ} (hpos : 0 < k) (hlt : k < 64) :
    (rotateLeft x (.ofNat k)).toBitVec = x.toBitVec.rotateLeft k := by
  have hleft : ((UInt64.ofNat k).toBitVec % 64).toNat = k := by
    simp
    omega
  have hright : ((64 - UInt64.ofNat k).toBitVec % 64).toNat = 64 - k := by
    simp
    omega
  rw [BitVec.rotateLeft_def, Nat.mod_eq_of_lt hlt, rotateLeft, UInt64.toBitVec_or,
    UInt64.toBitVec_shiftLeft, UInt64.toBitVec_shiftRight, BitVec.shiftLeft_eq',
    BitVec.ushiftRight_eq', hleft, hright]

theorem rotateLeft_xor (x y : UInt64) {k : ℕ} (hpos : 0 < k) (hlt : k < 64) :
    rotateLeft (x ^^^ y) (.ofNat k) = rotateLeft x (.ofNat k) ^^^ rotateLeft y (.ofNat k) := by
  rw [← UInt64.toBitVec_inj, UInt64.toBitVec_xor]
  simp only [toBitVec_rotateLeft _ hpos hlt]
  ext i hi
  simp only [BitVec.getElem_rotateLeft, BitVec.getElem_xor, UInt64.toBitVec_xor]
  split <;> rfl

/-- Two rotations that come to 64 places cancel each other. -/
theorem rotateLeft_rotateLeft (x : UInt64) {k : ℕ} (hpos : 0 < k) (hlt : k < 64) :
    rotateLeft (rotateLeft x (.ofNat (64 - k))) (.ofNat k) = x := by
  rw [← UInt64.toBitVec_inj, toBitVec_rotateLeft _ hpos hlt,
    toBitVec_rotateLeft _ (by omega) (by omega)]
  ext i hi
  simp only [BitVec.getElem_rotateLeft, Nat.mod_eq_of_lt hlt,
    Nat.mod_eq_of_lt (show 64 - k < 64 by omega)]
  split
  next hlow =>
    rw [dif_neg (by omega)]
    congr 1
    omega
  next hhigh =>
    rw [dif_pos (by omega)]
    congr 1
    omega

/-! ## Steps -/

theorem xor_xor_xor_comm (x y z w : UInt64) : x ^^^ y ^^^ (z ^^^ w) = x ^^^ z ^^^ (y ^^^ w) := by
  rw [UInt64.xor_assoc, ← UInt64.xor_assoc y, UInt64.xor_comm y, UInt64.xor_assoc,
    ← UInt64.xor_assoc]

@[simp] theorem succ_zero : succ 0 = 0 := rfl

theorem succ_def (g : Generator) : g.succ = ⟨g.a ^^^ (g.d ^^^ g.b), g.b ^^^ (g.c ^^^ g.a),
    g.c ^^^ g.a ^^^ (g.b <<< 17), rotateLeft (g.d ^^^ g.b) (.ofNat 45)⟩ := rfl

theorem succ_add (g h : Generator) : (g + h).succ = g.succ + h.succ := by
  simp only [succ_def, add_def, mk.injEq]
  refine ⟨?_, ?_, ?_, ?_⟩
  · rw [xor_xor_xor_comm g.d, xor_xor_xor_comm g.a]
  · rw [xor_xor_xor_comm g.c, xor_xor_xor_comm g.b]
  · rw [xor_xor_xor_comm g.c, UInt64.shiftLeft_xor, xor_xor_xor_comm (g.c ^^^ g.a)]
  · rw [xor_xor_xor_comm g.d, rotateLeft_xor _ _ (by omega) (by omega)]

theorem nsmul_succ (n : ℕ) (g : Generator) : (n • g).succ = n • g.succ := by
  induction n with
  | zero => rw [zero_nsmul, zero_nsmul, succ_zero]
  | succ n ih => rw [succ_nsmul, succ_nsmul, succ_add, ih]

theorem iterate_succ_zero (n : ℕ) : succ^[n] 0 = 0 := Function.iterate_fixed succ_zero n

/-! ## Words -/

/-- The factors 5 and 9 are odd, so multiplying by them can be undone. -/
theorem exists_next_eq (w : UInt64) : ∃ b, ∀ a c d, (Generator.next ⟨a, b, c, d⟩).1 = w := by
  refine ⟨rotateLeft (w * 0x8E38E38E38E38E39) (.ofNat (64 - 7)) * 0xCCCCCCCCCCCCCCCD, ?_⟩
  intro a c d
  have hfive : (0xCCCCCCCCCCCCCCCD * 5 : UInt64) = 1 := by decide
  have hnine : (0x8E38E38E38E38E39 * 9 : UInt64) = 1 := by decide
  calc rotateLeft (rotateLeft (w * 0x8E38E38E38E38E39) (.ofNat (64 - 7)) * 0xCCCCCCCCCCCCCCCD * 5)
        7 * 9
      = rotateLeft (rotateLeft (w * 0x8E38E38E38E38E39) (.ofNat (64 - 7))) (.ofNat 7) * 9 := by
        rw [UInt64.mul_assoc _ _ 5, hfive, UInt64.mul_one]
        rfl
    _ = w * 0x8E38E38E38E38E39 * 9 := by rw [rotateLeft_rotateLeft _ (by omega) (by omega)]
    _ = w := by rw [UInt64.mul_assoc, hnine, UInt64.mul_one]

/-! ## The number of states -/

/-- A state is its four words. -/
def equivWords : Generator ≃ UInt64 × UInt64 × UInt64 × UInt64 where
  toFun g := (g.a, g.b, g.c, g.d)
  invFun w := ⟨w.1, w.2.1, w.2.2.1, w.2.2.2⟩

instance : Finite Generator := .of_equiv _ equivWords.symm

theorem natCard_generator : Nat.card Generator = 2 ^ 256 := by
  have hword : Nat.card UInt64 = 2 ^ 64 := by
    rw [Nat.card_eq_fintype_card]
    exact FinEnum.card_eq_fintypeCard.symm
  rw [Nat.card_congr equivWords]
  simp only [Nat.card_prod, hword, ← pow_add]

end LinkParsing.Sampling.Generator
