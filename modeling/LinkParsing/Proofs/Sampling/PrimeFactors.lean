import Mathlib.Data.List.Prime
import Mathlib.NumberTheory.LucasPrimality
import Mathlib.Tactic.NormNum.Prime

/-!
# The prime factors of 2^256 - 1

The states of the generator that are not zero are 2^256 - 1, and to tell that they are all in one
cycle takes the primes in this number (`prod_cycleFactors`, `prime_of_mem_cycleFactors`).  The small
ones are found prime by division, the large ones by powers modulo them (`prime_of_powMod`).
-/

namespace LinkParsing.Sampling

variable {a p n q bits : ℕ} {factors : List ℕ}

/-- A power modulo `p` with an exponent of so many bits. -/
def powMod (a p : ℕ) : (bits n : ℕ) → ℕ
  | 0, _ => 1 % p
  | bits + 1, n => powMod a p bits (n / 2) ^ 2 * a ^ (n % 2) % p

theorem powMod_eq (hlt : n < 2 ^ bits) : powMod a p bits n = a ^ n % p := by
  induction bits generalizing n with
  | zero => rw [Nat.lt_one_iff.mp hlt, powMod, pow_zero]
  | succ bits ih =>
      have hexponent : n / 2 * 2 + n % 2 = n := by omega
      rw [powMod, ih (by rw [pow_succ] at hlt; omega), Nat.mul_mod, ← Nat.pow_mod, ← Nat.mul_mod,
        ← pow_mul, ← pow_add, hexponent]

theorem mem_of_prime_dvd_prod (hprime : ∀ q ∈ factors, q.Prime) (hq : q.Prime)
    (hdvd : q ∣ factors.prod) : q ∈ factors :=
  mem_list_primes_of_dvd_prod hq.prime (fun r hr => (hprime r hr).prime) hdvd

/-- Powers of `a` modulo `p` come to one at the exponent `p - 1`, but not at the quotients of this
number by `factors`, which are all the primes in it. -/
def HasFullOrder (p a bits k : ℕ) (factors : List ℕ) : Prop :=
  1 % p = 1 ∧ p - 1 < 2 ^ bits ∧ p - 1 ∣ factors.prod ^ k ∧ powMod a p bits (p - 1) = 1 ∧
    ∀ q ∈ factors, powMod a p bits ((p - 1) / q) ≠ 1

instance (p a bits k : ℕ) (factors : List ℕ) : Decidable (HasFullOrder p a bits k factors) :=
  inferInstanceAs (Decidable (_ ∧ _))

theorem prime_of_hasFullOrder {k : ℕ} (hprime : ∀ q ∈ factors, q.Prime)
    (h : HasFullOrder p a bits k factors) : p.Prime := by
  obtain ⟨hp, hsize, hfactors, hlast, hearlier⟩ := h
  have hpower {n : ℕ} (hn : n ≤ p - 1) : (a : ZMod p) ^ n = 1 ↔ powMod a p bits n = 1 := by
    rw [powMod_eq (hn.trans_lt hsize), ← Nat.cast_pow, ← Nat.cast_one,
      ZMod.natCast_eq_natCast_iff', hp]
  refine lucas_primality p a ((hpower le_rfl).mpr hlast) fun q hq hdvd heq => ?_
  have hmem : q ∈ factors :=
    mem_of_prime_dvd_prod hprime hq (hq.dvd_of_dvd_pow (hdvd.trans hfactors))
  exact hearlier q hmem ((hpower (Nat.div_le_self _ q)).mp heq)

/-! ## Primes that are too large for division -/

theorem prime_67280421310721 : Nat.Prime 67280421310721 := by
  have hfull : HasFullOrder 67280421310721 3 64 8 [2, 5, 47, 373, 2998279] := by decide +kernel
  refine prime_of_hasFullOrder ?_ hfull
  norm_num

theorem prime_18533742247 : Nat.Prime 18533742247 := by
  have hfull : HasFullOrder 18533742247 6 64 3 [2, 3, 181, 1896229] := by decide +kernel
  refine prime_of_hasFullOrder ?_ hfull
  norm_num

theorem prime_116503103764643 : Nat.Prime 116503103764643 := by
  have hfull : HasFullOrder 116503103764643 2 64 1 [18533742247, 2, 7, 449] := by decide +kernel
  refine prime_of_hasFullOrder ?_ hfull
  refine List.forall_mem_cons.mpr ⟨prime_18533742247, ?_⟩
  norm_num

theorem prime_59649589127497217 : Nat.Prime 59649589127497217 := by
  have hfull : HasFullOrder 59649589127497217 3 64 9 [116503103764643, 2] := by decide +kernel
  refine prime_of_hasFullOrder ?_ hfull
  refine List.forall_mem_cons.mpr ⟨prime_116503103764643, ?_⟩
  norm_num

theorem prime_55515497 : Nat.Prime 55515497 := by
  have hfull : HasFullOrder 55515497 3 64 3 [2, 6939437] := by decide +kernel
  refine prime_of_hasFullOrder ?_ hfull
  norm_num

theorem prime_733803839347 : Nat.Prime 733803839347 := by
  have hfull : HasFullOrder 733803839347 2 64 1 [55515497, 2, 3, 2203] := by decide +kernel
  refine prime_of_hasFullOrder ?_ hfull
  refine List.forall_mem_cons.mpr ⟨prime_55515497, ?_⟩
  norm_num

theorem prime_5704689200685129054721 : Nat.Prime 5704689200685129054721 := by
  have hfull : HasFullOrder 5704689200685129054721 21 73 9 [733803839347, 2, 3, 5, 12497] := by
    decide +kernel
  refine prime_of_hasFullOrder ?_ hfull
  refine List.forall_mem_cons.mpr ⟨prime_733803839347, ?_⟩
  norm_num

/-! ## All factors -/

/-- The factors of 2^256 - 1. -/
def cycleFactors : List ℕ :=
  [5704689200685129054721, 59649589127497217, 67280421310721, 6700417, 274177, 65537, 641, 257, 17,
    5, 3]

theorem prod_cycleFactors : cycleFactors.prod = 2 ^ 256 - 1 := by decide +kernel

theorem prime_of_mem_cycleFactors : ∀ q ∈ cycleFactors, q.Prime := by
  refine List.forall_mem_cons.mpr ⟨prime_5704689200685129054721, ?_⟩
  refine List.forall_mem_cons.mpr ⟨prime_59649589127497217, ?_⟩
  refine List.forall_mem_cons.mpr ⟨prime_67280421310721, ?_⟩
  norm_num

end LinkParsing.Sampling
