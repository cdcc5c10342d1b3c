import LinkParsing.Proofs.Sampling.Jumps
import LinkParsing.Proofs.Sampling.PrimeFactors
import Mathlib.Data.Set.Card
import Mathlib.Dynamics.PeriodicPts.Defs

/-!
# The generator goes through all of its states

The first state comes back after 2^256 - 1 steps, and not earlier, for it does not come back after
any of the quotients of this number by a prime (`minimalPeriod_base`).  So the states behind it are
2^256 - 1 different ones, and none of them is zero: they are all that there are but zero.

Hence each state that is not zero is behind each other one (`exists_iterate_succ_eq`), and from each
such state on every word is drawn at some time (`exists_word`).
-/

namespace LinkParsing.Sampling

open Function Generator

variable {n q : ℕ} {g h : Generator}

/-- The number of states that are not zero. -/
def cycleLength : ℕ := 2 ^ 256 - 1

theorem cycleLength_pos : 0 < cycleLength := by decide +kernel

/-! ## The period of the first state -/

/-- A point has a period if it comes back after so many steps but not after any of the quotients
by a prime. -/
theorem minimalPeriod_eq_of_primes {α : Type} {f : α → α} {x : α}
    (hback : IsPeriodicPt f n x)
    (hearlier : ∀ q, q.Prime → q ∣ n → ¬ IsPeriodicPt f (n / q) x) : minimalPeriod f x = n := by
  obtain ⟨k, hk⟩ := hback.minimalPeriod_dvd
  by_cases hone : k = 1
  · rw [hk, hone, mul_one]
  · obtain ⟨q, hq, r, rfl⟩ := Nat.exists_prime_and_dvd hone
    have hquotient : n / q = minimalPeriod f x * r := by
      rw [hk, mul_left_comm, Nat.mul_div_cancel_left _ hq.pos]
    refine absurd ?_ (hearlier q hq ⟨minimalPeriod f x * r, by rw [hk, mul_left_comm]⟩)
    rw [isPeriodicPt_iff_minimalPeriod_dvd, hquotient]
    exact Nat.dvd_mul_right _ _

theorem not_isPeriodicPt_of_jump (hlt : n < 2 ^ 256) (h : (jump n).any (· != base) = true) :
    ¬ IsPeriodicPt succ n base := by
  obtain ⟨g, hjump, hne⟩ := (Option.any_eq_true ..).mp h
  intro hback
  rw [← iterate_succ_of_jump hlt hjump, hback.eq, bne_self_eq_false] at hne
  exact Bool.false_ne_true hne

theorem jump_cycleLength : jump cycleLength = some base := by decide +kernel

theorem jump_earlier :
    ∀ q ∈ cycleFactors, (jump (cycleLength / q)).any (· != base) = true := by decide +kernel

theorem minimalPeriod_base : minimalPeriod succ base = cycleLength := by
  have hsize : cycleLength < 2 ^ 256 := by decide +kernel
  have hback : IsPeriodicPt succ cycleLength base := iterate_succ_of_jump hsize jump_cycleLength
  refine minimalPeriod_eq_of_primes hback fun q hq hdvd => ?_
  have hmem : q ∈ cycleFactors := by
    refine mem_of_prime_dvd_prod prime_of_mem_cycleFactors hq ?_
    rwa [prod_cycleFactors]
  exact not_isPeriodicPt_of_jump ((Nat.div_le_self _ q).trans_lt hsize) (jump_earlier q hmem)

theorem iterate_mul_cycleLength_base (n : ℕ) : succ^[cycleLength * n] base = base :=
  (isPeriodicPt_iff_minimalPeriod_dvd.mpr (minimalPeriod_base ▸ Nat.dvd_mul_right _ n)).eq

/-! ## States in one cycle -/

theorem iterate_succ_base_ne_zero (n : ℕ) : succ^[n] base ≠ 0 := by
  intro hzero
  have hback := iterate_mul_cycleLength_base n
  rw [← Nat.sub_add_cancel (Nat.le_mul_of_pos_left n cycleLength_pos), iterate_add_apply, hzero,
    iterate_succ_zero] at hback
  exact absurd hback (by decide)

theorem natCard_ne_zero : Nat.card {g : Generator // g ≠ 0} = cycleLength := by
  have hcompl := Set.ncard_add_ncard_compl ({0} : Set Generator)
  rw [Set.ncard_singleton, natCard_generator] at hcompl
  exact Nat.eq_sub_of_add_eq' hcompl

/-- Every state that is not zero is behind the first one. -/
theorem exists_iterate_succ_base (hg : g ≠ 0) : ∃ n, succ^[n] base = g := by
  let behind (i : Fin cycleLength) : {g : Generator // g ≠ 0} :=
    ⟨succ^[i] base, iterate_succ_base_ne_zero i⟩
  have hinjective : Injective behind := by
    intro i j heq
    have hlt (i : Fin cycleLength) : (i : ℕ) ∈ Set.Iio (minimalPeriod succ base) := by
      rw [minimalPeriod_base]
      exact i.isLt
    exact Fin.ext (iterate_injOn_Iio_minimalPeriod (hlt i) (hlt j) (Subtype.ext_iff.mp heq))
  have hcard : Nat.card {g : Generator // g ≠ 0} ≤ Nat.card (Fin cycleLength) := by
    rw [natCard_ne_zero, Nat.card_fin]
  obtain ⟨i, hi⟩ := (hinjective.bijective_of_nat_card_le hcard).surjective ⟨g, hg⟩
  exact ⟨i, Subtype.ext_iff.mp hi⟩

/-- Every state that is not zero is behind every other one. -/
theorem exists_iterate_succ_eq (hg : g ≠ 0) (hh : h ≠ 0) : ∃ n, succ^[n] g = h := by
  obtain ⟨i, rfl⟩ := exists_iterate_succ_base hg
  obtain ⟨j, rfl⟩ := exists_iterate_succ_base hh
  refine ⟨j + (cycleLength * i - i), ?_⟩
  rw [← iterate_add_apply, add_assoc,
    Nat.sub_add_cancel (Nat.le_mul_of_pos_left i cycleLength_pos), iterate_add_apply,
    iterate_mul_cycleLength_base]

theorem succ_ne_zero (hg : g ≠ 0) : g.succ ≠ 0 := by
  obtain ⟨i, rfl⟩ := exists_iterate_succ_base hg
  rw [← iterate_succ_apply' succ]
  exact iterate_succ_base_ne_zero (i + 1)

/-- From a state that is not zero on every word is drawn. -/
theorem exists_word (hg : g ≠ 0) (w : UInt64) : ∃ n, (succ^[n] g).next.1 = w := by
  obtain ⟨b, hb⟩ := exists_next_eq w
  have hone : (1 : UInt64) ≠ 0 := by decide
  have hne : (⟨1, b, 0, 0⟩ : Generator) ≠ 0 := fun hzero => hone (congrArg Generator.a hzero)
  obtain ⟨n, hn⟩ := exists_iterate_succ_eq hg hne
  exact ⟨n, by rw [hn]; exact hb 1 0 0⟩

end LinkParsing.Sampling
