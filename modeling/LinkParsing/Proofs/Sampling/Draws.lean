import LinkParsing.Proofs.Sampling.Period

/-!
# Draws come to an end, and each number is drawn at some time

A way to draw numbers below a bound is `Exhaustive` if from a state that is not zero on each of the
numbers is drawn at some time.  Words are, because the generator goes through all of its states
(`exhaustive_next64`, `exhaustive_next32`).

Drawing until a number is accepted ends with the first one that is, if there is one at some time
(`drawUntil_eq`), and with exhaustive draws there is if any number is accepted at all
(`Exhaustive.drawUntil_spec`).  Uniform draws are made so and are exhaustive again, as for each
number below their bound one is accepted that gives it (`Exhaustive.drawUniform`).
-/

namespace LinkParsing.Sampling

open Generator

variable {draw : Generator → ℕ × Generator} {accept : ℕ → Option ℕ} {g : Generator}
  {bits bound low high m n t v zone : ℕ}

/-- The generator behind a draw. -/
def rest (draw : Generator → ℕ × Generator) (g : Generator) : Generator := (draw g).2

/-- Numbers below a bound are drawn from states that are not zero, each of them at some time. -/
structure Exhaustive (draw : Generator → ℕ × Generator) (bound : ℕ) : Prop where
  lt_bound : ∀ {g}, g ≠ 0 → (draw g).1 < bound
  rest_ne_zero : ∀ {g}, g ≠ 0 → rest draw g ≠ 0
  exists_draw : ∀ {g}, g ≠ 0 → ∀ t < bound, ∃ k, (draw ((rest draw)^[k] g)).1 = t

theorem Exhaustive.iterate_ne_zero (h : Exhaustive draw bound) (hg : g ≠ 0) (k : ℕ) :
    (rest draw)^[k] g ≠ 0 := by
  induction k generalizing g with
  | zero => exact hg
  | succ k ih => exact ih (h.rest_ne_zero hg)

/-! ## Words -/

theorem exhaustive_next64 : Exhaustive next64 (2 ^ 64) := by
  refine ⟨fun _ => UInt64.toNat_lt _, fun hg => succ_ne_zero hg, fun {g} hg t ht => ?_⟩
  obtain ⟨k, hk⟩ := exists_word hg (.ofNat t)
  refine ⟨k, ?_⟩
  change ((succ^[k] g).next.1).toNat = t
  rw [hk, UInt64.toNat_ofNat_of_lt' ht]

/-- The upper half of a word may be any number. -/
theorem exhaustive_next32 : Exhaustive next32 (2 ^ 32) := by
  refine ⟨fun {g} _ => ?_, fun hg => succ_ne_zero hg, fun {g} hg t ht => ?_⟩
  · have hword := g.next.1.toNat_lt
    simp only [next32, Nat.shiftRight_eq_div_pow]
    omega
  · obtain ⟨k, hk⟩ := exists_word hg (.ofNat (t * 2 ^ 32))
    have hfits : t * 2 ^ 32 < UInt64.size := by
      simp only [UInt64.size]
      omega
    refine ⟨k, ?_⟩
    change ((succ^[k] g).next.1).toNat >>> 32 = t
    rw [hk, UInt64.toNat_ofNat_of_lt' hfits, Nat.shiftRight_eq_div_pow,
      Nat.mul_div_cancel _ (Nat.two_pow_pos 32)]

/-! ## Drawing until a number is accepted -/

theorem drawUntil_of_some (h : accept (draw g).1 = some t) :
    drawUntil accept draw g = (t, rest draw g) := by
  rw [drawUntil, repeatM_eq_of_monadTail]
  simp only [repeatM.body, h]
  rfl

theorem drawUntil_of_none (h : accept (draw g).1 = none) :
    drawUntil accept draw g = drawUntil accept draw (rest draw g) := by
  rw [drawUntil, repeatM_eq_of_monadTail]
  simp only [repeatM.body, h]
  rfl

/-- If a number is accepted at some time, the draw ends there or before. -/
theorem drawUntil_eq (hm : (accept (draw ((rest draw)^[m] g)).1).isSome) :
    ∃ j ≤ m, ∃ t, accept (draw ((rest draw)^[j] g)).1 = some t ∧
      drawUntil accept draw g = (t, (rest draw)^[j + 1] g) := by
  induction m generalizing g with
  | zero =>
      obtain ⟨t, ht⟩ := Option.isSome_iff_exists.mp hm
      exact ⟨0, le_rfl, t, ht, drawUntil_of_some ht⟩
  | succ m ih =>
      cases hnow : accept (draw g).1 with
      | some t => exact ⟨0, Nat.zero_le _, t, hnow, drawUntil_of_some hnow⟩
      | none =>
          obtain ⟨j, hj, t, ht, hend⟩ := ih hm
          exact ⟨j + 1, by omega, t, ht, (drawUntil_of_none hnow).trans hend⟩

/-- Exhaustive draws end if any number is accepted. -/
theorem Exhaustive.drawUntil_spec (h : Exhaustive draw bound) (hg : g ≠ 0) (hv : v < bound)
    (haccept : (accept v).isSome) :
    (∃ w < bound, accept w = some (drawUntil accept draw g).1) ∧
      (drawUntil accept draw g).2 ≠ 0 := by
  obtain ⟨m, rfl⟩ := h.exists_draw hg v hv
  obtain ⟨j, -, t, ht, hend⟩ := drawUntil_eq haccept
  rw [hend]
  exact ⟨⟨_, h.lt_bound (h.iterate_ne_zero hg j), ht⟩, h.iterate_ne_zero hg (j + 1)⟩

/-! ## Numbers below a bound -/

theorem upperHalf?_eq_some_iff :
    upperHalf? bits n zone v = some t ↔ v * n % 2 ^ bits ≤ zone ∧ v * n / 2 ^ bits = t := by
  simp only [upperHalf?, Nat.one_shiftLeft, Nat.shiftRight_eq_div_pow,
    Option.ite_none_right_eq_some, Option.some.injEq]

theorem lt_of_upperHalf? (hv : v < 2 ^ bits) (hn : 0 < n) (h : upperHalf? bits n zone v = some t) :
    t < n := by
  rw [← (upperHalf?_eq_some_iff.mp h).2]
  exact Nat.div_lt_of_lt_mul (Nat.mul_lt_mul_of_pos_right hv hn)

/-- Zero is accepted in any case, so each draw ends. -/
theorem Exhaustive.drawUntil_upperHalf? (h : Exhaustive draw (2 ^ bits)) (hg : g ≠ 0) (hn : 0 < n)
    (zone : ℕ) :
    (drawUntil (upperHalf? bits n zone) draw g).1 < n ∧
      (drawUntil (upperHalf? bits n zone) draw g).2 ≠ 0 := by
  have hzero : upperHalf? bits n zone 0 = some 0 := upperHalf?_eq_some_iff.mpr (by simp)
  obtain ⟨⟨w, hw, haccept⟩, hrest⟩ :=
    h.drawUntil_spec hg (Nat.two_pow_pos bits) (Option.isSome_of_eq_some hzero)
  exact ⟨lt_of_upperHalf? hw hn haccept, hrest⟩

theorem drawBetween_spec (h : low ≤ high) (hg : g ≠ 0) :
    (low ≤ (drawBetween low high g).1 ∧ (drawBetween low high g).1 ≤ high) ∧
      (drawBetween low high g).2 ≠ 0 := by
  have hpos : 0 < high - low + 1 := Nat.succ_pos _
  obtain ⟨hlt, hrest⟩ := exhaustive_next32.drawUntil_upperHalf? hg hpos
    (((high - low + 1) <<< (31 - (high - low + 1).log2)) - 1)
  simp only [drawBetween]
  exact ⟨by omega, hrest⟩

/-! ## Uniform draws -/

/-- The first number whose product with `n` has the upper half `t` is accepted. -/
theorem exists_upperHalf?_eq (hle : n ≤ 2 ^ bits) (ht : t < n) :
    ∃ v < 2 ^ bits, upperHalf? bits n (2 ^ bits - 1 - (2 ^ bits - n) % n) v = some t := by
  have hpos : 0 < 2 ^ bits := Nat.two_pow_pos bits
  obtain ⟨v, r, hr, hv⟩ : ∃ v r, r < n ∧ v * n = 2 ^ bits * t + r := by
    have hmod := Nat.mod_lt (2 ^ bits * t + (n - 1)) (by omega : 0 < n)
    have hdiv := Nat.div_add_mod' (2 ^ bits * t + (n - 1)) n
    exact ⟨(2 ^ bits * t + (n - 1)) / n, n - 1 - (2 ^ bits * t + (n - 1)) % n, by omega, by omega⟩
  refine ⟨v, ?_, upperHalf?_eq_some_iff.mpr ⟨?_, ?_⟩⟩
  · have hbound : 2 ^ bits * t + r < 2 ^ bits * n := by
      have hnext : 2 ^ bits * (t + 1) ≤ 2 ^ bits * n := Nat.mul_le_mul_left _ ht
      rw [Nat.mul_succ] at hnext
      omega
    exact Nat.lt_of_mul_lt_mul_right (hv ▸ hbound)
  · have hreject : (2 ^ bits - n) % n ≤ 2 ^ bits - n := Nat.mod_le _ n
    rw [hv, Nat.mul_add_mod, Nat.mod_eq_of_lt (hr.trans_le hle)]
    omega
  · rw [hv, Nat.mul_add_div hpos, Nat.div_eq_of_lt (hr.trans_le hle), Nat.add_zero]

/-- If a number comes that is accepted as `t`, then `t` is drawn at some time. -/
theorem exists_drawUntil_eq (hm : accept (draw ((rest draw)^[m] g)).1 = some t) :
    ∃ k, (drawUntil accept draw ((rest (drawUntil accept draw))^[k] g)).1 = t := by
  induction m using Nat.strong_induction_on generalizing g with
  | _ m ih =>
    obtain ⟨j, hj, u, hu, hend⟩ := drawUntil_eq (Option.isSome_of_eq_some hm)
    rcases hj.eq_or_lt with rfl | hlt
    · refine ⟨0, ?_⟩
      rw [Function.iterate_zero_apply, hend]
      exact Option.some.inj (hu.symm.trans hm)
    · -- Another number is accepted before, and this one comes in one of the draws behind it.
      have hbehind : accept (draw ((rest draw)^[m - (j + 1)] ((rest draw)^[j + 1] g))).1 =
          some t := by
        rw [← Function.iterate_add_apply, Nat.sub_add_cancel hlt, hm]
      obtain ⟨k, hk⟩ := ih (m - (j + 1)) (by omega) hbehind
      refine ⟨k + 1, ?_⟩
      rw [Function.iterate_succ_apply, rest, hend]
      exact hk

theorem Exhaustive.drawUniform (h : Exhaustive draw (2 ^ bits)) (hn : 0 < n) (hle : n ≤ 2 ^ bits) :
    Exhaustive (Sampling.drawUniform draw bits n) n := by
  refine ⟨fun hg => (h.drawUntil_upperHalf? hg hn _).1,
    fun hg => (h.drawUntil_upperHalf? hg hn _).2, fun {g} hg t ht => ?_⟩
  obtain ⟨v, hv, haccept⟩ := exists_upperHalf?_eq hle ht
  obtain ⟨m, rfl⟩ := h.exists_draw hg v hv
  rw [← Nat.one_shiftLeft] at haccept
  exact exists_drawUntil_eq haccept

end LinkParsing.Sampling
