import LinkParsing.Proofs.Sampling.States
import Mathlib.Algebra.Ring.GeomSum
import Mathlib.Tactic.Ring

/-!
# Jumping ahead in the sequence of states

A polynomial over two elements stands for a way to mix the states from a state on: the powers that
occur in it tell which of them are added (`blend`).  It is written as a number, with a slot of ten
bits for each coefficient.  Multiplying numbers then multiplies polynomials, as long as no slot
overflows (`Fits.mul`), and keeping the lowest bit of each slot takes the coefficients modulo 2
(`mixes_land_ones`).

The step has a polynomial of degree 256 that mixes the states from the first one on to zero
(`blend_modulus`).  So powers of the variable may be taken modulo this polynomial, by squaring, and
the remainder of the `n`-th power mixes the first 256 states to the one behind `n` steps
(`iterate_succ_of_jump`).
-/

namespace LinkParsing.Sampling

open Generator

/-- The number of values that a slot can hold. -/
def slot : ℕ := 2 ^ 10

/-- The sum of those of the `k` states from `g` on whose slots are odd. -/
def blend : (k c : ℕ) → Generator → Generator
  | 0, _, _ => 0
  | k + 1, c, g => (if c % 2 = 1 then g else 0) + blend k (c / slot) g.succ

/-- Each of the first `k` slots of a number holds at most `m`, and nothing is behind them. -/
def Fits (m : ℕ) : (k c : ℕ) → Prop
  | 0, c => c = 0
  | k + 1, c => c % slot ≤ m ∧ Fits m k (c / slot)

/-- A number of `k` slots with at most `m` in each mixes states by `f`. -/
structure Mixes (m k c : ℕ) (f : Generator → Generator) : Prop where
  fits : Fits m k c
  blend_eq : ∀ g, blend k c g = f g

variable {m m' k l c d n : ℕ} {f f' : Generator → Generator}

theorem two_dvd_slot : 2 ∣ slot := by decide

theorem slot_pos : 0 < slot := by decide

/-! ## Mixing states -/

theorem blend_succ (k c : ℕ) (g : Generator) :
    blend (k + 1) c g = c • g + blend k (c / slot) g.succ := by
  rw [blend, ← mod_two_nsmul c g]
  rcases Nat.mod_two_eq_zero_or_one c with heven | hodd
  · rw [heven, if_neg (by decide), zero_nsmul]
  · rw [hodd, if_pos rfl, one_nsmul]

theorem blend_zero (k : ℕ) (g : Generator) : blend k 0 g = 0 := by
  induction k generalizing g with
  | zero => rfl
  | succ k ih => rw [blend_succ, Nat.zero_div, ih, zero_nsmul, zero_add]

theorem blend_of_zero (k c : ℕ) : blend k c 0 = 0 := by
  induction k generalizing c with
  | zero => rfl
  | succ k ih => rw [blend_succ, succ_zero, ih, nsmul_zero, zero_add]

theorem succ_blend (k c : ℕ) (g : Generator) : (blend k c g).succ = blend k c g.succ := by
  induction k generalizing c g with
  | zero => exact succ_zero
  | succ k ih => rw [blend_succ, blend_succ, succ_add, nsmul_succ, ih]

theorem iterate_succ_blend (n k c : ℕ) (g : Generator) :
    succ^[n] (blend k c g) = blend k c (succ^[n] g) :=
  (Function.Commute.iterate_left (succ_blend k c) n).eq g

/-! ## Slots -/

theorem fits_zero (m k : ℕ) : Fits m k 0 := by
  induction k with
  | zero => rfl
  | succ k ih => exact ⟨by rw [Nat.zero_mod]; exact Nat.zero_le m, by rwa [Nat.zero_div]⟩

theorem Fits.mixes (h : Fits m k c) : Mixes m k c (blend k c) := ⟨h, fun _ => rfl⟩

theorem Fits.of_lt (h : Fits m (k + l) c) (hlt : c < slot ^ k) : Fits m k c := by
  induction k generalizing c with
  | zero => exact Nat.lt_one_iff.mp hlt
  | succ k ih =>
      rw [Nat.add_right_comm] at h
      exact ⟨h.1, ih h.2 (Nat.div_lt_of_lt_mul (by rwa [← pow_succ']))⟩

/-- Without overflow the slots are added apart. -/
theorem Fits.add_slots (h : Fits m (k + 1) c) (h' : Fits m' (k + 1) d) (hroom : m + m' < slot) :
    (c + d) % slot = c % slot + d % slot ∧ (c + d) / slot = c / slot + d / slot := by
  have hlt : c % slot + d % slot < slot := (Nat.add_le_add h.1 h'.1).trans_lt hroom
  refine ⟨?_, ?_⟩
  · rw [Nat.add_mod, Nat.mod_eq_of_lt hlt]
  · rw [Nat.add_div slot_pos, if_neg hlt.not_ge, Nat.add_zero]

theorem Fits.widen (h : Fits m k c) (l : ℕ) : Mixes m (k + l) c (blend k c) := by
  induction k generalizing c with
  | zero =>
      obtain rfl : c = 0 := h
      exact ⟨fits_zero m _, blend_zero _⟩
  | succ k ih =>
      rw [Nat.add_right_comm]
      refine ⟨⟨h.1, (ih h.2).fits⟩, fun g => ?_⟩
      rw [blend_succ, blend_succ, (ih h.2).blend_eq]

theorem Mixes.widen (h : Mixes m k c f) (l : ℕ) : Mixes m (k + l) c f :=
  ⟨(h.fits.widen l).fits, fun g => ((h.fits.widen l).blend_eq g).trans (h.blend_eq g)⟩

theorem mixes_one (k : ℕ) : Mixes 1 (k + 1) 1 fun g => g := by
  have hrest : 1 / slot = 0 := rfl
  refine ⟨⟨by decide, hrest ▸ fits_zero 1 k⟩, fun g => ?_⟩
  rw [blend_succ, hrest, blend_zero, one_nsmul, add_zero]

/-- One slot more is one step more. -/
theorem Mixes.slot_mul (h : Mixes m k c f) : Mixes m (k + 1) (slot * c) fun g => f g.succ := by
  refine ⟨⟨?_, ?_⟩, fun g => ?_⟩
  · rw [Nat.mul_mod_right]
    exact Nat.zero_le m
  · rw [Nat.mul_div_cancel_left c slot_pos]
    exact h.fits
  · rw [blend_succ, Nat.mul_div_cancel_left c slot_pos, h.blend_eq, ← mod_two_nsmul,
      Nat.mod_eq_zero_of_dvd (two_dvd_slot.mul_right c), zero_nsmul, zero_add]

theorem Fits.add (h : Fits m k c) (h' : Fits m' k d) (hroom : m + m' < slot) :
    Mixes (m + m') k (c + d) fun g => blend k c g + blend k d g := by
  induction k generalizing c d with
  | zero =>
      obtain ⟨rfl, rfl⟩ : c = 0 ∧ d = 0 := ⟨h, h'⟩
      exact ⟨rfl, fun g => (add_zero (0 : Generator)).symm⟩
  | succ k ih =>
      obtain ⟨hmod, hdiv⟩ := h.add_slots h' hroom
      have hrest := ih h.2 h'.2
      rw [← hdiv] at hrest
      refine ⟨⟨hmod ▸ Nat.add_le_add h.1 h'.1, hrest.fits⟩, fun g => ?_⟩
      rw [blend_succ, blend_succ, blend_succ, hrest.blend_eq, add_nsmul, add_add_add_comm]

theorem Mixes.add (h : Mixes m k c f) (h' : Mixes m' k d f') (hroom : m + m' < slot) :
    Mixes (m + m') k (c + d) fun g => f g + f' g := by
  have hsum := h.fits.add h'.fits hroom
  refine ⟨hsum.fits, fun g => ?_⟩
  rw [hsum.blend_eq, h.blend_eq, h'.blend_eq]

/-! ## Products -/

theorem Mixes.bit_mul (h : Mixes 1 k c f) {b : ℕ} (hb : b ≤ 1) :
    Mixes 1 k (b * c) fun g => b • f g := by
  rcases Nat.le_one_iff_eq_zero_or_eq_one.mp hb with rfl | rfl
  · simp only [Nat.zero_mul, zero_nsmul]
    exact ⟨fits_zero 1 k, blend_zero k⟩
  · simpa only [Nat.one_mul, one_nsmul] using h

/-- A product mixes as one factor mixes what the other one has mixed. -/
theorem Fits.mul (h : Fits 1 k c) (h' : Fits 1 l d) (hk : k < slot) :
    Mixes k (k + l) (c * d) fun g => blend k c (blend l d g) := by
  induction k generalizing c with
  | zero =>
      rw [show c = 0 from h, Nat.zero_mul]
      exact ⟨fits_zero 0 _, blend_zero _⟩
  | succ k ih =>
      -- The lowest slot of the factor gives one summand, and the others give the other one.
      have hlow := (h'.mixes.bit_mul h.1).widen (k + 1)
      have hhigh := (ih h.2 (by omega)).slot_mul
      have hsum : c % slot * d + slot * (c / slot * d) = c * d := by
        conv_rhs => rw [← Nat.mod_add_div c slot]
        ring
      rw [show l + (k + 1) = k + l + 1 by omega] at hlow
      have hboth := hlow.add hhigh (by omega)
      rw [hsum, show 1 + k = k + 1 by omega, show k + l + 1 = k + 1 + l by omega] at hboth
      refine ⟨hboth.fits, fun g => (hboth.blend_eq g).trans ?_⟩
      rw [blend_succ, succ_blend, ← mod_two_nsmul (c % slot),
        Nat.mod_mod_of_dvd c two_dvd_slot, mod_two_nsmul]

/-! ## Coefficients modulo 2 -/

/-- A one in each of so many slots. -/
def ones (k : ℕ) : ℕ := (slot ^ k - 1) / (slot - 1)

theorem slot_pow (k : ℕ) : slot ^ k = 1 + (slot - 1) * ones k := by
  have hdvd : slot - 1 ∣ slot ^ k - 1 := Nat.sub_one_dvd_pow_sub_one slot k
  rw [ones, Nat.mul_div_cancel' hdvd]
  exact (Nat.add_sub_cancel' (Nat.one_le_pow k slot slot_pos)).symm

theorem ones_succ (k : ℕ) : ones (k + 1) = 1 + slot * ones k := by
  have hnext := slot_pow (k + 1)
  rw [pow_succ', slot_pow k] at hnext
  simp only [slot] at hnext ⊢
  omega

/-- The lowest bits of the slots mix like the number. -/
theorem mixes_land_ones (k c : ℕ) : Mixes 1 k (c &&& ones k) (blend k c) := by
  induction k generalizing c with
  | zero => exact ⟨by simp [ones, Fits], fun _ => rfl⟩
  | succ k ih =>
      have hmod : (c &&& ones (k + 1)) % slot = c % 2 := by
        have hone : ones (k + 1) % slot = 1 := by rw [ones_succ, Nat.add_mul_mod_self_left]; rfl
        rw [slot, Nat.and_mod_two_pow, ← slot, hone, Nat.and_one_is_mod,
          Nat.mod_mod_of_dvd c two_dvd_slot]
      have hdiv : (c &&& ones (k + 1)) / slot = c / slot &&& ones k := by
        have hrest : ones (k + 1) / slot = ones k := by
          rw [ones_succ, Nat.add_mul_div_left _ _ slot_pos, Nat.div_eq_of_lt (by decide),
            Nat.zero_add]
        rw [slot, Nat.and_div_two_pow, ← slot, hrest]
      refine ⟨⟨?_, hdiv ▸ (ih (c / slot)).fits⟩, fun g => ?_⟩
      · rw [hmod]
        omega
      · rw [blend_succ, blend_succ, hdiv, (ih (c / slot)).blend_eq, ← mod_two_nsmul,
          ← Nat.mod_mod_of_dvd _ two_dvd_slot, hmod, Nat.mod_mod, mod_two_nsmul]

/-! ## The polynomial of the step -/

/-- The bits of a number, each in a slot. -/
def spread : (k bits : ℕ) → ℕ
  | 0, _ => 0
  | k + 1, bits => bits % 2 + slot * spread k (bits / 2)

theorem fits_spread (k bits : ℕ) : Fits 1 k (spread k bits) := by
  induction k generalizing bits with
  | zero => rfl
  | succ k ih =>
      have hlt : bits % 2 < slot := (Nat.mod_lt bits two_pos).trans (by decide)
      refine ⟨?_, ?_⟩
      · rw [spread, Nat.add_mul_mod_self_left, Nat.mod_eq_of_lt hlt]
        omega
      · rw [spread, Nat.add_mul_div_left _ _ slot_pos, Nat.div_eq_of_lt hlt, Nat.zero_add]
        exact ih _

/-- A polynomial of degree 256 that takes the step to zero. -/
def modulus : ℕ := spread 257 0x10003C03C3F3ECB1904B4EDCF26259F850280002BCEFD1A5E9D116F2BB0F0F001

/-- The powers of the variable up to the 510th, divided by the modulus. -/
def reciprocal : ℕ := spread 255 0x4000F00E5BCCB0A604CAD87C9DE2DA786A84A5FAB7579DADE4EA41B655BEF122

/-- The first state: all of the others that are not zero come behind it. -/
def base : Generator := ⟨1, 0, 0, 0⟩

theorem blend_modulus : blend 257 modulus base = 0 := by decide +kernel

/-! ## Powers modulo the polynomial -/

/-- A product less a multiple of the modulus that leaves a degree below 256.  Nothing is given if
the quotient does not come out right. -/
def mulMod (c d : ℕ) : Option ℕ :=
  let product := c * d &&& ones 512
  let quotient := (product / slot ^ 256 * reciprocal &&& ones 512) / slot ^ 254 &&& ones 256
  let rest := product + quotient * modulus &&& ones 513
  if rest < slot ^ 256 then some rest else none

/-- The power of the variable with an exponent of so many bits, modulo the polynomial. -/
def power : (bits n : ℕ) → Option ℕ
  | 0, _ => some 1
  | bits + 1, n => do
    let c ← power bits (n / 2)
    let square ← mulMod c c
    mulMod square (slot ^ (n % 2))

/-- The state that is `n` steps behind the first one. -/
def jump (n : ℕ) : Option Generator := (power 256 n).map fun c => blend 256 c base

theorem mulMod_spec {e : ℕ} (h : Fits 1 256 c) (h' : Fits 1 256 d) (hmul : mulMod c d = some e) :
    Fits 1 256 e ∧ blend 256 e base = blend 256 c (blend 256 d base) := by
  simp only [mulMod, Option.ite_none_right_eq_some, Option.some.injEq] at hmul
  obtain ⟨hlt, rfl⟩ := hmul
  set product := c * d &&& ones 512
  set quotient := (product / slot ^ 256 * reciprocal &&& ones 512) / slot ^ 254 &&& ones 256
  have hproduct : Mixes 1 512 product fun g => blend 256 c (blend 256 d g) :=
    ⟨(mixes_land_ones 512 (c * d)).fits,
      fun g => ((mixes_land_ones 512 (c * d)).blend_eq g).trans ((h.mul h' (by decide)).blend_eq g)⟩
  have hmultiple : Mixes 256 513 (quotient * modulus)
      fun g => blend 256 quotient (blend 257 modulus g) :=
    (mixes_land_ones 256 _).fits.mul (fits_spread 257 _) (by decide)
  have hsum := (hproduct.widen 1).add hmultiple (by decide)
  have hrest := mixes_land_ones 513 (product + quotient * modulus)
  have hfits : Fits 1 256 (product + quotient * modulus &&& ones 513) :=
    Fits.of_lt (l := 257) hrest.fits hlt
  refine ⟨hfits, ?_⟩
  rw [← (hfits.widen 257).blend_eq, hrest.blend_eq, hsum.blend_eq, blend_modulus, blend_of_zero,
    add_zero]

/-- A number that stands for so many steps. -/
structure Jumps (n c : ℕ) : Prop where
  fits : Fits 1 256 c
  iterate_succ : succ^[n] base = blend 256 c base

theorem Jumps.mulMod {e : ℕ} (h : Jumps m c) (h' : Jumps n d) (hmul : mulMod c d = some e) :
    Jumps (m + n) e := by
  obtain ⟨hfits, hblend⟩ := mulMod_spec h.fits h'.fits hmul
  refine ⟨hfits, ?_⟩
  rw [add_comm, Function.iterate_add_apply, h.iterate_succ, iterate_succ_blend, h'.iterate_succ,
    hblend]

theorem jumps_zero : Jumps 0 1 := ⟨(mixes_one 255).fits, ((mixes_one 255).blend_eq base).symm⟩

theorem jumps_one : Jumps 1 slot := by
  have hmixes := (mixes_one 254).slot_mul
  rw [Nat.mul_one] at hmixes
  exact ⟨hmixes.fits, (hmixes.blend_eq base).symm⟩

theorem jumps_power {bits : ℕ} (hlt : n < 2 ^ bits) (hpower : power bits n = some c) :
    Jumps n c := by
  induction bits generalizing n c with
  | zero =>
      obtain ⟨rfl, rfl⟩ : n = 0 ∧ 1 = c := ⟨Nat.lt_one_iff.mp hlt, Option.some.inj hpower⟩
      exact jumps_zero
  | succ bits ih =>
      simp only [power, Option.bind_eq_bind, Option.bind_eq_some_iff] at hpower
      obtain ⟨half, hhalf, square, hsquare, hlast⟩ := hpower
      have hjumps := ih (by rw [pow_succ] at hlt; omega) hhalf
      have hbit : Jumps (n % 2) (slot ^ (n % 2)) := by
        rcases Nat.mod_two_eq_zero_or_one n with heven | hodd
        · rw [heven, pow_zero]
          exact jumps_zero
        · rw [hodd, pow_one]
          exact jumps_one
      have hnext := (hjumps.mulMod hjumps hsquare).mulMod hbit hlast
      rwa [show n / 2 + n / 2 + n % 2 = n by omega] at hnext

theorem iterate_succ_of_jump {g : Generator} (hlt : n < 2 ^ 256) (h : jump n = some g) :
    succ^[n] base = g := by
  obtain ⟨c, hpower, rfl⟩ := Option.map_eq_some_iff.mp h
  exact (jumps_power hlt hpower).iterate_succ

end LinkParsing.Sampling
