import LinkParsing.Cost
import Mathlib.Algebra.Ring.Nat

/-!
# Sums and choices of costs

Adding costs one after the other comes to what their exact sum comes to: it is held just if it fits,
whatever the order (`ofNat_add`, `foldl_add_eq_ofNat`).  Once a sum has overflowed it stays so
(`foldl_add_eq_overflow`).  The lesser of two costs is one of them and before both (`min_eq_or`,
`min_le_left`, `min_le_right`), also where one of them has overflowed.
-/

namespace LinkParsing.Cost

variable {a b c : Cost} {m n : Nat}

/-- The cost is held and is so much. -/
def Keeps (c : Cost) (n : Nat) : Prop := ∃ k : UInt32, c = held k ∧ k.toNat = n

/-! ## Costs of numbers -/

theorem ofNat_eq_held (h : n < 2 ^ 32) : ofNat n = held (.ofNat n) := if_pos h

theorem ofNat_eq_overflow_iff : ofNat n = overflow ↔ 2 ^ 32 ≤ n := by
  unfold ofNat
  split
  next h => exact ⟨nofun, fun hle => absurd h (Nat.not_lt.mpr hle)⟩
  next h => exact ⟨fun _ => Nat.not_lt.mp h, fun _ => rfl⟩

theorem toNat_ofNat (h : n < 2 ^ 32) : (ofNat n).toNat = n := by
  rw [ofNat_eq_held h]
  exact UInt32.toNat_ofNat_of_lt' h

theorem toNat_lt (c : Cost) : c.toNat < 2 ^ 32 := by
  cases c with
  | held n => exact n.toNat_lt
  | overflow => decide

/-- A cost that is held is the cost of what it holds. -/
theorem ofNat_toNat (h : c ≠ overflow) : ofNat c.toNat = c := by
  cases c with
  | held n => rw [ofNat_eq_held (toNat_lt _), toNat, UInt32.ofNat_toNat]
  | overflow => exact absurd rfl h

/-! ## Costs that are kept -/

theorem keeps_iff : c.Keeps n ↔ c ≠ overflow ∧ c.toNat = n := by
  cases c with
  | held k => simp [Keeps, toNat]
  | overflow => simp [Keeps]

theorem Keeps.toNat_eq (h : c.Keeps n) : c.toNat = n := (keeps_iff.mp h).2

/-- The cost of a number is kept just if it fits, and as what it is. -/
theorem keeps_ofNat_iff : (ofNat m).Keeps n ↔ n = m ∧ m < 2 ^ 32 := by
  rw [keeps_iff, ne_eq, ofNat_eq_overflow_iff, Nat.not_le, and_comm]
  refine and_congr_left fun h => ?_
  rw [toNat_ofNat h, eq_comm]

/-! ## Sums -/

@[simp] theorem add_overflow (a : Cost) : a + overflow = overflow := by cases a <;> rfl

@[simp] theorem overflow_add (a : Cost) : overflow + a = overflow := rfl

/-- The cost of a sum is the sum of the costs. -/
theorem ofNat_add (m n : Nat) : ofNat (m + n) = ofNat m + ofNat n := by
  by_cases hm : m < 2 ^ 32
  · by_cases hn : n < 2 ^ 32
    · have hadd : held (.ofNat m) + held (.ofNat n) =
          ofNat ((UInt32.ofNat m).toNat + (UInt32.ofNat n).toNat) := rfl
      rw [ofNat_eq_held hm, ofNat_eq_held hn, hadd, UInt32.toNat_ofNat_of_lt' hm,
        UInt32.toNat_ofNat_of_lt' hn]
    · rw [ofNat_eq_overflow_iff.mpr (Nat.not_lt.mp hn), add_overflow]
      exact ofNat_eq_overflow_iff.mpr (by omega)
  · rw [ofNat_eq_overflow_iff.mpr (Nat.not_lt.mp hm), overflow_add]
    exact ofNat_eq_overflow_iff.mpr (by omega)

/-- Adding up costs that are held comes to the cost of their exact sum. -/
theorem foldl_add_eq_ofNat {costs : List Cost} (h : ∀ c ∈ costs, c ≠ overflow) (m : Nat) :
    costs.foldl (· + ·) (ofNat m) = ofNat (m + (costs.map toNat).sum) := by
  induction costs generalizing m with
  | nil => rfl
  | cons c costs ih =>
      obtain ⟨hc, hcosts⟩ := List.forall_mem_cons.mp h
      rw [List.foldl_cons, ← ofNat_toNat hc, ← ofNat_add, ih hcosts, ofNat_toNat hc,
        List.map_cons, List.sum_cons, Nat.add_assoc]

theorem foldl_add_overflow (costs : List Cost) : costs.foldl (· + ·) overflow = overflow := by
  induction costs with
  | nil => rfl
  | cons c costs ih => rw [List.foldl_cons, overflow_add, ih]

/-- One overflow is enough for the whole sum to have overflowed. -/
theorem foldl_add_eq_overflow {costs : List Cost} (h : overflow ∈ costs) (a : Cost) :
    costs.foldl (· + ·) a = overflow := by
  obtain ⟨before, after, rfl⟩ := List.append_of_mem h
  rw [List.foldl_append, List.foldl_cons, add_overflow, foldl_add_overflow]

/-! ## Choices -/

theorem le_refl (a : Cost) : a ≤ a := by
  cases a with
  | held n => exact UInt32.le_refl n
  | overflow => trivial

theorem le_trans (hab : a ≤ b) (hbc : b ≤ c) : a ≤ c := by
  cases a with
  | overflow => trivial
  | held m =>
      cases b with
      | overflow => exact hab.elim
      | held n =>
          cases c with
          | overflow => exact hbc.elim
          | held k => exact UInt32.le_trans hab hbc

theorem eq_overflow_of_le (h : a ≤ overflow) : a = overflow := by
  cases a with
  | held n => exact h.elim
  | overflow => rfl

theorem toNat_le_of_le (h : a ≤ b) : a.toNat ≤ b.toNat := by
  cases a with
  | overflow => exact Nat.zero_le _
  | held m =>
      cases b with
      | overflow => exact h.elim
      | held n => exact UInt32.le_iff_toNat_le.mp h

theorem min_eq_or (a b : Cost) : min a b = a ∨ min a b = b := by
  cases a with
  | overflow => exact .inl rfl
  | held m =>
      cases b with
      | overflow => exact .inr rfl
      | held n => exact (Std.min_eq_or (a := m) (b := n)).imp (congrArg held) (congrArg held)

theorem min_le_left (a b : Cost) : min a b ≤ a := by
  cases a with
  | overflow => trivial
  | held m =>
      cases b with
      | overflow => trivial
      | held n => exact Std.min_le_left (a := m) (b := n)

theorem min_le_right (a b : Cost) : min a b ≤ b := by
  cases a with
  | overflow => trivial
  | held m =>
      cases b with
      | overflow => trivial
      | held n => exact Std.min_le_right (a := m) (b := n)

end LinkParsing.Cost
