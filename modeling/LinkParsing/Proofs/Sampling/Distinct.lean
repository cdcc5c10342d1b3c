import LinkParsing.Proofs.Sampling.Draws
import LinkParsing.Sampling.Indices
import Mathlib.Data.List.Nodup

/-!
# Samples are made of different numbers below their bound

From any state that is not zero on, each way of sampling gives as many numbers as are asked for, all
different and below the bound (`isSample_sample`): shuffling only exchanges numbers, and the two
ways that grow a set never put a number into it twice.  The one that draws until a fresh number
comes ends, as the uniform draws give every number at some time (`Picked.Sound.drawUntil_fresh`).
-/

namespace LinkParsing.Sampling

variable {draw : Generator → Nat × Generator} {length amount bits n bound : Nat} {picked : Picked}
  {g : Generator}

/-- So many different numbers below a bound. -/
structure IsSample (length amount : Nat) (numbers : List Nat) : Prop where
  length_eq : numbers.length = amount
  nodup : numbers.Nodup
  lt_length : ∀ i ∈ numbers, i < length

theorem IsSample.of_perm {numbers numbers' : List Nat} (h : IsSample length amount numbers)
    (hperm : numbers'.Perm numbers) : IsSample length amount numbers' :=
  ⟨hperm.length_eq.trans h.length_eq, hperm.nodup_iff.mpr h.nodup,
    fun i hi => h.lt_length i (hperm.mem_iff.mp hi)⟩

/-! ## Numbers drawn so far -/

/-- Different numbers below a bound, the set holding just those of the list. -/
structure Picked.Sound (picked : Picked) (bound : Nat) : Prop where
  nodup : picked.list.Nodup
  lt_bound : ∀ n ∈ picked.list, n < bound
  mem_set_iff : ∀ n, n ∈ picked.set ↔ n ∈ picked.list

theorem Picked.sound_nothing (bound : Nat) : Picked.nothing.Sound bound :=
  ⟨List.nodup_nil, nofun, by simp [Picked.nothing]⟩

theorem Picked.Sound.mono (h : picked.Sound bound) {bound' : Nat} (hle : bound ≤ bound') :
    picked.Sound bound' :=
  ⟨h.nodup, fun n hn => (h.lt_bound n hn).trans_le hle, h.mem_set_iff⟩

theorem Picked.Sound.add (h : picked.Sound bound) (hlt : n < bound) (hnew : n ∉ picked.list) :
    (picked.add n).Sound bound := by
  refine ⟨List.nodup_cons.mpr ⟨hnew, h.nodup⟩, ?_, fun m => ?_⟩
  · rintro m hm
    rcases List.mem_cons.mp hm with rfl | hm
    · exact hlt
    · exact h.lt_bound m hm
  · rw [Picked.add, Std.HashSet.mem_insert, h.mem_set_iff, List.mem_cons, beq_iff_eq, eq_comm]

/-- Of more numbers than have been drawn, one has not. -/
theorem Picked.exists_free (hroom : picked.list.length < bound) :
    ∃ n < bound, n ∉ picked.list := by
  by_contra hall
  push Not at hall
  have hsubset : List.range bound ⊆ picked.list := fun n hn => hall n (List.mem_range.mp hn)
  have hlength := (List.subperm_of_subset List.nodup_range hsubset).length_le
  rw [List.length_range] at hlength
  omega

theorem Picked.Sound.fresh?_eq_some_iff (h : picked.Sound bound) {m : Nat} :
    picked.fresh? n = some m ↔ n ∉ picked.list ∧ n = m := by
  rw [← h.mem_set_iff, Std.HashSet.mem_iff_contains]
  simp [Picked.fresh?]

/-- As long as there is a number that has not been drawn, one comes at some time. -/
theorem Picked.Sound.drawUntil_fresh (h : picked.Sound bound) (hroom : picked.list.length < bound)
    (hdraw : Exhaustive draw bound) (hg : g ≠ 0) :
    ((drawUntil picked.fresh? draw g).1 ∉ picked.list ∧
      (drawUntil picked.fresh? draw g).1 < bound) ∧ (drawUntil picked.fresh? draw g).2 ≠ 0 := by
  obtain ⟨n, hlt, hfree⟩ := Picked.exists_free hroom
  have hfresh : picked.fresh? n = some n := h.fresh?_eq_some_iff.mpr ⟨hfree, rfl⟩
  obtain ⟨⟨w, hw, haccept⟩, hrest⟩ := hdraw.drawUntil_spec hg hlt (Option.isSome_of_eq_some hfresh)
  obtain ⟨hnew, hw'⟩ := h.fresh?_eq_some_iff.mp haccept
  rw [← hw']
  exact ⟨⟨hnew, hw⟩, hrest⟩

/-! ## Ways of sampling -/

theorem sampleFresh_spec (hdraw : Exhaustive draw bound) (todo : Nat) (h : picked.Sound bound)
    (hroom : picked.list.length + todo ≤ bound) (hg : g ≠ 0) :
    (sampleFresh draw todo picked g).Sound bound ∧
      (sampleFresh draw todo picked g).list.length = picked.list.length + todo := by
  induction todo generalizing picked g with
  | zero => exact ⟨h, rfl⟩
  | succ todo ih =>
      obtain ⟨⟨hnew, hlt⟩, hrest⟩ := h.drawUntil_fresh (by omega) hdraw hg
      have hlength : (picked.add (drawUntil picked.fresh? draw g).1).list.length =
          picked.list.length + 1 := rfl
      obtain ⟨hsound, hcount⟩ := ih (h.add hlt hnew) (by omega) hrest
      exact ⟨hsound, hcount.trans (by omega)⟩

/-- The bound itself is new where the number drawn below it is not. -/
theorem sampleGrowing_spec (todo : Nat) (h : picked.Sound bound) (hg : g ≠ 0) :
    (sampleGrowing todo bound picked g).Sound (bound + todo) ∧
      (sampleGrowing todo bound picked g).list.length = picked.list.length + todo := by
  induction todo generalizing bound picked g with
  | zero => exact ⟨h, rfl⟩
  | succ todo ih =>
      rw [sampleGrowing]
      dsimp only
      obtain ⟨⟨-, hle⟩, hrest⟩ := drawBetween_spec (Nat.zero_le bound) hg
      have hadd : (picked.add (if picked.set.contains (drawBetween 0 bound g).1 then bound
          else (drawBetween 0 bound g).1)).Sound (bound + 1) := by
        refine (h.mono (Nat.le_succ bound)).add ?_ ?_
        · split <;> omega
        · split
          next => exact fun hmem => (h.lt_bound bound hmem).false
          next hnew =>
            rw [← Std.HashSet.mem_iff_contains, h.mem_set_iff] at hnew
            exact hnew
      obtain ⟨hsound, hcount⟩ := ih hadd hrest
      refine ⟨?_, hcount.trans ?_⟩
      · rw [show bound + (todo + 1) = bound + 1 + todo by omega]
        exact hsound
      · simp only [Picked.add, List.length_cons]
        omega

/-- Exchanging two numbers of an array permutes it. -/
theorem swapIfInBounds_perm (numbers : Array Nat) (i j : Nat) :
    (numbers.swapIfInBounds i j).toList.Perm numbers.toList := by
  unfold Array.swapIfInBounds
  split
  · split
    · exact (Array.swap_perm _ _).toList
    · exact .refl _
  · exact .refl _

/-- Shuffling the front of an array permutes it. -/
theorem shuffleFront_perm (last todo position : Nat) (numbers : Array Nat) (g : Generator) :
    (shuffleFront last todo position numbers g).toList.Perm numbers.toList := by
  induction todo generalizing position numbers g with
  | zero => exact .refl _
  | succ todo ih => exact (ih _ _ _).trans (swapIfInBounds_perm numbers _ _)

theorem isSample_sampleInPlace (h : amount ≤ length) (g : Generator) :
    IsSample length amount (sampleInPlace length amount g) := by
  have hperm := shuffleFront_perm (length - 1) amount 0 (Array.range length) g
  rw [Array.toList_range] at hperm
  refine ⟨?_, (hperm.nodup_iff.mpr List.nodup_range).sublist (List.take_sublist _ _), ?_⟩
  · rw [sampleInPlace, List.length_take, hperm.length_eq, List.length_range]
    omega
  · intro i hi
    exact List.mem_range.mp (hperm.mem_iff.mp (List.mem_of_mem_take hi))

theorem isSample_sampleFresh (h : amount ≤ length) (hdraw : Exhaustive draw (2 ^ bits))
    (hbits : length ≤ 2 ^ bits) (hg : g ≠ 0) :
    IsSample length amount
      (sampleFresh (drawUniform draw bits length) amount .nothing g).list := by
  rcases Nat.eq_zero_or_pos length with hzero | hpos
  · obtain rfl : amount = 0 := by omega
    exact ⟨rfl, List.nodup_nil, nofun⟩
  · obtain ⟨hsound, hcount⟩ := sampleFresh_spec (hdraw.drawUniform hpos hbits) amount
      (Picked.sound_nothing length) (by simpa [Picked.nothing] using h) hg
    exact ⟨by simpa [Picked.nothing] using hcount, hsound.nodup, hsound.lt_bound⟩

theorem isSample_sampleGrowing (h : amount ≤ length) (hg : g ≠ 0) :
    IsSample length amount (sampleGrowing amount (length - amount) .nothing g).list := by
  obtain ⟨hsound, hcount⟩ :=
    sampleGrowing_spec amount (Picked.sound_nothing (length - amount)) hg
  rw [Nat.sub_add_cancel h] at hsound
  exact ⟨by simpa [Picked.nothing] using hcount, hsound.nodup, hsound.lt_bound⟩

/-- No sample starts with a generator that only gives zeros. -/
theorem start_ne_zero (entropy : Generator) (repeatable : Bool) : start entropy repeatable ≠ 0 := by
  unfold start
  split
  next => decide +kernel
  next =>
    unfold Generator.ofEntropy
    split
    next => decide +kernel
    next hwords => exact hwords

/-- Whichever way is taken, a sample has as many numbers as are asked for, all different and below
the bound. -/
theorem isSample_sample (h : amount ≤ length) (hsize : length ≤ 2 ^ 64) (hg : g ≠ 0) :
    IsSample length amount (sample g length amount) := by
  unfold sample
  split
  next => exact isSample_sampleFresh h exhaustive_next64 hsize hg
  next hsmall =>
    split
    next =>
      split
      next => exact isSample_sampleInPlace h _
      next => exact isSample_sampleGrowing h hg
    next =>
      split
      next => exact isSample_sampleInPlace h _
      next =>
        have hbits : length ≤ 2 ^ 32 := (not_le.mp hsmall).le
        exact isSample_sampleFresh h exhaustive_next32 hbits hg

/-! ## Putting numbers in order -/

/-- Putting numbers in order permutes them. -/
theorem sorted_perm (numbers : List Nat) : (sorted numbers).Perm numbers :=
  List.mergeSort_perm numbers _

theorem pairwise_le_sorted (numbers : List Nat) : (sorted numbers).Pairwise (· ≤ ·) := by
  have hsorted : (sorted numbers).Pairwise fun a b => decide (a ≤ b) = true := by
    refine List.pairwise_mergeSort (fun a b c hab hbc => ?_) (fun a b => ?_) numbers
    · exact decide_eq_true ((of_decide_eq_true hab).trans (of_decide_eq_true hbc))
    · rw [Bool.or_eq_true, decide_eq_true_eq, decide_eq_true_eq]
      exact Nat.le_total a b
  exact hsorted.imp of_decide_eq_true

end LinkParsing.Sampling
