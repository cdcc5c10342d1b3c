import LinkParsing.Engine
import LinkParsing.Proofs.Sampling.Distinct

/-!
# Picking the numbers of the linkages to keep

All numbers are picked if they may all be kept, and a sample of them if not.  As sampling comes to
an end from every count that 64 bits can hold, wherever it starts, so does picking, with as many
different numbers below the count as there are or as may be kept (`exists_pickIndices`), in order
(`pickIndices_increasing`).
-/

namespace LinkParsing.Engine

variable {entropy : Sampling.Generator} {repeatable : Bool} {found limit : Nat} {indices : List Nat}

/-- The numbers to keep are different and below the count, and as many as there are or as may
be kept. -/
theorem exists_pickIndices (entropy : Sampling.Generator) (repeatable : Bool) (limit : Nat)
    (h : found ≤ maxPopulation) :
    ∃ indices, pickIndices entropy repeatable limit found = .ok indices ∧
      indices.length = min found limit ∧ indices.Nodup ∧ ∀ i ∈ indices, i < found := by
  unfold pickIndices
  split
  next hle =>
    refine ⟨_, rfl, ?_, List.nodup_range, fun i hi => List.mem_range.mp hi⟩
    rw [List.length_range, min_eq_left hle]
  next hgt =>
    have hsize : found ≤ 2 ^ 64 := h.trans (by decide)
    have hle : limit ≤ found := (not_le.mp hgt).le
    have hsample := Sampling.isSample_sample hle hsize (Sampling.start_ne_zero entropy repeatable)
    have hpicked := hsample.of_perm (Sampling.sorted_perm _)
    exact ⟨_, rfl, hpicked.length_eq.trans (min_eq_right hle).symm, hpicked.nodup,
      hpicked.lt_length⟩

theorem pairwise_le_of_pickIndices (h : pickIndices entropy repeatable limit found = .ok indices) :
    indices.Pairwise (· ≤ ·) := by
  unfold pickIndices at h
  split at h
  next =>
    rw [← Except.ok.inj h]
    exact List.pairwise_le_range
  next =>
    split at h
    next =>
      rw [← Except.ok.inj h]
      exact Sampling.pairwise_le_sorted _
    next => cases h

/-- From any count, up to any number of linkages to keep, numbers are picked: as many as there are
or as may be kept, each larger than the one before, and all below the count.  They need not be the
repeatable ones; whatever words the system draws will do. -/
theorem pickIndices_increasing (entropy : Sampling.Generator) (repeatable : Bool)
    (found limit : UInt64) :
    ∃ indices, pickIndices entropy repeatable limit.toNat found.toNat = .ok indices ∧
      indices.Pairwise (· < ·) ∧ indices.length = min found.toNat limit.toNat ∧
      ∀ i ∈ indices, i < found.toNat := by
  have hpopulation : found.toNat ≤ maxPopulation := Nat.le_pred_of_lt found.toNat_lt
  obtain ⟨indices, hpick, hlength, hnodup, hlt⟩ :=
    exists_pickIndices entropy repeatable limit.toNat hpopulation
  have hincreasing : indices.Pairwise (· < ·) :=
    ((pairwise_le_of_pickIndices hpick).and hnodup).imp fun h => lt_of_le_of_ne h.1 h.2
  exact ⟨indices, hpick, hincreasing, hlength, hlt⟩

end LinkParsing.Engine
