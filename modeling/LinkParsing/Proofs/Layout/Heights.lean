import LinkParsing.Layout.Basic
import LinkParsing.Proofs.Sorting

/-!
# Heights of arcs

Arcs are given their heights from the shortest to the longest, so when an arc is placed, all
shorter ones within it stand already, and it comes above them (`height_lt_of_within`).  Two arcs
between the same words get different heights as well (`eq_of_same_ends`).

If no two arcs cross, an arc that ends strictly inside another one lies within it.  So no arc ends
strictly inside one that is as high or higher (`height_lt_of_inside`), and arcs of one height
stand side by side (`beside_of_height_eq`).
-/

namespace LinkParsing

/-- A number is at most the greatest of some numbers just if it is at most one of them. -/
theorem le_foldl_max_iff {n b : Nat} {l : List Nat} :
    n ≤ l.foldl max b ↔ n ≤ b ∨ ∃ m ∈ l, n ≤ m := by
  induction l generalizing b with
  | nil => simp
  | cons m l ih => simp [ih, or_assoc]

/-- The greatest of some numbers is one of them. -/
theorem foldl_max_eq_or_mem (b : Nat) (l : List Nat) : l.foldl max b = b ∨ l.foldl max b ∈ l := by
  rcases le_foldl_max_iff.mp (le_refl (l.foldl max b)) with hle | ⟨m, hm, hle⟩
  · exact .inl (le_antisymm hle (le_foldl_max_iff.mpr (.inl (le_refl b))))
  · have hge : m ≤ l.foldl max b := le_foldl_max_iff.mpr (.inr ⟨m, hm, le_refl m⟩)
    rw [le_antisymm hle hge]
    exact .inr hm

/-- The greatest of some numbers is at most a number just if each of them is. -/
theorem foldl_max_le_iff {n b : Nat} {l : List Nat} :
    l.foldl max b ≤ n ↔ b ≤ n ∧ ∀ m ∈ l, m ≤ n := by
  induction l generalizing b with
  | nil => simp
  | cons m l ih => simp [ih, and_assoc]

namespace Arc

theorem spanLe_iff (a b : Arc) :
    a.spanLe b = true ↔ a.span < b.span ∨ a.span = b.span ∧ a.left ≤ b.left := by
  simp [spanLe]

theorem within_iff (a b : Arc) : a.within b = true ↔ b.left ≤ a.left ∧ a.right ≤ b.right := by
  simp [within]

theorem isOrder_spanLe : IsOrder spanLe where
  trans := by
    intro a b c hab hbc
    rw [spanLe_iff] at hab hbc ⊢
    omega
  total := by
    intro a b
    rw [Bool.or_eq_true, spanLe_iff, spanLe_iff]
    omega

/-- Sorted arcs come from the shortest to the longest. -/
theorem pairwise_sorted (arcs : List Arc) :
    (arcs.mergeSort spanLe).Pairwise fun a b => a.span ≤ b.span := by
  have hsorted := List.pairwise_mergeSort isOrder_spanLe.trans isOrder_spanLe.total arcs
  refine hsorted.imp fun {a b} h => ?_
  rw [spanLe_iff] at h
  omega

/-- Two arcs cross: the second one starts inside the first one and ends behind it. -/
def Crosses (a b : Arc) : Prop := a.left < b.left ∧ b.left < a.right ∧ a.right < b.right

end Arc

namespace Layout

variable {arcs : List Arc} {placed : List PlacedLink} {p q : PlacedLink}

/-! ## One arc after the other -/

theorem lt_heightAbove {a : Arc} (hp : p ∈ placed) (h : p.toArc.within a) :
    p.height < heightAbove placed a := by
  refine Nat.lt_succ_of_le (le_foldl_max_iff.mpr (.inr ⟨p.height, ?_, le_refl _⟩))
  exact List.mem_map_of_mem (List.mem_filter.mpr ⟨hp, h⟩)

theorem height_le_maxHeight {layout : Layout} (hp : p ∈ layout.links) :
    p.height ≤ layout.maxHeight :=
  le_foldl_max_iff.mpr (.inr ⟨p.height, List.mem_map_of_mem hp, le_refl _⟩)

/-- Placing arcs adds them behind those that stand already. -/
theorem map_toArc_placeArcs (placed : List PlacedLink) (arcs : List Arc) :
    (placeArcs placed arcs).map (·.toArc) = placed.map (·.toArc) ++ arcs := by
  induction arcs generalizing placed with
  | nil => simp [placeArcs]
  | cons a arcs ih => simp [placeArcs, ih]

theorem height_pos_of_placeArcs (hplaced : ∀ p ∈ placed, 0 < p.height)
    (hp : p ∈ placeArcs placed arcs) : 0 < p.height := by
  induction arcs generalizing placed with
  | nil => exact hplaced p hp
  | cons a arcs ih =>
      refine ih (fun q hq => ?_) hp
      rcases List.mem_append.mp hq with hq | hq
      · exact hplaced q hq
      · obtain rfl := List.mem_singleton.mp hq
        exact Nat.succ_pos _

/-- Of two arcs of which the first one lies within the second, the second one is higher. -/
def Above (p q : PlacedLink) : Prop := p.toArc.within q.toArc → p.height < q.height

theorem pairwise_above_placeArcs (h : placed.Pairwise Above) (arcs : List Arc) :
    (placeArcs placed arcs).Pairwise Above := by
  induction arcs generalizing placed with
  | nil => exact h
  | cons a arcs ih =>
      refine ih (List.pairwise_append.mpr ⟨h, List.pairwise_singleton _ _, fun p hp q hq => ?_⟩)
      obtain rfl := List.mem_singleton.mp hq
      exact lt_heightAbove hp

/-! ## All arcs -/

theorem placeLinks_perm (arcs : List Arc) : ((placeLinks arcs).map (·.toArc)).Perm arcs := by
  have hplaced := map_toArc_placeArcs [] (arcs.mergeSort Arc.spanLe)
  refine ((List.mergeSort_perm _ _).map _).trans ?_
  rw [hplaced]
  exact List.mergeSort_perm arcs _

theorem mem_of_mem_placeLinks (hp : p ∈ placeLinks arcs) : p.toArc ∈ arcs :=
  (placeLinks_perm arcs).mem_iff.mp (List.mem_map_of_mem hp)

theorem height_pos (hp : p ∈ placeLinks arcs) : 0 < p.height := by
  have hnone : ∀ q ∈ ([] : List PlacedLink), 0 < q.height := fun _ hq =>
    absurd hq List.not_mem_nil
  exact height_pos_of_placeArcs hnone ((List.mergeSort_perm _ _).mem_iff.mp hp)

/-- The second of two arcs is not shorter, and above the first one if that lies within it. -/
def Later (p q : PlacedLink) : Prop := p.span ≤ q.span ∧ Above p q

theorem pairwise_later_placeArcs (arcs : List Arc) :
    (placeArcs [] (arcs.mergeSort Arc.spanLe)).Pairwise Later := by
  have hspan : ((placeArcs [] (arcs.mergeSort Arc.spanLe)).map (·.toArc)).Pairwise
      fun a b => a.span ≤ b.span := by
    rw [map_toArc_placeArcs]
    exact Arc.pairwise_sorted arcs
  exact (List.pairwise_map.mp hspan).and (pairwise_above_placeArcs .nil _)

/-- One of two placed arcs was placed later. -/
theorem later_or_later (hp : p ∈ placeLinks arcs) (hq : q ∈ placeLinks arcs) (hne : p ≠ q) :
    Later p q ∨ Later q p := by
  have hsymm : Std.Symm fun p q => Later p q ∨ Later q p := ⟨fun _ _ => Or.symm⟩
  refine ((pairwise_later_placeArcs arcs).imp (S := fun p q => Later p q ∨ Later q p) .inl).forall
    ?_ ?_ hne
  · exact (List.mergeSort_perm _ _).mem_iff.mp hp
  · exact (List.mergeSort_perm _ _).mem_iff.mp hq

/-- An arc is above all shorter ones within it. -/
theorem height_lt_of_within (hp : p ∈ placeLinks arcs) (hq : q ∈ placeLinks arcs)
    (hwithin : p.toArc.within q.toArc) (hspan : p.span < q.span) : p.height < q.height := by
  have hne : p ≠ q := by
    rintro rfl
    exact absurd hspan (lt_irrefl _)
  rcases later_or_later hp hq hne with ⟨-, habove⟩ | ⟨hle, -⟩
  · exact habove hwithin
  · omega

/-- Arcs between the same words have different heights. -/
theorem eq_of_same_ends (hp : p ∈ placeLinks arcs) (hq : q ∈ placeLinks arcs)
    (hleft : p.left = q.left) (hright : p.right = q.right) (hheight : p.height = q.height) :
    p = q := by
  by_contra hne
  have hpq : p.toArc.within q.toArc := (Arc.within_iff _ _).mpr ⟨hleft.ge, hright.le⟩
  have hqp : q.toArc.within p.toArc := (Arc.within_iff _ _).mpr ⟨hleft.le, hright.ge⟩
  rcases later_or_later hp hq hne with ⟨-, habove⟩ | ⟨-, habove⟩
  · have hlt := habove hpq
    omega
  · have hlt := habove hqp
    omega

/-! ## Arcs that do not cross -/

/-- The arcs go from left to right and do not cross. -/
structure Planar (arcs : List Arc) : Prop where
  ordered : ∀ a ∈ arcs, a.left < a.right
  beside : ∀ a ∈ arcs, ∀ b ∈ arcs, ¬a.Crosses b

variable {w : Nat}

/-- An arc that ends strictly inside another one is below it. -/
theorem height_lt_of_inside (hplanar : Planar arcs) (hp : p ∈ placeLinks arcs)
    (hq : q ∈ placeLinks arcs) (hend : w = p.left ∨ w = p.right) (hleft : q.left < w)
    (hright : w < q.right) : p.height < q.height := by
  have hpmem := mem_of_mem_placeLinks hp
  have hqmem := mem_of_mem_placeLinks hq
  have hplt := hplanar.ordered _ hpmem
  have hpq := hplanar.beside _ hpmem _ hqmem
  have hqp := hplanar.beside _ hqmem _ hpmem
  simp only [Arc.Crosses] at hpq hqp
  refine height_lt_of_within hp hq ((Arc.within_iff _ _).mpr ?_) ?_
  · rcases hend with rfl | rfl <;> omega
  · simp only [Arc.span]
    rcases hend with rfl | rfl <;> omega

/-- Arcs of one height stand side by side. -/
theorem beside_of_height_eq (hplanar : Planar arcs) (hp : p ∈ placeLinks arcs)
    (hq : q ∈ placeLinks arcs) (hheight : p.height = q.height) :
    p = q ∨ p.right ≤ q.left ∨ q.right ≤ p.left := by
  by_contra! hoverlap
  obtain ⟨hne, hpq, hqp⟩ := hoverlap
  have hplt := hplanar.ordered _ (mem_of_mem_placeLinks hp)
  have hqlt := hplanar.ordered _ (mem_of_mem_placeLinks hq)
  -- No end of one of them is strictly inside the other one.
  have hpin (w : Nat) (hend : w = p.left ∨ w = p.right) : ¬(q.left < w ∧ w < q.right) :=
    fun ⟨hleft, hright⟩ => (height_lt_of_inside hplanar hp hq hend hleft hright).ne hheight
  have hqin (w : Nat) (hend : w = q.left ∨ w = q.right) : ¬(p.left < w ∧ w < p.right) :=
    fun ⟨hleft, hright⟩ => (height_lt_of_inside hplanar hq hp hend hleft hright).ne hheight.symm
  have hpleft := hpin p.left (.inl rfl)
  have hpright := hpin p.right (.inr rfl)
  have hqleft := hqin q.left (.inl rfl)
  have hqright := hqin q.right (.inr rfl)
  exact hne (eq_of_same_ends hp hq (by omega) (by omega) hheight)

end Layout

end LinkParsing
