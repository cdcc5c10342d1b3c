import LinkParsing.Linkage
import LinkParsing.Proofs.Sorting

/-!
# The order of links

The links of a linkage are in order of their ends (`pairwise_ofLinks`).  Links that are in this
order already are not moved against each other, whatever other links there are
(`filterMap_ofLinks`).
-/

namespace LinkParsing.Linkage

variable {words : List LinkageWord} {links : List Link}

theorem endsLe_iff (k m : Link) : endsLe k m = true ↔
    k.left < m.left ∨ (k.left = m.left ∧ k.right ≤ m.right) := by
  simp [endsLe]

theorem isOrder_endsLe : IsOrder endsLe where
  trans := by
    intro k l m hkl hlm
    rw [endsLe_iff] at hkl hlm ⊢
    omega
  total := by
    intro k m
    rw [Bool.or_eq_true, endsLe_iff, endsLe_iff]
    omega

theorem pairwise_ofLinks (words : List LinkageWord) (links : List Link) :
    (ofLinks words links).links.Pairwise fun k m => endsLe k m = true :=
  List.pairwise_mergeSort isOrder_endsLe.trans isOrder_endsLe.total links

/-- Of the links of some kind, those that are in order stay in this order. -/
theorem filter_ofLinks {p : Link → Bool}
    (h : (links.filter p).Pairwise fun k m => endsLe k m = true) :
    (ofLinks words links).links.filter p = links.filter p :=
  filter_mergeSort isOrder_endsLe h

/-- What is made of the links of some kind, and of no others, is made of them in their own order
if they are in order. -/
theorem filterMap_ofLinks {α : Type} {f : Link → Option α} {p : Link → Bool}
    (hf : ∀ k, p k = false → f k = none)
    (h : (links.filter p).Pairwise fun k m => endsLe k m = true) :
    (ofLinks words links).links.filterMap f = links.filterMap f := by
  have honly (ks : List Link) : ks.filterMap f = (ks.filter p).filterMap f := by
    rw [List.filterMap_filter]
    refine List.filterMap_congr fun k _ => ?_
    split
    next => rfl
    next hp => exact hf k (eq_false_of_ne_true hp)
  rw [honly, filter_ofLinks h, ← honly]

end LinkParsing.Linkage
