import Mathlib.Data.List.Pairwise
import Mathlib.Data.List.Sort

/-!
# Sorting

Sorting does not move items against each other that are in order already (`filter_mergeSort`), so
what holds of items with the same key, one behind the other, holds of them in the sorted list too
(`pairwise_mergeSort_of_key`).  A list that is sorted comes back when it is sorted by another order
and then by its own, if both orders go by the same keys (`mergeSort_mergeSort_eq`).
-/

namespace LinkParsing

/-- A comparison by which lists can be sorted. -/
structure IsOrder {α : Type} (le : α → α → Bool) : Prop where
  trans : ∀ a b c, le a b = true → le b c = true → le a c = true
  total : ∀ a b, (le a b || le b a) = true

variable {α κ : Type} {le : α → α → Bool} {key : α → κ} {l : List α}

/-- Of the items of some kind, those that are in order stay in this order. -/
theorem filter_mergeSort (horder : IsOrder le) {p : α → Bool}
    (h : (l.filter p).Pairwise fun a b => le a b = true) :
    (l.mergeSort le).filter p = l.filter p := by
  have hsublist : List.Sublist (l.filter p) (l.mergeSort le) :=
    List.sublist_mergeSort horder.trans horder.total h List.filter_sublist
  have hlength : (l.filter p).length = ((l.mergeSort le).filter p).length :=
    ((List.mergeSort_perm l le).filter p).length_eq.symm
  refine (List.Sublist.eq_of_length ?_ hlength).symm
  simpa using hsublist.filter p

/-- Items with the same key stay as they are to each other, if they are equal for the order. -/
theorem pairwise_mergeSort_of_key [DecidableEq κ] (horder : IsOrder le)
    (hkey : ∀ a b, key a = key b → le a b = true) {r : α → α → Prop}
    (h : l.Pairwise fun a b => key a = key b → r a b) :
    (l.mergeSort le).Pairwise fun a b => key a = key b → r a b := by
  rw [List.pairwise_iff_forall_sublist] at h ⊢
  intro a b hab heq
  have hclass : (l.filter fun c => key c = key a).Pairwise fun b c => le b c = true := by
    refine List.pairwise_of_forall_mem_list fun b hb c hc => hkey b c ?_
    have hb := of_decide_eq_true (List.mem_filter.mp hb).2
    have hc := of_decide_eq_true (List.mem_filter.mp hc).2
    rw [hb, hc]
  have hpair :
      ([a, b].filter fun c => key c = key a).Sublist (l.filter fun c => key c = key a) := by
    rw [← filter_mergeSort horder hclass]
    exact hab.filter _
  rw [List.filter_eq_self.mpr (by simp [heq])] at hpair
  exact h (hpair.trans List.filter_sublist) heq

/-- An order of items is an order of what they belong to. -/
theorem IsOrder.comap {β : Type} (horder : IsOrder le) (f : β → α) :
    IsOrder fun a b => le (f a) (f b) :=
  ⟨fun a b c => horder.trans (f a) (f b) (f c), fun a b => horder.total (f a) (f b)⟩

/-- Numbers tell items apart that are equal for both orders, so numbered items come back. -/
theorem zipIdx_mergeSort_mergeSort_eq [DecidableEq κ] {first : α → α → Bool}
    (hfirst : IsOrder first) (horder : IsOrder le)
    (hkey : ∀ a b, key a = key b → first a b = true ∧ le a b = true)
    (hanti : ∀ a b, le a b = true → le b a = true → key a = key b)
    (hsorted : l.Pairwise fun a b => le a b = true) :
    (l.zipIdx.mergeSort fun a b => first a.1 b.1).mergeSort (fun a b => le a.1 b.1) =
      l.zipIdx := by
  have hnumbers : (l.zipIdx.map Prod.snd).Pairwise (· < ·) := by
    rw [List.zipIdx_map_snd]
    exact List.pairwise_lt_range'
  have hstart : l.zipIdx.Pairwise fun a b => key a.1 = key b.1 → a.2 < b.2 := by
    refine (List.pairwise_map.mp hnumbers).imp ?_
    intro a b hlt _
    exact hlt
  have hend : ((l.zipIdx.mergeSort fun a b => first a.1 b.1).mergeSort
      fun a b => le a.1 b.1).Pairwise fun a b => key a.1 = key b.1 → a.2 < b.2 := by
    apply pairwise_mergeSort_of_key (horder.comap Prod.fst) fun a b heq => (hkey _ _ heq).2
    apply pairwise_mergeSort_of_key (hfirst.comap Prod.fst) fun a b heq => (hkey _ _ heq).1
    exact hstart
  have hstartSorted : l.zipIdx.Pairwise fun a b => le a.1 b.1 = true := by
    rw [← List.zipIdx_map_fst 0 l, List.pairwise_map] at hsorted
    exact hsorted
  have hendSorted := List.pairwise_mergeSort (horder.comap Prod.fst).trans
    (horder.comap Prod.fst).total (l.zipIdx.mergeSort fun a b => first a.1 b.1)
  refine List.Perm.eq_of_pairwise ?_ (hendSorted.and hend) (hstartSorted.and hstart)
    ((List.mergeSort_perm _ _).trans (List.mergeSort_perm _ _))
  rintro a b - - ⟨hab, hlt⟩ ⟨hba, hgt⟩
  have hsame := hanti a.1 b.1 hab hba
  exact absurd (hlt hsame) (hgt hsame.symm).le.not_gt

/-- A sorted list comes back when it is sorted by another order and then by its own. -/
theorem mergeSort_mergeSort_eq [DecidableEq κ] {first : α → α → Bool} (hfirst : IsOrder first)
    (horder : IsOrder le) (hkey : ∀ a b, key a = key b → first a b = true ∧ le a b = true)
    (hanti : ∀ a b, le a b = true → le b a = true → key a = key b)
    (hsorted : l.Pairwise fun a b => le a b = true) : (l.mergeSort first).mergeSort le = l := by
  have hforget (le : α → α → Bool) (items : List (α × Nat)) :
      (items.mergeSort fun a b => le a.1 b.1).map Prod.fst = (items.map Prod.fst).mergeSort le :=
    List.map_mergeSort fun _ _ _ _ => rfl
  calc (l.mergeSort first).mergeSort le
      = ((l.zipIdx.map Prod.fst).mergeSort first).mergeSort le := by rw [List.zipIdx_map_fst]
    _ = ((l.zipIdx.mergeSort fun a b => first a.1 b.1).mergeSort
          fun a b => le a.1 b.1).map Prod.fst := by
        rw [hforget, hforget]
    _ = l.zipIdx.map Prod.fst := by
        rw [zipIdx_mergeSort_mergeSort_eq hfirst horder hkey hanti hsorted]
    _ = l := List.zipIdx_map_fst 0 l

end LinkParsing
