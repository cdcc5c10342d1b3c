import LinkParsing.Layout.PostScript
import LinkParsing.Proofs.Layout.Shown
import LinkParsing.Proofs.Linkage.Order

/-!
# Hiding walls

A linkage without its walls has the other words, numbered anew in order, and the links that touch no
wall (`Linkage.withoutWalls`).  Numbering anew keeps the order of words, so it keeps the order of
links too, and what is shown of a linkage whose walls are hidden is what is shown of the linkage
without them (`hiding_walls_deletes`).
-/

namespace LinkParsing

namespace Linkage

variable {words : List LinkageWord} {i j : Nat}

/-- Whether there is a wall at a place. -/
def isWallAt (words : List LinkageWord) (i : Nat) : Bool := words[i]?.any (·.isWall)

/-- The place of a word once walls are taken out: the number of the other words before it. -/
def placeBesideWalls (words : List LinkageWord) (i : Nat) : Nat :=
  (words.take i).countP fun w => !w.isWall

/-- Whether one end of a link is a wall. -/
def touchesWall (words : List LinkageWord) (l : Link) : Bool :=
  isWallAt words l.left || isWallAt words l.right

/-- A link between the same words once walls are taken out. -/
def renumbered (words : List LinkageWord) (l : Link) : Link :=
  { l with left := placeBesideWalls words l.left, right := placeBesideWalls words l.right }

/-- The linkage without walls and the links that touch them. -/
def withoutWalls (l : Linkage) : Linkage :=
  .ofLinks (l.words.filter fun w => !w.isWall)
    ((l.links.filter fun k => !touchesWall l.words k).map (renumbered l.words))

theorem placeBesideWalls_mono (words : List LinkageWord) (h : i ≤ j) :
    placeBesideWalls words i ≤ placeBesideWalls words j :=
  (List.take_prefix_take_left h).sublist.countP_le

/-- A word that is no wall counts for the words behind it. -/
theorem placeBesideWalls_lt_succ (hi : i < words.length) (hwall : isWallAt words i = false) :
    placeBesideWalls words i < placeBesideWalls words (i + 1) := by
  have hword : words[i]? = some words[i] := List.getElem?_eq_getElem hi
  rw [isWallAt, hword, Option.any_some] at hwall
  rw [placeBesideWalls, placeBesideWalls, List.take_add_one, hword, Option.toList_some,
    List.countP_append, List.countP_singleton, hwall]
  exact Nat.lt_succ_self _

theorem placeBesideWalls_lt (hi : i < words.length) (hwall : isWallAt words i = false)
    (h : i < j) : placeBesideWalls words i < placeBesideWalls words j :=
  (placeBesideWalls_lt_succ hi hwall).trans_le (placeBesideWalls_mono words h)

/-- A word that is no wall has a place among those that are left, and only words have one. -/
theorem placeBesideWalls_lt_length_iff (hwall : isWallAt words i = false) :
    placeBesideWalls words i < (words.filter fun w => !w.isWall).length ↔ i < words.length := by
  rw [← List.countP_eq_length_filter]
  constructor
  · intro hlt
    by_contra hi
    rw [placeBesideWalls, List.take_of_length_le (Nat.le_of_not_lt hi)] at hlt
    exact lt_irrefl _ hlt
  · intro hi
    have hlt := placeBesideWalls_lt hi hwall hi
    rwa [placeBesideWalls, placeBesideWalls, List.take_length] at hlt

/-- Links that touch no wall are in the same order once walls are taken out. -/
theorem endsLe_renumbered {k m : Link} (hleft : k.left < words.length)
    (hwall : touchesWall words k = false) (h : endsLe k m = true) :
    endsLe (renumbered words k) (renumbered words m) = true := by
  rw [touchesWall, Bool.or_eq_false_iff] at hwall
  rw [endsLe_iff] at h ⊢
  rcases h with hlt | ⟨heq, hle⟩
  · exact .inl (placeBesideWalls_lt hleft hwall.1 hlt)
  · refine .inr ⟨?_, placeBesideWalls_mono words hle⟩
    show placeBesideWalls words k.left = placeBesideWalls words m.left
    rw [heq]

end Linkage

namespace Layout

open Linkage

variable {words : List LinkageWord} {links : List Link} {i : Nat}

/-- With walls shown, every word has its own place. -/
theorem shownPlace_true (words : List LinkageWord) (i : Nat) :
    shownPlace true words i = if i < words.length then some i else none := by
  have hshown : isShown true = fun _ => true := rfl
  rw [shownPlace, hshown]
  by_cases hi : i < words.length
  · have hword : words[i]? = some words[i] := List.getElem?_eq_getElem hi
    rw [hword, Option.any_some, if_pos rfl, if_pos hi, List.countP_true, List.length_take,
      Nat.min_eq_left hi.le]
  · rw [List.getElem?_eq_none (Nat.le_of_not_lt hi), Option.any_none, if_neg Bool.false_ne_true,
      if_neg hi]

/-- With walls hidden, a word has the place that it keeps without them, and a wall has none. -/
theorem shownPlace_withoutWalls (words : List LinkageWord) (i : Nat) :
    shownPlace false words i = if isWallAt words i then none
      else shownPlace true (words.filter fun w => !w.isWall) (placeBesideWalls words i) := by
  have hshown : isShown false = fun w => !w.isWall := rfl
  rw [shownPlace_true, shownPlace, isWallAt, hshown]
  by_cases hi : i < words.length
  · have hword : words[i]? = some words[i] := List.getElem?_eq_getElem hi
    rw [hword, Option.any_some, Option.any_some]
    cases hwall : words[i].isWall with
    | true => rfl
    | false =>
        have hlt : placeBesideWalls words i < (words.filter fun w => !w.isWall).length := by
          apply (placeBesideWalls_lt_length_iff ?_).mpr hi
          rw [isWallAt, hword, Option.any_some, hwall]
        rw [if_pos hlt]
        rfl
  · have hword : words[i]? = none := List.getElem?_eq_none (Nat.le_of_not_lt hi)
    have hwall : isWallAt words i = false := by rw [isWallAt, hword, Option.any_none]
    rw [hword, Option.any_none, Option.any_none, if_neg Bool.false_ne_true,
      if_neg Bool.false_ne_true, if_neg (mt (placeBesideWalls_lt_length_iff hwall).mp hi)]

/-- With walls hidden, a linkage shows the same texts as without them. -/
theorem shownTexts_withoutWalls (l : Linkage) :
    shownTexts false l = shownTexts true l.withoutWalls := by
  have hwalls : isShown false = fun w => !w.isWall := rfl
  have hall : isShown true = fun _ => true := rfl
  rw [shownTexts, shownTexts, hwalls, hall, List.filter_true]
  rfl

/-- The arc of a link, if both of its words are shown. -/
def arc? (displayWalls : Bool) (words : List LinkageWord) (k : Link) : Option Arc := do
  let left ← shownPlace displayWalls words k.left
  let right ← shownPlace displayWalls words k.right
  return ⟨left, right, k.label⟩

theorem shownArcs_eq (displayWalls : Bool) (l : Linkage) :
    shownArcs displayWalls l = l.links.filterMap (arc? displayWalls l.words) := rfl

/-- With walls hidden, a link that touches no wall has the arc that it keeps without them, and one
that touches a wall has none. -/
theorem arc?_withoutWalls (words : List LinkageWord) (k : Link) :
    arc? false words k = if touchesWall words k then none
      else arc? true (words.filter fun w => !w.isWall) (renumbered words k) := by
  rw [arc?, shownPlace_withoutWalls, shownPlace_withoutWalls, touchesWall]
  cases isWallAt words k.left with
  | true => rfl
  | false =>
      cases isWallAt words k.right with
      | true => simp
      | false => rfl

/-- A link with an end behind the last word has no arc. -/
theorem arc?_eq_none {k : Link} (h : words.length ≤ k.left) : arc? true words k = none := by
  rw [arc?, shownPlace_true, if_neg (Nat.not_lt.mpr h)]
  rfl

/-- With walls hidden, a linkage shows the same links as without them. -/
theorem shownArcs_withoutWalls (words : List LinkageWord) (links : List Link) :
    shownArcs false (ofLinks words links) = shownArcs true (ofLinks words links).withoutWalls := by
  let others := words.filter fun w => !w.isWall
  let startsAtWord : Link → Bool := fun k => decide (k.left < others.length)
  let kept := (ofLinks words links).links.filter fun k => !touchesWall words k
  -- Links that start at a word are in order before they are numbered anew, and after it.
  have hsorted : ((kept.map (renumbered words)).filter startsAtWord).Pairwise
      fun k m => endsLe k m = true := by
    rw [List.filter_map, List.pairwise_map]
    refine (((pairwise_ofLinks words links).filter _).filter _).imp_of_mem ?_
    intro k m hk _ hle
    obtain ⟨hk, hleft⟩ := List.mem_filter.mp hk
    have hwall : touchesWall words k = false := by
      simpa using (List.mem_filter.mp hk).2
    apply endsLe_renumbered _ hwall hle
    rw [touchesWall, Bool.or_eq_false_iff] at hwall
    exact (placeBesideWalls_lt_length_iff hwall.1).mp (of_decide_eq_true hleft)
  have hnone : ∀ k, startsAtWord k = false → arc? true others k = none :=
    fun k hk => arc?_eq_none (Nat.le_of_not_lt (of_decide_eq_false hk))
  calc shownArcs false (ofLinks words links)
      = (ofLinks words links).links.filterMap (arc? false words) := shownArcs_eq false _
    _ = kept.filterMap fun k => arc? true others (renumbered words k) := by
        rw [List.filterMap_filter]
        refine List.filterMap_congr fun k _ => ?_
        rw [arc?_withoutWalls]
        cases touchesWall words k <;> rfl
    _ = (kept.map (renumbered words)).filterMap (arc? true others) := by
        rw [List.filterMap_map]
        rfl
    _ = shownArcs true (ofLinks words links).withoutWalls := by
        rw [shownArcs_eq]
        exact (filterMap_ofLinks hnone hsorted).symm

/-- The layout and the PostScript document of a linkage whose walls are hidden are those of the
linkage without its walls. -/
theorem hiding_walls_deletes (words : List LinkageWord) (links : List Link) (options : Options) :
    make (ofLinks words links) false = make (ofLinks words links).withoutWalls true ∧
      (ofLinks words links).postscript { options with displayWalls := false } =
        (ofLinks words links).withoutWalls.postscript { options with displayWalls := true } := by
  have hmake : make (ofLinks words links) false = make (ofLinks words links).withoutWalls true := by
    rw [make, make, shownArcs_withoutWalls, shownTexts_withoutWalls]
  refine ⟨hmake, ?_⟩
  rw [Linkage.postscript, Linkage.postscript, hmake]

end Layout

end LinkParsing
