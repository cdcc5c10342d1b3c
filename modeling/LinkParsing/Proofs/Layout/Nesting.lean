import LinkParsing.Proofs.Layout.HiddenWalls
import LinkParsing.Proofs.Sorting
import Mathlib.Data.Finset.Card
import Mathlib.Data.List.Chain
import Mathlib.Data.List.Permutation
import Mathlib.Order.Bounds.Defs

/-!
# Heights and nesting

The links of a layout stand in the order of the linkage (`map_toArc_placeLinks`), and of links
with the same ends the later one is higher (`pairwise_lower`).  So every link is above all links
inside it (`height_lt_of_insideOf`), and right above one of them unless it is in the lowest row
(`exists_insideOf_height`).  Going down from link to link in this way gives a longest chain of
nested links, and the height of a link is the length of it (`heights_by_nesting`).
-/

namespace LinkParsing

namespace Arc

/-- The order of arcs by their ends. -/
def endsLe (a b : Arc) : Bool := a.left < b.left || (a.left == b.left && a.right ≤ b.right)

/-- The two ends of an arc. -/
def ends (a : Arc) : Nat × Nat := (a.left, a.right)

variable {a b : Arc}

theorem endsLe_iff (a b : Arc) : a.endsLe b = true ↔
    a.left < b.left ∨ (a.left = b.left ∧ a.right ≤ b.right) := by
  simp [endsLe]

theorem ends_eq_iff : a.ends = b.ends ↔ a.left = b.left ∧ a.right = b.right := Prod.mk_inj

theorem isOrder_endsLe : IsOrder endsLe where
  trans := by
    intro a b c hab hbc
    rw [endsLe_iff] at hab hbc ⊢
    omega
  total := by
    intro a b
    rw [Bool.or_eq_true, endsLe_iff, endsLe_iff]
    omega

/-- Arcs with the same ends are equal for both orders. -/
theorem le_of_ends_eq (h : a.ends = b.ends) : a.spanLe b = true ∧ a.endsLe b = true := by
  obtain ⟨hleft, hright⟩ := ends_eq_iff.mp h
  rw [spanLe_iff, endsLe_iff, span, span]
  omega

theorem ends_eq_of_endsLe (hab : a.endsLe b = true) (hba : b.endsLe a = true) :
    a.ends = b.ends := by
  rw [endsLe_iff] at hab hba
  rw [ends_eq_iff]
  omega

theorem within_of_ends_eq (h : a.ends = b.ends) : a.within b = true := by
  obtain ⟨hleft, hright⟩ := ends_eq_iff.mp h
  exact (within_iff a b).mpr ⟨hleft.ge, hright.le⟩

end Arc

namespace Layout

variable {arcs : List Arc} {placed : List PlacedLink} {p q : PlacedLink} {i j n : Nat}

/-! ## What links rest on -/

/-- A link is in the lowest row, or right above one of the links within it. -/
def RestsOn (links : List PlacedLink) (q : PlacedLink) : Prop :=
  q.height = 1 ∨ ∃ p ∈ links, p.toArc.within q.toArc = true ∧ p.height + 1 = q.height

theorem RestsOn.mono {links more : List PlacedLink} (h : RestsOn links q)
    (hsubset : ∀ p ∈ links, p ∈ more) : RestsOn more q := by
  rcases h with hlowest | ⟨p, hp, hwithin, hheight⟩
  · exact .inl hlowest
  · exact .inr ⟨p, hsubset p hp, hwithin, hheight⟩

theorem restsOn_heightAbove (placed : List PlacedLink) (a : Arc) :
    RestsOn placed ⟨a, heightAbove placed a⟩ := by
  rcases foldl_max_eq_or_mem 0 ((placed.filter (·.toArc.within a)).map (·.height)) with hzero | hmem
  · left
    show heightAbove placed a = 1
    rw [heightAbove, hzero]
  · right
    obtain ⟨p, hp, hheight⟩ := List.mem_map.mp hmem
    obtain ⟨hp, hwithin⟩ := List.mem_filter.mp hp
    refine ⟨p, hp, hwithin, ?_⟩
    show p.height + 1 = heightAbove placed a
    rw [heightAbove, ← hheight]

theorem restsOn_placeArcs (h : ∀ q ∈ placed, RestsOn placed q) :
    ∀ q ∈ placeArcs placed arcs, RestsOn (placeArcs placed arcs) q := by
  induction arcs generalizing placed with
  | nil => exact h
  | cons a arcs ih =>
      apply ih
      intro q hq
      have hmono : ∀ p ∈ placed, p ∈ placed ++ [⟨a, heightAbove placed a⟩] :=
        fun p hp => List.mem_append_left _ hp
      rcases List.mem_append.mp hq with hq | hq
      · exact (h q hq).mono hmono
      · obtain rfl := List.mem_singleton.mp hq
        exact (restsOn_heightAbove placed a).mono hmono

theorem restsOn_placeLinks (hq : q ∈ placeLinks arcs) : RestsOn (placeLinks arcs) q := by
  have hperm := List.mergeSort_perm (placeArcs [] (arcs.mergeSort Arc.spanLe)) PlacedLink.endsLe
  have hplaced : RestsOn (placeArcs [] (arcs.mergeSort Arc.spanLe)) q :=
    restsOn_placeArcs (fun _ h => absurd h List.not_mem_nil) q (hperm.mem_iff.mp hq)
  exact hplaced.mono fun p hp => hperm.mem_iff.mpr hp

/-! ## The order of links -/

/-- Arcs that are in order of their ends are placed in this order. -/
theorem map_toArc_placeLinks (hsorted : arcs.Pairwise fun a b => a.endsLe b = true) :
    (placeLinks arcs).map (·.toArc) = arcs := by
  calc (placeLinks arcs).map (·.toArc)
      = ((placeArcs [] (arcs.mergeSort Arc.spanLe)).map (·.toArc)).mergeSort Arc.endsLe :=
        List.map_mergeSort fun _ _ _ _ => rfl
    _ = (arcs.mergeSort Arc.spanLe).mergeSort Arc.endsLe := by
        rw [map_toArc_placeArcs]
        rfl
    _ = arcs := mergeSort_mergeSort_eq Arc.isOrder_spanLe Arc.isOrder_endsLe
        (fun _ _ => Arc.le_of_ends_eq) (fun _ _ => Arc.ends_eq_of_endsLe) hsorted

/-- Of links with the same ends the earlier one is lower. -/
theorem pairwise_lower (arcs : List Arc) : (placeLinks arcs).Pairwise
    fun p q => p.toArc.ends = q.toArc.ends → p.height < q.height := by
  refine pairwise_mergeSort_of_key (Arc.isOrder_endsLe.comap PlacedLink.toArc)
    (fun p q heq => (Arc.le_of_ends_eq heq).2) ?_
  refine (pairwise_above_placeArcs .nil _).imp ?_
  intro p q habove heq
  exact habove (Arc.within_of_ends_eq heq)

theorem arc?_eq_some_iff {displayWalls : Bool} {words : List LinkageWord} {k : Link} {a : Arc} :
    arc? displayWalls words k = some a ↔ shownPlace displayWalls words k.left = some a.left ∧
      shownPlace displayWalls words k.right = some a.right ∧ k.label = a.label := by
  obtain ⟨left, right, label⟩ := a
  cases hleft : shownPlace displayWalls words k.left with
  | none => simp [arc?, hleft]
  | some _ => cases hright : shownPlace displayWalls words k.right <;> simp [arc?, hleft, hright]

/-- Words that are shown keep their order. -/
theorem shownPlace_le {displayWalls : Bool} {words : List LinkageWord} {a b : Nat}
    (hi : shownPlace displayWalls words i = some a) (hj : shownPlace displayWalls words j = some b)
    (hij : i ≤ j) : a ≤ b := by
  rcases hij.eq_or_lt with rfl | hlt
  · rw [hi] at hj
    exact (Option.some.inj hj).le
  · exact (shownPlace_lt hi hj hlt).le

/-- The links that are shown are in order of their ends. -/
theorem pairwise_shownArcs (displayWalls : Bool) (words : List LinkageWord) (links : List Link) :
    (shownArcs displayWalls (.ofLinks words links)).Pairwise fun a b => a.endsLe b = true := by
  rw [shownArcs_eq]
  refine (Linkage.pairwise_ofLinks words links).filterMap _ ?_
  intro k m hle a ha b hb
  obtain ⟨haleft, haright, -⟩ := arc?_eq_some_iff.mp ha
  obtain ⟨hbleft, hbright, -⟩ := arc?_eq_some_iff.mp hb
  rw [Arc.endsLe_iff]
  rcases (Linkage.endsLe_iff k m).mp hle with hlt | ⟨heq, hright⟩
  · exact .inl (shownPlace_lt haleft hbleft hlt)
  · rw [heq, hbleft] at haleft
    exact .inr ⟨(Option.some.inj haleft).symm, shownPlace_le haright hbright hright⟩

/-! ## Links inside one another -/

/-- The first of two arcs in a list is inside the second one: its ends are within those of the
second one, and if they are the same ends, it comes first. -/
def InsideOf (arcs : List Arc) (i j : Nat) : Prop :=
  ∃ a b, arcs[i]? = some a ∧ arcs[j]? = some b ∧ a.within b = true ∧ (a.ends = b.ends → i < j)

theorem toArc_of_getElem? (hmap : (placeLinks arcs).map (·.toArc) = arcs)
    (hp : (placeLinks arcs)[i]? = some p) : arcs[i]? = some p.toArc := by
  conv_lhs => rw [← hmap]
  rw [List.getElem?_map, hp, Option.map_some]

theorem exists_link_of_insideOf (hmap : (placeLinks arcs).map (·.toArc) = arcs)
    (hinside : InsideOf arcs i j) : ∃ p, (placeLinks arcs)[i]? = some p := by
  obtain ⟨a, -, ha, -⟩ := hinside
  rw [← hmap, List.getElem?_map, Option.map_eq_some_iff] at ha
  obtain ⟨p, hp, -⟩ := ha
  exact ⟨p, hp⟩

/-- Links with the same ends are the higher the later they come. -/
theorem height_lt_iff_of_ends_eq (hp : (placeLinks arcs)[i]? = some p)
    (hq : (placeLinks arcs)[j]? = some q) (heq : p.toArc.ends = q.toArc.ends) :
    p.height < q.height ↔ i < j := by
  have hlower {i j : Nat} {p q : PlacedLink} (hp : (placeLinks arcs)[i]? = some p)
      (hq : (placeLinks arcs)[j]? = some q) (heq : p.toArc.ends = q.toArc.ends) (hij : i < j) :
      p.height < q.height := by
    obtain ⟨hi, rfl⟩ := List.getElem?_eq_some_iff.mp hp
    obtain ⟨hj, rfl⟩ := List.getElem?_eq_some_iff.mp hq
    exact List.pairwise_iff_getElem.mp (pairwise_lower arcs) i j hi hj hij heq
  refine ⟨fun hlt => ?_, hlower hp hq heq⟩
  rcases lt_trichotomy i j with hij | rfl | hji
  · exact hij
  · rw [hp] at hq
    cases hq
    exact absurd hlt (lt_irrefl _)
  · exact absurd (hlower hq hp heq.symm hji) hlt.le.not_gt

/-- A link is above all links inside it. -/
theorem height_lt_of_insideOf (hordered : ∀ a ∈ arcs, a.left < a.right)
    (hmap : (placeLinks arcs).map (·.toArc) = arcs) (hp : (placeLinks arcs)[i]? = some p)
    (hq : (placeLinks arcs)[j]? = some q) (hinside : InsideOf arcs i j) : p.height < q.height := by
  obtain ⟨a, b, ha, hb, hwithin, hfirst⟩ := hinside
  obtain rfl : p.toArc = a := Option.some.inj ((toArc_of_getElem? hmap hp).symm.trans ha)
  obtain rfl : q.toArc = b := Option.some.inj ((toArc_of_getElem? hmap hq).symm.trans hb)
  by_cases heq : p.toArc.ends = q.toArc.ends
  · exact (height_lt_iff_of_ends_eq hp hq heq).mpr (hfirst heq)
  · have hpmem := List.mem_of_getElem? hp
    have hqmem := List.mem_of_getElem? hq
    have hplt := hordered _ (mem_of_mem_placeLinks hpmem)
    refine height_lt_of_within hpmem hqmem hwithin ?_
    rw [Arc.ends_eq_iff] at heq
    rw [Arc.within_iff] at hwithin
    simp only [Arc.span]
    omega

/-- A link that is not in the lowest row is right above one of the links inside it. -/
theorem exists_insideOf_height (hmap : (placeLinks arcs).map (·.toArc) = arcs)
    (hq : (placeLinks arcs)[j]? = some q) : q.height = 1 ∨
      ∃ i p, (placeLinks arcs)[i]? = some p ∧ InsideOf arcs i j ∧ p.height + 1 = q.height := by
  rcases restsOn_placeLinks (List.mem_of_getElem? hq) with hlowest | ⟨p, hp, hwithin, hheight⟩
  · exact .inl hlowest
  · obtain ⟨i, hp⟩ := List.mem_iff_getElem?.mp hp
    refine .inr ⟨i, p, hp, ⟨p.toArc, q.toArc, toArc_of_getElem? hmap hp,
      toArc_of_getElem? hmap hq, hwithin, fun heq => ?_⟩, hheight⟩
    exact (height_lt_iff_of_ends_eq hp hq heq).mp (by omega)

/-! ## Chains of links -/

/-- There is a chain of so many arcs, each inside the next one, that ends with an arc. -/
def ChainTo (arcs : List Arc) (j n : Nat) : Prop :=
  ∃ chain : List Nat, chain.IsChain (InsideOf arcs) ∧ chain.getLast? = some j ∧ chain.length = n

/-- A chain that ends with a link has at most as many links as rows are there up to it. -/
theorem length_le_height (hordered : ∀ a ∈ arcs, a.left < a.right)
    (hmap : (placeLinks arcs).map (·.toArc) = arcs) {chain : List Nat}
    (hchain : chain.IsChain (InsideOf arcs)) (hlast : chain.getLast? = some j)
    (hq : (placeLinks arcs)[j]? = some q) : chain.length ≤ q.height := by
  induction chain using List.reverseRecOn generalizing j q with
  | nil => simp at hlast
  | append_singleton chain last ih =>
      rw [List.getLast?_concat, Option.some.injEq] at hlast
      subst hlast
      rw [List.length_append, List.length_singleton]
      obtain ⟨hchain, -, hnext⟩ := List.isChain_append.mp hchain
      cases hinner : chain.getLast? with
      | none =>
          rw [List.getLast?_eq_none_iff.mp hinner]
          exact height_pos (List.mem_of_getElem? hq)
      | some i =>
          have hinside : InsideOf arcs i last := hnext i hinner last rfl
          obtain ⟨p, hp⟩ := exists_link_of_insideOf hmap hinside
          have hle := ih hchain hinner hp
          have hlt := height_lt_of_insideOf hordered hmap hp hq hinside
          omega

/-- There is a chain with as many links as rows are there up to the link that it ends with. -/
theorem chainTo_height (hmap : (placeLinks arcs).map (·.toArc) = arcs)
    (hq : (placeLinks arcs)[j]? = some q) : ChainTo arcs j q.height := by
  induction hn : q.height generalizing j q with
  | zero => exact absurd hn (height_pos (List.mem_of_getElem? hq)).ne'
  | succ n ih =>
      rcases exists_insideOf_height hmap hq with hlowest | ⟨i, p, hp, hinside, hheight⟩
      · refine ⟨[j], List.isChain_singleton _, rfl, ?_⟩
        rw [List.length_singleton]
        omega
      · obtain ⟨chain, hchain, hlast, hlength⟩ := ih hp (by omega)
        refine ⟨chain ++ [j], ?_, List.getLast?_concat, ?_⟩
        · refine List.isChain_append.mpr ⟨hchain, List.isChain_singleton _, ?_⟩
          rintro k hk m hm
          rw [hlast] at hk
          cases hk
          cases hm
          exact hinside
        · rw [List.length_append, List.length_singleton, hlength]

/-- The height of a link is the length of the longest chain that ends with it. -/
theorem isGreatest_chainTo (hordered : ∀ a ∈ arcs, a.left < a.right)
    (hmap : (placeLinks arcs).map (·.toArc) = arcs) (hq : (placeLinks arcs)[j]? = some q) :
    IsGreatest {n | ChainTo arcs j n} q.height := by
  refine ⟨chainTo_height hmap hq, ?_⟩
  rintro n ⟨chain, hchain, hlast, rfl⟩
  exact length_le_height hordered hmap hchain hlast hq

/-! ## Links of one row -/

variable {linkage : Linkage} {displayWalls : Bool}

/-- Whether a column is strictly between the ends of a link. -/
def StrictlyInside (layout : Layout) (column : Nat) (p : PlacedLink) : Prop :=
  layout.anchor p.left < column ∧ column < layout.anchor p.right

/-- Two links have at most one end word and no column strictly between their ends in common. -/
def Apart (layout : Layout) (p q : PlacedLink) : Prop :=
  ({p.left, p.right} ∩ {q.left, q.right} : Finset Nat).card ≤ 1 ∧
    ∀ column, ¬(StrictlyInside layout column p ∧ StrictlyInside layout column q)

theorem Apart.symm {layout : Layout} (h : Apart layout p q) : Apart layout q p := by
  refine ⟨?_, fun column hcolumn => h.2 column hcolumn.symm⟩
  rw [Finset.inter_comm]
  exact h.1

/-- A link that ends where another one starts, or before, is apart from it. -/
theorem apart_of_right_le (hordered : ∀ l ∈ linkage.links, l.left < l.right)
    (hp : p ∈ (make linkage displayWalls).links) (hq : q ∈ (make linkage displayWalls).links)
    (hle : p.right ≤ q.left) : Apart (make linkage displayWalls) p q := by
  obtain ⟨hplt, -⟩ := ends_of_mem_make hordered hp
  obtain ⟨hqlt, hqright⟩ := ends_of_mem_make hordered hq
  constructor
  · have hsubset : ({p.left, p.right} ∩ {q.left, q.right} : Finset Nat) ⊆ {p.right} := by
      intro w hw
      simp only [Finset.mem_inter, Finset.mem_insert, Finset.mem_singleton] at hw ⊢
      omega
    exact Finset.card_le_card hsubset
  · rintro column ⟨⟨-, hbefore⟩, hbehind, -⟩
    have hanchor : (make linkage displayWalls).anchor p.right ≤
        (make linkage displayWalls).anchor q.left := by
      rcases hle.eq_or_lt with heq | hlt
      · rw [heq]
      · exact (anchorOf_lt_anchorOf hlt (hqlt.trans hqright)).le
    omega

theorem apart_of_height_eq (hordered : ∀ l ∈ linkage.links, l.left < l.right)
    (hcross : ∀ a ∈ shownArcs displayWalls linkage, ∀ b ∈ shownArcs displayWalls linkage,
      ¬a.Crosses b)
    (hp : (make linkage displayWalls).links[i]? = some p)
    (hq : (make linkage displayWalls).links[j]? = some q) (hne : i ≠ j)
    (hheight : p.height = q.height) : Apart (make linkage displayWalls) p q := by
  have hpmem := List.mem_of_getElem? hp
  have hqmem := List.mem_of_getElem? hq
  have hplanar : Planar (shownArcs displayWalls linkage) :=
    ⟨ordered_shownArcs displayWalls hordered, hcross⟩
  rcases beside_of_height_eq hplanar hpmem hqmem hheight with rfl | hle | hle
  · -- The same link at two places would be higher than itself.
    have hij := (height_lt_iff_of_ends_eq hp hq rfl).not.mp (lt_irrefl _)
    have hji := (height_lt_iff_of_ends_eq hq hp rfl).not.mp (lt_irrefl _)
    omega
  · exact apart_of_right_le hordered hpmem hqmem hle
  · exact (apart_of_right_le hordered hqmem hpmem hle).symm

/-! ## The whole layout -/

/-- The links of a layout are arcs in their order, with heights that go by how arcs are nested. -/
structure NestedHeights (arcs : List Arc) (layout : Layout) : Prop where
  arcs_eq : layout.links.map (·.toArc) = arcs
  longest : ∀ (i : Nat) (p : PlacedLink), layout.links[i]? = some p →
    IsGreatest {n | ChainTo arcs i n} p.height
  above : ∀ (i j : Nat) (p q : PlacedLink), layout.links[i]? = some p → layout.links[j]? = some q →
    InsideOf arcs i j → p.height < q.height
  /-- If no arcs cross, those of one row do not overlap. -/
  apart : (∀ a ∈ arcs, ∀ b ∈ arcs, ¬a.Crosses b) → ∀ (i j : Nat) (p q : PlacedLink),
    layout.links[i]? = some p → layout.links[j]? = some q → i ≠ j → p.height = q.height →
      Apart layout p q
  /-- The greatest height is that of a link, or there are no links. -/
  greatest : (∀ p ∈ layout.links, p.height ≤ layout.maxHeight) ∧
    (layout.maxHeight = 0 ∧ layout.links = [] ∨ ∃ p ∈ layout.links, p.height = layout.maxHeight)

theorem exists_height_eq_maxHeight {layout : Layout} (hne : layout.links ≠ [])
    (hpos : ∀ p ∈ layout.links, 0 < p.height) :
    ∃ p ∈ layout.links, p.height = layout.maxHeight := by
  rcases foldl_max_eq_or_mem 0 (layout.links.map (·.height)) with hzero | hmem
  · obtain ⟨p, hp⟩ := List.exists_mem_of_ne_nil _ hne
    have hle : p.height ≤ 0 := (height_le_maxHeight hp).trans hzero.le
    exact absurd (hpos p hp) hle.not_gt
  · obtain ⟨p, hp, hheight⟩ := List.mem_map.mp hmem
    exact ⟨p, hp, hheight⟩

/-- Whatever linkage is laid out, with its walls or without, every link that is shown is as high as
the longest chain of nested links that ends with it has links.  Links that do not cross do not
cross where walls are hidden either. -/
theorem heights_by_nesting (words : List LinkageWord) (links : List Link) (displayWalls : Bool)
    (hordered : ∀ l ∈ links, l.left < l.right) :
    NestedHeights (shownArcs displayWalls (.ofLinks words links))
        (make (.ofLinks words links) displayWalls) ∧
      ((∀ k ∈ links, ∀ l ∈ links, ¬(k.left < l.left ∧ l.left < k.right ∧ k.right < l.right)) →
        ∀ a ∈ shownArcs displayWalls (.ofLinks words links),
          ∀ b ∈ shownArcs displayWalls (.ofLinks words links), ¬a.Crosses b) := by
  have hmem : ∀ l ∈ (Linkage.ofLinks words links).links, l ∈ links :=
    fun l hl => (List.mergeSort_perm links Linkage.endsLe).mem_iff.mp hl
  have hlinks : ∀ l ∈ (Linkage.ofLinks words links).links, l.left < l.right :=
    fun l hl => hordered l (hmem l hl)
  have harcs := ordered_shownArcs displayWalls hlinks
  have hmap := map_toArc_placeLinks (pairwise_shownArcs displayWalls words links)
  constructor
  · constructor
    case arcs_eq => exact hmap
    case longest => exact fun i p hp => isGreatest_chainTo harcs hmap hp
    case above => exact fun i j p q hp hq => height_lt_of_insideOf harcs hmap hp hq
    case apart => exact fun hcross i j p q => apart_of_height_eq hlinks hcross
    case greatest =>
      refine ⟨fun p => height_le_maxHeight, ?_⟩
      by_cases hnil : (make (.ofLinks words links) displayWalls).links = []
      · left
        rw [maxHeight, hnil]
        exact ⟨rfl, rfl⟩
      · exact .inr (exists_height_eq_maxHeight hnil fun p hp => height_pos hp)
  · intro hcross
    exact not_crosses_shownArcs fun k hk l hl => hcross k (hmem k hk) l (hmem l hl)

/-- A wall and three words. -/
def nestedWords : List LinkageWord :=
  [⟨"LEFT-WALL", true, false, none, 0⟩, ⟨"a", false, false, none, 0⟩,
    ⟨"b", false, false, none, 0⟩, ⟨"c", false, false, none, 0⟩]

/-- Links between neighbours, two links over them with the same ends, and one from the wall. -/
def nestedLinks : List Link :=
  [⟨0, 3, "X", "X+", "X-"⟩, ⟨1, 3, "P", "P+", "P-"⟩, ⟨1, 2, "S", "S+", "S-"⟩,
    ⟨2, 3, "O", "O+", "O-"⟩, ⟨1, 3, "Q", "Q+", "Q-"⟩]

theorem heights_by_nesting_twofold : (∀ l ∈ nestedLinks, l.left < l.right) ∧
    NestedHeights (shownArcs false (.ofLinks nestedWords nestedLinks))
      (make (.ofLinks nestedWords nestedLinks) false) ∧
    (make (.ofLinks nestedWords nestedLinks) false).links =
      [⟨⟨0, 1, "S"⟩, 1⟩, ⟨⟨0, 2, "P"⟩, 2⟩, ⟨⟨0, 2, "Q"⟩, 3⟩, ⟨⟨1, 2, "O"⟩, 1⟩] := by
  have hordered : ∀ l ∈ nestedLinks, l.left < l.right := by decide
  obtain ⟨hnested, -⟩ := heights_by_nesting nestedWords nestedLinks false hordered
  refine ⟨hordered, hnested, ?_⟩
  cbv

end Layout

end LinkParsing
