import LinkParsing.Proofs.Search.Enumeration

/-!
# Linkages of a whole sentence

A linkage of a sentence is a filling of the region between its first word and its end,
together with a reading of the first word that needs nothing to its left
(`Fills.isLinkage`, `IsLinkage.exists_fills`).  So the assemblies of the whole sentence
are its linkages, each listed once (`isLinkage_of_mem`, `exists_mem_linkageAssemblies`,
`linkageAssemblies_nodup`).
-/

namespace LinkParsing.Search

variable {s : Sentence} {nulls : Nat} {x y : Wiring}

/-- A wiring in which the first word takes a reading. -/
def Wiring.withFirst (c : Nat) (y : Wiring) : Wiring where
  reading := fun t => if t = 0 then some c else y.reading t
  links := y.links

/-- The region of a whole sentence whose first word takes a reading. -/
def rootRegion (s : Sentence) (nulls c : Nat) : Region :=
  ⟨0, s.size, s.first .right 0 c, none, nulls⟩

@[simp] theorem rootRegion_boundary_right (c : Nat) :
    (rootRegion s nulls c).boundary .right = 0 := rfl
@[simp] theorem rootRegion_boundary_left (c : Nat) :
    (rootRegion s nulls c).boundary .left = s.size := rfl
@[simp] theorem rootRegion_pending_right (c : Nat) :
    (rootRegion s nulls c).pending .right = s.first .right 0 c := rfl
@[simp] theorem rootRegion_pending_left (c : Nat) :
    (rootRegion s nulls c).pending .left = none := rfl

theorem mem_roots {root : Nat × Region} : root ∈ s.roots nulls ↔
    root.1 < s.numCandidates 0 ∧ s.connectors .left 0 root.1 = [] ∧
      root.2 = rootRegion s nulls root.1 := by
  obtain ⟨c, region⟩ := root
  simp only [Sentence.roots, List.mem_map, List.mem_filter, List.mem_range, List.isEmpty_iff,
    Prod.mk.injEq]
  constructor
  · rintro ⟨c, ⟨hc, hempty⟩, rfl, rfl⟩
    exact ⟨hc, hempty, rfl⟩
  · rintro ⟨hc, hempty, rfl⟩
    exact ⟨c, ⟨hc, hempty⟩, rfl, rfl⟩

theorem roots_nodup (s : Sentence) (nulls : Nat) : (s.roots nulls).Nodup := by
  refine (List.nodup_range.filter _).map ?_
  intro c c' heq
  exact (Prod.mk.inj heq).1

theorem lt_size_of_lt_numCandidates {w c : Nat} (h : c < s.numCandidates w) : w < s.size := by
  by_contra hge
  have hnone : s[w]? = none := Array.getElem?_eq_none (by omega)
  simp [Sentence.numCandidates, hnone] at h

/-! ## The use of all connectors of all readings -/

/-- The links of every word use the connectors of its reading from the first one on. -/
def ServesAll (s : Sentence) (x : Wiring) : Prop :=
  ∀ d w, Serves s d w ((x.reading w).bind (s.first d w)) (linksAt x.links d w)

theorem IsLinkage.servesAll (h : IsLinkage s nulls x) : ServesAll s x := by
  intro d w
  have hcandidate : ∀ l ∈ linksAt x.links d w, x.reading w = some (l.cursor d).candidate := by
    intro l hl
    obtain ⟨hmem, rfl⟩ := mem_linksAt.mp hl
    exact h.chosen l hmem d
  have hposition : ∀ l ∈ linksAt x.links d w,
      (l.cursor d).position < (s.connectors d w (l.cursor d).candidate).length := by
    intro l hl
    obtain ⟨hmem, rfl⟩ := mem_linksAt.mp hl
    exact position_lt_of_matches (h.fits l hmem) d
  cases hc : x.reading w with
  | none =>
      refine serves_none.mpr (Finset.eq_empty_of_forall_notMem fun l hl => ?_)
      simp [hcandidate l hl] at hc
  | some c =>
      rw [hc] at hcandidate
      have hsame : ∀ l ∈ linksAt x.links d w, (l.cursor d).candidate = c :=
        fun l hl => (Option.some.inj (hcandidate l hl)).symm
      simp only [Option.bind_some, Sentence.first, Sentence.firstOf]
      split
      next hempty =>
        -- The reading has no connectors in this direction, so nothing can link with them.
        refine serves_none.mpr (Finset.eq_empty_of_forall_notMem fun l hl => ?_)
        have := hposition l hl
        rw [hsame l hl, List.isEmpty_iff.mp hempty] at this
        simp at this
      next hne =>
        refine ⟨?_, ?_, ?_, ?_, ?_⟩
        · rw [List.isEmpty_iff] at hne
          exact List.length_pos_iff.mpr hne
        · intro l hl
          refine ⟨hsame l hl, Nat.zero_le _, ?_⟩
          have := hposition l hl
          rwa [hsame l hl] at this
        · intro p _ hp
          obtain ⟨l, hl, hword, hcursor⟩ := h.used d w c hc p hp
          exact ⟨l, mem_linksAt.mpr ⟨hl, hword⟩, hcursor⟩
        · intro l hl m hm
          obtain ⟨hl, hword⟩ := mem_linksAt.mp hl
          obtain ⟨hm, hword'⟩ := mem_linksAt.mp hm
          exact h.once d l hl m hm (hword.trans hword'.symm)
        · intro l hl m hm
          obtain ⟨hl, hword⟩ := mem_linksAt.mp hl
          obtain ⟨hm, hword'⟩ := mem_linksAt.mp hm
          exact h.farther d l hl m hm (hword.trans hword'.symm)

/-- A word with a link serves the connectors of a reading from the first one on. -/
private theorem ServesAll.servesFrom (h : ServesAll s x) {l : LinkRef} (hl : l ∈ x.links)
    (d : Direction) : ∃ c, x.reading (l.word d) = some c ∧
      ServesFrom s d (l.word d) ⟨c, 0⟩ (linksAt x.links d (l.word d)) := by
  have hserves := h d (l.word d)
  have hmem : l ∈ linksAt x.links d (l.word d) := mem_linksAt.mpr ⟨hl, rfl⟩
  cases hc : x.reading (l.word d) with
  | none =>
      rw [hc] at hserves
      rw [serves_none.mp hserves] at hmem
      simp at hmem
  | some c =>
      rw [hc] at hserves
      simp only [Option.bind_some, Sentence.first, Sentence.firstOf] at hserves
      split at hserves
      next =>
        rw [serves_none.mp hserves] at hmem
        simp at hmem
      next => exact ⟨c, rfl, hserves⟩

theorem ServesAll.chosen (h : ServesAll s x) :
    ∀ l ∈ x.links, ∀ d, x.reading (l.word d) = some (l.cursor d).candidate := by
  intro l hl d
  obtain ⟨c, hc, hserves⟩ := h.servesFrom hl d
  rw [hc, (hserves.within l (mem_linksAt.mpr ⟨hl, rfl⟩)).1]

theorem ServesAll.used (h : ServesAll s x) : ∀ d w c, x.reading w = some c →
    ∀ p < (s.connectors d w c).length, ∃ l ∈ x.links, l.word d = w ∧ l.cursor d = ⟨c, p⟩ := by
  intro d w c hc p hp
  have hserves := h d w
  have hne : ¬ (s.connectors d w c).isEmpty := by
    rw [List.isEmpty_iff]
    rintro hempty
    simp [hempty] at hp
  rw [hc, Option.bind_some, Sentence.first, Sentence.firstOf, if_neg hne] at hserves
  obtain ⟨l, hl, hcursor⟩ := ServesFrom.used hserves p (Nat.zero_le p) hp
  obtain ⟨hl, hword⟩ := mem_linksAt.mp hl
  exact ⟨l, hl, hword, hcursor⟩

theorem ServesAll.once (h : ServesAll s x) : ∀ d, ∀ l ∈ x.links, ∀ m ∈ x.links,
    l.word d = m.word d → l.cursor d = m.cursor d → l ≠ m → s.endIsMulti d l = true := by
  intro d l hl m hm hword
  obtain ⟨c, -, hserves⟩ := h.servesFrom hl d
  exact hserves.once l (mem_linksAt.mpr ⟨hl, rfl⟩) m (mem_linksAt.mpr ⟨hm, hword.symm⟩)

theorem ServesAll.farther (h : ServesAll s x) : ∀ d, ∀ l ∈ x.links, ∀ m ∈ x.links,
    l.word d = m.word d → (l.cursor d).position < (m.cursor d).position →
      m.length < l.length := by
  intro d l hl m hm hword
  obtain ⟨c, -, hserves⟩ := h.servesFrom hl d
  exact hserves.farther l (mem_linksAt.mpr ⟨hl, rfl⟩) m (mem_linksAt.mpr ⟨hm, hword.symm⟩)

/-! ## Linkages and fillings -/

/-- Inside the region of the whole sentence every word has to use what its reading says. -/
private theorem demand_rootRegion {c : Nat} (hsize : 0 < s.size)
    (hempty : s.connectors .left 0 c = []) (hfirst : y.reading 0 = none)
    (hlast : y.reading s.size = none) (d : Direction) (w : Nat) :
    demand s (rootRegion s nulls c) y d w =
      ((y.withFirst c).reading w).bind (s.first d w) := by
  have hne : s.size ≠ 0 := Nat.ne_of_gt hsize
  cases d with
  | right =>
      by_cases hw : w = 0
      · simp [demand, Wiring.withFirst, hw]
      · simp [demand, Wiring.withFirst, hw]
  | left =>
      by_cases hw : w = s.size
      · simp [demand, Wiring.withFirst, hw, hne, hlast]
      · by_cases hw0 : w = 0
        · simp [demand, Wiring.withFirst, hw0, hne.symm, hfirst, Sentence.first,
            Sentence.firstOf, hempty]
        · simp [demand, Wiring.withFirst, hw, hw0]

/-- Words left out of the sentence are words left out of the region behind the first word. -/
private theorem unread_rootRegion (c : Nat) : unread y 0 s.size =
    (Finset.range s.size).filter fun w => (y.withFirst c).reading w = none := by
  ext w
  simp only [unread, Finset.mem_filter, Finset.mem_Ioo, Finset.mem_range]
  by_cases hw : w = 0
  · simp [Wiring.withFirst, hw]
  · simp [Wiring.withFirst, hw, Nat.pos_of_ne_zero hw]

/-- A filling of the whole sentence is a linkage. -/
theorem Fills.isLinkage {c : Nat} (hc : c < s.numCandidates 0)
    (hempty : s.connectors .left 0 c = []) (h : Fills s (rootRegion s nulls c) y) :
    IsLinkage s nulls (y.withFirst c) := by
  have hsize := lt_size_of_lt_numCandidates hc
  have hfirst : y.reading 0 = none := h.reading_eq_none (by simp [rootRegion])
  have hlast : y.reading s.size = none := h.reading_eq_none (by simp [rootRegion])
  have hserves : ServesAll s (y.withFirst c) := by
    intro d w
    have hdemand : demand s (rootRegion s nulls c) y d w = _ :=
      demand_rootRegion hsize hempty hfirst hlast d w
    rw [← hdemand]
    exact h.served d w
  have hend : linksAt y.links .left s.size = ∅ := h.serves_boundary .left
  refine ⟨by simp [Wiring.withFirst], ?_, ?_, fun l hl => (h.within l hl).2.1, hserves.chosen,
    h.fits, h.single, h.planar, hserves.used, hserves.once, hserves.farther, ?_⟩
  · intro w k hk
    by_cases hw : w = 0
    · simp only [Wiring.withFirst, hw, if_true, Option.some.injEq] at hk
      rw [hw, ← hk]
      exact hc
    · simp only [Wiring.withFirst, hw, if_false] at hk
      exact (h.inside w k hk).2.2
  · rw [← unread_rootRegion]
    exact h.null_count
  · intro w hw
    by_cases hw0 : w = 0
    · rw [hw0]
      exact .refl
    · have hread : (y.reading w).isSome := by simpa [Wiring.withFirst, hw0] using hw
      rcases h.anchored w hread with hj | hj
      · exact hj
      · -- Nothing leads to the end of the sentence, which has no links.
        rcases Relation.ReflTransGen.cases_tail hj with heq | ⟨t, -, l, hl, ⟨-, hv⟩ | ⟨hv, -⟩⟩
        · rw [← heq] at hread
          simp [rootRegion, hlast] at hread
        · have hmem : l ∈ linksAt y.links .left s.size := mem_linksAt.mpr ⟨hl, hv⟩
          rw [hend] at hmem
          simp at hmem
        · have := h.within l hl
          omega

/-- A linkage is a filling of the whole sentence. -/
theorem IsLinkage.exists_fills (h : IsLinkage s nulls x) : ∃ root ∈ s.roots nulls, ∃ y,
    Fills s root.2 y ∧ x = y.withFirst root.1 := by
  obtain ⟨c, hc⟩ := Option.isSome_iff_exists.mp h.first_read
  have hcand := h.reading_lt 0 c hc
  have hsize := lt_size_of_lt_numCandidates hcand
  have hempty : s.connectors .left 0 c = [] := by
    by_contra hne
    obtain ⟨l, hl, hword, -⟩ := h.used .left 0 c hc 0 (List.length_pos_iff.mpr hne)
    have := h.forward l hl
    simp only [LinkRef.word_left] at hword
    omega
  let y : Wiring := ⟨fun t => if t = 0 then none else x.reading t, x.links⟩
  have hx : x = y.withFirst c := by
    apply Wiring.ext
    · funext t
      by_cases ht : t = 0
      · simp [Wiring.withFirst, ht, hc]
      · simp [Wiring.withFirst, ht, y]
    · rfl
  have hinside : ∀ w k, y.reading w = some k → 0 < w ∧ w < s.size ∧ k < s.numCandidates w := by
    intro w k hk
    by_cases hw : w = 0
    · simp [y, hw] at hk
    · simp only [y, hw, if_false] at hk
      have hlt := h.reading_lt w k hk
      exact ⟨Nat.pos_of_ne_zero hw, lt_size_of_lt_numCandidates hlt, hlt⟩
  have hlast : y.reading s.size = none := by
    cases hk : y.reading s.size with
    | none => rfl
    | some k => exact absurd (hinside _ k hk).2.1 (lt_irrefl _)
  have hbefore : ∀ l ∈ x.links, l.rightWord < s.size := fun l hl =>
    lt_size_of_lt_numCandidates (h.reading_lt _ _ (h.chosen l hl .left))
  refine ⟨(c, rootRegion s nulls c), mem_roots.mpr ⟨hcand, hempty, rfl⟩, y, ?_, hx⟩
  refine ⟨⟨hinside, ?_, ?_, h.fits, h.single, h.planar, ?_, ?_⟩, ?_⟩
  · rw [rootRegion, unread_rootRegion c, ← hx]
    exact h.null_count
  · exact fun l hl => ⟨Nat.zero_le _, h.forward l hl, le_of_lt (hbefore l hl)⟩
  · intro d w
    rw [demand_rootRegion hsize hempty (by simp [y]) hlast, ← hx]
    exact h.servesAll d w
  · intro w hw
    refine .inl (h.joined w ?_)
    obtain ⟨k, hk⟩ := Option.isSome_iff_exists.mp hw
    have hne : w ≠ 0 := Nat.ne_of_gt (hinside w k hk).1
    simpa [y, hne] using hw
  · rintro l hl ⟨-, hv⟩
    have := hbefore l hl
    simp only [rootRegion] at hv
    omega

/-! ## The list of all linkages -/

theorem toWiring_withFirst (c : Nat) (a : Assembly) :
    ({ a with choices := (0, c) :: a.choices } : Assembly).toWiring = a.toWiring.withFirst c := by
  apply Wiring.ext
  · funext t
    by_cases ht : t = 0
    · simp [Assembly.toWiring, Wiring.withFirst, ht]
    · simp [Assembly.toWiring, Wiring.withFirst, ht, List.lookup_cons, beq_eq_false_iff_ne.mpr ht]
  · rfl

/-- Every assembly listed for a sentence is a linkage and makes no link twice. -/
theorem isLinkage_of_mem {a : Assembly} (ha : a ∈ linkageAssemblies s nulls) :
    IsLinkage s nulls a.toWiring ∧ a.links.Nodup := by
  obtain ⟨root, hroot, ha⟩ := List.mem_flatMap.mp ha
  obtain ⟨b, hb, rfl⟩ := List.mem_map.mp ha
  obtain ⟨hc, hempty, hregion⟩ := mem_roots.mp hroot
  obtain ⟨hfills, hnodup⟩ := mem_assemblies hb
  rw [hregion] at hfills
  rw [toWiring_withFirst]
  exact ⟨hfills.isLinkage hc hempty, hnodup⟩

/-- Every linkage of a sentence is listed. -/
theorem exists_mem_linkageAssemblies (h : IsLinkage s nulls x) :
    ∃ a ∈ linkageAssemblies s nulls, a.toWiring = x := by
  obtain ⟨root, hroot, y, hy, rfl⟩ := h.exists_fills
  obtain ⟨a, ha, rfl⟩ := exists_mem_assemblies hy
  refine ⟨_, List.mem_flatMap.mpr ⟨root, hroot, List.mem_map.mpr ⟨a, ha, rfl⟩⟩, ?_⟩
  exact toWiring_withFirst root.1 a

/-- No linkage of a sentence is listed twice. -/
theorem linkageAssemblies_nodup (s : Sentence) (nulls : Nat) :
    ((linkageAssemblies s nulls).map Assembly.toWiring).Nodup := by
  have hmap : (linkageAssemblies s nulls).map Assembly.toWiring =
      (s.roots nulls).flatMap fun root =>
        ((assemblies s root.2).map Assembly.toWiring).map (Wiring.withFirst root.1) := by
    simp [linkageAssemblies, List.map_flatMap, Function.comp_def, toWiring_withFirst]
  have hfirst : ∀ root ∈ s.roots nulls, ∀ z ∈ (assemblies s root.2).map Assembly.toWiring,
      z.reading 0 = none := by
    intro root hroot z hz
    obtain ⟨a, ha, rfl⟩ := List.mem_map.mp hz
    refine (mem_assemblies ha).1.reading_eq_none ?_
    simp [(mem_roots.mp hroot).2.2, rootRegion]
  rw [hmap]
  refine nodup_flatMap_of_unique (roots_nodup s nulls) ?_ ?_
  · intro root hroot
    refine (assemblies_nodup s root.2).map_on fun z hz z' hz' heq => ?_
    apply Wiring.ext
    · funext t
      by_cases ht : t = 0
      · rw [ht, hfirst root hroot z hz, hfirst root hroot z' hz']
      · simpa [Wiring.withFirst, ht] using congrFun (congrArg Wiring.reading heq) t
    · simpa [Wiring.withFirst] using congrArg Wiring.links heq
  · rintro ⟨c, region⟩ hroot ⟨c', region'⟩ hroot' z hz hz'
    obtain ⟨_, -, rfl⟩ := List.mem_map.mp hz
    obtain ⟨_, -, heq⟩ := List.mem_map.mp hz'
    have hc : c' = c := by
      simpa [Wiring.withFirst] using congrFun (congrArg Wiring.reading heq) 0
    have hregion := (mem_roots.mp hroot).2.2
    have hregion' := (mem_roots.mp hroot').2.2
    simp only at hregion hregion'
    rw [hregion, hregion', hc]

end LinkParsing.Search
