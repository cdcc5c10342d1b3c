import LinkParsing.Proofs.Search.Decomposition
import Mathlib.Data.List.Nodup

/-!
# All assemblies of a region

`assemblies` lists what can be built of a region, in the order in which the alternatives
are tried and, within one alternative, the left part before the right one.  Nothing is
saturated here and nothing remembered.

* `mem_assemblies` — every assembly listed fills the region and makes no link twice;
* `exists_mem_assemblies` — every filling is listed;
* `assemblies_nodup` — no filling is listed twice.
-/

namespace LinkParsing.Search

variable {s : Sentence} {r : Region}

/-- The assemblies of a region that is at most so wide. -/
def assembliesWithin (s : Sentence) : Nat → Region → List Assembly
  | width, r =>
    match r.baseCount? with
    | some n => List.replicate n .nothing
    | none =>
      match width with
      | 0 => []
      | width + 1 =>
        (s.alternatives r).flatMap fun a =>
          (assembliesWithin s width a.left).flatMap fun y =>
            (assembliesWithin s width a.right).map fun z => .join a y z

/-- The assemblies of a region. -/
def assemblies (s : Sentence) (r : Region) : List Assembly := assembliesWithin s r.width r

/-- The assemblies that an alternative gives. -/
def assembliesOf (s : Sentence) (a : Alternative) : List Assembly :=
  (assemblies s a.left).flatMap fun y => (assemblies s a.right).map fun z => .join a y z

/-- The assemblies of a whole sentence with so many words left out. -/
def linkageAssemblies (s : Sentence) (nulls : Nat) : List Assembly :=
  (s.roots nulls).flatMap fun root =>
    (assemblies s root.2).map fun y => { y with choices := (0, root.1) :: y.choices }

/-- A region that is no base case has words inside. -/
theorem width_pos_of_baseCount (hbase : r.baseCount? = none) : 0 < r.width := by
  unfold Region.baseCount? at hbase
  split at hbase
  next => simp at hbase
  next =>
    split at hbase
    next => simp at hbase
    next hinner =>
      simp only [Region.inner] at hinner
      simp only [Region.width]
      omega

/-- What holds of base cases, and of a region as soon as it holds of the parts of its
alternatives, holds of every region. -/
@[elab_as_elim]
theorem region_induction (s : Sentence) {motive : Region → Prop}
    (base : ∀ r n, r.baseCount? = some n → motive r)
    (split : ∀ r, r.baseCount? = none →
      (∀ a ∈ s.alternatives r, motive a.left ∧ motive a.right) → motive r)
    (r : Region) : motive r := by
  induction hw : r.width using Nat.strong_induction_on generalizing r with
  | _ width ih =>
      cases hbase : r.baseCount? with
      | some n => exact base r n hbase
      | none =>
          refine split r hbase fun a ha => ?_
          obtain ⟨hleft, hright⟩ := alternatives_narrower ha
          exact ⟨ih _ (hw ▸ hleft) _ rfl, ih _ (hw ▸ hright) _ rfl⟩

/-- A width that suffices gives the same assemblies as any other. -/
theorem assembliesWithin_eq {width : Nat} (h : r.width ≤ width) :
    assembliesWithin s width r = assemblies s r := by
  unfold assemblies
  induction r using region_induction s generalizing width with
  | base r n hbase =>
      unfold assembliesWithin
      simp [hbase]
  | split r hbase ih =>
      have hpos := width_pos_of_baseCount hbase
      obtain ⟨k, hk⟩ : ∃ k, width = k + 1 := ⟨width - 1, by omega⟩
      obtain ⟨m, hm⟩ : ∃ m, r.width = m + 1 := ⟨r.width - 1, by omega⟩
      rw [hm, hk]
      simp only [assembliesWithin, hbase]
      refine List.flatMap_congr fun a ha => ?_
      obtain ⟨hleft, hright⟩ := alternatives_narrower ha
      have hk' : a.left.width ≤ k ∧ a.right.width ≤ k := by omega
      have hm' : a.left.width ≤ m ∧ a.right.width ≤ m := by omega
      rw [(ih a ha).1 hk'.1, (ih a ha).1 hm'.1, (ih a ha).2 hk'.2, (ih a ha).2 hm'.2]

theorem assemblies_of_baseCount {n : Nat} (hbase : r.baseCount? = some n) :
    assemblies s r = List.replicate n .nothing := by
  unfold assemblies assembliesWithin
  simp [hbase]

theorem assemblies_of_split (hbase : r.baseCount? = none) :
    assemblies s r = (s.alternatives r).flatMap (assembliesOf s) := by
  have hpos := width_pos_of_baseCount hbase
  obtain ⟨m, hm⟩ : ∃ m, r.width = m + 1 := ⟨r.width - 1, by omega⟩
  unfold assemblies
  rw [hm]
  simp only [assembliesWithin, hbase]
  refine List.flatMap_congr fun a ha => ?_
  obtain ⟨hleft, hright⟩ := alternatives_narrower ha
  rw [assembliesOf, assembliesWithin_eq (by omega), assembliesWithin_eq (by omega)]

/-! ## The wiring of an assembly -/

/-- The readings and the links of an assembly. -/
def Assembly.toWiring (a : Assembly) : Wiring := ⟨fun w => a.choices.lookup w, a.links.toFinset⟩

@[simp]
theorem mem_toWiring_links {a : Assembly} {l : LinkRef} : l ∈ a.toWiring.links ↔ l ∈ a.links := by
  simp [Assembly.toWiring]

theorem toWiring_nothing : Assembly.nothing.toWiring = .empty := rfl

theorem toWiring_join (a : Alternative) (y z : Assembly) :
    (Assembly.join a y z).toWiring = .join a y.toWiring z.toWiring := by
  apply Wiring.ext
  · funext t
    simp only [Assembly.toWiring, Assembly.join, Wiring.join, List.cons_append, List.lookup_cons,
      List.lookup_append]
    by_cases h : t = a.word
    · simp [h]
    · simp [h, beq_eq_false_iff_ne.mpr h]
  · simp [Assembly.toWiring, Assembly.join, Wiring.join]

theorem mem_assembliesOf {a : Alternative} {x : Assembly} : x ∈ assembliesOf s a ↔
    ∃ y ∈ assemblies s a.left, ∃ z ∈ assemblies s a.right, x = .join a y z := by
  simp only [assembliesOf, List.mem_flatMap, List.mem_map, eq_comm]

/-- An alternative makes no link twice if its parts make none twice. -/
private theorem nodup_links_join {a : Alternative} {y z : Assembly} (ha : a ∈ s.alternatives r)
    (hy : Fills s a.left y.toWiring) (hz : Fills s a.right z.toWiring) (hyn : y.links.Nodup)
    (hzn : z.links.Nodup) : (Assembly.join a y z).links.Nodup := by
  obtain ⟨left, right, h⟩ := mem_alternatives.mp ha
  have hbetween : a.left.rightWord = a.right.leftWord :=
    h.left_rightWord.trans h.right_leftWord.symm
  have hleft : ∀ l ∈ y.links, l.leftWord < l.rightWord ∧ l.rightWord ≤ a.left.rightWord ∧
      ¬ (l.leftWord = a.left.leftWord ∧ l.rightWord = a.left.rightWord) := by
    intro l hl
    have hends := hy.within l (mem_toWiring_links.mpr hl)
    exact ⟨hends.2.1, hends.2.2, hy.unlinked l (mem_toWiring_links.mpr hl)⟩
  have hright : ∀ l ∈ z.links, l.leftWord < l.rightWord ∧ a.right.leftWord ≤ l.leftWord ∧
      ¬ (l.leftWord = a.right.leftWord ∧ l.rightWord = a.right.rightWord) := by
    intro l hl
    have hends := hz.within l (mem_toWiring_links.mpr hl)
    exact ⟨hends.2.1, hends.1, hz.unlinked l (mem_toWiring_links.mpr hl)⟩
  simp only [Assembly.join, List.nodup_append, List.mem_append]
  refine ⟨⟨h.links_nodup, hyn, ?_⟩, hzn, ?_⟩
  · rintro l hl m hm rfl
    have := h.ends_of_mem hl
    have := hleft l hm
    omega
  · rintro l hl m hm rfl
    have := hright l hm
    rcases hl with hl | hl
    · have hends := h.ends_of_mem hl
      have hword := h.leftWord_lt
      rw [h.left_leftWord, h.left_rightWord] at hends
      have := h.right_leftWord
      omega
    · have := hleft l hl
      omega

/-- Every assembly listed fills the region and makes no link twice. -/
theorem mem_assemblies {x : Assembly} (hx : x ∈ assemblies s r) :
    Fills s r x.toWiring ∧ x.links.Nodup := by
  induction r using region_induction s generalizing x with
  | base r n hbase =>
      rw [assemblies_of_baseCount hbase] at hx
      obtain ⟨hn, rfl⟩ := List.mem_replicate.mp hx
      exact ⟨(fills_iff_of_baseCount hbase).2.mpr ⟨hn, rfl⟩, List.nodup_nil⟩
  | split r hbase ih =>
      rw [assemblies_of_split hbase, List.mem_flatMap] at hx
      obtain ⟨a, ha, hx⟩ := hx
      obtain ⟨y, hy, z, hz, rfl⟩ := mem_assembliesOf.mp hx
      obtain ⟨hyf, hyn⟩ := (ih a ha).1 hy
      obtain ⟨hzf, hzn⟩ := (ih a ha).2 hz
      rw [toWiring_join]
      exact ⟨fills_join ha hyf hzf, nodup_links_join ha hyf hzf hyn hzn⟩

/-- Every filling of a region is listed. -/
theorem exists_mem_assemblies {x : Wiring} (hx : Fills s r x) :
    ∃ a ∈ assemblies s r, a.toWiring = x := by
  induction r using region_induction s generalizing x with
  | base r n hbase =>
      obtain ⟨hn, rfl⟩ := (fills_iff_of_baseCount hbase).2.mp hx
      rw [assemblies_of_baseCount hbase]
      exact ⟨.nothing, List.mem_replicate.mpr ⟨hn, rfl⟩, toWiring_nothing⟩
  | split r hbase ih =>
      obtain ⟨a, ha, y, z, hy, hz, rfl⟩ := hx.exists_split (isSome_pending_of_baseCount hbase)
      obtain ⟨y, hymem, rfl⟩ := (ih a ha).1 hy
      obtain ⟨z, hzmem, rfl⟩ := (ih a ha).2 hz
      refine ⟨.join a y z, ?_, toWiring_join a y z⟩
      rw [assemblies_of_split hbase, List.mem_flatMap]
      exact ⟨a, ha, mem_assembliesOf.mpr ⟨y, hymem, z, hzmem, rfl⟩⟩

/-- An alternative gives no filling twice if its parts have none twice. -/
private theorem assembliesOf_nodup {a : Alternative} (ha : a ∈ s.alternatives r)
    (hleft : ((assemblies s a.left).map Assembly.toWiring).Nodup)
    (hright : ((assemblies s a.right).map Assembly.toWiring).Nodup) :
    ((assembliesOf s a).map Assembly.toWiring).Nodup := by
  have hmap : (assembliesOf s a).map Assembly.toWiring =
      ((assemblies s a.left).map Assembly.toWiring).flatMap fun y =>
        ((assemblies s a.right).map Assembly.toWiring).map (Wiring.join a y) := by
    simp [assembliesOf, List.map_flatMap, List.flatMap_map, Function.comp_def, toWiring_join]
  have hfills : ∀ {part : Region} {y : Wiring},
      y ∈ (assemblies s part).map Assembly.toWiring → Fills s part y := by
    intro part y hy
    obtain ⟨x, hx, rfl⟩ := List.mem_map.mp hy
    exact (mem_assemblies hx).1
  rw [hmap]
  refine nodup_flatMap_of_unique hleft ?_ ?_
  · intro y hy
    refine hright.map_on fun z hz z' hz' heq => ?_
    exact (join_injective ha ha (hfills hy) (hfills hz) (hfills hy) (hfills hz') heq).2.2
  · intro y hy y' hy' x hx hx'
    obtain ⟨z, hz, rfl⟩ := List.mem_map.mp hx
    obtain ⟨z', hz', heq⟩ := List.mem_map.mp hx'
    exact (join_injective ha ha (hfills hy) (hfills hz) (hfills hy') (hfills hz') heq.symm).2.1

/-- No filling of a region is listed twice. -/
theorem assemblies_nodup (s : Sentence) (r : Region) :
    ((assemblies s r).map Assembly.toWiring).Nodup := by
  induction r using region_induction s with
  | base r n hbase =>
      have hn := (fills_iff_of_baseCount (s := s) (x := .empty) hbase).1
      rw [assemblies_of_baseCount hbase, List.map_replicate, List.nodup_replicate]
      exact hn
  | split r hbase ih =>
      rw [assemblies_of_split hbase, List.map_flatMap]
      refine nodup_flatMap_of_unique (alternatives_nodup s r) ?_ ?_
      · exact fun a ha => assembliesOf_nodup ha (ih a ha).1 (ih a ha).2
      · intro a ha a' ha' x hx hx'
        obtain ⟨b, hb, rfl⟩ := List.mem_map.mp hx
        obtain ⟨y, hy, z, hz, rfl⟩ := mem_assembliesOf.mp hb
        obtain ⟨b', hb', heq⟩ := List.mem_map.mp hx'
        obtain ⟨y', hy', z', hz', rfl⟩ := mem_assembliesOf.mp hb'
        rw [toWiring_join, toWiring_join] at heq
        exact (join_injective ha ha' (mem_assemblies hy).1 (mem_assemblies hz).1
          (mem_assemblies hy').1 (mem_assemblies hz').1 heq.symm).1

end LinkParsing.Search
