import LinkParsing.Proofs.Search.Rooting

/-!
# Counting and numbering without memory

What counting and extraction come to when nothing is remembered and no clock is looked
at.  Counts are the lengths of the lists of assemblies, cut off at `maxCount`
(`plainCount_eq`, `plainLinkages_eq`).

Cut-off counts are still enough to number linkages: below `maxCount`, a number that is
less than a cut-off product has the same quotient and remainder by the cut-off factor as
by the true one.  So the number of a linkage is its place in the list
(`plainAssemble_eq_getElem?`).
-/

namespace LinkParsing.Search

variable {s : Sentence} {r : Region}

/-! ## Definitions -/

/-- Add up the counts of alternatives, given the count of every region. -/
def sumPlain (count : Region → Nat) (total : Nat) : List Alternative → Nat
  | [] => total
  | a :: rest =>
    if count a.left = 0 then sumPlain count total rest
    else sumPlain count (addCounts total (mulCounts (count a.left) (count a.right))) rest

/-- The count of a region that is at most so wide. -/
def plainWithin (s : Sentence) : Nat → Region → Nat
  | width, r =>
    match r.baseCount? with
    | some n => n
    | none =>
      match width with
      | 0 => 0
      | width + 1 => sumPlain (plainWithin s width) 0 (s.alternatives r)

/-- The count of a region. -/
def plainCount (s : Sentence) (r : Region) : Nat := plainWithin s r.width r

/-- The count of a sentence with so many words left out. -/
def plainLinkages (s : Sentence) (nulls : Nat) : Nat :=
  (s.roots nulls).foldl (fun total root => addCounts total (plainCount s root.2)) 0

/-- The alternative to which a number belongs, and the numbers of its parts. -/
def plainPick (s : Sentence) (index : Nat) : List Alternative → Option (Alternative × Nat × Nat)
  | [] => none
  | a :: rest =>
    if plainCount s a.left = 0 then plainPick s index rest
    else if index < mulCounts (plainCount s a.left) (plainCount s a.right) then
      some (a, index / plainCount s a.right, index % plainCount s a.right)
    else plainPick s (index - mulCounts (plainCount s a.left) (plainCount s a.right)) rest

/-- The assembly with a number, of a region that is at most so wide. -/
def plainAssembleWithin (s : Sentence) : Nat → Region → Nat → Assembly
  | 0, _, _ => .nothing
  | width + 1, r, index =>
    if r.baseCount?.isSome then .nothing
    else
      match plainPick s index (s.alternatives r) with
      | none => .nothing
      | some (a, leftIndex, rightIndex) =>
        .join a (plainAssembleWithin s width a.left leftIndex)
          (plainAssembleWithin s width a.right rightIndex)

/-- The assembly with a number among those of the whole sentence, if there is one. -/
def plainAssembleRoots (s : Sentence) (index : Nat) : List (Nat × Region) → Option Assembly
  | [] => none
  | (candidate, root) :: roots =>
    if index < plainCount s root then
      let inner := plainAssembleWithin s root.width root index
      some { inner with choices := (0, candidate) :: inner.choices }
    else plainAssembleRoots s (index - plainCount s root) roots

/-- The readings and links of the linkage with a number. -/
def plainAssemble (s : Sentence) (nulls index : Nat) : Option Assembly :=
  plainAssembleRoots s index (s.roots nulls)

/-! ## Counts that are cut off -/

theorem maxCount_eq : maxCount = 2 ^ 64 - 1 := by decide

theorem maxCount_pos : 0 < maxCount := by decide

theorem addCounts_min (a b : Nat) :
    addCounts (min maxCount a) (min maxCount b) = min maxCount (a + b) := by
  unfold addCounts
  omega

theorem mulCounts_min (a b : Nat) :
    mulCounts (min maxCount a) (min maxCount b) = min maxCount (a * b) := by
  have hpos := maxCount_pos
  unfold mulCounts
  rcases Nat.eq_zero_or_pos a with rfl | ha
  · simp
  rcases Nat.eq_zero_or_pos b with rfl | hb
  · simp
  rcases Nat.lt_or_ge a maxCount with hlt | hge
  · rw [min_eq_right (le_of_lt hlt)]
    rcases Nat.lt_or_ge b maxCount with hlt' | hge'
    · rw [min_eq_right (le_of_lt hlt')]
    · rw [min_eq_left hge', min_eq_left (Nat.le_mul_of_pos_left _ ha),
        min_eq_left (hge'.trans (Nat.le_mul_of_pos_left _ ha))]
  · have hb' : 0 < min maxCount b := lt_min hpos hb
    rw [min_eq_left hge, min_eq_left (Nat.le_mul_of_pos_right _ hb'),
      min_eq_left (hge.trans (Nat.le_mul_of_pos_right _ hb))]

theorem min_maxCount_eq_zero {n : Nat} : min maxCount n = 0 ↔ n = 0 := by
  have := maxCount_pos
  omega

/-- Below `maxCount`, quotient and remainder by a cut-off count are those by the true one. -/
theorem div_mod_min {index n : Nat} (h : index < maxCount) :
    index / min maxCount n = index / n ∧ index % min maxCount n = index % n := by
  rcases Nat.le_total n maxCount with hle | hge
  · rw [min_eq_right hle]
    exact ⟨rfl, rfl⟩
  · rw [min_eq_left hge, Nat.div_eq_of_lt h, Nat.div_eq_of_lt (h.trans_le hge),
      Nat.mod_eq_of_lt h, Nat.mod_eq_of_lt (h.trans_le hge)]
    exact ⟨rfl, rfl⟩

/-! ## Counts are lengths -/

/-- Adding up the lengths of lists, cut off, gives the length of all of them together, cut off. -/
theorem sumPlain_eq (count : Region → Nat) (parts : Region → List Assembly)
    (hcount : ∀ r, count r = min maxCount (parts r).length) (alts : List Alternative)
    (total : Nat) : sumPlain count (min maxCount total) alts =
      min maxCount (total + (alts.flatMap fun a => (parts a.left).flatMap fun y =>
        (parts a.right).map fun z => Assembly.join a y z).length) := by
  induction alts generalizing total with
  | nil => simp [sumPlain]
  | cons a rest ih =>
      have hproduct : ((parts a.left).flatMap fun y =>
          (parts a.right).map fun z => Assembly.join a y z).length =
            (parts a.left).length * (parts a.right).length := by
        simp [List.length_flatMap]
      rw [sumPlain, hcount, hcount, List.flatMap_cons, List.length_append, hproduct]
      split
      next hzero =>
        rw [min_maxCount_eq_zero] at hzero
        rw [ih, hzero, Nat.zero_mul, Nat.zero_add]
      next => rw [mulCounts_min, addCounts_min, ih, Nat.add_assoc]

private theorem plainWithin_eq (width : Nat) (r : Region) :
    plainWithin s width r = min maxCount (assembliesWithin s width r).length := by
  induction width generalizing r with
  | zero =>
      unfold plainWithin assembliesWithin
      cases hbase : r.baseCount? with
      | some n =>
          have hn := (fills_iff_of_baseCount (s := s) (x := .empty) hbase).1
          have := maxCount_pos
          simp only [List.length_replicate]
          omega
      | none => simp
  | succ width ih =>
      unfold plainWithin assembliesWithin
      cases hbase : r.baseCount? with
      | some n =>
          have hn := (fills_iff_of_baseCount (s := s) (x := .empty) hbase).1
          have := maxCount_pos
          simp only [List.length_replicate]
          omega
      | none =>
          have hsum := sumPlain_eq (plainWithin s width) (assembliesWithin s width) ih
            (s.alternatives r) 0
          simpa using hsum

/-- The count of a region is the number of its assemblies, cut off at `maxCount`. -/
theorem plainCount_eq (s : Sentence) (r : Region) :
    plainCount s r = min maxCount (assemblies s r).length :=
  plainWithin_eq r.width r

/-- The count of a sentence is the number of its linkages, cut off at `maxCount`. -/
theorem plainLinkages_eq (s : Sentence) (nulls : Nat) :
    plainLinkages s nulls = min maxCount (linkageAssemblies s nulls).length := by
  have hfold : ∀ (roots : List (Nat × Region)) (total : Nat),
      roots.foldl (fun total root => addCounts total (plainCount s root.2)) (min maxCount total) =
        min maxCount (total + (roots.flatMap fun root => (assemblies s root.2).map fun y =>
          ({ y with choices := (0, root.1) :: y.choices } : Assembly)).length) := by
    intro roots
    induction roots with
    | nil => simp
    | cons root rest ih =>
        intro total
        rw [List.foldl_cons, plainCount_eq, addCounts_min, ih]
        simp [Nat.add_assoc]
  simpa [plainLinkages, linkageAssemblies] using hfold (s.roots nulls) 0

/-- A number below the count is a place in the list of all linkages. -/
theorem lt_of_lt_plainLinkages {nulls i : Nat} (hi : i < plainLinkages s nulls) :
    i < maxCount ∧ i < (linkageAssemblies s nulls).length := by
  rw [plainLinkages_eq] at hi
  exact lt_min_iff.mp hi

/-! ## Numbers are places -/

/-- In a list of pairs, the quotient is the place of the first part and the remainder that
of the second. -/
theorem getElem?_flatMap_map {α β γ : Type*} (xs : List α) {ys : List β} (f : α → β → γ)
    (hys : 0 < ys.length) (i : Nat) : (xs.flatMap fun x => ys.map (f x))[i]? =
      (xs[i / ys.length]?).bind fun x => (ys[i % ys.length]?).map (f x) := by
  induction xs generalizing i with
  | nil => simp
  | cons x xs ih =>
      rw [List.flatMap_cons, List.getElem?_append, List.length_map]
      split
      next hlt =>
        rw [Nat.div_eq_of_lt hlt, Nat.mod_eq_of_lt hlt]
        simp
      next hge =>
        obtain ⟨j, rfl⟩ := Nat.exists_eq_add_of_le (Nat.le_of_not_lt hge)
        rw [Nat.add_sub_cancel_left, ih, Nat.add_div_left j hys, Nat.add_mod_left,
          List.getElem?_cons_succ]

/-- A number below `maxCount` that belongs to a place in the list of all assemblies picks
the alternative and the places of its two parts. -/
theorem plainPick_eq {index : Nat} (hindex : index < maxCount) {alts : List Alternative}
    {x : Assembly} (hx : (alts.flatMap (assembliesOf s))[index]? = some x) :
    ∃ a ∈ alts, ∃ i j y z, plainPick s index alts = some (a, i, j) ∧ i < maxCount ∧
      j < maxCount ∧ (assemblies s a.left)[i]? = some y ∧ (assemblies s a.right)[j]? = some z ∧
      x = .join a y z := by
  induction alts generalizing index with
  | nil => simp at hx
  | cons a rest ih =>
      have hlength : (assembliesOf s a).length =
          (assemblies s a.left).length * (assemblies s a.right).length := by
        simp [assembliesOf, List.length_flatMap]
      rw [List.flatMap_cons, List.getElem?_append, hlength] at hx
      simp only [plainPick, plainCount_eq, mulCounts_min, min_maxCount_eq_zero, lt_min_iff,
        hindex, true_and]
      by_cases hzero : (assemblies s a.left).length = 0
      · -- Without assemblies of its left part an alternative takes no places.
        rw [hzero, Nat.zero_mul, if_neg (Nat.not_lt_zero _), Nat.sub_zero] at hx
        obtain ⟨b, hb, hpick⟩ := ih hindex hx
        refine ⟨b, List.mem_cons_of_mem a hb, ?_⟩
        simpa [hzero] using hpick
      · rw [if_neg hzero]
        by_cases hhere : index < (assemblies s a.left).length * (assemblies s a.right).length
        · -- The place is one of this alternative.
          rw [if_pos hhere] at hx ⊢
          have hpos : 0 < (assemblies s a.right).length := by
            rcases Nat.eq_zero_or_pos (assemblies s a.right).length with h0 | hpos
            · rw [h0, Nat.mul_zero] at hhere
              omega
            · exact hpos
          rw [assembliesOf, getElem?_flatMap_map _ _ hpos] at hx
          obtain ⟨y, hy, hx⟩ := Option.bind_eq_some_iff.mp hx
          obtain ⟨z, hz, rfl⟩ := Option.map_eq_some_iff.mp hx
          obtain ⟨hdiv, hmod⟩ := div_mod_min (n := (assemblies s a.right).length) hindex
          rw [hdiv, hmod]
          exact ⟨a, List.mem_cons_self, _, _, y, z, rfl, (Nat.div_le_self _ _).trans_lt hindex,
            (Nat.mod_le _ _).trans_lt hindex, hy, hz, rfl⟩
        · -- The alternative is passed over.  Its product is at most the number, so it is not
          -- cut off and just the places of the alternative are taken off.
          rw [if_neg hhere] at hx ⊢
          have hle : (assemblies s a.left).length * (assemblies s a.right).length ≤ index := by
            omega
          rw [min_eq_right (hle.trans (le_of_lt hindex))]
          obtain ⟨b, hb, hpick⟩ := ih (by omega) hx
          exact ⟨b, List.mem_cons_of_mem a hb, hpick⟩

/-- A number below `maxCount` that belongs to a place in the list of all assemblies of a
region stands for the assembly at that place. -/
theorem plainAssembleWithin_eq {width index : Nat} (hwidth : r.width ≤ width)
    (hindex : index < maxCount) {x : Assembly} (hx : (assemblies s r)[index]? = some x) :
    plainAssembleWithin s width r index = x := by
  induction width generalizing r index x with
  | zero =>
      cases hbase : r.baseCount? with
      | some n =>
          rw [assemblies_of_baseCount hbase] at hx
          exact (List.eq_of_mem_replicate (List.mem_of_getElem? hx)).symm
      | none =>
          have := width_pos_of_baseCount hbase
          omega
  | succ width ih =>
      unfold plainAssembleWithin
      cases hbase : r.baseCount? with
      | some n =>
          rw [assemblies_of_baseCount hbase] at hx
          simpa using (List.eq_of_mem_replicate (List.mem_of_getElem? hx)).symm
      | none =>
          rw [assemblies_of_split hbase] at hx
          obtain ⟨a, ha, i, j, y, z, hpick, hi, hj, hy, hz, rfl⟩ := plainPick_eq hindex hx
          obtain ⟨hleft, hright⟩ := alternatives_narrower ha
          simp only [Option.isSome_none, Bool.false_eq_true, if_false, hpick]
          rw [ih (by omega) hi hy, ih (by omega) hj hz]

/-- Below `maxCount`, the number of a linkage is its place in the list of all of them. -/
theorem plainAssemble_eq_getElem? {nulls index : Nat} (hindex : index < maxCount) :
    plainAssemble s nulls index = (linkageAssemblies s nulls)[index]? := by
  unfold plainAssemble linkageAssemblies
  generalize s.roots nulls = roots
  induction roots generalizing index with
  | nil => rfl
  | cons root rest ih =>
      obtain ⟨c, region⟩ := root
      simp only [plainAssembleRoots, List.flatMap_cons, List.getElem?_append, List.length_map,
        plainCount_eq, lt_min_iff, hindex, true_and]
      split
      next hlt =>
        have hx := List.getElem?_eq_getElem hlt
        rw [plainAssembleWithin_eq le_rfl hindex hx, List.getElem?_map, hx]
        rfl
      next hge =>
        rw [min_eq_right (by omega)]
        exact ih (by omega)

/-- As long as the count is not cut off, no number beyond it belongs to a linkage. -/
theorem plainAssemble_eq_none {nulls index : Nat} (hcount : plainLinkages s nulls < maxCount)
    (hindex : plainLinkages s nulls ≤ index) : plainAssemble s nulls index = none := by
  rw [plainLinkages_eq] at hcount hindex
  rw [min_eq_right (by omega)] at hindex
  unfold plainAssemble
  unfold linkageAssemblies at hcount hindex
  generalize s.roots nulls = roots at hcount hindex ⊢
  induction roots generalizing index with
  | nil => rfl
  | cons root rest ih =>
      obtain ⟨c, region⟩ := root
      simp only [List.flatMap_cons, List.length_append, List.length_map] at hcount hindex
      have hexact : plainCount s region = (assemblies s region).length := by
        rw [plainCount_eq]
        omega
      rw [plainAssembleRoots, hexact, if_neg (by omega)]
      exact ih (by omega) (by omega)

end LinkParsing.Search
