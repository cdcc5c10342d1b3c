import LinkParsing.Proofs.Linkage.Order
import LinkParsing.Proofs.Search.Rooting

/-!
# Linkages as they are shown

What a linkage that is handed out says about the wiring behind it (`Shows`): each word
stands there with the reading it takes or in brackets if it takes none, each link with
the texts of the connectors it uses, and the links are in order.  A linkage made from an
assembly shows the wiring of the assembly (`shows_toLinkage`).
-/

namespace LinkParsing

/-- Two words of a linkage are neighbours if one of its links has them as its ends. -/
def Linkage.Neighbours (y : Linkage) (v w : Nat) : Prop :=
  ∃ k ∈ y.links, (k.left = v ∧ k.right = w) ∨ (k.left = w ∧ k.right = v)

/-- The ends of one link come before those of another. -/
def Link.Before (k m : Link) : Prop := k.left < m.left ∨ (k.left = m.left ∧ k.right < m.right)

namespace Search

/-- A linkage of a sentence, with so many words left out, shows a wiring. -/
structure Shows (s : Sentence) (nulls : Nat) (x : Wiring) (y : Linkage) : Prop where
  isLinkage : IsLinkage s nulls x
  /-- Every word of the sentence stands in the linkage. -/
  words_length : y.words.length = s.size
  /-- A word that takes a reading is shown with it. -/
  read_word : ∀ w c, x.reading w = some c → ∃ word candidate, s[w]? = some word ∧
    word.candidates[c]? = some candidate ∧ y.words[w]? = some ⟨candidate.display, word.isWall,
      false, some candidate.disjunct.toText, candidate.disjunct.cost⟩
  /-- A word that takes none stands in brackets. -/
  null_word : ∀ w word, s[w]? = some word → x.reading w = none →
    y.words[w]? = some ⟨"[" ++ word.token ++ "]", word.isWall, true, none, 0⟩
  null_count : y.nullCount = nulls
  null_unlinked : ∀ w word, y.words[w]? = some word → word.isNull = true →
    ∀ k ∈ y.links, k.left ≠ w ∧ k.right ≠ w
  first_word : ∃ word, y.words[0]? = some word ∧ word.isNull = false
  /-- The links shown are those of the wiring, with the texts of matching connectors of the
  readings that their words take. -/
  mem_links : ∀ k, k ∈ y.links ↔ ∃ l ∈ x.links, ∃ a b,
    s.rightConnector? l.leftWord l.leftCursor = some a ∧
    s.leftConnector? l.rightWord l.rightCursor = some b ∧ a.linksTo b = true ∧
    k = ⟨l.leftWord, l.rightWord, a.linkLabel b, a.toText, b.toText⟩
  ends : ∀ k ∈ y.links, k.left < k.right ∧ k.right < s.size
  /-- The links are in order of their ends, and no two have the same ends. -/
  sorted : y.links.Pairwise Link.Before
  planar : ∀ k ∈ y.links, ∀ m ∈ y.links,
    ¬ (k.left < m.left ∧ m.left < k.right ∧ k.right < m.right)
  /-- Links lead from every word that is not null to the first one. -/
  joined : ∀ w word, y.words[w]? = some word → word.isNull = false →
    Relation.ReflTransGen y.Neighbours w 0

variable {s : Sentence} {nulls : Nat} {a : Assembly}

/-! ## Words -/

theorem toLinkage_words_getElem? (s : Sentence) (a : Assembly) (w : Nat) :
    (a.toLinkage s).words[w]? = s[w]?.map fun word => linkageWord word (a.toWiring.reading w) := by
  simp [Assembly.toLinkage, Linkage.ofLinks, Assembly.toWiring, List.getElem?_mapIdx]

theorem toLinkage_words_length (s : Sentence) (a : Assembly) :
    (a.toLinkage s).words.length = s.size := by
  simp [Assembly.toLinkage, Linkage.ofLinks]

/-- A word whose number is below that of its readings has the reading with this number. -/
theorem exists_candidate {w c : Nat} (h : c < s.numCandidates w) :
    ∃ word candidate, s[w]? = some word ∧ word.candidates[c]? = some candidate := by
  cases hword : s[w]? with
  | none => simp [Sentence.numCandidates, hword] at h
  | some word =>
      simp only [Sentence.numCandidates, hword, Option.map_some, Option.getD_some] at h
      exact ⟨word, word.candidates[c], rfl, Array.getElem?_eq_getElem h⟩

/-- In a linkage exactly the words that take no reading are null. -/
theorem IsLinkage.isNull_iff (h : IsLinkage s nulls a.toWiring) {w : Nat} {word : SentenceWord}
    (hword : s[w]? = some word) :
    (linkageWord word (a.toWiring.reading w)).isNull = true ↔ a.toWiring.reading w = none := by
  cases hc : a.toWiring.reading w with
  | none => simp [linkageWord]
  | some c =>
      obtain ⟨word', candidate, hword', hcandidate⟩ := exists_candidate (h.reading_lt w c hc)
      rw [hword] at hword'
      rw [← Option.some.inj hword'] at hcandidate
      simp [linkageWord, hcandidate]

/-- The elements of a list that pass are as many as the places that have them. -/
theorem length_filter_eq_card {α : Type*} (p : α → Bool) (xs : List α) :
    (xs.filter p).length =
      ((Finset.range xs.length).filter fun i => xs[i]?.any p = true).card := by
  induction xs using List.reverseRecOn with
  | nil => rfl
  | append_singleton xs x ih =>
      have hbefore : (Finset.range xs.length).filter (fun i => (xs ++ [x])[i]?.any p = true) =
          (Finset.range xs.length).filter fun i => xs[i]?.any p = true := by
        refine Finset.filter_congr fun i hi => ?_
        rw [List.getElem?_append_left (Finset.mem_range.mp hi)]
      rw [List.filter_append, List.length_append, ih, List.length_append, List.length_singleton,
        Finset.range_add_one, Finset.filter_insert, hbefore]
      by_cases hx : p x <;> simp [hx]

/-- As many words are null as are left out. -/
theorem IsLinkage.toLinkage_nullCount (h : IsLinkage s nulls a.toWiring) :
    (a.toLinkage s).nullCount = nulls := by
  rw [Linkage.nullCount, length_filter_eq_card, toLinkage_words_length, ← h.null_count]
  congr 1
  refine Finset.filter_congr fun w hw => ?_
  have hword := Array.getElem?_eq_getElem (Finset.mem_range.mp hw)
  rw [toLinkage_words_getElem?, hword, Option.map_some, Option.any_some, h.isNull_iff hword]

/-! ## Links -/

theorem link?_eq_some {l : LinkRef} {k : Link} : link? s l = some k ↔ ∃ a b,
    s.rightConnector? l.leftWord l.leftCursor = some a ∧
    s.leftConnector? l.rightWord l.rightCursor = some b ∧
    k = ⟨l.leftWord, l.rightWord, a.linkLabel b, a.toText, b.toText⟩ := by
  unfold link?
  simp only [Option.bind_eq_bind, Option.bind_eq_some_iff, Option.pure_def, Option.some.injEq]
  constructor
  · rintro ⟨a, ha, b, hb, rfl⟩
    exact ⟨a, b, ha, hb, rfl⟩
  · rintro ⟨a, b, ha, hb, rfl⟩
    exact ⟨a, ha, b, hb, rfl⟩

theorem mem_toLinkage_links {k : Link} :
    k ∈ (a.toLinkage s).links ↔ ∃ l ∈ a.toWiring.links, link? s l = some k := by
  simp [Assembly.toLinkage, Linkage.ofLinks, List.mem_filterMap]

/-- A link shown has the ends of a link of the assembly. -/
theorem exists_mem_of_mem_toLinkage {k : Link} (hk : k ∈ (a.toLinkage s).links) :
    ∃ l ∈ a.toWiring.links, k.left = l.leftWord ∧ k.right = l.rightWord := by
  obtain ⟨l, hl, hlink⟩ := mem_toLinkage_links.mp hk
  obtain ⟨_, _, -, -, rfl⟩ := link?_eq_some.mp hlink
  exact ⟨l, hl, rfl, rfl⟩

/-- Every link of the assembly is shown. -/
theorem IsLinkage.exists_mem_toLinkage (h : IsLinkage s nulls a.toWiring) {l : LinkRef}
    (hl : l ∈ a.toWiring.links) :
    ∃ k ∈ (a.toLinkage s).links, k.left = l.leftWord ∧ k.right = l.rightWord := by
  obtain ⟨ca, cb, hca, hcb, -⟩ := h.fits l hl
  exact ⟨_, mem_toLinkage_links.mpr ⟨l, hl, link?_eq_some.mpr ⟨ca, cb, hca, hcb, rfl⟩⟩, rfl, rfl⟩

/-- The links shown are in order, and no two have the same ends. -/
theorem IsLinkage.toLinkage_sorted (h : IsLinkage s nulls a.toWiring) (hnodup : a.links.Nodup) :
    (a.toLinkage s).links.Pairwise Link.Before := by
  -- No two words are linked twice, so the order by ends is strict.
  have hdifferent : (a.links.filterMap (link? s)).Pairwise
      fun k m => k.left = m.left → k.right ≠ m.right := by
    rw [List.pairwise_filterMap]
    refine hnodup.imp_of_mem fun {l m} hl hm hne k hk k' hk' hleft hright => ?_
    obtain ⟨_, _, -, -, rfl⟩ := link?_eq_some.mp hk
    obtain ⟨_, _, -, -, rfl⟩ := link?_eq_some.mp hk'
    exact hne (h.single l (mem_toWiring_links.mpr hl) m (mem_toWiring_links.mpr hm) hleft hright)
  have hshown : (a.toLinkage s).links.Pairwise fun k m => k.left = m.left → k.right ≠ m.right :=
    ((List.mergeSort_perm _ _).pairwise_iff fun hkm heq => (hkm heq.symm).symm).mpr hdifferent
  refine hshown.imp₂ (fun k m hne hle => ?_) (Linkage.pairwise_ofLinks _ _)
  rw [Linkage.endsLe_iff] at hle
  unfold Link.Before
  omega

/-- Links that lead from one word to another are shown as such. -/
theorem IsLinkage.toLinkage_joined (h : IsLinkage s nulls a.toWiring) {v w : Nat}
    (hjoined : Joined a.toWiring.links v w) :
    Relation.ReflTransGen (a.toLinkage s).Neighbours v w := by
  refine Relation.ReflTransGen.mono ?_ v w hjoined
  rintro v w ⟨l, hl, hends⟩
  obtain ⟨k, hk, hleft, hright⟩ := h.exists_mem_toLinkage hl
  refine ⟨k, hk, ?_⟩
  rw [hleft, hright]
  exact hends

/-! ## The whole linkage -/

/-- The linkage made from an assembly shows the wiring of the assembly. -/
theorem shows_toLinkage (h : IsLinkage s nulls a.toWiring) (hnodup : a.links.Nodup) :
    Shows s nulls a.toWiring (a.toLinkage s) := by
  have hnull : ∀ w word, (a.toLinkage s).words[w]? = some word →
      (word.isNull = true ↔ a.toWiring.reading w = none) := by
    intro w word hword
    rw [toLinkage_words_getElem?] at hword
    obtain ⟨source, hsource, rfl⟩ := Option.map_eq_some_iff.mp hword
    exact h.isNull_iff hsource
  refine ⟨h, toLinkage_words_length s a, ?_, ?_, h.toLinkage_nullCount, ?_, ?_, ?_, ?_,
    h.toLinkage_sorted hnodup, ?_, ?_⟩
  · intro w c hc
    obtain ⟨word, candidate, hword, hcandidate⟩ := exists_candidate (h.reading_lt w c hc)
    refine ⟨word, candidate, hword, hcandidate, ?_⟩
    simp [toLinkage_words_getElem?, hword, hc, linkageWord, hcandidate]
  · intro w word hword hc
    simp [toLinkage_words_getElem?, hword, hc, linkageWord]
  · -- Both words of a link take readings, so none of them is null.
    intro w word hword hisNull k hk
    rw [hnull w word hword] at hisNull
    obtain ⟨l, hl, hleft, hright⟩ := exists_mem_of_mem_toLinkage hk
    have hread := h.chosen l hl .right
    have hread' := h.chosen l hl .left
    rw [hleft, hright]
    constructor
    · rintro rfl
      simp [hisNull] at hread
    · rintro rfl
      simp [hisNull] at hread'
  · obtain ⟨c, hc⟩ := Option.isSome_iff_exists.mp h.first_read
    obtain ⟨word, candidate, hword, hcandidate⟩ := exists_candidate (h.reading_lt 0 c hc)
    refine ⟨_, by rw [toLinkage_words_getElem?, hword, Option.map_some], ?_⟩
    simp [linkageWord, hc, hcandidate]
  · intro k
    rw [mem_toLinkage_links]
    constructor
    · rintro ⟨l, hl, hlink⟩
      obtain ⟨ca, cb, hca, hcb, rfl⟩ := link?_eq_some.mp hlink
      obtain ⟨ca', cb', hca', hcb', hmatch⟩ := h.fits l hl
      rw [hca] at hca'
      rw [hcb] at hcb'
      rw [← Option.some.inj hca', ← Option.some.inj hcb'] at hmatch
      exact ⟨l, hl, ca, cb, hca, hcb, hmatch, rfl⟩
    · rintro ⟨l, hl, ca, cb, hca, hcb, -, rfl⟩
      exact ⟨l, hl, link?_eq_some.mpr ⟨ca, cb, hca, hcb, rfl⟩⟩
  · intro k hk
    obtain ⟨l, hl, hleft, hright⟩ := exists_mem_of_mem_toLinkage hk
    rw [hleft, hright]
    exact ⟨h.forward l hl, lt_size_of_lt_numCandidates (h.reading_lt _ _ (h.chosen l hl .left))⟩
  · intro k hk m hm
    obtain ⟨l, hl, hleft, hright⟩ := exists_mem_of_mem_toLinkage hk
    obtain ⟨l', hl', hleft', hright'⟩ := exists_mem_of_mem_toLinkage hm
    rw [hleft, hright, hleft', hright']
    exact h.planar l hl l' hl'
  · intro w word hword hisNull
    refine h.toLinkage_joined (h.joined w ?_)
    rw [Option.isSome_iff_ne_none, ne_eq, ← hnull w word hword, hisNull]
    exact Bool.false_ne_true

end Search

end LinkParsing
