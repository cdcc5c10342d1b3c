import LinkParsing.Proofs.Search.Splitting

/-!
# Fillings of a region

A wiring fills a region if its links stay within the region and do not join its two
words directly, the words inside use all connectors of their readings, the two words of
the region use exactly what they still have to use, and every word inside that takes a
reading is joined to one of these two.  `Spans` is the same without the condition on a
direct link.

* `Spans.part` — a part that no link leaves is spanned too.
* `Spans.beside` — two spanned regions side by side, one of them with a direct link,
  fill the region around them.
-/

namespace LinkParsing.Search

variable {s : Sentence} {r : Region} {x y z : Wiring}

namespace Region

/-- The word of a region whose connectors of this direction are used inside. -/
def boundary (r : Region) : Direction → Nat
  | .right => r.leftWord
  | .left => r.rightWord

/-- The first connector of this direction that a word of the region still has to use. -/
def pending (r : Region) : Direction → Option Cursor
  | .right => r.fromLeft
  | .left => r.fromRight

end Region

/-- The first connector of this direction that a word has to use inside a region: what is
left to use for a word of the region, the first one for a word inside. -/
def demand (s : Sentence) (r : Region) (x : Wiring) (d : Direction) (w : Nat) : Option Cursor :=
  if w = r.boundary d then r.pending d else (x.reading w).bind (s.first d w)

/-- A word has the same to use in two regions if it is an end of both or of none. -/
theorem demand_congr {q : Region} {d : Direction} {w : Nat}
    (hboundary : w = r.boundary d ↔ w = q.boundary d)
    (hpending : w = r.boundary d → r.pending d = q.pending d)
    (hreading : w ≠ r.boundary d → x.reading w = y.reading w) :
    demand s r x d w = demand s q y d w := by
  unfold demand
  by_cases h : w = r.boundary d
  · rw [if_pos h, if_pos (hboundary.mp h), hpending h]
  · rw [if_neg h, if_neg (mt hboundary.mpr h), hreading h]

/-- The words between two words that take no reading. -/
def unread (x : Wiring) (u v : Nat) : Finset Nat :=
  (Finset.Ioo u v).filter fun w => x.reading w = none

/-- A wiring of the words inside a region, perhaps with a link between its two words. -/
structure Spans (s : Sentence) (r : Region) (x : Wiring) : Prop where
  inside : ∀ w c, x.reading w = some c →
    r.leftWord < w ∧ w < r.rightWord ∧ c < s.numCandidates w
  null_count : (unread x r.leftWord r.rightWord).card = r.nulls
  within : ∀ l ∈ x.links,
    r.leftWord ≤ l.leftWord ∧ l.leftWord < l.rightWord ∧ l.rightWord ≤ r.rightWord
  fits : ∀ l ∈ x.links, s.Matches l
  single : ∀ l ∈ x.links, ∀ m ∈ x.links,
    l.leftWord = m.leftWord → l.rightWord = m.rightWord → l = m
  planar : ∀ l ∈ x.links, ∀ m ∈ x.links,
    ¬ (l.leftWord < m.leftWord ∧ m.leftWord < l.rightWord ∧ l.rightWord < m.rightWord)
  served : ∀ d w, Serves s d w (demand s r x d w) (linksAt x.links d w)
  anchored : ∀ w, (x.reading w).isSome →
    Joined x.links w r.leftWord ∨ Joined x.links w r.rightWord

/-- A wiring of the words inside a region that leaves its two words unlinked. -/
structure Fills (s : Sentence) (r : Region) (x : Wiring) : Prop extends Spans s r x where
  unlinked : ∀ l ∈ x.links, ¬ (l.leftWord = r.leftWord ∧ l.rightWord = r.rightWord)

/-! ## Joined words -/

theorem Adjacent.mono {links links' : Finset LinkRef} (hsub : links ⊆ links') {v w : Nat}
    (h : Adjacent links v w) : Adjacent links' v w := by
  obtain ⟨l, hl, hends⟩ := h
  exact ⟨l, hsub hl, hends⟩

theorem Joined.mono {links links' : Finset LinkRef} (hsub : links ⊆ links') {v w : Nat}
    (h : Joined links v w) : Joined links' v w := by
  induction h with
  | refl => exact .refl
  | tail _ hadj ih => exact ih.tail (hadj.mono hsub)

theorem joined_of_mem {links : Finset LinkRef} {l : LinkRef} (hl : l ∈ links) :
    Joined links l.leftWord l.rightWord ∧ Joined links l.rightWord l.leftWord :=
  ⟨.single ⟨l, hl, .inl ⟨rfl, rfl⟩⟩, .single ⟨l, hl, .inr ⟨rfl, rfl⟩⟩⟩

/-- A way out of the words between `u` and `v` comes first to `u` or to `v`, on links that
stay between them. -/
theorem Joined.anchor {links links' : Finset LinkRef} {u v : Nat}
    (hstay : ∀ l ∈ links, (∃ d, u < l.word d ∧ l.word d < v) →
      l ∈ links' ∧ ∀ d, u ≤ l.word d ∧ l.word d ≤ v)
    {w e : Nat} (h : Joined links w e) (hw : u < w ∧ w < v) (he : ¬ (u < e ∧ e < v)) :
    Joined links' w u ∨ Joined links' w v := by
  induction h using Relation.ReflTransGen.head_induction_on with
  | refl => exact absurd hw he
  | @head w t hadj _ ih =>
      have hstep : Adjacent links' w t ∧ u ≤ t ∧ t ≤ v := by
        obtain ⟨l, hl, ⟨rfl, rfl⟩ | ⟨rfl, rfl⟩⟩ := hadj
        · obtain ⟨hl', hends⟩ := hstay l hl ⟨.right, hw⟩
          exact ⟨⟨l, hl', .inl ⟨rfl, rfl⟩⟩, hends .left⟩
        · obtain ⟨hl', hends⟩ := hstay l hl ⟨.left, hw⟩
          exact ⟨⟨l, hl', .inr ⟨rfl, rfl⟩⟩, hends .right⟩
      obtain ⟨hadj', hlow, hhigh⟩ := hstep
      rcases Nat.eq_or_lt_of_le hlow with rfl | hlow
      · exact .inl (.single hadj')
      rcases Nat.eq_or_lt_of_le hhigh with rfl | hhigh
      · exact .inr (.single hadj')
      · exact (ih ⟨hlow, hhigh⟩).imp (.head hadj') (.head hadj')

/-! ## What a filling tells about its region -/

theorem Spans.reading_eq_none (h : Spans s r x) {w : Nat}
    (hw : ¬ (r.leftWord < w ∧ w < r.rightWord)) : x.reading w = none := by
  cases hc : x.reading w with
  | none => rfl
  | some c => exact absurd ⟨(h.inside w c hc).1, (h.inside w c hc).2.1⟩ hw

theorem Spans.serves_boundary (h : Spans s r x) (d : Direction) :
    Serves s d (r.boundary d) (r.pending d) (linksAt x.links d (r.boundary d)) := by
  have := h.served d (r.boundary d)
  rwa [demand, if_pos rfl] at this

theorem Spans.serves_inside (h : Spans s r x) (d : Direction) {w : Nat}
    (hw : w ≠ r.boundary d) :
    Serves s d w ((x.reading w).bind (s.first d w)) (linksAt x.links d w) := by
  have := h.served d w
  rwa [demand, if_neg hw] at this

/-- A word inside with a link takes a reading. -/
theorem Spans.isSome_reading (h : Spans s r x) {d : Direction} {l : LinkRef} (hl : l ∈ x.links)
    (hw : l.word d ≠ r.boundary d) : (x.reading (l.word d)).isSome := by
  have hsome := (h.serves_inside d hw).isSome_of_mem (mem_linksAt.mpr ⟨hl, rfl⟩)
  cases hc : x.reading (l.word d) with
  | none => simp [hc] at hsome
  | some c => rfl

/-- The two words of a region and a wiring that spans it tell the region. -/
theorem Spans.region_unique {r' : Region} (h : Spans s r x) (h' : Spans s r' x)
    (hleft : r.leftWord = r'.leftWord) (hright : r.rightWord = r'.rightWord) : r = r' := by
  have hpending : ∀ d, r.pending d = r'.pending d := by
    intro d
    have hboundary : r.boundary d = r'.boundary d := by cases d <;> assumption
    have hserves := h'.serves_boundary d
    rw [← hboundary] at hserves
    exact (h.serves_boundary d).demand_unique hserves
  have hnulls : r.nulls = r'.nulls := by
    rw [← h.null_count, ← h'.null_count, hleft, hright]
  have hfrom := hpending .right
  have hto := hpending .left
  cases r
  cases r'
  simp only [Region.pending] at hleft hright hnulls hfrom hto
  rw [hleft, hright, hnulls, hfrom, hto]

/-! ## The part between two words -/

/-- What a wiring has between two words. -/
def Wiring.part (x : Wiring) (u v : Nat) : Wiring where
  reading := fun w => if u < w ∧ w < v then x.reading w else none
  links := x.links.filter fun l => u ≤ l.leftWord ∧ l.rightWord ≤ v

theorem unread_part {u v : Nat} : unread (x.part u v) u v = unread x u v := by
  unfold unread
  apply Finset.filter_congr
  intro w hw
  rw [Finset.mem_Ioo] at hw
  simp [Wiring.part, hw]

theorem mem_part {u v : Nat} {l : LinkRef} :
    l ∈ (x.part u v).links ↔ l ∈ x.links ∧ u ≤ l.leftWord ∧ l.rightWord ≤ v := by
  simp [Wiring.part]

/-- A region is a part of another if no link leaves it from between its words or from the
connectors that they use inside, and its words have to use what they have to use there. -/
structure IsPart (s : Sentence) (r : Region) (x : Wiring) (r' : Region) : Prop where
  low : r.leftWord ≤ r'.leftWord
  high : r'.rightWord ≤ r.rightWord
  pending : ∀ d, r'.pending d = demand s r x d (r'.boundary d)
  null_count : (unread x r'.leftWord r'.rightWord).card = r'.nulls
  stay : ∀ l ∈ x.links, ∀ d,
    l.word d = r'.boundary d ∨ (r'.leftWord < l.word d ∧ l.word d < r'.rightWord) →
      r'.leftWord ≤ l.leftWord ∧ l.rightWord ≤ r'.rightWord

section Part

variable {r' : Region}

/-- At its two ends and between them a part has the links of the whole. -/
theorem IsPart.linksAt_eq (hpart : IsPart s r x r') {d : Direction} {w : Nat}
    (hw : w = r'.boundary d ∨ (r'.leftWord < w ∧ w < r'.rightWord)) :
    linksAt (x.part r'.leftWord r'.rightWord).links d w = linksAt x.links d w := by
  ext l
  simp only [mem_linksAt, mem_part]
  constructor
  · rintro ⟨⟨hl, -⟩, hword⟩
    exact ⟨hl, hword⟩
  · rintro ⟨hl, rfl⟩
    exact ⟨⟨hl, hpart.stay l hl d hw⟩, rfl⟩

/-- What is used in a part is what has to be used there. -/
private theorem Spans.part_served (h : Spans s r x) (hpart : IsPart s r x r') (d : Direction)
    (w : Nat) : Serves s d w (demand s r' (x.part r'.leftWord r'.rightWord) d w)
      (linksAt (x.part r'.leftWord r'.rightWord).links d w) := by
  by_cases hboundary : w = r'.boundary d
  · rw [demand, if_pos hboundary, hpart.linksAt_eq (.inl hboundary), hpart.pending, hboundary]
    exact h.served d _
  · rw [demand, if_neg hboundary]
    by_cases hin : r'.leftWord < w ∧ w < r'.rightWord
    · have hlow := hpart.low
      have hhigh := hpart.high
      have hout : w ≠ r.boundary d := by
        cases d <;> simp only [Region.boundary] <;> omega
      rw [hpart.linksAt_eq (.inr hin)]
      simpa [Wiring.part, hin] using h.serves_inside d hout
    · -- Elsewhere a part has neither readings nor links.
      have hempty : linksAt (x.part r'.leftWord r'.rightWord).links d w = ∅ := by
        refine Finset.eq_empty_of_forall_notMem fun l hl => ?_
        obtain ⟨hmem, rfl⟩ := mem_linksAt.mp hl
        obtain ⟨hmem, hends⟩ := mem_part.mp hmem
        have hforward := (h.within l hmem).2.1
        cases d <;> simp [Region.boundary] at hboundary hin <;> omega
      rw [hempty]
      simp [Wiring.part, hin]

/-- The words inside a part are joined to one of its ends without leaving it. -/
private theorem Spans.part_anchored (h : Spans s r x) (hpart : IsPart s r x r') {w : Nat}
    (hw : ((x.part r'.leftWord r'.rightWord).reading w).isSome) :
    Joined (x.part r'.leftWord r'.rightWord).links w r'.leftWord ∨
      Joined (x.part r'.leftWord r'.rightWord).links w r'.rightWord := by
  have hlow := hpart.low
  have hhigh := hpart.high
  have hin : r'.leftWord < w ∧ w < r'.rightWord := by
    by_contra hout
    simp [Wiring.part, hout] at hw
  have hread : (x.reading w).isSome := by simpa [Wiring.part, hin] using hw
  have hstay : ∀ l ∈ x.links, (∃ d, r'.leftWord < l.word d ∧ l.word d < r'.rightWord) →
      l ∈ (x.part r'.leftWord r'.rightWord).links ∧
        ∀ d, r'.leftWord ≤ l.word d ∧ l.word d ≤ r'.rightWord := by
    rintro l hl ⟨d, hd⟩
    have hends := hpart.stay l hl d (.inr hd)
    have hforward := (h.within l hl).2.1
    refine ⟨mem_part.mpr ⟨hl, hends⟩, fun d' => ?_⟩
    cases d' <;> simp only [LinkRef.word_left, LinkRef.word_right] <;> omega
  rcases h.anchored w hread with hj | hj
  · exact hj.anchor hstay hin (by omega)
  · exact hj.anchor hstay hin (by omega)

/-- What a wiring has in a part of a region that it spans, spans the part. -/
theorem Spans.part (h : Spans s r x) (hpart : IsPart s r x r') :
    Spans s r' (x.part r'.leftWord r'.rightWord) := by
  have hsub : ∀ l ∈ (x.part r'.leftWord r'.rightWord).links, l ∈ x.links :=
    fun l hl => (mem_part.mp hl).1
  refine ⟨?_, by rw [unread_part, hpart.null_count], ?_, fun l hl => h.fits l (hsub l hl),
    fun l hl m hm => h.single l (hsub l hl) m (hsub m hm),
    fun l hl m hm => h.planar l (hsub l hl) m (hsub m hm), h.part_served hpart,
    fun w hw => h.part_anchored hpart hw⟩
  · intro w c hc
    simp only [Wiring.part] at hc
    split at hc
    next hw => exact ⟨hw.1, hw.2, (h.inside w c hc).2.2⟩
    next => simp at hc
  · intro l hl
    obtain ⟨hl, hends⟩ := mem_part.mp hl
    exact ⟨hends.1, (h.within l hl).2.1, hends.2⟩

end Part

/-! ## Two regions side by side -/

/-- A word with a reading, between what is on its left and what is on its right. -/
def Wiring.beside (w c : Nat) (y z : Wiring) : Wiring where
  reading := fun t => if t = w then some c else (y.reading t).or (z.reading t)
  links := y.links ∪ z.links

section Beside

variable {u w v c n m : Nat} {a b : Option Cursor}

/-- The words without reading on both sides of a word that has one. -/
theorem card_unread_add (huw : u < w) (hwv : w < v) (hw : (x.reading w).isSome) :
    (unread x u w).card + (unread x w v).card = (unread x u v).card := by
  have hdisjoint : Disjoint (unread x u w) (unread x w v) := by
    rw [Finset.disjoint_left]
    intro t ht ht'
    simp only [unread, Finset.mem_filter, Finset.mem_Ioo] at ht ht'
    omega
  rw [← Finset.card_union_of_disjoint hdisjoint]
  congr 1
  ext t
  simp only [unread, Finset.mem_union, Finset.mem_filter, Finset.mem_Ioo]
  constructor
  · rintro (⟨ht, hnone⟩ | ⟨ht, hnone⟩)
    · exact ⟨by omega, hnone⟩
    · exact ⟨by omega, hnone⟩
  · rintro ⟨ht, hnone⟩
    rcases Nat.lt_trichotomy t w with hlt | rfl | hgt
    · exact .inl ⟨by omega, hnone⟩
    · simp [hnone] at hw
    · exact .inr ⟨by omega, hnone⟩

theorem beside_reading_left (hz : Spans s ⟨w, v, s.first .right w c, b, m⟩ z) {t : Nat}
    (ht : t < w) : (Wiring.beside w c y z).reading t = y.reading t := by
  have hnone : z.reading t = none := hz.reading_eq_none (by simp only; omega)
  simp [Wiring.beside, hnone, Nat.ne_of_lt ht]

theorem beside_reading_right (hy : Spans s ⟨u, w, a, s.first .left w c, n⟩ y) {t : Nat}
    (ht : w < t) : (Wiring.beside w c y z).reading t = z.reading t := by
  have hnone : y.reading t = none := hy.reading_eq_none (by simp only; omega)
  simp [Wiring.beside, hnone, Nat.ne_of_gt ht]

variable (hy : Spans s ⟨u, w, a, s.first .left w c, n⟩ y)
  (hz : Spans s ⟨w, v, s.first .right w c, b, m⟩ z)

include hy hz

/-- The links on the left of the word are those of the left wiring. -/
theorem mem_left_iff {l : LinkRef} :
    l ∈ y.links ↔ l ∈ (Wiring.beside w c y z).links ∧ l.rightWord ≤ w := by
  simp only [Wiring.beside, Finset.mem_union]
  constructor
  · exact fun hl => ⟨.inl hl, (hy.within l hl).2.2⟩
  · rintro ⟨hl | hl, hle⟩
    · exact hl
    · have := hz.within l hl
      simp only at this
      omega

/-- The links on the right of the word are those of the right wiring. -/
theorem mem_right_iff {l : LinkRef} :
    l ∈ z.links ↔ l ∈ (Wiring.beside w c y z).links ∧ w ≤ l.leftWord := by
  simp only [Wiring.beside, Finset.mem_union]
  constructor
  · exact fun hl => ⟨.inr hl, (hz.within l hl).1⟩
  · rintro ⟨hl | hl, hle⟩
    · have := hy.within l hl
      simp only at this
      omega
    · exact hl

/-- The left wiring can be told from both together. -/
theorem part_beside_left : (Wiring.beside w c y z).part u w = y := by
  apply Wiring.ext
  · funext t
    simp only [Wiring.part]
    split
    next ht => exact beside_reading_left hz ht.2
    next ht => exact (hy.reading_eq_none ht).symm
  · ext l
    rw [mem_part, mem_left_iff hy hz]
    constructor
    · rintro ⟨hl, -, hle⟩
      exact ⟨hl, hle⟩
    · rintro ⟨hl, hle⟩
      exact ⟨hl, (hy.within l ((mem_left_iff hy hz).mpr ⟨hl, hle⟩)).1, hle⟩

/-- The right wiring can be told from both together. -/
theorem part_beside_right : (Wiring.beside w c y z).part w v = z := by
  apply Wiring.ext
  · funext t
    simp only [Wiring.part]
    split
    next ht => exact beside_reading_right hy ht.1
    next ht => exact (hz.reading_eq_none ht).symm
  · ext l
    rw [mem_part, mem_right_iff hy hz]
    constructor
    · rintro ⟨hl, hle, -⟩
      exact ⟨hl, hle⟩
    · rintro ⟨hl, hle⟩
      exact ⟨hl, hle, (hz.within l ((mem_right_iff hy hz).mpr ⟨hl, hle⟩)).2.2⟩

/-- No link of both together passes over the word. -/
theorem beside_no_link_over {l : LinkRef} (hl : l ∈ (Wiring.beside w c y z).links) :
    l.rightWord ≤ w ∨ w ≤ l.leftWord := by
  rcases Finset.mem_union.mp hl with hl | hl
  · exact .inl (hy.within l hl).2.2
  · exact .inr (hz.within l hl).1

/-- The links of a word before the word between, or of that word to its left, are those of
the left wiring. -/
private theorem linksAt_beside_left {d : Direction} {t : Nat}
    (ht : t < w ∨ (t = w ∧ d = .left)) :
    linksAt (Wiring.beside w c y z).links d t = linksAt y.links d t := by
  ext l
  simp only [mem_linksAt, mem_left_iff hy hz]
  constructor
  · rintro ⟨hl, rfl⟩
    refine ⟨⟨hl, ?_⟩, rfl⟩
    have := beside_no_link_over hy hz hl
    cases d with
    | left => simp at ht; omega
    | right => simp at ht; omega
  · rintro ⟨⟨hl, -⟩, hword⟩
    exact ⟨hl, hword⟩

/-- The links of a word behind the word between, or of that word to its right, are those of
the right wiring. -/
private theorem linksAt_beside_right {d : Direction} {t : Nat}
    (ht : w < t ∨ (t = w ∧ d = .right)) :
    linksAt (Wiring.beside w c y z).links d t = linksAt z.links d t := by
  ext l
  simp only [mem_linksAt, mem_right_iff hy hz]
  constructor
  · rintro ⟨hl, rfl⟩
    refine ⟨⟨hl, ?_⟩, rfl⟩
    have := beside_no_link_over hy hz hl
    cases d with
    | left => simp at ht; omega
    | right => simp at ht; omega
  · rintro ⟨⟨hl, -⟩, hword⟩
    exact ⟨hl, hword⟩

/-- What a word has to use, it has to use on one side of the word between, by the links
that it has there. -/
private theorem beside_served (huw : u < w) (hwv : w < v) (d : Direction) (t : Nat) :
    Serves s d t (demand s ⟨u, v, a, b, n + m⟩ (Wiring.beside w c y z) d t)
      (linksAt (Wiring.beside w c y z).links d t) := by
  rcases Nat.lt_trichotomy t w with hlt | rfl | hgt
  · rw [linksAt_beside_left hy hz (.inl hlt), demand_congr (q := ⟨u, w, a, s.first .left w c, n⟩)]
    · exact hy.served d t
    · cases d <;> simp only [Region.boundary]
      omega
    · intro ht
      cases d
      · simp only [Region.boundary] at ht
        omega
      · rfl
    · exact fun _ => beside_reading_left hz hlt
  · cases d with
    | left =>
        rw [linksAt_beside_left hy hz (.inr ⟨rfl, rfl⟩)]
        have hne : t ≠ v := Nat.ne_of_lt hwv
        simpa [demand, Region.boundary, Region.pending, hne, Wiring.beside] using
          hy.serves_boundary .left
    | right =>
        rw [linksAt_beside_right hy hz (.inr ⟨rfl, rfl⟩)]
        have hne : t ≠ u := Nat.ne_of_gt huw
        simpa [demand, Region.boundary, Region.pending, hne, Wiring.beside] using
          hz.serves_boundary .right
  · rw [linksAt_beside_right hy hz (.inl hgt), demand_congr (q := ⟨w, v, s.first .right w c, b, m⟩)]
    · exact hz.served d t
    · cases d <;> simp only [Region.boundary]
      omega
    · intro ht
      cases d
      · rfl
      · simp only [Region.boundary] at ht
        omega
    · exact fun _ => beside_reading_right hy hgt

/-- The word between leads to one end of the region, and with it every word does. -/
private theorem beside_anchored (hlink : (∃ l ∈ y.links, l.leftWord = u ∧ l.rightWord = w) ∨
      ∃ l ∈ z.links, l.leftWord = w ∧ l.rightWord = v) {t : Nat}
    (ht : ((Wiring.beside w c y z).reading t).isSome) :
    Joined (Wiring.beside w c y z).links t u ∨ Joined (Wiring.beside w c y z).links t v := by
  have hleft : y.links ⊆ (Wiring.beside w c y z).links := Finset.subset_union_left
  have hright : z.links ⊆ (Wiring.beside w c y z).links := Finset.subset_union_right
  have hmiddle : Joined (Wiring.beside w c y z).links w u ∨
      Joined (Wiring.beside w c y z).links w v := by
    rcases hlink with ⟨l, hl, rfl, rfl⟩ | ⟨l, hl, rfl, rfl⟩
    · exact .inl (joined_of_mem (hleft hl)).2
    · exact .inr (joined_of_mem (hright hl)).1
  rcases Nat.lt_trichotomy t w with hlt | rfl | hgt
  · rw [beside_reading_left hz hlt] at ht
    rcases hy.anchored t ht with h | h
    · exact .inl (h.mono hleft)
    · exact hmiddle.imp ((h.mono hleft).trans ·) ((h.mono hleft).trans ·)
  · exact hmiddle
  · rw [beside_reading_right hy hgt] at ht
    rcases hz.anchored t ht with h | h
    · exact hmiddle.imp ((h.mono hright).trans ·) ((h.mono hright).trans ·)
    · exact .inr (h.mono hright)

/-- Two spanned regions side by side fill the region around them if the word between them
is linked with one of its ends. -/
theorem Spans.beside (huw : u < w) (hwv : w < v) (hc : c < s.numCandidates w)
    (hlink : (∃ l ∈ y.links, l.leftWord = u ∧ l.rightWord = w) ∨
      ∃ l ∈ z.links, l.leftWord = w ∧ l.rightWord = v) :
    Fills s ⟨u, v, a, b, n + m⟩ (Wiring.beside w c y z) := by
  have hcases : ∀ l ∈ (Wiring.beside w c y z).links,
      (l ∈ y.links ∧ u ≤ l.leftWord ∧ l.leftWord < l.rightWord ∧ l.rightWord ≤ w) ∨
        (l ∈ z.links ∧ w ≤ l.leftWord ∧ l.leftWord < l.rightWord ∧ l.rightWord ≤ v) := by
    intro l hl
    rcases Finset.mem_union.mp hl with hl | hl
    · exact .inl ⟨hl, hy.within l hl⟩
    · exact .inr ⟨hl, hz.within l hl⟩
  refine ⟨⟨?_, ?_, ?_, ?_, ?_, ?_, beside_served hy hz huw hwv,
    fun t ht => beside_anchored hy hz hlink ht⟩, ?_⟩
  · intro t k hk
    rcases Nat.lt_trichotomy t w with hlt | rfl | hgt
    · rw [beside_reading_left hz hlt] at hk
      have := hy.inside t k hk
      exact ⟨this.1, by simp only; omega, this.2.2⟩
    · obtain rfl : c = k := by simpa [Wiring.beside] using hk
      exact ⟨huw, hwv, hc⟩
    · rw [beside_reading_right hy hgt] at hk
      have := hz.inside t k hk
      exact ⟨by simp only; omega, this.2.1, this.2.2⟩
  · have hcount := card_unread_add (x := Wiring.beside w c y z) huw hwv (by simp [Wiring.beside])
    rw [← unread_part, part_beside_left hy hz, hy.null_count, ← unread_part,
      part_beside_right hy hz, hz.null_count] at hcount
    exact hcount.symm
  · intro l hl
    rcases hcases l hl with ⟨-, h⟩ | ⟨-, h⟩
    · exact ⟨h.1, h.2.1, by simp only; omega⟩
    · exact ⟨by simp only; omega, h.2.1, h.2.2⟩
  · intro l hl
    rcases hcases l hl with ⟨hl, -⟩ | ⟨hl, -⟩
    · exact hy.fits l hl
    · exact hz.fits l hl
  · intro l hl k hk hsame hsame'
    rcases hcases l hl with ⟨hl, h⟩ | ⟨hl, h⟩
    · rcases hcases k hk with ⟨hk, h'⟩ | ⟨hk, h'⟩
      · exact hy.single l hl k hk hsame hsame'
      · omega
    · rcases hcases k hk with ⟨hk, h'⟩ | ⟨hk, h'⟩
      · omega
      · exact hz.single l hl k hk hsame hsame'
  · -- Links of different sides cannot cross, since none passes over the word between.
    intro l hl k hk hcross
    rcases hcases l hl with ⟨hl, h⟩ | ⟨hl, h⟩
    · rcases hcases k hk with ⟨hk, h'⟩ | ⟨hk, h'⟩
      · exact hy.planar l hl k hk hcross
      · omega
    · rcases hcases k hk with ⟨hk, h'⟩ | ⟨hk, h'⟩
      · omega
      · exact hz.planar l hl k hk hcross
  · rintro l hl ⟨hu, hv⟩
    simp only at hu hv
    rcases hcases l hl with ⟨-, h⟩ | ⟨-, h⟩
    · omega
    · omega

end Beside

end LinkParsing.Search
