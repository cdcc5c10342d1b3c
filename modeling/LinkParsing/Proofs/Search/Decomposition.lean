import LinkParsing.Proofs.Search.Filling

/-!
# Every filling is split in exactly one way

A filling of a region that is no base case comes from exactly one alternative and
fillings of its two parts:

* `Spans.exists_meets`, `Fills.withLink` — a direct link can be taken away and added.
* `Fills.exists_pivot` — a filled region with connectors to use has a word over which no
  link passes, linked with the left word if that has connectors, else with the right one.
* `Fills.exists_split` — there is such an alternative, with fillings of its parts;
* `fills_join` — fillings of the parts of an alternative make a filling of the region;
* `join_injective` — the filling tells the alternative and the fillings of its parts.

A base case has the empty filling or none (`fills_iff_of_baseCount`).
-/

namespace LinkParsing.Search

variable {s : Sentence} {r : Region} {x y z : Wiring}

/-! ## Base cases -/

/-- No word takes a reading. -/
def Wiring.empty : Wiring := ⟨fun _ => none, ∅⟩

/-- A region without connectors to use is filled only by leaving out every word inside. -/
theorem Fills.eq_empty (h : Fills s r x) (hnone : ∀ d, r.pending d = none) : x = .empty := by
  have hends : ∀ l ∈ x.links, ∀ d, l.word d ≠ r.boundary d := by
    intro l hl d hword
    have hserves := h.serves_boundary d
    rw [hnone d, serves_none] at hserves
    have hmem : l ∈ linksAt x.links d (r.boundary d) := mem_linksAt.mpr ⟨hl, hword⟩
    rw [hserves] at hmem
    simp at hmem
  have hunread : ∀ w, x.reading w = none := by
    intro w
    cases hc : x.reading w with
    | none => rfl
    | some c =>
        -- The last link on the way to an end of the region would use a connector there.
        have hin := h.inside w c hc
        rcases h.anchored w (by simp [hc]) with hj | hj
        · rcases Relation.ReflTransGen.cases_tail hj with heq | ⟨t, -, l, hl, ⟨-, hu⟩ | ⟨hu, -⟩⟩
          · omega
          · have := h.within l hl
            omega
          · exact absurd hu (hends l hl .right)
        · rcases Relation.ReflTransGen.cases_tail hj with heq | ⟨t, -, l, hl, ⟨-, hv⟩ | ⟨hv, -⟩⟩
          · omega
          · exact absurd hv (hends l hl .left)
          · have := h.within l hl
            omega
  apply Wiring.ext
  · funext w
    exact hunread w
  · refine Finset.eq_empty_of_forall_notMem fun l hl => ?_
    have := h.isSome_reading (d := .right) hl (hends l hl .right)
    simp [hunread] at this

/-- Leaving out every word inside fills a region without connectors to use. -/
theorem fills_empty (hnone : ∀ d, r.pending d = none) (hnulls : r.nulls = r.inner) :
    Fills s r .empty := by
  refine ⟨⟨by simp [Wiring.empty], ?_, by simp [Wiring.empty], by simp [Wiring.empty],
    by simp [Wiring.empty], by simp [Wiring.empty], ?_, by simp [Wiring.empty]⟩,
    by simp [Wiring.empty]⟩
  · simp [unread, Wiring.empty, hnulls, Region.inner]
  · intro d w
    have hdemand : demand s r .empty d w = none := by
      simp [demand, Wiring.empty, hnone]
    rw [hdemand]
    simp [Wiring.empty, linksAt]

/-- A region without connectors to use has at most one filling: the empty one. -/
theorem fills_iff_of_pending_eq_none (hnone : ∀ d, r.pending d = none) :
    Fills s r x ↔ r.nulls = r.inner ∧ x = .empty := by
  constructor
  · intro h
    have heq := h.eq_empty hnone
    have hcount := h.null_count
    subst heq
    refine ⟨?_, rfl⟩
    rw [← hcount]
    simp [unread, Wiring.empty, Region.inner]
  · rintro ⟨hnulls, rfl⟩
    exact fills_empty hnone hnulls

theorem Fills.nulls_le (h : Fills s r x) : r.nulls ≤ r.inner := by
  rw [← h.null_count]
  refine (Finset.card_filter_le _ _).trans ?_
  simp [Region.inner]

/-- A region without words inside is filled only if nothing has to be used. -/
theorem Fills.pending_eq_none (h : Fills s r x) (hinner : r.inner = 0) (d : Direction) :
    r.pending d = none := by
  have hlinks : linksAt x.links d (r.boundary d) = ∅ := by
    refine Finset.eq_empty_of_forall_notMem fun l hl => ?_
    obtain ⟨hl, -⟩ := mem_linksAt.mp hl
    have hends := h.within l hl
    have hunlinked := h.unlinked l hl
    simp only [Region.inner] at hinner
    omega
  have hserves := h.serves_boundary d
  rw [hlinks] at hserves
  exact hserves.demand_unique (serves_none.mpr rfl)

theorem pending_eq_none_iff :
    (∀ d, r.pending d = none) ↔ r.fromLeft = none ∧ r.fromRight = none := by
  constructor
  · exact fun h => ⟨h .right, h .left⟩
  · rintro ⟨hleft, hright⟩ d
    cases d with
    | left => exact hright
    | right => exact hleft

/-- A base case has at most one filling: the empty one. -/
theorem fills_iff_of_baseCount {n : Nat} (hbase : r.baseCount? = some n) :
    n ≤ 1 ∧ (Fills s r x ↔ n ≠ 0 ∧ x = .empty) := by
  unfold Region.baseCount? at hbase
  split at hbase
  next hmany =>
    -- More words are to be left out than there are.
    obtain rfl := Option.some.inj hbase
    refine ⟨Nat.zero_le 1, ⟨fun h => ?_, fun h => absurd rfl h.1⟩⟩
    have := h.nulls_le
    omega
  next hfew =>
    split at hbase
    next hinner =>
      -- There are no words inside.
      obtain rfl := Option.some.inj hbase
      simp only [Bool.and_eq_true, Option.isNone_iff_eq_none, beq_iff_eq]
      split
      next hall =>
        rw [fills_iff_of_pending_eq_none (pending_eq_none_iff.mpr hall.1)]
        simp [hall.2, hinner]
      next hall =>
        refine ⟨Nat.zero_le 1, fun h => absurd ?_ hall, fun h => absurd rfl h.1⟩
        have hpending := pending_eq_none_iff.mp (h.pending_eq_none hinner)
        exact ⟨hpending, by omega⟩
    next hinner =>
      split at hbase
      next hall =>
        -- Nothing has to be used, so every word inside is left out.
        simp only [Bool.and_eq_true, Option.isNone_iff_eq_none] at hall
        obtain rfl := Option.some.inj hbase
        rw [fills_iff_of_pending_eq_none (pending_eq_none_iff.mpr hall)]
        split
        next hnulls => simp [hnulls]
        next hnulls => simp [hnulls]
      next => simp at hbase

/-- A region that is no base case has connectors to use. -/
theorem isSome_pending_of_baseCount (hbase : r.baseCount? = none) :
    (r.fromLeft.or r.fromRight).isSome := by
  unfold Region.baseCount? at hbase
  split at hbase
  next => simp at hbase
  next =>
    split at hbase
    next => simp at hbase
    next =>
      split at hbase
      next => simp at hbase
      next hsome =>
        cases hfrom : r.fromLeft with
        | some c => simp
        | none =>
            cases hto : r.fromRight with
            | some c => simp
            | none => simp [hfrom, hto] at hsome

/-! ## The direct link between the words of a region -/

/-- A wiring with one more link, or with none more. -/
def Wiring.withLink (y : Wiring) (link : Option LinkRef) : Wiring :=
  ⟨y.reading, link.toFinset ∪ y.links⟩

@[simp]
theorem withLink_reading (link : Option LinkRef) : (y.withLink link).reading = y.reading := rfl

@[simp]
theorem mem_withLink {link : Option LinkRef} {l : LinkRef} :
    l ∈ (y.withLink link).links ↔ link = some l ∨ l ∈ y.links := by
  simp [Wiring.withLink]

theorem withLink_none : y.withLink none = y := by
  apply Wiring.ext
  · rfl
  · ext k
    simp

theorem Meets.link_ends {u v : Nat} {a b c d : Option Cursor} {link : Option LinkRef}
    (h : Meets s u a v b link c d) {l : LinkRef} (hl : link = some l) :
    l.leftWord = u ∧ l.rightWord = v ∧ s.Matches l := by
  cases h with
  | apart => simp at hl
  | linked hlink =>
      cases hl
      exact (matching_eq_some.mp hlink).2.2

/-- The connectors of a link that matches are there. -/
theorem position_lt_of_matches {l : LinkRef} (h : s.Matches l) (d : Direction) :
    (l.cursor d).position < (s.connectors d (l.word d) (l.cursor d).candidate).length := by
  obtain ⟨a, b, ha, hb, -⟩ := h
  cases d with
  | left => exact (List.getElem?_eq_some_iff.mp hb).1
  | right => exact (List.getElem?_eq_some_iff.mp ha).1

/-- All links at an end of a region other than the direct one are shorter. -/
private theorem length_lt_direct {l : LinkRef} (hfrom : l.leftWord = r.leftWord)
    (hto : l.rightWord = r.rightWord) {k : LinkRef} {d : Direction}
    (hends : r.leftWord ≤ k.leftWord ∧ k.leftWord < k.rightWord ∧ k.rightWord ≤ r.rightWord)
    (hword : k.word d = l.word d)
    (hother : ¬ (k.leftWord = r.leftWord ∧ k.rightWord = r.rightWord)) :
    k.length < l.length := by
  unfold LinkRef.length
  cases d with
  | left =>
      simp only [LinkRef.word_left] at hword
      omega
  | right =>
      simp only [LinkRef.word_right] at hword
      omega

/-- With the direct link taken away, the two words of a region go on as continuations of it. -/
private theorem Spans.exists_continues (h : Spans s r x) {l : LinkRef} (hl : l ∈ x.links)
    (hfrom : l.leftWord = r.leftWord) (hto : l.rightWord = r.rightWord) (d : Direction) :
    r.pending d = some (l.cursor d) ∧ ∃ rest, Continues s d l rest ∧
      Serves s d (r.boundary d) rest (linksAt (x.links.erase l) d (r.boundary d)) := by
  have hword : l.word d = r.boundary d := by cases d <;> assumption
  have hmem : l ∈ linksAt x.links d (r.boundary d) := mem_linksAt.mpr ⟨hl, hword⟩
  have hserves := h.serves_boundary d
  have hshorter : ∀ k ∈ (linksAt x.links d (r.boundary d)).erase l, k.length < l.length := by
    intro k hk
    rw [Finset.mem_erase, mem_linksAt] at hk
    refine length_lt_direct hfrom hto (h.within k hk.2.1) (hk.2.2.trans hword.symm) ?_
    rintro ⟨hku, hkv⟩
    exact hk.1 (h.single k hk.2.1 l hl (hku.trans hfrom.symm) (hkv.trans hto.symm))
  have hpending : r.pending d = some (l.cursor d) := by
    obtain ⟨c, hc⟩ := Option.isSome_iff_exists.mp (hserves.isSome_of_mem hmem)
    rw [hc] at hserves ⊢
    have hcursor := ServesFrom.cursor_eq hserves hmem fun k hk => ?_
    · rw [hcursor]
    · by_cases hkl : k = l
      · rw [hkl]
      · exact le_of_lt (hshorter k (Finset.mem_erase.mpr ⟨hkl, hk⟩))
  refine ⟨hpending, ?_⟩
  have herase : linksAt (x.links.erase l) d (r.boundary d) =
      (linksAt x.links d (r.boundary d)).erase l := by
    ext k
    simp only [mem_linksAt, Finset.mem_erase]
    tauto
  rw [hpending, ← Finset.insert_erase hmem, ← hword] at hserves
  rw [herase, ← hword]
  have hposition := position_lt_of_matches (h.fits l hl) d
  refine (serves_insert_iff (Finset.notMem_erase l _) hposition ?_).mp hserves
  intro k hk
  rw [hword] at hk
  have hk' := mem_linksAt.mp (Finset.mem_of_mem_erase hk)
  exact ⟨hk'.2.trans hword.symm, hshorter k hk⟩

/-- The links at a word that is no end of the direct link are the same without it. -/
private theorem linksAt_erase_of_ne {links : Finset LinkRef} {l : LinkRef} {d : Direction}
    {w : Nat} (hw : l.word d ≠ w) : linksAt (links.erase l) d w = linksAt links d w := by
  ext k
  simp only [mem_linksAt, Finset.mem_erase]
  constructor
  · exact fun h => ⟨h.1.2, h.2⟩
  · rintro ⟨hk, rfl⟩
    exact ⟨⟨fun heq => hw (heq ▸ rfl), hk⟩, rfl⟩

/-- The way from a word inside to an end of the region need not use the direct link. -/
private theorem Spans.erase_anchored (h : Spans s r x) {l : LinkRef}
    (hfrom : l.leftWord = r.leftWord) (hto : l.rightWord = r.rightWord) {w : Nat}
    (hw : (x.reading w).isSome) :
    Joined (x.links.erase l) w r.leftWord ∨ Joined (x.links.erase l) w r.rightWord := by
  obtain ⟨c, hc⟩ := Option.isSome_iff_exists.mp hw
  have hin : r.leftWord < w ∧ w < r.rightWord := ⟨(h.inside w c hc).1, (h.inside w c hc).2.1⟩
  have hstay : ∀ k ∈ x.links, (∃ e, r.leftWord < k.word e ∧ k.word e < r.rightWord) →
      k ∈ x.links.erase l ∧ ∀ e, r.leftWord ≤ k.word e ∧ k.word e ≤ r.rightWord := by
    rintro k hk ⟨e, he⟩
    have hends := h.within k hk
    refine ⟨Finset.mem_erase.mpr ⟨?_, hk⟩, fun e' => ?_⟩
    · rintro rfl
      cases e <;> simp only [LinkRef.word_left, LinkRef.word_right] at he <;> omega
    · cases e' <;> simp only [LinkRef.word_left, LinkRef.word_right] <;> omega
  rcases h.anchored w hw with hj | hj
  · exact hj.anchor hstay hin (by omega)
  · exact hj.anchor hstay hin (by omega)

/-- With the direct link taken away, a wiring that spans a region is a filling of it, if the
two words have to use what they go on with behind the link. -/
private theorem Spans.erase_direct (h : Spans s r x) {l : LinkRef} (hl : l ∈ x.links)
    (hfrom : l.leftWord = r.leftWord) (hto : l.rightWord = r.rightWord) {c d : Option Cursor}
    (hc : Serves s .right r.leftWord c (linksAt (x.links.erase l) .right r.leftWord))
    (hd : Serves s .left r.rightWord d (linksAt (x.links.erase l) .left r.rightWord)) :
    Fills s ⟨r.leftWord, r.rightWord, c, d, r.nulls⟩ ⟨x.reading, x.links.erase l⟩ := by
  have hsub : ∀ k ∈ x.links.erase l, k ∈ x.links := fun k hk => Finset.mem_of_mem_erase hk
  refine ⟨⟨h.inside, h.null_count, fun k hk => h.within k (hsub k hk),
    fun k hk => h.fits k (hsub k hk),
    fun k hk m hm => h.single k (hsub k hk) m (hsub m hm),
    fun k hk m hm => h.planar k (hsub k hk) m (hsub m hm), ?_,
    fun w hw => h.erase_anchored hfrom hto hw⟩, ?_⟩
  · intro e w
    by_cases hw : w = r.boundary e
    · subst hw
      cases e with
      | left => simpa [demand, Region.boundary, Region.pending] using hd
      | right => simpa [demand, Region.boundary, Region.pending] using hc
    · have hne : l.word e ≠ w := by
        intro heq
        refine hw (heq.symm.trans ?_)
        cases e <;> assumption
      rw [linksAt_erase_of_ne hne, demand, if_neg (by cases e <;> exact hw)]
      exact h.serves_inside e hw
  · rintro k hk ⟨hku, hkv⟩
    refine (Finset.mem_erase.mp hk).1 ?_
    exact h.single k (hsub k hk) l hl (hku.trans hfrom.symm) (hkv.trans hto.symm)

/-- A wiring that spans a region is a filling of what remains of the region behind the way
in which its two words meet. -/
theorem Spans.exists_meets (h : Spans s r x) : ∃ link c d y,
    Meets s r.leftWord r.fromLeft r.rightWord r.fromRight link c d ∧
      Fills s ⟨r.leftWord, r.rightWord, c, d, r.nulls⟩ y ∧ x = y.withLink link := by
  by_cases hdirect : ∃ l ∈ x.links, l.leftWord = r.leftWord ∧ l.rightWord = r.rightWord
  · obtain ⟨l, hl, hfrom, hto⟩ := hdirect
    obtain ⟨hright, c, hc, hservesRight⟩ := h.exists_continues hl hfrom hto .right
    obtain ⟨hleft, d, hd, hservesLeft⟩ := h.exists_continues hl hfrom hto .left
    have hlink : s.matching r.leftWord r.fromLeft r.rightWord r.fromRight = some l :=
      matching_eq_some.mpr ⟨hright, hleft, hfrom, hto, h.fits l hl⟩
    refine ⟨some l, c, d, ⟨x.reading, x.links.erase l⟩, .linked hlink hc hd,
      h.erase_direct hl hfrom hto hservesRight hservesLeft, ?_⟩
    apply Wiring.ext
    · rfl
    · ext k
      by_cases hkl : k = l
      · simp [hkl, hl]
      · simp [hkl, Ne.symm hkl]
  · refine ⟨none, r.fromLeft, r.fromRight, x, .apart, ⟨h, ?_⟩, withLink_none.symm⟩
    exact fun l hl hends => hdirect ⟨l, hl, hends⟩

/-- With the direct link added, the two words of a region use what they had to use before. -/
private theorem Fills.served_withLink_end {n : Nat} {l : LinkRef} {c d : Option Cursor}
    (h : Fills s ⟨l.leftWord, l.rightWord, c, d, n⟩ y) (hfits : s.Matches l)
    (hc : Continues s .right l c) (hd : Continues s .left l d) (e : Direction) :
    Serves s e (l.word e) (some (l.cursor e))
      (linksAt (y.withLink (some l)).links e (l.word e)) := by
  have hinsert : linksAt (y.withLink (some l)).links e (l.word e) =
      insert l (linksAt y.links e (l.word e)) := by
    ext k
    simp only [mem_linksAt, mem_withLink, Finset.mem_insert, Option.some.injEq]
    constructor
    · rintro ⟨rfl | hk, hword⟩
      · exact .inl rfl
      · exact .inr ⟨hk, hword⟩
    · rintro (rfl | ⟨hk, hword⟩)
      · exact ⟨.inl rfl, rfl⟩
      · exact ⟨.inr hk, hword⟩
  have hrest : ∃ rest, Continues s e l rest ∧
      Serves s e (l.word e) rest (linksAt y.links e (l.word e)) := by
    cases e with
    | left => exact ⟨d, hd, h.serves_boundary .left⟩
    | right => exact ⟨c, hc, h.serves_boundary .right⟩
  rw [hinsert]
  refine (serves_insert_iff ?_ (position_lt_of_matches hfits e) ?_).mpr hrest
  · exact fun hl => h.unlinked l (mem_linksAt.mp hl).1 ⟨rfl, rfl⟩
  · intro k hk
    obtain ⟨hk, hword⟩ := mem_linksAt.mp hk
    exact ⟨hword, length_lt_direct (r := ⟨l.leftWord, l.rightWord, c, d, n⟩) rfl rfl
      (h.within k hk) hword (h.unlinked k hk)⟩

/-- With the direct link added, every word uses what it had to use before. -/
private theorem Fills.served_withLink {n : Nat} {l : LinkRef} {c d : Option Cursor}
    (h : Fills s ⟨l.leftWord, l.rightWord, c, d, n⟩ y) (hfits : s.Matches l)
    (hc : Continues s .right l c) (hd : Continues s .left l d) (e : Direction) (w : Nat) :
    Serves s e w (demand s ⟨l.leftWord, l.rightWord, some l.leftCursor, some l.rightCursor, n⟩
      (y.withLink (some l)) e w) (linksAt (y.withLink (some l)).links e w) := by
  by_cases hw : w = l.word e
  · subst hw
    have hserved := h.served_withLink_end hfits hc hd e
    cases e <;> simpa [demand, Region.boundary, Region.pending] using hserved
  · have hlinks : linksAt (y.withLink (some l)).links e w = linksAt y.links e w := by
      ext k
      simp only [mem_linksAt, mem_withLink, Option.some.injEq]
      constructor
      · rintro ⟨rfl | hk, rfl⟩
        · exact absurd rfl hw
        · exact ⟨hk, rfl⟩
      · rintro ⟨hk, hword⟩
        exact ⟨.inr hk, hword⟩
    have hserved := h.serves_inside (d := e) (w := w) (by cases e <;> exact hw)
    rw [hlinks, demand, if_neg (by cases e <;> exact hw)]
    exact hserved

/-- A filling together with the link that the two words make spans the region. -/
theorem Fills.withLink {u v n : Nat} {a b c d : Option Cursor} {link : Option LinkRef}
    (h : Fills s ⟨u, v, c, d, n⟩ y) (huv : u < v) (hmeets : Meets s u a v b link c d) :
    Spans s ⟨u, v, a, b, n⟩ (y.withLink link) := by
  cases hmeets with
  | apart =>
      rw [withLink_none]
      exact h.toSpans
  | @linked l _ _ hlink hc hd =>
      obtain ⟨rfl, rfl, rfl, rfl, hfits⟩ := matching_eq_some.mp hlink
      have hcases : ∀ k ∈ (y.withLink (some l)).links,
          k = l ∨ (k ∈ y.links ∧ l.leftWord ≤ k.leftWord ∧ k.leftWord < k.rightWord ∧
            k.rightWord ≤ l.rightWord ∧
            ¬ (k.leftWord = l.leftWord ∧ k.rightWord = l.rightWord)) := by
        intro k hk
        rcases mem_withLink.mp hk with heq | hk
        · exact .inl (Option.some.inj heq).symm
        · have hends := h.within k hk
          exact .inr ⟨hk, hends.1, hends.2.1, hends.2.2, h.unlinked k hk⟩
      have hsub : y.links ⊆ (y.withLink (some l)).links := fun k hk => by simp [hk]
      refine ⟨h.inside, h.null_count, ?_, ?_, ?_, ?_, h.served_withLink hfits hc hd,
        fun w hw => (h.anchored w hw).imp (·.mono hsub) (·.mono hsub)⟩
      · intro k hk
        rcases hcases k hk with rfl | ⟨-, hlow, hlt, hhigh, -⟩
        · exact ⟨le_rfl, huv, le_rfl⟩
        · exact ⟨hlow, hlt, hhigh⟩
      · intro k hk
        rcases hcases k hk with rfl | ⟨hk, -⟩
        · exact hfits
        · exact h.fits k hk
      · intro k hk m hm hsame hsame'
        rcases hcases k hk with hkl | ⟨hk, -, -, -, hother⟩ <;>
          rcases hcases m hm with hml | ⟨hm, -, -, -, hother'⟩
        · rw [hkl, hml]
        · exact absurd ⟨hkl ▸ hsame.symm, hkl ▸ hsame'.symm⟩ hother'
        · exact absurd ⟨hml ▸ hsame, hml ▸ hsame'⟩ hother
        · exact h.single k hk m hm hsame hsame'
      · intro k hk m hm hcross
        rcases hcases k hk with hkl | ⟨hk, hlow, -, -, -⟩ <;>
          rcases hcases m hm with hml | ⟨hm, -, -, hhigh, -⟩
        · subst hkl hml
          omega
        · subst hkl
          omega
        · subst hml
          omega
        · exact h.planar k hk m hm hcross

/-- The link between the two words and the filling without it can be told from both
together. -/
theorem withLink_injective {r' : Region} {link link' : Option LinkRef} (hy : Fills s r y)
    (hz : Fills s r' z) (hleft : r.leftWord = r'.leftWord) (hright : r.rightWord = r'.rightWord)
    (hlink : ∀ l, link = some l → l.leftWord = r.leftWord ∧ l.rightWord = r.rightWord)
    (hlink' : ∀ l, link' = some l → l.leftWord = r'.leftWord ∧ l.rightWord = r'.rightWord)
    (heq : y.withLink link = z.withLink link') : link = link' ∧ y = z := by
  rw [← hleft, ← hright] at hlink'
  have hmem : ∀ l, link = some l ∨ l ∈ y.links ↔ link' = some l ∨ l ∈ z.links := by
    intro l
    rw [← mem_withLink, ← mem_withLink, heq]
  have hother : ∀ l ∈ z.links, ¬ (l.leftWord = r.leftWord ∧ l.rightWord = r.rightWord) := by
    rw [hleft, hright]
    exact hz.unlinked
  constructor
  · ext l
    constructor
    · intro hl
      rcases (hmem l).mp (.inl hl) with h | h
      · exact h
      · exact absurd (hlink l hl) (hother l h)
    · intro hl
      rcases (hmem l).mpr (.inl hl) with h | h
      · exact h
      · exact absurd (hlink' l hl) (hy.unlinked l h)
  · apply Wiring.ext
    · simpa using congrArg Wiring.reading heq
    · ext l
      constructor
      · intro hl
        rcases (hmem l).mp (.inr hl) with h | h
        · exact absurd (hlink' l h) (hy.unlinked l hl)
        · exact h
      · intro hl
        rcases (hmem l).mpr (.inr hl) with h | h
        · exact absurd (hlink l h) (hother l hl)
        · exact h

/-! ## The word at which a filling is split -/

/-- A filled region with connectors to use has a word over which no link passes.  It is
linked with the left word of the region if that has connectors, else with the right one. -/
theorem Fills.exists_pivot (h : Fills s r x) (hpending : (r.fromLeft.or r.fromRight).isSome) :
    ∃ w, (r.leftWord < w ∧ w < r.rightWord) ∧ (x.reading w).isSome ∧
      (∀ l ∈ x.links, l.rightWord ≤ w ∨ w ≤ l.leftWord) ∧
      (if r.fromLeft.isSome then ∃ l ∈ x.links, l.leftWord = r.leftWord ∧ l.rightWord = w
        else ∃ l ∈ x.links, l.leftWord = w ∧ l.rightWord = r.rightWord) := by
  have hright := h.serves_boundary .right
  have hleft := h.serves_boundary .left
  simp only [Region.pending, Region.boundary] at hright hleft
  cases hfrom : r.fromLeft with
  | some c =>
      -- The farthest partner of the left word.
      rw [hfrom] at hright
      obtain ⟨l, hl, hfar⟩ :=
        Finset.exists_max_image _ LinkRef.rightWord (ServesFrom.nonempty hright)
      obtain ⟨hl, hword⟩ := mem_linksAt.mp hl
      have hends := h.within l hl
      have hunlinked := h.unlinked l hl
      simp only [LinkRef.word_right] at hword
      have hne : l.rightWord ≠ r.rightWord := fun heq => hunlinked ⟨hword, heq⟩
      refine ⟨l.rightWord, by omega, ?_, ?_, by simpa using ⟨l, hl, hword, rfl⟩⟩
      · exact h.isSome_reading (d := .left) hl hne
      · intro k hk
        have hends' := h.within k hk
        have hplanar := h.planar l hl k hk
        by_cases hsame : k.leftWord = r.leftWord
        · exact .inl (hfar k (mem_linksAt.mpr ⟨hk, hsame⟩))
        · omega
  | none =>
      -- The farthest partner of the right word; the left word has no links.
      rw [hfrom] at hright hpending
      obtain ⟨c, hc⟩ := Option.isSome_iff_exists.mp hpending
      rw [Option.none_or] at hc
      rw [hc] at hleft
      obtain ⟨l, hl, hfar⟩ :=
        Finset.exists_min_image _ LinkRef.leftWord (ServesFrom.nonempty hleft)
      obtain ⟨hl, hword⟩ := mem_linksAt.mp hl
      have hends := h.within l hl
      simp only [LinkRef.word_left] at hword
      have hne : l.leftWord ≠ r.leftWord := by
        intro heq
        have hmem : l ∈ linksAt x.links .right r.leftWord := mem_linksAt.mpr ⟨hl, heq⟩
        rw [serves_none.mp hright] at hmem
        simp at hmem
      refine ⟨l.leftWord, by omega, ?_, ?_, by simpa using ⟨l, hl, rfl, hword⟩⟩
      · exact h.isSome_reading (d := .right) hl hne
      · intro k hk
        have hends' := h.within k hk
        have hplanar := h.planar k hk l hl
        by_cases hsame : k.rightWord = r.rightWord
        · exact .inr (hfar k (mem_linksAt.mpr ⟨hk, hsame⟩))
        · omega

/-! ## Alternatives -/

/-- What an alternative makes of the wirings of its two parts. -/
def Wiring.join (a : Alternative) (y z : Wiring) : Wiring where
  reading := fun t => if t = a.word then some a.candidate else (y.reading t).or (z.reading t)
  links := a.links.toFinset ∪ (y.links ∪ z.links)

/-- The links of an alternative complete its parts, which then stand side by side. -/
theorem join_eq_beside {a : Alternative} {left right : Option LinkRef}
    (h : IsSplit s r a left right) : Wiring.join a y z =
      Wiring.beside a.word a.candidate (y.withLink left) (z.withLink right) := by
  apply Wiring.ext
  · rfl
  · ext l
    simp only [Wiring.join, Wiring.beside, h.links_eq, Finset.mem_union, List.mem_toFinset,
      List.mem_append, Option.mem_toList, mem_withLink]
    tauto

section Parts

variable {a : Alternative} {left right : Option LinkRef}

/-- The link of an alternative with the left word joins the two words of its left part. -/
theorem IsSplit.left_ends (h : IsSplit s r a left right) {l : LinkRef} (hl : left = some l) :
    l.leftWord = a.left.leftWord ∧ l.rightWord = a.left.rightWord := by
  obtain ⟨hu, hw, -⟩ := h.left_meets.link_ends hl
  exact ⟨hu.trans h.left_leftWord.symm, hw.trans h.left_rightWord.symm⟩

/-- The link of an alternative with the right word joins the two words of its right part. -/
theorem IsSplit.right_ends (h : IsSplit s r a left right) {l : LinkRef} (hl : right = some l) :
    l.leftWord = a.right.leftWord ∧ l.rightWord = a.right.rightWord := by
  obtain ⟨hw, hv, -⟩ := h.right_meets.link_ends hl
  exact ⟨hw.trans h.right_leftWord.symm, hv.trans h.right_rightWord.symm⟩

/-- Every link of an alternative joins the two words of one of its parts. -/
theorem IsSplit.ends_of_mem (h : IsSplit s r a left right) {l : LinkRef} (hl : l ∈ a.links) :
    (l.leftWord = a.left.leftWord ∧ l.rightWord = a.left.rightWord) ∨
      (l.leftWord = a.right.leftWord ∧ l.rightWord = a.right.rightWord) := by
  rw [h.links_eq, List.mem_append, Option.mem_toList, Option.mem_toList] at hl
  exact hl.imp h.left_ends h.right_ends

theorem IsSplit.links_nodup (h : IsSplit s r a left right) : a.links.Nodup := by
  rw [h.links_eq, List.nodup_append]
  refine ⟨by cases left <;> simp, by cases right <;> simp, ?_⟩
  rintro l hl m hm rfl
  rw [Option.mem_toList] at hl hm
  have hends := h.left_meets.link_ends hl
  have hends' := h.right_meets.link_ends hm
  have hword := h.leftWord_lt
  omega

private theorem IsSplit.spans_left (h : IsSplit s r a left right) (hy : Fills s a.left y) :
    Spans s ⟨r.leftWord, a.word, r.fromLeft, s.first .left a.word a.candidate, a.left.nulls⟩
      (y.withLink left) := by
  refine Fills.withLink ?_ h.leftWord_lt h.left_meets
  rw [← h.left_leftWord]
  conv in a.word => rw [← h.left_rightWord]
  exact hy

private theorem IsSplit.spans_right (h : IsSplit s r a left right) (hz : Fills s a.right z) :
    Spans s ⟨a.word, r.rightWord, s.first .right a.word a.candidate, r.fromRight, a.right.nulls⟩
      (z.withLink right) := by
  refine Fills.withLink ?_ h.lt_rightWord h.right_meets
  rw [← h.right_rightWord]
  conv in a.word => rw [← h.right_leftWord]
  exact hz

end Parts

/-- Fillings of the two parts of an alternative make a filling of the region. -/
theorem fills_join {a : Alternative} (ha : a ∈ s.alternatives r) (hy : Fills s a.left y)
    (hz : Fills s a.right z) : Fills s r (.join a y z) := by
  obtain ⟨left, right, h⟩ := mem_alternatives.mp ha
  have hlink : (∃ l ∈ (y.withLink left).links, l.leftWord = r.leftWord ∧ l.rightWord = a.word) ∨
      ∃ l ∈ (z.withLink right).links, l.leftWord = a.word ∧ l.rightWord = r.rightWord := by
    have hlinked := h.linked
    split at hlinked
    next =>
      obtain ⟨l, hl⟩ := Option.isSome_iff_exists.mp hlinked
      have hends := h.left_meets.link_ends hl
      exact .inl ⟨l, mem_withLink.mpr (.inl hl), hends.1, hends.2.1⟩
    next =>
      obtain ⟨l, hl⟩ := Option.isSome_iff_exists.mp hlinked
      have hends := h.right_meets.link_ends hl
      exact .inr ⟨l, mem_withLink.mpr (.inl hl), hends.1, hends.2.1⟩
  have hfills := (h.spans_left hy).beside (h.spans_right hz) h.leftWord_lt h.lt_rightWord
    h.candidate_lt hlink
  rw [join_eq_beside h]
  rw [h.nulls_add] at hfills
  exact hfills

/-- A wiring of a region without links over a word is what it has on both sides of it. -/
private theorem Spans.eq_beside_parts (h : Spans s r x) {w c : Nat} (hc : x.reading w = some c)
    (hover : ∀ l ∈ x.links, l.rightWord ≤ w ∨ w ≤ l.leftWord) :
    x = .beside w c (x.part r.leftWord w) (x.part w r.rightWord) := by
  have hw := h.inside w c hc
  apply Wiring.ext
  · funext t
    by_cases hin : r.leftWord < t ∧ t < r.rightWord
    · rcases Nat.lt_trichotomy t w with hlt | rfl | hgt
      · simp [Wiring.beside, Wiring.part, hin, hlt, Nat.ne_of_lt hlt, Nat.lt_asymm hlt]
      · simp [Wiring.beside, hc]
      · simp [Wiring.beside, Wiring.part, hin, hgt, Nat.ne_of_gt hgt, Nat.lt_asymm hgt]
    · have hne : t ≠ w := by
        rintro rfl
        exact hin ⟨hw.1, hw.2.1⟩
      simp [Wiring.beside, Wiring.part, hne, h.reading_eq_none hin]
  · ext l
    simp only [Wiring.beside, Wiring.part, Finset.mem_union, Finset.mem_filter]
    constructor
    · intro hl
      have hends := h.within l hl
      rcases hover l hl with hle | hge
      · exact .inl ⟨hl, hends.1, hle⟩
      · exact .inr ⟨hl, hge, hends.2.2⟩
    · rintro (⟨hl, -⟩ | ⟨hl, -⟩)
      · exact hl
      · exact hl

/-- A word with a reading over which no link passes splits a spanned region in two parts. -/
private theorem Spans.parts (h : Spans s r x) {w c : Nat} (hc : x.reading w = some c)
    (hover : ∀ l ∈ x.links, l.rightWord ≤ w ∨ w ≤ l.leftWord) :
    Spans s ⟨r.leftWord, w, r.fromLeft, s.first .left w c, (unread x r.leftWord w).card⟩
        (x.part r.leftWord w) ∧
      Spans s ⟨w, r.rightWord, s.first .right w c, r.fromRight, (unread x w r.rightWord).card⟩
        (x.part w r.rightWord) := by
  obtain ⟨huw, hwv, -⟩ := h.inside w c hc
  have hdemand : ∀ d, demand s r x d w = s.first d w c := by
    intro d
    have hne : w ≠ r.boundary d := by cases d <;> simp only [Region.boundary] <;> omega
    simp [demand, if_neg hne, hc]
  constructor
  · refine h.part ⟨le_rfl, le_of_lt hwv, ?_, rfl, ?_⟩
    · intro d
      cases d with
      | left => exact (hdemand .left).symm
      | right => simp [demand, Region.boundary, Region.pending]
    · intro l hl d hd
      have hends := h.within l hl
      have := hover l hl
      cases d <;> simp only [Region.boundary, LinkRef.word_left, LinkRef.word_right] at hd ⊢ <;>
        omega
  · refine h.part ⟨le_of_lt huw, le_rfl, ?_, rfl, ?_⟩
    · intro d
      cases d with
      | left => simp [demand, Region.boundary, Region.pending]
      | right => exact (hdemand .right).symm
    · intro l hl d hd
      have hends := h.within l hl
      have := hover l hl
      cases d <;> simp only [Region.boundary, LinkRef.word_left, LinkRef.word_right] at hd ⊢ <;>
        omega

/-- A direct link of a filling with a link added can only be the one added. -/
private theorem Fills.isSome_of_direct (h : Fills s r y) {link : Option LinkRef} {l : LinkRef}
    (hl : l ∈ (y.withLink link).links) (hfrom : l.leftWord = r.leftWord)
    (hto : l.rightWord = r.rightWord) : link.isSome := by
  rcases mem_withLink.mp hl with rfl | hmem
  · rfl
  · exact absurd ⟨hfrom, hto⟩ (h.unlinked l hmem)

/-- A filling of a region with connectors to use comes from an alternative. -/
theorem Fills.exists_split (h : Fills s r x) (hpending : (r.fromLeft.or r.fromRight).isSome) :
    ∃ a ∈ s.alternatives r, ∃ y z,
      Fills s a.left y ∧ Fills s a.right z ∧ x = .join a y z := by
  obtain ⟨w, ⟨huw, hwv⟩, hread, hover, hlinked⟩ := h.exists_pivot hpending
  obtain ⟨c, hc⟩ := Option.isSome_iff_exists.mp hread
  obtain ⟨hleft, hright⟩ := h.toSpans.parts hc hover
  obtain ⟨left, e, f, y, hmeetsLeft, hy, hyeq⟩ := hleft.exists_meets
  obtain ⟨right, e', f', z, hmeetsRight, hz, hzeq⟩ := hright.exists_meets
  let a : Alternative := ⟨w, c, left.toList ++ right.toList,
    ⟨r.leftWord, w, e, f, (unread x r.leftWord w).card⟩,
    ⟨w, r.rightWord, e', f', (unread x w r.rightWord).card⟩⟩
  have hsplit : IsSplit s r a left right := by
    refine ⟨huw, hwv, (h.inside w c hc).2.2, rfl, rfl, rfl, rfl, ?_, rfl, hmeetsLeft,
      hmeetsRight, ?_⟩
    · rw [← h.null_count]
      exact card_unread_add huw hwv hread
    · split at hlinked
      next hsome =>
        obtain ⟨l, hl, hu, hw⟩ := hlinked
        rw [if_pos hsome]
        refine hy.isSome_of_direct (l := l) ?_ hu hw
        rw [← hyeq]
        exact mem_part.mpr ⟨hl, hu.ge, hw.le⟩
      next hsome =>
        obtain ⟨l, hl, hw, hv⟩ := hlinked
        rw [if_neg hsome]
        refine hz.isSome_of_direct (l := l) ?_ hw hv
        rw [← hzeq]
        exact mem_part.mpr ⟨hl, hw.ge, hv.le⟩
  refine ⟨a, mem_alternatives.mpr ⟨left, right, hsplit⟩, y, z, hy, hz, ?_⟩
  rw [join_eq_beside hsplit, ← hyeq, ← hzeq]
  exact h.toSpans.eq_beside_parts hc hover

/-! ## Uniqueness -/

/-- No link of what an alternative makes of its parts passes over its word, and one leads
from its word to the word of the region that the alternative begins with. -/
private theorem join_links {a : Alternative} (ha : a ∈ s.alternatives r) (hy : Fills s a.left y)
    (hz : Fills s a.right z) : (∀ l ∈ (Wiring.join a y z).links, l.rightWord ≤ a.word ∨
        a.word ≤ l.leftWord) ∧
      if r.fromLeft.isSome then
        ∃ l ∈ (Wiring.join a y z).links, l.leftWord = r.leftWord ∧ l.rightWord = a.word
      else ∃ l ∈ (Wiring.join a y z).links, l.leftWord = a.word ∧ l.rightWord = r.rightWord := by
  obtain ⟨left, right, h⟩ := mem_alternatives.mp ha
  constructor
  · rw [join_eq_beside h]
    exact fun l hl => beside_no_link_over (h.spans_left hy) (h.spans_right hz) hl
  · have hlinked := h.linked
    have hmem : ∀ l, left = some l ∨ right = some l → l ∈ (Wiring.join a y z).links := by
      intro l hl
      simp [Wiring.join, h.links_eq]
      tauto
    split at hlinked
    next hsome =>
      obtain ⟨l, hl⟩ := Option.isSome_iff_exists.mp hlinked
      have hends := h.left_meets.link_ends hl
      rw [if_pos hsome]
      exact ⟨l, hmem l (.inl hl), hends.1, hends.2.1⟩
    next hsome =>
      obtain ⟨l, hl⟩ := Option.isSome_iff_exists.mp hlinked
      have hends := h.right_meets.link_ends hl
      rw [if_neg hsome]
      exact ⟨l, hmem l (.inr hl), hends.1, hends.2.1⟩

/-- What an alternative makes of fillings of its parts tells its word. -/
private theorem join_word_unique {a a' : Alternative} {y' z' : Wiring}
    (ha : a ∈ s.alternatives r) (ha' : a' ∈ s.alternatives r) (hy : Fills s a.left y)
    (hz : Fills s a.right z) (hy' : Fills s a'.left y') (hz' : Fills s a'.right z')
    (heq : Wiring.join a y z = .join a' y' z') : a.word = a'.word := by
  obtain ⟨hover, hlink⟩ := join_links ha hy hz
  obtain ⟨hover', hlink'⟩ := join_links ha' hy' hz'
  obtain ⟨_, _, hsplit⟩ := mem_alternatives.mp ha
  obtain ⟨_, _, hsplit'⟩ := mem_alternatives.mp ha'
  have hin := And.intro hsplit.leftWord_lt hsplit.lt_rightWord
  have hin' := And.intro hsplit'.leftWord_lt hsplit'.lt_rightWord
  rw [← heq] at hover' hlink'
  split at hlink
  next hsome =>
    rw [if_pos hsome] at hlink'
    obtain ⟨l, hl, hu, hw⟩ := hlink
    obtain ⟨l', hl', hu', hw'⟩ := hlink'
    have := hover l' hl'
    have := hover' l hl
    omega
  next hsome =>
    rw [if_neg hsome] at hlink'
    obtain ⟨l, hl, hw, hv⟩ := hlink
    obtain ⟨l', hl', hw', hv'⟩ := hlink'
    have := hover l' hl'
    have := hover' l hl
    omega

/-- What an alternative makes of fillings of its parts tells the alternative and them. -/
theorem join_injective {a a' : Alternative} {y' z' : Wiring}
    (ha : a ∈ s.alternatives r) (ha' : a' ∈ s.alternatives r) (hy : Fills s a.left y)
    (hz : Fills s a.right z) (hy' : Fills s a'.left y') (hz' : Fills s a'.right z')
    (heq : Wiring.join a y z = .join a' y' z') : a = a' ∧ y = y' ∧ z = z' := by
  have hword := join_word_unique ha ha' hy hz hy' hz' heq
  have hcandidate : a.candidate = a'.candidate := by
    have := congrFun (congrArg Wiring.reading heq) a.word
    simpa [Wiring.join, hword] using this
  obtain ⟨left, right, h⟩ := mem_alternatives.mp ha
  obtain ⟨left', right', h'⟩ := mem_alternatives.mp ha'
  rw [join_eq_beside h, join_eq_beside h', ← hword, ← hcandidate] at heq
  have hspansLeft' := h'.spans_left hy'
  have hspansRight' := h'.spans_right hz'
  rw [← hword, ← hcandidate] at hspansLeft' hspansRight'
  have hleftWiring : y.withLink left = y'.withLink left' := by
    rw [← part_beside_left (h.spans_left hy) (h.spans_right hz), heq,
      part_beside_left hspansLeft' hspansRight']
  have hrightWiring : z.withLink right = z'.withLink right' := by
    rw [← part_beside_right (h.spans_left hy) (h.spans_right hz), heq,
      part_beside_right hspansLeft' hspansRight']
  have hlu := h.left_leftWord.trans h'.left_leftWord.symm
  have hlv := h.left_rightWord.trans (hword.trans h'.left_rightWord.symm)
  have hru := h.right_leftWord.trans (hword.trans h'.right_leftWord.symm)
  have hrv := h.right_rightWord.trans h'.right_rightWord.symm
  obtain ⟨hleft, rfl⟩ := withLink_injective hy hy' hlu hlv
    (fun _ => h.left_ends) (fun _ => h'.left_ends) hleftWiring
  obtain ⟨hright, rfl⟩ := withLink_injective hz hz' hru hrv
    (fun _ => h.right_ends) (fun _ => h'.right_ends) hrightWiring
  have hregionLeft := hy.toSpans.region_unique hy'.toSpans hlu hlv
  have hregionRight := hz.toSpans.region_unique hz'.toSpans hru hrv
  refine ⟨?_, rfl, rfl⟩
  have hlinks : a.links = a'.links := by rw [h.links_eq, h'.links_eq, hleft, hright]
  cases a
  cases a'
  simp only at hword hcandidate hlinks hregionLeft hregionRight
  rw [hword, hcandidate, hlinks, hregionLeft, hregionRight]

end LinkParsing.Search
