import LinkParsing.Proofs.Search.Serving
import Mathlib.Data.List.Nodup

/-!
# What the alternatives of a region are

An alternative names a word inside the region and a reading of it, and says of each of
the two pairs of words that then lie next to each other how they meet: apart, or linked
by the first connectors that they still have to use.  A region with connectors on its
left is split at a word linked with its left word, any other at a word linked with its
right word (`mem_alternatives`).

Both parts are narrower than the region (`alternatives_narrower`), and no alternative is
listed twice (`alternatives_nodup`).
-/

namespace LinkParsing.Search

variable {s : Sentence} {r : Region}

/-- A link is made exactly of the first connectors, and they match. -/
theorem matching_eq_some {u v : Nat} {a b : Option Cursor} {l : LinkRef} :
    s.matching u a v b = some l ↔
      a = some l.leftCursor ∧ b = some l.rightCursor ∧
        l.leftWord = u ∧ l.rightWord = v ∧ s.Matches l := by
  constructor
  · intro h
    unfold Sentence.matching at h
    split at h
    next a b =>
      split at h
      next ca cb hca hcb =>
        split at h
        next hlinks =>
          obtain rfl := Option.some.inj h
          exact ⟨rfl, rfl, rfl, rfl, ca, cb, hca, hcb, hlinks⟩
        next => simp at h
      next => simp at h
    next => simp at h
  · rintro ⟨rfl, rfl, rfl, rfl, ca, cb, hca, hcb, hlinks⟩
    simp [Sentence.matching, hca, hcb, hlinks]

/-- How two words meet that have these connectors to use towards each other: the link
they make, if any, and the connectors they then have to use. -/
inductive Meets (s : Sentence) (u : Nat) (a : Option Cursor) (v : Nat) (b : Option Cursor) :
    Option LinkRef → Option Cursor → Option Cursor → Prop
  | apart : Meets s u a v b none a b
  | linked {l : LinkRef} {c d : Option Cursor} (hlink : s.matching u a v b = some l)
      (hleft : Continues s .right l c) (hright : Continues s .left l d) :
      Meets s u a v b (some l) c d

/-- What an alternative of a region is, given the links it makes with its left word and
with its right one. -/
structure IsSplit (s : Sentence) (r : Region) (a : Alternative) (left right : Option LinkRef) :
    Prop where
  leftWord_lt : r.leftWord < a.word
  lt_rightWord : a.word < r.rightWord
  candidate_lt : a.candidate < s.numCandidates a.word
  left_leftWord : a.left.leftWord = r.leftWord
  left_rightWord : a.left.rightWord = a.word
  right_leftWord : a.right.leftWord = a.word
  right_rightWord : a.right.rightWord = r.rightWord
  nulls_add : a.left.nulls + a.right.nulls = r.nulls
  links_eq : a.links = left.toList ++ right.toList
  left_meets : Meets s r.leftWord r.fromLeft a.word (s.first .left a.word a.candidate) left
    a.left.fromLeft a.left.fromRight
  right_meets : Meets s a.word (s.first .right a.word a.candidate) r.rightWord r.fromRight right
    a.right.fromLeft a.right.fromRight
  /-- The word is linked with the left word if that has connectors, else with the right one. -/
  linked : if r.fromLeft.isSome then left.isSome else right.isSome

private theorem mem_splitsFromRight {r : Region} {w c : Nat} {a : Alternative} :
    a ∈ s.splitsFromRight r w c ↔ ∃ l e f n,
      s.matching w (s.first .right w c) r.rightWord r.fromRight = some l ∧
      Continues s .right l e ∧ Continues s .left l f ∧ n ≤ r.nulls ∧
      a = ⟨w, c, [l], ⟨r.leftWord, w, none, s.first .left w c, n⟩,
        ⟨w, r.rightWord, e, f, r.nulls - n⟩⟩ := by
  unfold Sentence.splitsFromRight
  rw [s.firstRight_eq, s.firstLeft_eq]
  cases hm : s.matching w (s.first .right w c) r.rightWord r.fromRight with
  | none => simp
  | some l =>
      simp only [List.mem_flatMap, List.mem_range, List.mem_map, Prod.exists, mem_continuations,
        Option.some.injEq, Nat.lt_succ_iff]
      constructor
      · rintro ⟨n, hn, e, f, ⟨he, hf⟩, rfl⟩
        exact ⟨l, e, f, n, rfl, he, hf, hn, rfl⟩
      · rintro ⟨_, e, f, n, rfl, he, hf, hn, rfl⟩
        exact ⟨n, hn, e, f, ⟨he, hf⟩, rfl⟩

private theorem rightSides_of_none {w c : Nat} (l : LinkRef)
    (hm : s.matching w (s.first .right w c) r.rightWord r.fromRight = none) :
    s.rightSides r w c l = [([l], s.first .right w c, r.fromRight)] := by
  unfold Sentence.rightSides
  rw [s.firstRight_eq]
  simp [hm]

private theorem rightSides_of_some {w c : Nat} (l : LinkRef) {m : LinkRef}
    (hm : s.matching w (s.first .right w c) r.rightWord r.fromRight = some m) :
    s.rightSides r w c l = (s.continuations m).map (fun ends => ([l, m], ends.1, ends.2)) ++
      [([l], s.first .right w c, r.fromRight)] := by
  unfold Sentence.rightSides
  rw [s.firstRight_eq]
  simp [hm]

private theorem mem_rightSides {r : Region} {w c : Nat} {l : LinkRef}
    {side : List LinkRef × Option Cursor × Option Cursor} :
    side ∈ s.rightSides r w c l ↔ ∃ right e f,
      Meets s w (s.first .right w c) r.rightWord r.fromRight right e f ∧
      side = (l :: right.toList, e, f) := by
  cases hm : s.matching w (s.first .right w c) r.rightWord r.fromRight with
  | none =>
      rw [rightSides_of_none l hm, List.mem_singleton]
      constructor
      · exact fun h => ⟨none, _, _, .apart, h⟩
      · rintro ⟨right, e, f, hmeets, rfl⟩
        cases hmeets with
        | apart => rfl
        | linked hlink => simp [hm] at hlink
  | some m =>
      simp only [rightSides_of_some l hm, List.mem_append, List.mem_map, Prod.exists,
        mem_continuations, List.mem_singleton]
      constructor
      · rintro (⟨e, f, ⟨he, hf⟩, rfl⟩ | h)
        · exact ⟨some m, e, f, .linked hm he hf, rfl⟩
        · exact ⟨none, _, _, .apart, h⟩
      · rintro ⟨right, e, f, hmeets, rfl⟩
        cases hmeets with
        | apart => exact .inr rfl
        | linked hlink he hf =>
            obtain rfl := Option.some.inj (hm.symm.trans hlink)
            exact .inl ⟨e, f, ⟨he, hf⟩, rfl⟩

private theorem mem_splitsFromLeft {r : Region} {w c : Nat} {a : Alternative} :
    a ∈ s.splitsFromLeft r w c ↔ ∃ l e f right g h n,
      s.matching r.leftWord r.fromLeft w (s.first .left w c) = some l ∧
      Continues s .right l e ∧ Continues s .left l f ∧
      Meets s w (s.first .right w c) r.rightWord r.fromRight right g h ∧ n ≤ r.nulls ∧
      a = ⟨w, c, l :: right.toList, ⟨r.leftWord, w, e, f, n⟩,
        ⟨w, r.rightWord, g, h, r.nulls - n⟩⟩ := by
  unfold Sentence.splitsFromLeft
  rw [s.firstLeft_eq]
  cases hm : s.matching r.leftWord r.fromLeft w (s.first .left w c) with
  | none => simp
  | some l =>
      simp only [List.mem_flatMap, List.mem_range, List.mem_map, Prod.exists, mem_continuations,
        mem_rightSides, Option.some.injEq, Nat.lt_succ_iff]
      constructor
      · rintro ⟨n, hn, e, f, ⟨he, hf⟩, _, g, h, ⟨right, _, _, hmeets, heq⟩, rfl⟩
        cases heq
        exact ⟨l, e, f, right, g, h, n, rfl, he, hf, hmeets, hn, rfl⟩
      · rintro ⟨_, e, f, right, g, h, n, rfl, he, hf, hmeets, hn, rfl⟩
        exact ⟨n, hn, e, f, ⟨he, hf⟩, _, g, h, ⟨right, g, h, hmeets, rfl⟩, rfl⟩

/-- Without connectors on the left, the left word cannot be linked. -/
private theorem Meets.of_none_left {u v : Nat} {b : Option Cursor} {link : Option LinkRef}
    {c d : Option Cursor} (h : Meets s u none v b link c d) : link = none ∧ c = none ∧ d = b := by
  cases h with
  | apart => exact ⟨rfl, rfl, rfl⟩
  | linked hlink => simp [matching_eq_some] at hlink

theorem mem_alternatives {r : Region} {a : Alternative} :
    a ∈ s.alternatives r ↔ ∃ left right, IsSplit s r a left right := by
  have hrange : a ∈ s.alternatives r ↔ ∃ w, (r.leftWord < w ∧ w < r.rightWord) ∧
      ∃ c < s.numCandidates w, a ∈ s.splitsAt r w c := by
    have hmem : ∀ w, w ∈ List.range' (r.leftWord + 1) r.inner ↔
        r.leftWord < w ∧ w < r.rightWord := by
      intro w
      rw [List.mem_range'_1, Region.inner]
      omega
    simp [Sentence.alternatives, hmem]
  rw [hrange]
  obtain ⟨u, v, fromLeft, fromRight, nulls⟩ := r
  constructor
  · rintro ⟨w, ⟨hlow, hhigh⟩, c, hc, ha⟩
    unfold Sentence.splitsAt at ha
    cases fromLeft with
    | none =>
        simp only [Option.isNone_none, if_true, mem_splitsFromRight] at ha
        obtain ⟨l, e, f, n, hlink, he, hf, hn, rfl⟩ := ha
        exact ⟨none, some l, hlow, hhigh, hc, rfl, rfl, rfl, rfl, by simp only; omega, rfl,
          .apart, .linked hlink he hf, by simp⟩
    | some cursor =>
        simp only [Option.isNone_some, Bool.false_eq_true, if_false, mem_splitsFromLeft] at ha
        obtain ⟨l, e, f, right, g, h, n, hlink, he, hf, hmeets, hn, rfl⟩ := ha
        exact ⟨some l, right, hlow, hhigh, hc, rfl, rfl, rfl, rfl, by simp only; omega, rfl,
          .linked hlink he hf, hmeets, by simp⟩
  · rintro ⟨left, right, h⟩
    obtain ⟨w, c, links, ⟨lu, lv, le, lf, ln⟩, ⟨ru, rv, re, rf, rn⟩⟩ := a
    obtain ⟨hlow, hhigh, hc, hlu, hlv, hru, hrv, hnulls, hlinks, hleft, hright, hlinked⟩ := h
    simp only at hlow hhigh hc hlu hlv hru hrv hnulls hlinks hleft hright hlinked
    subst hlu hlv hru hrv hlinks
    refine ⟨ru, ⟨hlow, hhigh⟩, c, hc, ?_⟩
    have hrest : rn = nulls - ln := by omega
    unfold Sentence.splitsAt
    cases fromLeft with
    | none =>
        obtain ⟨rfl, rfl, rfl⟩ := hleft.of_none_left
        simp only [Option.isNone_none, if_true, mem_splitsFromRight]
        -- Without connectors on the left, the word is linked with the right word.
        cases hright with
        | apart => simp at hlinked
        | linked hlink he hf => exact ⟨_, _, _, ln, hlink, he, hf, by omega, by simp [hrest]⟩
    | some cursor =>
        simp only [Option.isNone_some, Bool.false_eq_true, if_false, mem_splitsFromLeft]
        cases hleft with
        | apart => simp at hlinked
        | linked hlink he hf =>
            exact ⟨_, _, _, right, re, rf, ln, hlink, he, hf, hright, by omega, by simp [hrest]⟩

/-- Both parts of an alternative are narrower than the region. -/
theorem alternatives_narrower {r : Region} {a : Alternative} (h : a ∈ s.alternatives r) :
    a.left.width < r.width ∧ a.right.width < r.width := by
  obtain ⟨left, right, h⟩ := mem_alternatives.mp h
  have hlow := h.leftWord_lt
  have hhigh := h.lt_rightWord
  simp only [Region.width, h.left_leftWord, h.left_rightWord, h.right_leftWord,
    h.right_rightWord]
  omega

/-! ## No alternative twice -/

/-- Lists that are put together have no repetitions if each has none and every element tells
from which list it comes. -/
theorem nodup_flatMap_of_unique {α β : Type*} {l : List α} {f : α → List β} (hl : l.Nodup)
    (hf : ∀ a ∈ l, (f a).Nodup)
    (hunique : ∀ a ∈ l, ∀ b ∈ l, ∀ x, x ∈ f a → x ∈ f b → a = b) : (l.flatMap f).Nodup := by
  refine List.nodup_flatMap.mpr ⟨hf, ?_⟩
  refine hl.pairwise_of_forall_ne fun a ha b hb hne => ?_
  rw [Function.onFun, List.disjoint_left]
  exact fun x hxa hxb => hne (hunique a ha b hb x hxa hxb)

theorem continuations_nodup (l : LinkRef) : (s.continuations l).Nodup := by
  have hright : s.nextRight l.leftWord l.leftCursor ≠ some l.leftCursor :=
    next_ne_self (d := .right) l.leftCursor
  have hleft : s.nextLeft l.rightWord l.rightCursor ≠ some l.rightCursor :=
    next_ne_self (d := .left) l.rightCursor
  unfold Sentence.continuations
  cases s.leftEndIsMulti l <;> cases s.rightEndIsMulti l <;>
    simp [hright, hleft, hright.symm]

private theorem rightSides_nodup (w c : Nat) (l : LinkRef) : (s.rightSides r w c l).Nodup := by
  cases hm : s.matching w (s.first .right w c) r.rightWord r.fromRight with
  | none =>
      rw [rightSides_of_none l hm]
      exact List.nodup_singleton _
  | some m =>
      rw [rightSides_of_some l hm]
      refine List.nodup_append.mpr ⟨?_, List.nodup_singleton _, ?_⟩
      · refine (continuations_nodup m).map ?_
        rintro ⟨a, b⟩ ⟨a', b'⟩ heq
        simpa using heq
      · -- Beside the word alone no link with the right word is made.
        rintro _ hx _ hy rfl
        obtain ⟨_, _, rfl⟩ := List.mem_map.mp hx
        simp at hy

private theorem splitsFromRight_nodup (w c : Nat) : (s.splitsFromRight r w c).Nodup := by
  unfold Sentence.splitsFromRight
  split
  next => simp
  next l _ =>
    refine nodup_flatMap_of_unique List.nodup_range ?_ ?_
    · intro n _
      refine (continuations_nodup l).map ?_
      rintro ⟨a, b⟩ ⟨a', b'⟩ heq
      simpa using heq
    · intro n _ m _ x hx hx'
      obtain ⟨_, _, rfl⟩ := List.mem_map.mp hx
      obtain ⟨_, _, heq⟩ := List.mem_map.mp hx'
      exact (congrArg (fun a : Alternative => a.left.nulls) heq).symm

private theorem splitsFromLeft_nodup (w c : Nat) : (s.splitsFromLeft r w c).Nodup := by
  unfold Sentence.splitsFromLeft
  split
  next => simp
  next l _ =>
    refine nodup_flatMap_of_unique List.nodup_range ?_ ?_
    · intro n _
      refine nodup_flatMap_of_unique (continuations_nodup l) ?_ ?_
      · rintro ⟨a, b⟩ _
        refine (rightSides_nodup w c l).map ?_
        rintro ⟨k, a, b⟩ ⟨k', a', b'⟩ heq
        simpa using heq
      · rintro ⟨a, b⟩ _ ⟨a', b'⟩ _ x hx hx'
        obtain ⟨_, _, rfl⟩ := List.mem_map.mp hx
        obtain ⟨_, _, heq⟩ := List.mem_map.mp hx'
        exact (congrArg (fun a : Alternative => (a.left.fromLeft, a.left.fromRight)) heq).symm
    · intro n _ m _ x hx hx'
      obtain ⟨_, _, hx⟩ := List.mem_flatMap.mp hx
      obtain ⟨_, _, hx'⟩ := List.mem_flatMap.mp hx'
      obtain ⟨_, _, rfl⟩ := List.mem_map.mp hx
      obtain ⟨_, _, heq⟩ := List.mem_map.mp hx'
      exact (congrArg (fun a : Alternative => a.left.nulls) heq).symm

private theorem splitsAt_word {w c : Nat} {a : Alternative} (h : a ∈ s.splitsAt r w c) :
    a.word = w ∧ a.candidate = c := by
  unfold Sentence.splitsAt at h
  split at h
  · obtain ⟨_, _, _, _, _, _, _, _, rfl⟩ := mem_splitsFromRight.mp h
    exact ⟨rfl, rfl⟩
  · obtain ⟨_, _, _, _, _, _, _, _, _, _, _, _, rfl⟩ := mem_splitsFromLeft.mp h
    exact ⟨rfl, rfl⟩

/-- No alternative of a region is listed twice. -/
theorem alternatives_nodup (s : Sentence) (r : Region) : (s.alternatives r).Nodup := by
  unfold Sentence.alternatives
  refine nodup_flatMap_of_unique List.nodup_range' ?_ ?_
  · intro w _
    refine nodup_flatMap_of_unique List.nodup_range ?_ ?_
    · intro c _
      unfold Sentence.splitsAt
      split
      · exact splitsFromRight_nodup w c
      · exact splitsFromLeft_nodup w c
    · intro c _ c' _ a ha ha'
      exact (splitsAt_word ha).2.symm.trans (splitsAt_word ha').2
  · intro w _ w' _ a ha ha'
    obtain ⟨_, _, ha⟩ := List.mem_flatMap.mp ha
    obtain ⟨_, _, ha'⟩ := List.mem_flatMap.mp ha'
    exact (splitsAt_word ha).1.symm.trans (splitsAt_word ha').1

end LinkParsing.Search
