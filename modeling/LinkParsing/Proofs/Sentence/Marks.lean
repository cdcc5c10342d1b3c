import LinkParsing.Proofs.Text.Runs
import Mathlib.Data.List.Pairwise

/-!
# Repeats of a mark stay together

A token that touches the one before it begins with a segment that does not repeat the mark of that
one (`parted_ofSegments`).  Since the repeats of a mark are parted into segments of one character
or are a single segment, two tokens that touch each other do not repeat the same mark.

Halves of flags are the exception: they are no letters or digits, so they count as marks, but come
in segments of two.  They are the only marks whose repeats ever come apart (`comesApart_iff`).
-/

namespace LinkParsing.Token

variable {s : List Char} {segments : List (List Char)} {t u last : Token} {o : Nat} {mark : Char}

/-! ## One more segment -/

/-- A token with one more segment. -/
def grow (t : Token) (segment : List Char) : Token := { t with chars := t.chars ++ segment }

theorem stop_grow (t : Token) (s : List Char) : (t.grow s).stop = t.stop + byteLength s := by
  rw [stop, grow, byteLength_append, ← Nat.add_assoc, stop]

theorem ofSegments_some_blank (hs : s ≠ []) (hblank : s.all Text.isSpace = true) :
    ofSegments (some last) last.stop (s :: segments) =
      last :: ofSegments none (last.stop + byteLength s) segments := by
  rw [ofSegments, if_pos hblank]
  exact ofSegments_of_stop_lt (Nat.lt_add_of_pos_right (byteLength_pos_of_ne_nil hs))

theorem ofSegments_some_repeats (hblank : s.all Text.isSpace = false)
    (hrepeats : repeatsMark last.chars s = true) :
    ofSegments (some last) last.stop (s :: segments) =
      ofSegments (some (last.grow s)) (last.grow s).stop segments := by
  rw [stop_grow, grow, ofSegments, hblank]
  simp [hrepeats]

theorem ofSegments_some_other (hblank : s.all Text.isSpace = false)
    (hrepeats : repeatsMark last.chars s = false) :
    ofSegments (some last) last.stop (s :: segments) =
      last :: ofSegments (some ⟨s, last.stop⟩) (stop ⟨s, last.stop⟩) segments := by
  rw [ofSegments, hblank]
  simp [hrepeats, stop]

theorem ofSegments_none_begins (hblank : s.all Text.isSpace = false) :
    ofSegments none o (s :: segments) = ofSegments (some ⟨s, o⟩) (stop ⟨s, o⟩) segments := by
  rw [ofSegments, hblank]
  simp [stop]

/-! ## Tokens that touch -/

/-- Tokens do not start before the first of the segments that they are made of. -/
theorem le_start_of_begun (hne : ∀ s ∈ segments, s ≠ []) (hblank : s.all Text.isSpace = false)
    (ht : t ∈ ofSegments (some ⟨s, o⟩) (stop ⟨s, o⟩) segments) : o ≤ t.start := by
  have hgrouped := (grouped_ofSegments hne).2 [s] o (.single hblank)
  rw [List.flatten_singleton] at hgrouped
  exact hgrouped.le_start ht

/-- A token that starts where the last one does is that one, perhaps grown. -/
theorem prefix_of_start_eq (hne : ∀ s ∈ segments, s ≠ []) (hlast : last.chars ≠ [])
    (hu : u ∈ ofSegments (some last) last.stop segments) (hstart : u.start = last.start) :
    last.chars <+: u.chars := by
  have hstop : last.start < last.stop :=
    Nat.lt_add_of_pos_right (byteLength_pos_of_ne_nil hlast)
  induction segments generalizing last with
  | nil =>
      rw [ofSegments, Option.toList_some, List.mem_singleton] at hu
      subst hu
      exact List.prefix_refl _
  | cons s segments ih =>
      obtain ⟨hs, hne⟩ := List.forall_mem_cons.mp hne
      cases hblank : s.all Text.isSpace with
      | true =>
          rw [ofSegments_some_blank hs hblank] at hu
          rcases List.mem_cons.mp hu with rfl | hu
          · exact List.prefix_refl _
          · have hle := ((grouped_ofSegments hne).1 _).le_start hu
            omega
      | false =>
          cases hrepeats : repeatsMark last.chars s with
          | true =>
              rw [ofSegments_some_repeats hblank hrepeats] at hu
              have hgrown : last.chars <+: (last.grow s).chars := List.prefix_append _ _
              refine hgrown.trans (ih hne (hgrown.ne_nil hlast) hu hstart ?_)
              rw [stop_grow]
              exact Nat.lt_of_lt_of_le hstop (Nat.le_add_right _ _)
          | false =>
              rw [ofSegments_some_other hblank hrepeats] at hu
              rcases List.mem_cons.mp hu with rfl | hu
              · exact List.prefix_refl _
              · have hle := le_start_of_begun hne hblank hu
                omega

/-- Between a token and another one that touches it there is a boundary of segments, and the
segment behind it does not repeat the mark of the first token. -/
def Parted (segments : List (List Char)) (t u : Token) : Prop :=
  ∃ before s s' after, segments = before ++ s :: s' :: after ∧ s <:+ t.chars ∧ s' <+: u.chars ∧
    repeatsMark t.chars s' = false

theorem Parted.cons (h : Parted segments t u) (s : List Char) : Parted (s :: segments) t u := by
  obtain ⟨before, s₁, s₂, after, rfl, hrest⟩ := h
  exact ⟨s :: before, s₁, s₂, after, rfl, hrest⟩

/-- Of the tokens that segments are made into, two that touch are parted; the same holds if the
last segment before them, with which a token ends, is counted in. -/
theorem parted_ofSegments (hne : ∀ s ∈ segments, s ≠ []) :
    (∀ o, (ofSegments none o segments).Pairwise fun t u => t.stop = u.start → Parted segments t u) ∧
    ∀ s last, s ≠ [] → s <:+ last.chars → (ofSegments (some last) last.stop segments).Pairwise
      fun t u => t.stop = u.start → Parted (s :: segments) t u := by
  induction segments with
  | nil => exact ⟨fun o => .nil, fun s last _ _ => List.pairwise_singleton _ _⟩
  | cons s segments ih =>
      obtain ⟨hs, hne⟩ := List.forall_mem_cons.mp hne
      obtain ⟨ihnone, ihsome⟩ := ih hne
      refine ⟨fun o => ?_, fun s₀ last hs₀ hsuffix => ?_⟩
      · cases hblank : s.all Text.isSpace with
        | true =>
            rw [ofSegments, if_pos hblank]
            exact (ihnone _).imp fun h htouch => (h htouch).cons s
        | false =>
            rw [ofSegments_none_begins hblank]
            exact ihsome s ⟨s, o⟩ hs (List.suffix_refl s)
      · cases hblank : s.all Text.isSpace with
        | true =>
            rw [ofSegments_some_blank hs hblank]
            refine .cons (fun u hu htouch => ?_) ?_
            · -- The blank takes a byte.
              have hle := ((grouped_ofSegments hne).1 _).le_start hu
              have hpos := byteLength_pos_of_ne_nil hs
              omega
            · exact (ihnone _).imp fun h htouch => ((h htouch).cons s).cons s₀
        | false =>
            cases hrepeats : repeatsMark last.chars s with
            | true =>
                rw [ofSegments_some_repeats hblank hrepeats]
                refine (ihsome s (last.grow s) hs ?_).imp fun h htouch => (h htouch).cons s₀
                exact List.suffix_append _ _
            | false =>
                rw [ofSegments_some_other hblank hrepeats]
                refine .cons (fun u hu htouch => ?_) ?_
                · have hprefix := prefix_of_start_eq hne hs hu htouch.symm
                  exact ⟨[], s₀, s, segments, rfl, hsuffix, hprefix, hrepeats⟩
                · refine (ihsome s ⟨s, last.stop⟩ hs (List.suffix_refl s)).imp fun h htouch => ?_
                  exact (h htouch).cons s₀

/-- Two tokens of a sentence that touch are parted. -/
theorem parted_of_touch {sentence : String} (ht : t ∈ tokenize sentence)
    (hu : u ∈ tokenize sentence) (htouch : t.stop = u.start) :
    Parted (Text.segments sentence.toList) t u := by
  have hne := (Text.cuts_segments sentence.toList).2
  have hlossless := ((grouped_ofSegments hne).1 0).lossless
  let parts (a b : Token) : Prop := a.stop = b.start → Parted (Text.segments sentence.toList) a b
  -- Later tokens do not end where earlier ones start, nor does a token end where it starts.
  have hpairs : (tokenize sentence).Pairwise fun a b => parts a b ∧ parts b a := by
    refine ((parted_ofSegments hne).1 0).imp₂ (fun a b hparts hordered => ⟨hparts, ?_⟩)
      hlossless.ordered
    intro htouch
    have hle : b.start ≤ b.stop := Nat.le_add_right _ _
    omega
  have hself (a : Token) (ha : a ∈ tokenize sentence) : parts a a := by
    intro htouch
    have hchars : a.chars ≠ [] := by
      intro hnil
      have hblank := hlossless.not_blank a ha
      rw [hnil] at hblank
      cases hblank
    have hpos := byteLength_pos_of_ne_nil hchars
    unfold stop at htouch
    omega
  have : Std.Symm fun a b => parts a b ∧ parts b a := ⟨fun a b h => h.symm⟩
  have hall := List.Pairwise.forall_of_forall (fun a ha => ⟨hself a ha, hself a ha⟩) hpairs
  exact (hall ht hu).1 htouch

/-! ## Marks that come apart -/

/-- The token repeats a mark. -/
def Repeats (mark : Char) (t : Token) : Prop := ∀ c ∈ t.chars, c = mark

/-- Some sentence has two tokens that touch and repeat the same mark. -/
def ComesApart (mark : Char) : Prop :=
  ∃ sentence, ∃ t ∈ tokenize sentence, ∃ u ∈ tokenize sentence,
    t.stop = u.start ∧ t.Repeats mark ∧ u.Repeats mark

theorem repeatsMark_singleton (halphanumeric : Text.isAlphanumeric mark = false)
    (hspace : Text.isSpace mark = false) (ht : t.Repeats mark) :
    repeatsMark t.chars [mark] = true := by
  have hall : t.chars.all (· == mark) = true :=
    List.all_eq_true.mpr fun c hc => beq_iff_eq.mpr (ht c hc)
  simp [repeatsMark, halphanumeric, hspace, hall]

/-- Tokens that touch do not repeat the same mark if it is not half of a flag. -/
theorem not_comesApart (halphanumeric : Text.isAlphanumeric mark = false)
    (hspace : Text.isSpace mark = false) (hkind : Text.WordClass.of mark ≠ .regional) :
    ¬ComesApart mark := by
  rintro ⟨sentence, t, ht, u, hu, htouch, htmark, humark⟩
  obtain ⟨before, s, s', after, hsegments, hends, hbegins, hother⟩ := parted_of_touch ht hu htouch
  have hone := Text.length_eq_one_of_runs hkind hsegments
    (fun c hc => htmark c (hends.subset hc)) fun c hc => humark c (hbegins.subset hc)
  -- So the second token begins with the mark alone, which the first one would have taken in.
  obtain ⟨c, rfl⟩ := List.length_eq_one_iff.mp hone
  obtain rfl : c = mark := humark c (hbegins.subset List.mem_cons_self)
  rw [repeatsMark_singleton halphanumeric hspace htmark] at hother
  cases hother

theorem regional_iff : Text.WordClass.of mark = .regional ↔
    0x1F1E6 ≤ mark.toNat ∧ mark.toNat ≤ 0x1F1FF := by
  unfold Text.WordClass.of
  simp only [beq_iff_eq, Bool.or_eq_true, Bool.and_eq_true, decide_eq_true_eq]
  constructor
  · intro h
    simp only [ite_eq_iff, reduceCtorEq, and_false, false_or, or_false, and_true] at h
    exact h.2.2.2.2.2.2
  · intro h
    rw [if_neg (by omega), if_neg (by omega), if_neg (by omega), if_neg (by omega),
      if_neg (by omega), if_neg (by omega), if_pos h]

/-- Four halves of flags are two segments. -/
theorem segments_flags (hkind : Text.WordClass.of mark = .regional) :
    Text.segments [mark, mark, mark, mark] = [[mark, mark], [mark, mark]] := by
  have hfour : Text.segmentLength [mark, mark, mark, mark] = 2 := Text.segmentLength_flags hkind 2
  have htwo : Text.segmentLength [mark, mark] = 2 := Text.segmentLength_flags hkind 0
  simp [Text.segments, Text.segmentsWithin, hfour, htwo]

theorem tokenize_flags (hspace : Text.isSpace mark = false)
    (hkind : Text.WordClass.of mark = .regional) :
    tokenize (String.ofList [mark, mark, mark, mark]) =
      [⟨[mark, mark], 0⟩, ⟨[mark, mark], stop ⟨[mark, mark], 0⟩⟩] := by
  rw [tokenize, String.toList_ofList, ofChars, segments_flags hkind]
  simp [ofSegments, repeatsMark, hspace, stop]

/-- The marks whose repeats come apart in some sentence are exactly the halves of flags: all
others stay together in every sentence. -/
theorem comesApart_iff (mark : Char) (halphanumeric : Text.isAlphanumeric mark = false)
    (hspace : Text.isSpace mark = false) :
    ComesApart mark ↔ 0x1F1E6 ≤ mark.toNat ∧ mark.toNat ≤ 0x1F1FF := by
  rw [← regional_iff]
  constructor
  · intro happart
    by_contra hkind
    exact not_comesApart halphanumeric hspace hkind happart
  · intro hkind
    have htokens := tokenize_flags hspace hkind
    refine ⟨String.ofList [mark, mark, mark, mark], ⟨[mark, mark], 0⟩, ?_,
      ⟨[mark, mark], stop ⟨[mark, mark], 0⟩⟩, ?_, rfl, ?_, ?_⟩
    · rw [htokens]
      exact List.mem_cons_self
    · rw [htokens]
      exact List.mem_cons_of_mem _ List.mem_cons_self
    · simp [Repeats]
    · simp [Repeats]

/-- Stops stay together in every sentence. -/
theorem comesApart_iff_stop : Text.isAlphanumeric '.' = false ∧ Text.isSpace '.' = false ∧
    ¬ComesApart '.' := by
  have halphanumeric : Text.isAlphanumeric '.' = false := by decide +kernel
  have hspace : Text.isSpace '.' = false := by decide
  refine ⟨halphanumeric, hspace, ?_⟩
  rw [comesApart_iff '.' halphanumeric hspace]
  decide

/-- Two flags, each of them twice the same half, are two tokens that touch. -/
theorem comesApart_flags : Text.isAlphanumeric '🇦' = false ∧ Text.isSpace '🇦' = false ∧
    tokenize "🇦🇦🇦🇦" = [⟨['🇦', '🇦'], 0⟩, ⟨['🇦', '🇦'], 8⟩] ∧ ComesApart '🇦' := by
  have htokens : tokenize "🇦🇦🇦🇦" = [⟨['🇦', '🇦'], 0⟩, ⟨['🇦', '🇦'], 8⟩] := by decide +kernel
  refine ⟨by decide +kernel, by decide, htokens, "🇦🇦🇦🇦", ⟨['🇦', '🇦'], 0⟩, ?_,
    ⟨['🇦', '🇦'], 8⟩, ?_, by decide, by simp [Repeats], by simp [Repeats]⟩
  · rw [htokens]
    exact List.mem_cons_self
  · rw [htokens]
    exact List.mem_cons_of_mem _ List.mem_cons_self

end LinkParsing.Token
