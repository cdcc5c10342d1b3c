import LinkParsing.Proofs.Sentence.Tokens

/-!
# Runs of one character

Where a text repeats a character, the segments between its word boundaries either part all of the
repeats or none of them (`parted_or_kept`).  Only halves of flags are different: they are taken two
at a time.

So behind a segment that is a run of a character, a further segment of the same character is that
character alone (`length_eq_one_of_runs`).
-/

namespace LinkParsing.Text

variable {state : SegmentState} {taken sure least n : Nat} {joined plain : Bool} {c : Char}
  {rest text s t : List Char} {before after : List (List Char)} {count : Nat}

/-! ## Going on with a segment -/

theorem continueSegment_next {next : SegmentState} (hc : (WordClass.of c).attaches = false)
    (hnext : state.next? plain (.of c) = some next) :
    continueSegment state taken sure false plain (c :: rest) =
      continueSegment next (taken + 1) (if next.isTentative then taken else sure) false plain
        rest := by
  rw [continueSegment]
  simp only [hc, Bool.false_and, Bool.false_eq_true, if_false, hnext]

theorem continueSegment_stop (hc : (WordClass.of c).attaches = false)
    (hnext : state.next? plain (.of c) = none) :
    continueSegment state taken sure false plain (c :: rest) =
      if state.isTentative then sure else taken := by
  rw [continueSegment]
  simp only [hc, Bool.false_and, Bool.false_eq_true, if_false, hnext]

/-- A segment does not get shorter than what belongs to it in any case. -/
theorem le_continueSegment (htaken : least ≤ taken)
    (hsure : state.isTentative = true → least ≤ sure) :
    least ≤ continueSegment state taken sure joined plain text := by
  induction text generalizing state taken sure joined plain with
  | nil =>
      rw [continueSegment]
      split
      next htentative => exact hsure htentative
      next => exact htaken
  | cons c rest ih =>
      have hlonger : least ≤ taken + 1 := Nat.le_succ_of_le htaken
      rw [continueSegment]
      split
      next => exact ih hlonger hsure
      next =>
        split
        next => exact ih hlonger nofun
        next =>
          split
          next next _ =>
            -- Behind a tentative character, all that was taken before it is sure.
            refine ih hlonger fun htentative => ?_
            rwa [if_pos htentative]
          next =>
            split
            next htentative => exact hsure htentative
            next => exact htaken

theorem le_continueSegment_of_not_tentative (hstate : state.isTentative = false) :
    taken ≤ continueSegment state taken sure joined plain text :=
  le_continueSegment (Nat.le_refl taken) fun h => absurd h (ne_true_of_eq_false hstate)

/-- A segment takes all repeats of a character that attaches itself. -/
theorem le_continueSegment_of_attaches (hstate : state.isTentative = false)
    (hc : (WordClass.of c).attaches = true) :
    taken + n ≤ continueSegment state taken sure joined plain (List.replicate n c ++ rest) := by
  induction n generalizing taken joined plain with
  | zero => exact le_continueSegment_of_not_tentative hstate
  | succ n ih =>
      rw [List.replicate_succ, List.cons_append, continueSegment, if_pos hc, Nat.add_succ,
        ← Nat.succ_add]
      exact ih

/-- A segment takes all repeats of a character that leaves its state as it is. -/
theorem le_continueSegment_of_next (hstate : state.isTentative = false)
    (hc : (WordClass.of c).attaches = false) (hnext : state.next? plain (.of c) = some state) :
    taken + n ≤ continueSegment state taken sure false plain (List.replicate n c ++ rest) := by
  induction n generalizing taken sure with
  | zero => exact le_continueSegment_of_not_tentative hstate
  | succ n ih =>
      rw [List.replicate_succ, List.cons_append, continueSegment_next hc hnext, Nat.add_succ,
        ← Nat.succ_add]
      exact ih

/-! ## The first segment of a run -/

/-- A character that can be continued leads to a state that another one like it leaves as it is,
unless it attaches itself or is half of a flag. -/
theorem SegmentState.stays_of_ofFirst? {kind : WordClass}
    (h : SegmentState.ofFirst? kind = some state) (hkind : kind ≠ .regional) :
    state.isTentative = false ∧ (kind.attaches = true ∨
      kind.attaches = false ∧ (kind == .joiner) = false ∧ state.next? true kind = some state) := by
  cases kind <;> simp_all [SegmentState.ofFirst?] <;> subst h <;> decide

theorem segmentLength_of_first (h : SegmentState.ofFirst? (.of c) = some state)
    (rest : List Char) : segmentLength (c :: rest) =
      continueSegment state 1 0 (WordClass.of c == .joiner) true rest := by
  unfold segmentLength
  cases hkind : WordClass.of c <;> simp_all [SegmentState.ofFirst?]

theorem segmentLength_of_attaches (hfirst : SegmentState.ofFirst? (.of c) = none)
    (hc : (WordClass.of c).attaches = true) (d : Char) (rest : List Char) :
    segmentLength (c :: d :: rest) =
      if (WordClass.of d).attaches then continueSegment .mark 1 0 false false (d :: rest)
      else 1 := by
  unfold segmentLength
  cases hkind : WordClass.of c <;> simp_all [SegmentState.ofFirst?, WordClass.attaches]

/-- A character that is not continued is parted from another one like it. -/
theorem segmentLength_parted (hfirst : SegmentState.ofFirst? (.of c) = none)
    (hc : (WordClass.of c).attaches = false) (rest : List Char) :
    segmentLength (c :: c :: rest) = 1 := by
  have hreturn : WordClass.of c = .carriageReturn → c ≠ '\n' := by
    rintro hkind rfl
    exact absurd hkind (by decide +kernel)
  unfold segmentLength
  cases hkind : WordClass.of c <;> simp_all [SegmentState.ofFirst?, WordClass.attaches]

/-- The first segment of a text has all repeats of a character that it begins with. -/
theorem le_segmentLength_of_first (hkind : WordClass.of c ≠ .regional)
    (hfirst : SegmentState.ofFirst? (.of c) = some state) (n : Nat) (rest : List Char) :
    n ≤ segmentLength (List.replicate n c ++ rest) := by
  cases n with
  | zero => exact Nat.zero_le _
  | succ n =>
      rw [List.replicate_succ, List.cons_append, segmentLength_of_first hfirst, Nat.add_comm]
      obtain ⟨hstate, hattaches | ⟨hattaches, hjoiner, hnext⟩⟩ :=
        SegmentState.stays_of_ofFirst? hfirst hkind
      · exact le_continueSegment_of_attaches hstate hattaches
      · rw [hjoiner]
        exact le_continueSegment_of_next hstate hattaches hnext

theorem le_segmentLength_of_attaches (hfirst : SegmentState.ofFirst? (.of c) = none)
    (hc : (WordClass.of c).attaches = true) (n : Nat) (rest : List Char) :
    n + 2 ≤ segmentLength (List.replicate (n + 2) c ++ rest) := by
  rw [List.replicate_succ, List.replicate_succ, List.cons_append, List.cons_append,
    segmentLength_of_attaches hfirst hc, if_pos hc, ← List.cons_append, ← List.replicate_succ,
    Nat.add_comm n 2, Nat.add_comm n 1, Nat.add_assoc 1 1 n]
  exact le_continueSegment_of_attaches rfl hc

/-- Halves of flags are taken two at a time. -/
theorem segmentLength_flags (hkind : WordClass.of c = .regional) (n : Nat) :
    segmentLength (List.replicate (n + 2) c) = 2 := by
  have hfirst : SegmentState.ofFirst? (.of c) = some .halfFlag := by rw [hkind]; rfl
  have hattaches : (WordClass.of c).attaches = false := by rw [hkind]; rfl
  have hjoiner : (WordClass.of c == .joiner) = false := by rw [hkind]; rfl
  have hsecond : SegmentState.next? true .halfFlag (.of c) = some .flag := by rw [hkind]; rfl
  have hthird : SegmentState.next? true .flag (.of c) = none := by rw [hkind]; rfl
  rw [List.replicate_succ, List.replicate_succ, segmentLength_of_first hfirst, hjoiner,
    continueSegment_next hattaches hsecond]
  cases n with
  | zero => rfl
  | succ n =>
      rw [List.replicate_succ, continueSegment_stop hattaches hthird]
      rfl

/-- Repeats of a character are parted everywhere or, as far as a segment goes that begins with
two of them, nowhere. -/
theorem parted_or_kept (hkind : WordClass.of c ≠ .regional) :
    (∀ rest, segmentLength (c :: c :: rest) = 1) ∨
      ∀ n rest, n + 2 ≤ segmentLength (List.replicate (n + 2) c ++ rest) := by
  cases hfirst : SegmentState.ofFirst? (.of c) with
  | some state => exact .inr fun n rest => le_segmentLength_of_first hkind hfirst (n + 2) rest
  | none =>
      cases hattaches : (WordClass.of c).attaches with
      | true => exact .inr (le_segmentLength_of_attaches hfirst hattaches)
      | false => exact .inl (segmentLength_parted hfirst hattaches)

/-! ## Segments that follow each other -/

theorem segmentsWithin_eq_cons (hcount : text.length ≤ count)
    (h : segmentsWithin count text = s :: after) :
    ∃ fewer, s = text.take (max 1 (segmentLength text)) ∧
      (text.drop (max 1 (segmentLength text))).length ≤ fewer ∧
      segmentsWithin fewer (text.drop (max 1 (segmentLength text))) = after := by
  cases count with
  | zero => cases h
  | succ count =>
      cases text with
      | nil => cases h
      | cons c rest =>
          simp only [segmentsWithin] at h
          obtain ⟨hs, hafter⟩ := List.cons.inj h
          refine ⟨count, hs.symm, ?_, hafter⟩
          rw [List.length_cons] at hcount
          rw [List.length_drop, List.length_cons]
          omega

/-- A segment has the length that scanning the text from its start on gives. -/
theorem length_of_segments_eq (h : segments text = before ++ s :: after) :
    s.length = min (max 1 (segmentLength (s ++ after.flatten))) (s ++ after.flatten).length := by
  suffices hwithin : ∀ count, text.length ≤ count →
      segmentsWithin count text = before ++ s :: after →
      s.length = min (max 1 (segmentLength (s ++ after.flatten))) (s ++ after.flatten).length from
    hwithin text.length (Nat.le_refl _) h
  clear h
  intro count hcount h
  induction before generalizing count text with
  | nil =>
      have htext : s ++ after.flatten = text := by
        rw [← List.flatten_cons, ← (cuts_segmentsWithin hcount).1, h, List.nil_append]
      obtain ⟨_, hs, -, -⟩ := segmentsWithin_eq_cons hcount h
      rw [htext, hs, List.length_take]
  | cons first before ih =>
      obtain ⟨fewer, -, hfewer, hrest⟩ := segmentsWithin_eq_cons hcount h
      exact ih fewer hfewer hrest

/-- Behind a segment that is a run of a character, a segment that is a run of the same character
has no repeats of it, but for halves of flags. -/
theorem length_eq_one_of_runs (hkind : WordClass.of c ≠ .regional)
    (h : segments text = before ++ s :: t :: after) (hs : ∀ d ∈ s, d = c) (ht : ∀ d ∈ t, d = c) :
    t.length = 1 := by
  have hcuts := (cuts_segments text).2
  rw [h] at hcuts
  have hs_pos : 0 < s.length := List.length_pos_of_ne_nil (hcuts s (by simp))
  have ht_pos : 0 < t.length := List.length_pos_of_ne_nil (hcuts t (by simp))
  by_contra hone
  -- There are two repeats in the second segment, so the first one could not end before them.
  obtain ⟨n, hn⟩ : ∃ n, t.length = n + 2 := ⟨t.length - 2, by omega⟩
  obtain ⟨m, hm⟩ : ∃ m, s.length + t.length = m + 2 := ⟨s.length + t.length - 2, by omega⟩
  have hs_run : s = List.replicate s.length c := List.eq_replicate_of_mem hs
  have ht_run : t = List.replicate (n + 2) c := hn ▸ List.eq_replicate_of_mem ht
  have hst_run : s ++ t = List.replicate (m + 2) c := by
    rw [hs_run, ht_run, List.replicate_append_replicate, ← hn, hm]
  have hs_length := length_of_segments_eq h
  have hbehind : segments text = (before ++ [s]) ++ t :: after := by
    rw [h, List.append_assoc, List.singleton_append]
  have ht_length := length_of_segments_eq hbehind
  rw [List.flatten_cons, ← List.append_assoc] at hs_length
  rcases parted_or_kept hkind with hparted | hkept
  · rw [ht_run, List.replicate_succ, List.replicate_succ, List.cons_append, List.cons_append,
      hparted] at ht_length
    simp at ht_length
  · have hkeeps := hkept m after.flatten
    rw [← hst_run] at hkeeps
    rw [List.length_append, List.length_append] at hs_length
    omega

end LinkParsing.Text
