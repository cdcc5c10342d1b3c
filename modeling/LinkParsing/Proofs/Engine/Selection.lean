import LinkParsing.Proofs.Engine.Outcome
import Mathlib.Data.Multiset.Filter
import Mathlib.Data.Multiset.Range

/-!
# Options only select among the linkages there are

Without time limit a parse does not look at its clocks, and without samples of its own not at the
words that the system draws.  Of the options it then reads only how many linkages may be kept and
how many words may be left out (`parseTimed_eq_unlimitedParse`).
It ends with the first number of words left out that has linkages (`attempts_eq_find`), and
keeps there the linkages of some numbers below the count, of all of them if they may be kept
(`linkages_outcomeAt`).

A higher bound on the words left out therefore finds the same first number, and what is kept
under one bound on the linkages is part of what is kept under a bound that lets all of them
through (`options_only_select`).
-/

namespace LinkParsing.Engine

open Search

variable {s : Sentence} {nulls limit found : Nat}

/-! ## Numbers to keep -/

/-- The numbers of the linkages to keep if samples are repeatable; there are none where picking
fails. -/
def keptIndices (found limit : Nat) : List Nat :=
  (pickIndices 0 true limit found).toOption.getD []

/-- Repeatable samples do not depend on the words that the system draws. -/
theorem pickIndices_repeatable (entropy : Sampling.Generator) (limit : Nat) :
    pickIndices entropy true limit = pickIndices 0 true limit := rfl

theorem pickIndices_eq_keptIndices (entropy : Sampling.Generator) (limit : Nat)
    (h : found ≤ maxPopulation) :
    pickIndices entropy true limit found = .ok (keptIndices found limit) := by
  obtain ⟨indices, hpick, -⟩ := exists_pickIndices 0 true limit h
  rw [pickIndices_repeatable, keptIndices, hpick]
  rfl

theorem keptIndices_of_le (h : found ≤ limit) : keptIndices found limit = List.range found := by
  rw [keptIndices, pickIndices, if_pos h]
  rfl

/-- Whatever may be kept, the numbers to keep are some of those below the count. -/
theorem keptIndices_le_range (h : found ≤ maxPopulation) (limit : Nat) :
    (keptIndices found limit : Multiset Nat) ≤ Multiset.range found := by
  obtain ⟨indices, hpick, -, hnodup, hlt⟩ := exists_pickIndices 0 true limit h
  rw [pickIndices_eq_keptIndices 0 limit h, Except.ok.injEq] at hpick
  rw [hpick, Multiset.le_iff_subset (Multiset.coe_nodup.mpr hnodup)]
  exact fun i hi => Multiset.mem_range.mpr (hlt i hi)

theorem plainLinkages_le_maxPopulation (s : Sentence) (nulls : Nat) :
    plainLinkages s nulls ≤ maxPopulation := by
  rw [plainLinkages_eq]
  exact min_le_left _ _

/-! ## Outcomes as a function of sentence and bounds -/

/-- The outcome for linkages that leave out exactly so many words. -/
def outcomeAt (s : Sentence) (limit nulls : Nat) : ParseOutcome :=
  ⟨Linkage.ranked ((keptIndices (plainLinkages s nulls) limit).filterMap (plainExtract s nulls)),
    plainLinkages s nulls, nulls, false⟩

@[simp] theorem numFound_outcomeAt (s : Sentence) (limit nulls : Nat) :
    (outcomeAt s limit nulls).numFound = plainLinkages s nulls := rfl

@[simp] theorem nullCount_outcomeAt (s : Sentence) (limit nulls : Nat) :
    (outcomeAt s limit nulls).nullCount = nulls := rfl

/-- Whether there are linkages that leave out exactly so many words. -/
def hasLinkages (s : Sentence) (nulls : Nat) : Bool := plainLinkages s nulls != 0

theorem plainExtractAll_eq_filterMap {indices : List Nat}
    (h : ∀ i ∈ indices, i < plainLinkages s nulls) :
    plainExtractAll s nulls indices = .ok (indices.filterMap (plainExtract s nulls)) := by
  induction indices with
  | nil => rfl
  | cons i rest ih =>
      obtain ⟨linkage, hextract, -⟩ := exists_plainExtract (h i List.mem_cons_self)
      rw [plainExtractAll, hextract, List.filterMap_cons_some hextract]
      simp only [ih fun j hj => h j (List.mem_cons_of_mem i hj), bind, Except.bind, pure,
        Except.pure]

theorem plainAttempt_eq_outcomeAt (entropy : Sampling.Generator) (limit : Nat)
    (hne : plainLinkages s nulls ≠ 0) :
    plainAttempt s (pickIndices entropy true limit) nulls =
      .ok (some (outcomeAt s limit nulls)) := by
  have hle := plainLinkages_le_maxPopulation s nulls
  have hlt : ∀ i ∈ keptIndices (plainLinkages s nulls) limit, i < plainLinkages s nulls :=
    fun i hi => Multiset.mem_range.mp (Multiset.mem_of_le (keptIndices_le_range hle limit) hi)
  simp only [plainAttempt, if_neg hne, pickIndices_eq_keptIndices entropy limit hle,
    plainExtractAll_eq_filterMap hlt, outcomeAt, bind, Except.bind, pure, Except.pure]

/-- Trying numbers of words to leave out ends with the first that has linkages. -/
theorem attempts_eq_find (s : Sentence) (entropy : Sampling.Generator) (limit count nulls : Nat) :
    attempts s (pickIndices entropy true limit) (fun _ => .never) count nulls =
      .ok (((List.range' nulls count).find? (hasLinkages s)).elim .nothing
        (outcomeAt s limit)) := by
  induction count generalizing nulls with
  | zero => rfl
  | succ count ih =>
      simp only [attempts, attempt_never]
      rw [List.range'_succ]
      by_cases hzero : plainLinkages s nulls = 0
      · have hnone : hasLinkages s nulls = false := by simp [hasLinkages, hzero]
        rw [List.find?_cons_of_neg (by simp [hnone])]
        simp only [plainAttempt_of_zero hzero, bind, Except.bind]
        exact ih (nulls + 1)
      · have hsome : hasLinkages s nulls = true := by simp [hasLinkages, hzero]
        rw [List.find?_cons_of_pos hsome]
        simp only [plainAttempt_eq_outcomeAt entropy limit hzero, bind, Except.bind, pure,
          Except.pure, Option.elim_some]

/-- The least number of words left out, up to a bound, for which there are linkages. -/
def leastNulls (s : Sentence) (bound : Nat) : Option Nat :=
  (List.range' 0 (bound + 1)).find? (hasLinkages s)

/-- A higher bound finds the same least number. -/
theorem leastNulls_of_le {bound bound' : Nat} (hle : bound ≤ bound')
    (h : leastNulls s bound = some nulls) : leastNulls s bound' = some nulls := by
  obtain ⟨further, rfl⟩ := Nat.exists_eq_add_of_le hle
  rw [leastNulls, show bound + further + 1 = bound + 1 + further by omega,
    ← List.range'_append_1, List.find?_append]
  rw [leastNulls] at h
  rw [h, Option.some_or]

/-- What parsing comes to without clocks, with repeatable samples, and without options other than
the two bounds. -/
def unlimitedParse (dict : Dictionary) (sentence : String) (maxLinkages maxNulls : Nat) :
    Except Error ParseOutcome :=
  match Token.tokenize sentence with
  | [] => .ok .nothing
  | tokens => (SentenceWord.build dict tokens).map fun words =>
    (leastNulls words (min maxNulls tokens.length)).elim .nothing (outcomeAt words maxLinkages)

/-- Without time limit and with repeatable samples only the bounds on linkages and on words left
out are read. -/
theorem parseTimed_eq_unlimitedParse (clocks : Nat → Clock) (entropy : Sampling.Generator)
    (dict : Dictionary) (sentence : String) {o : Options} (hlimit : o.parseTimeLimitSeconds = 0)
    (hrepeatable : o.repeatableRand = true) : parseTimed clocks entropy dict sentence o =
      unlimitedParse dict sentence o.maxLinkages.toNat o.maxNullCount.toNat := by
  unfold parseTimed unlimitedParse
  cases Token.tokenize sentence with
  | nil => rfl
  | cons token tokens =>
      cases hwords : SentenceWord.build dict (token :: tokens) with
      | error e => simp only [hwords, bind, Except.bind, Except.map]
      | ok words =>
          simp only [hwords, hlimit, hrepeatable, if_true, bind, Except.bind, Except.map,
            attempts_eq_find, leastNulls]

/-- A sentence with tokens whose words are found comes to the outcome for the least number of
words left out that has linkages, or to nothing. -/
theorem unlimitedParse_of_build {dict : Dictionary} {sentence : String}
    (htokens : Token.tokenize sentence ≠ [])
    (hwords : SentenceWord.build dict (Token.tokenize sentence) = .ok s) (limit bound : Nat) :
    unlimitedParse dict sentence limit bound =
      .ok ((leastNulls s (min bound (Token.tokenize sentence).length)).elim .nothing
        (outcomeAt s limit)) := by
  unfold unlimitedParse
  cases htokenize : Token.tokenize sentence with
  | nil => exact absurd htokenize htokens
  | cons token tokens =>
      rw [htokenize] at hwords
      simp only [hwords, Except.map]

/-- A parse without time limit fails as the words of the sentence do, or comes to nothing for
want of tokens, or has words. -/
theorem unlimitedParse_cases (dict : Dictionary) (sentence : String) :
    (∃ e, ∀ limit bound, unlimitedParse dict sentence limit bound = .error e) ∨
    (∀ limit bound, unlimitedParse dict sentence limit bound = .ok .nothing) ∨
    ∃ words, SentenceWord.build dict (Token.tokenize sentence) = .ok words ∧
      ∀ limit bound, unlimitedParse dict sentence limit bound =
        .ok ((leastNulls words (min bound (Token.tokenize sentence).length)).elim .nothing
          (outcomeAt words limit)) := by
  cases htokenize : Token.tokenize sentence with
  | nil =>
      right; left
      intro limit bound
      rw [unlimitedParse, htokenize]
  | cons token tokens =>
      rw [← htokenize]
      cases hwords : SentenceWord.build dict (Token.tokenize sentence) with
      | error e =>
          left
          refine ⟨e, fun limit bound => ?_⟩
          rw [htokenize] at hwords
          simp only [unlimitedParse, htokenize, hwords, Except.map]
      | ok words =>
          right; right
          exact ⟨words, rfl, unlimitedParse_of_build (by simp [htokenize]) hwords⟩

/-! ## Kept linkages under different bounds -/

/-- What is kept are the linkages of the numbers to keep. -/
theorem linkages_outcomeAt (s : Sentence) (limit nulls : Nat) :
    ((outcomeAt s limit nulls).linkages : Multiset Linkage) =
      Multiset.filterMap (plainExtract s nulls) (keptIndices (plainLinkages s nulls) limit) := by
  rw [Multiset.filterMap_coe, Multiset.coe_eq_coe]
  exact List.mergeSort_perm _ _

/-- Every linkage of the sentence that leaves out as many words as the outcome says is kept,
once for each number below the count that it is extracted for. -/
def KeepsEach (dict : Dictionary) (sentence : String) (o : ParseOutcome) : Prop :=
  ∃ linkageAt : Nat → Linkage,
    (∀ i < o.numFound, ∃ words q, SentenceWord.build dict (Token.tokenize sentence) = .ok words ∧
      extract words o.nullCount .never i .start = .ok (some (linkageAt i)) q) ∧
    (o.linkages : Multiset Linkage) = (Multiset.range o.numFound).map linkageAt

theorem keepsEach_nothing (dict : Dictionary) (sentence : String) :
    KeepsEach dict sentence .nothing :=
  ⟨fun _ => ⟨[], []⟩, fun i hi => absurd hi (Nat.not_lt_zero i), rfl⟩

/-- If all linkages may be kept, each is. -/
theorem keepsEach_outcomeAt {dict : Dictionary} {sentence : String}
    (hwords : SentenceWord.build dict (Token.tokenize sentence) = .ok s)
    (hle : plainLinkages s nulls ≤ limit) :
    KeepsEach dict sentence (outcomeAt s limit nulls) := by
  -- There is nothing to say of numbers from the count on, so any linkage will do for them.
  have hplain : ∀ i, ∃ linkage, i < plainLinkages s nulls →
      plainExtract s nulls i = some linkage := by
    intro i
    by_cases hi : i < plainLinkages s nulls
    · obtain ⟨linkage, h, -⟩ := exists_plainExtract hi
      exact ⟨linkage, fun _ => h⟩
    · exact ⟨⟨[], []⟩, fun h => absurd h hi⟩
  choose linkageAt hat using hplain
  refine ⟨linkageAt, fun i hi => ?_, ?_⟩
  · have hextract : Gives s .never (extract s nulls .never i) _ := gives_extract nulls i
    obtain ⟨q, hq⟩ := hextract.never truthful_start
    rw [hat i hi] at hq
    exact ⟨s, q, hwords, hq⟩
  · change _ = ((List.range (plainLinkages s nulls)).map linkageAt : Multiset Linkage)
    have heach : (List.range (plainLinkages s nulls)).filterMap (plainExtract s nulls) =
        (List.range (plainLinkages s nulls)).map linkageAt := by
      rw [← List.filterMap_eq_map]
      exact List.filterMap_congr fun i hi => hat i (List.mem_range.mp hi)
    rw [linkages_outcomeAt, keptIndices_of_le hle, Multiset.filterMap_coe, heach]

/-- If all linkages may be kept, what is kept under any other bound is part of them. -/
theorem linkages_outcomeAt_le (hle : plainLinkages s nulls ≤ limit) (limit' : Nat) :
    ((outcomeAt s limit' nulls).linkages : Multiset Linkage) ≤
      (outcomeAt s limit nulls).linkages := by
  rw [linkages_outcomeAt, linkages_outcomeAt]
  refine Multiset.filterMap_le_filterMap _ ?_
  rw [keptIndices_of_le hle]
  exact keptIndices_le_range (plainLinkages_le_maxPopulation s nulls) limit'

/-! ## Two parses -/

variable {dict : Dictionary} {sentence : String} {a b : ParseOutcome} {bound bound' : Nat}

theorem unlimitedParse_error_iff (limit limit' bound : Nat) (e : Error) :
    unlimitedParse dict sentence limit bound = .error e ↔
      unlimitedParse dict sentence limit' bound = .error e := by
  rcases unlimitedParse_cases dict sentence with ⟨e', h⟩ | h | ⟨words, -, h⟩
  · rw [h, h]
  · rw [h, h]
  · rw [h, h]
    exact ⟨nofun, nofun⟩

/-- Two bounds on the linkages that are kept: there are as many, with as many words left out, and
if the first bound lets all of them through the second only takes some away. -/
theorem unlimitedParse_limits {limit' : Nat} (ha : unlimitedParse dict sentence limit bound = .ok a)
    (hb : unlimitedParse dict sentence limit' bound = .ok b) :
    a.numFound = b.numFound ∧ a.nullCount = b.nullCount ∧
      (a.numFound ≤ limit →
        KeepsEach dict sentence a ∧ (b.linkages : Multiset Linkage) ≤ a.linkages) := by
  have hnothing : a = .nothing → b = .nothing → a.numFound = b.numFound ∧
      a.nullCount = b.nullCount ∧ (a.numFound ≤ limit →
        KeepsEach dict sentence a ∧ (b.linkages : Multiset Linkage) ≤ a.linkages) := by
    rintro rfl rfl
    exact ⟨rfl, rfl, fun _ => ⟨keepsEach_nothing dict sentence, le_rfl⟩⟩
  rcases unlimitedParse_cases dict sentence with ⟨e, h⟩ | h | ⟨words, hwords, h⟩
  · rw [h] at ha
    exact nomatch ha
  · rw [h, Except.ok.injEq] at ha hb
    exact hnothing ha.symm hb.symm
  · rw [h, Except.ok.injEq] at ha hb
    cases hleast : leastNulls words (min bound (Token.tokenize sentence).length) with
    | none =>
        rw [hleast] at ha hb
        exact hnothing ha.symm hb.symm
    | some k =>
        rw [hleast, Option.elim_some] at ha hb
        subst ha hb
        refine ⟨?_, ?_, fun hall => ?_⟩
        · rw [numFound_outcomeAt, numFound_outcomeAt]
        · rw [nullCount_outcomeAt, nullCount_outcomeAt]
        · rw [numFound_outcomeAt] at hall
          exact ⟨keepsEach_outcomeAt hwords hall, linkages_outcomeAt_le hall limit'⟩

/-- Two bounds on the words left out: linkages that are found under the lower one are found just
so under the higher one. -/
theorem unlimitedParse_of_bound_le (hle : bound ≤ bound')
    (ha : unlimitedParse dict sentence limit bound = .ok a) (hpos : 0 < a.numFound) :
    unlimitedParse dict sentence limit bound' = .ok a := by
  rcases unlimitedParse_cases dict sentence with ⟨e, h⟩ | h | ⟨words, -, h⟩
  · rw [h] at ha
    exact nomatch ha
  · rw [h] at ha ⊢
    exact ha
  · rw [h, Except.ok.injEq] at ha
    rw [h, ← ha]
    cases hleast : leastNulls words (min bound (Token.tokenize sentence).length) with
    | none =>
        rw [hleast] at ha
        subst ha
        exact absurd hpos (Nat.lt_irrefl 0)
    | some k => rw [leastNulls_of_le (min_le_min_right _ hle) hleast]

/-- Two parses of a sentence without time limit and with repeatable samples, each with clocks and
random words of its own.

If their options differ at most in how many linkages may be kept, they fail alike or come to
outcomes with the same number of linkages and of words left out; where one may keep all of them
it keeps each, once for each number below the count, and the other keeps a part of these.

If the options differ at most in how many words may be left out, and there are linkages within
the lower bound, the outcomes are the same.

What diagrams show makes no difference. -/
theorem options_only_select (dict : Dictionary) (sentence : String)
    (clocks clocks' : Nat → Clock) (entropy entropy' : Sampling.Generator) :
    ∀ o : Options, o.parseTimeLimitSeconds = 0 → o.repeatableRand = true →
      (∀ limit limit' : UInt64,
        (∀ e, parseTimed clocks entropy dict sentence { o with maxLinkages := limit } = .error e ↔
          parseTimed clocks' entropy' dict sentence { o with maxLinkages := limit' } = .error e) ∧
        ∀ a b, parseTimed clocks entropy dict sentence { o with maxLinkages := limit } = .ok a →
          parseTimed clocks' entropy' dict sentence { o with maxLinkages := limit' } = .ok b →
          a.numFound = b.numFound ∧ a.nullCount = b.nullCount ∧
          (a.numFound ≤ limit.toNat → KeepsEach dict sentence a ∧
            (b.linkages : Multiset Linkage) ≤ a.linkages)) ∧
      (∀ bound bound' : UInt64, bound ≤ bound' → ∀ a,
        parseTimed clocks entropy dict sentence { o with maxNullCount := bound } = .ok a →
        0 < a.numFound →
        parseTimed clocks' entropy' dict sentence { o with maxNullCount := bound' } = .ok a) ∧
      ∀ walls verbosity,
        parseTimed clocks' entropy' dict sentence
            { o with displayWalls := walls, verbosity := verbosity } =
          parseTimed clocks entropy dict sentence o := by
  intro o hlimit hrepeatable
  have hplain (clocks : Nat → Clock) (entropy : Sampling.Generator) (limit bound : UInt64)
      (walls : Bool) (verbosity : UInt32) :
      parseTimed clocks entropy dict sentence
          ⟨limit, o.parseTimeLimitSeconds, verbosity, bound, walls, o.repeatableRand⟩ =
        unlimitedParse dict sentence limit.toNat bound.toNat :=
    parseTimed_eq_unlimitedParse clocks entropy dict sentence hlimit hrepeatable
  refine ⟨fun limit limit' => ?_, fun bound bound' hle a ha hpos => ?_, fun walls verbosity => ?_⟩
  · simp only [hplain]
    exact ⟨unlimitedParse_error_iff _ _ _, fun a b ha hb => unlimitedParse_limits ha hb⟩
  · rw [hplain] at ha ⊢
    exact unlimitedParse_of_bound_le (UInt64.le_iff_toNat_le.mp hle) ha hpos
  · rw [hplain, parseTimed_eq_unlimitedParse clocks entropy dict sentence hlimit hrepeatable]

/-- Of the two linkages that leave out one of two words, one is kept if one may be kept, and a
higher bound on the words left out changes nothing. -/
theorem options_only_select_solo : ∃ a b,
    parseTimed (fun _ => .never) 0 soloDictionary "a a" ⟨2, 0, 0, 1, true, true⟩ = .ok a ∧
    parseTimed (fun _ => .passed) ⟨1, 2, 3, 4⟩ soloDictionary "a a" ⟨1, 0, 0, 1, true, true⟩ =
      .ok b ∧
    a.numFound = 2 ∧ b.numFound = 2 ∧ KeepsEach soloDictionary "a a" a ∧
    (b.linkages : Multiset Linkage) ≤ a.linkages ∧
    parseTimed (fun _ => .passed) ⟨1, 2, 3, 4⟩ soloDictionary "a a" ⟨2, 0, 0, 7, true, true⟩ =
      .ok a := by
  have htokens : min 1 (Token.tokenize "a a").length = 1 := by rw [tokenize_solo]; rfl
  have hleast : leastNulls soloSentence 1 = some 1 := by decide +kernel
  have htwo : plainLinkages soloSentence 1 = 2 := by decide +kernel
  have hplain (limit : Nat) :
      unlimitedParse soloDictionary "a a" limit 1 = .ok (outcomeAt soloSentence limit 1) := by
    rw [unlimitedParse_of_build (by rw [tokenize_solo]; exact List.cons_ne_nil _ _) build_solo,
      htokens, hleast, Option.elim_some]
  have hparse (clocks : Nat → Clock) (entropy : Sampling.Generator) (limit : UInt64) :
      parseTimed clocks entropy soloDictionary "a a" ⟨limit, 0, 0, 1, true, true⟩ =
        .ok (outcomeAt soloSentence limit.toNat 1) :=
    (parseTimed_eq_unlimitedParse clocks entropy soloDictionary "a a" rfl rfl).trans (hplain _)
  obtain ⟨hlinkages, hnulls, -⟩ := options_only_select soloDictionary "a a" (fun _ => .never)
    (fun _ => .passed) 0 ⟨1, 2, 3, 4⟩ ⟨2, 0, 0, 1, true, true⟩ rfl rfl
  obtain ⟨-, -, hkept⟩ := (hlinkages 2 1).2 _ _ (hparse _ _ 2) (hparse _ _ 1)
  have hfound (limit : Nat) : (outcomeAt soloSentence limit 1).numFound = 2 := by
    rw [numFound_outcomeAt, htwo]
  obtain ⟨heach, hpart⟩ := hkept (by rw [hfound]; decide)
  exact ⟨_, _, hparse _ _ 2, hparse _ _ 1, hfound _, hfound _, heach, hpart,
    hnulls 1 7 (by decide) _ (hparse _ _ 2) (by rw [hfound]; decide)⟩

end LinkParsing.Engine
