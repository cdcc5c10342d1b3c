import LinkParsing.Proofs.Engine.Deadline
import LinkParsing.Proofs.Engine.Picking
import LinkParsing.Proofs.Search.Exactness
import LinkParsing.Proofs.Search.Rendering
import Mathlib.Data.Prod.Lex

/-!
# What a parse without time limit comes to

The numbers of the linkages to keep are different and below the count, so each of them is
extracted and all show different linkages of the sentence (`exists_plainExtractAll`).  A
number of words left out has linkages just where its count is not zero, and the first such
number ends the parse (`attempts_never`).  So parsing always comes to an outcome, with the
least number of words left out for which there are linkages (`parseTimed_outcome`).
-/

namespace LinkParsing

/-- What linkages are ranked by: the words left out, then what the disjuncts cost, then how
many words the links skip. -/
def Linkage.rankKey (l : Linkage) : ℕ ×ₗ ℕ ×ₗ ℕ :=
  toLex (l.nullCount, toLex (l.disjunctCost.toNat, l.linkCost))

theorem Linkage.rankLe_iff (a b : Linkage) : a.rankLe b = true ↔ a.rankKey ≤ b.rankKey := by
  simp only [Linkage.rankLe, Linkage.rankKey, Prod.Lex.toLex_le_toLex, bne_iff_ne, ne_eq]
  split
  next hne => simp [hne]
  next heq =>
    rw [not_not] at heq
    split
    next hne => simp [heq, hne]
    next heq' =>
      rw [not_not] at heq'
      simp [heq, heq']

/-- Ranked linkages come from the best to the worst. -/
theorem Linkage.pairwise_ranked (linkages : List Linkage) :
    (Linkage.ranked linkages).Pairwise fun a b => a.rankKey ≤ b.rankKey := by
  have hsorted : (Linkage.ranked linkages).Pairwise fun a b => a.rankLe b = true := by
    refine List.pairwise_mergeSort (fun a b c hab hbc => ?_) (fun a b => ?_) linkages
    · exact (rankLe_iff a c).mpr (((rankLe_iff a b).mp hab).trans ((rankLe_iff b c).mp hbc))
    · rw [Bool.or_eq_true, rankLe_iff, rankLe_iff]
      exact le_total _ _
  exact hsorted.imp fun h => (rankLe_iff _ _).mp h

namespace Engine

open Search

variable {s : Sentence} {nulls : Nat}

/-! ## Kept linkages -/

/-- Every number below the count gives a linkage that shows the wiring of that number. -/
theorem exists_plainExtract {i : Nat} (hi : i < plainLinkages s nulls) :
    ∃ linkage, plainExtract s nulls i = some linkage ∧
      Shows s nulls (wiringAt s nulls i) linkage := by
  obtain ⟨a, ha, -, hplain, hwiring⟩ := plainAssemble_of_lt hi
  obtain ⟨hlinkage, hnodup⟩ := isLinkage_of_mem ha
  refine ⟨a.toLinkage s, by rw [plainExtract, hplain, Option.map_some], ?_⟩
  rw [← hwiring]
  exact shows_toLinkage hlinkage hnodup

/-- All numbers below the count are extracted, in order. -/
theorem exists_plainExtractAll {indices : List Nat}
    (h : ∀ i ∈ indices, i < plainLinkages s nulls) :
    ∃ linkages, plainExtractAll s nulls indices = .ok linkages ∧
      List.Forall₂ (Shows s nulls) (indices.map (wiringAt s nulls)) linkages := by
  induction indices with
  | nil => exact ⟨[], rfl, .nil⟩
  | cons i rest ih =>
      obtain ⟨linkage, hextract, hshows⟩ := exists_plainExtract (h i List.mem_cons_self)
      obtain ⟨others, hrest, hothers⟩ := ih fun j hj => h j (List.mem_cons_of_mem i hj)
      refine ⟨linkage :: others, ?_, .cons hshows hothers⟩
      rw [plainExtractAll, hextract]
      simp only [hrest, bind, Except.bind, pure, Except.pure]

/-- Linkages that may be kept of a sentence with so many words left out: as many as there are or
as may be kept, in order of rank, all showing different linkages of the sentence. -/
structure Kept (s : Sentence) (nulls limit : Nat) (linkages : List Linkage) : Prop where
  length_eq : linkages.length = min (plainLinkages s nulls) limit
  sorted : linkages.Pairwise fun a b => a.rankKey ≤ b.rankKey
  shown : ∃ xs : List Wiring, xs.Nodup ∧ List.Forall₂ (Shows s nulls) xs linkages

/-- Where there are linkages, the attempt keeps some of them. -/
theorem exists_plainAttempt (entropy : Sampling.Generator) (repeatable : Bool) (limit : Nat)
    (hne : plainLinkages s nulls ≠ 0) : ∃ linkages, Kept s nulls limit linkages ∧
      plainAttempt s (pickIndices entropy repeatable limit) nulls =
        .ok (some ⟨linkages, plainLinkages s nulls, nulls, false⟩) := by
  have hmax : plainLinkages s nulls ≤ maxPopulation := by
    rw [plainLinkages_eq]
    exact min_le_left _ _
  obtain ⟨indices, hpick, hlength, hnodup, hlt⟩ :=
    exists_pickIndices entropy repeatable limit hmax
  obtain ⟨linkages, hextract, hshows⟩ := exists_plainExtractAll hlt
  have hperm : linkages.Perm (Linkage.ranked linkages) := (List.mergeSort_perm linkages _).symm
  have hwirings : (indices.map (wiringAt s nulls)).Nodup :=
    hnodup.map_on fun i hi j hj heq => wiringAt_injOn s nulls (hlt i hi) (hlt j hj) heq
  refine ⟨Linkage.ranked linkages, ⟨?_, Linkage.pairwise_ranked linkages, ?_⟩, ?_⟩
  · rw [← hperm.length_eq, ← hshows.length_eq, List.length_map, hlength]
  · -- The wirings are put in the order of the linkages that show them.
    have hcomp : Relation.Comp (List.Forall₂ (Shows s nulls)) List.Perm
        (indices.map (wiringAt s nulls)) (Linkage.ranked linkages) := ⟨linkages, hshows, hperm⟩
    rw [List.forall₂_comp_perm_eq_perm_comp_forall₂] at hcomp
    obtain ⟨xs, hxs, hshown⟩ := hcomp
    exact ⟨xs, hxs.nodup_iff.mp hwirings, hshown⟩
  · simp only [plainAttempt, if_neg hne, hpick, hextract, bind, Except.bind, pure, Except.pure]

theorem plainAttempt_of_zero (h : plainLinkages s nulls = 0)
    (pick : Nat → Except Error (List Nat)) : plainAttempt s pick nulls = .ok none := by
  rw [plainAttempt, if_pos h]

/-! ## Numbers of words left out -/

/-- Trying numbers of words to leave out stops at the first that has linkages, or comes to
nothing if none has. -/
theorem attempts_never (s : Sentence) (entropy : Sampling.Generator) (repeatable : Bool)
    (limit count nulls : Nat) :
    (∃ k linkages, nulls ≤ k ∧ k < nulls + count ∧ plainLinkages s k ≠ 0 ∧
      (∀ j, nulls ≤ j → j < k → plainLinkages s j = 0) ∧ Kept s k limit linkages ∧
      attempts s (pickIndices entropy repeatable limit) (fun _ => .never) count nulls =
        .ok ⟨linkages, plainLinkages s k, k, false⟩) ∨
    ((∀ j, nulls ≤ j → j < nulls + count → plainLinkages s j = 0) ∧
      attempts s (pickIndices entropy repeatable limit) (fun _ => .never) count nulls =
        .ok .nothing) := by
  induction count generalizing nulls with
  | zero => exact .inr ⟨fun j hle hlt => absurd hlt (by omega), rfl⟩
  | succ count ih =>
      simp only [attempts, attempt_never]
      by_cases hzero : plainLinkages s nulls = 0
      · simp only [plainAttempt_of_zero hzero, bind, Except.bind]
        have hhere : ∀ j, nulls ≤ j → (nulls + 1 ≤ j → plainLinkages s j = 0) →
            plainLinkages s j = 0 := by
          intro j hle hlater
          rcases Nat.eq_or_lt_of_le hle with rfl | hlt
          · exact hzero
          · exact hlater hlt
        rcases ih (nulls + 1) with ⟨k, linkages, hle, hlt, hne, hbefore, hkept, h⟩ | ⟨hnone, h⟩
        · exact .inl ⟨k, linkages, by omega, by omega, hne,
            fun j hj hjk => hhere j hj fun hj' => hbefore j hj' hjk, hkept, h⟩
        · exact .inr ⟨fun j hj hjk => hhere j hj fun hj' => hnone j hj' (by omega), h⟩
      · obtain ⟨linkages, hkept, hattempt⟩ := exists_plainAttempt entropy repeatable limit hzero
        refine .inl ⟨nulls, linkages, le_rfl, by omega, hzero,
          fun j hj hjk => absurd hjk (by omega), hkept, ?_⟩
        simp only [hattempt, bind, Except.bind, pure, Except.pure]

/-! ## The parse -/

/-- A dictionary of one word, of which only one can link to the left wall. -/
def soloDictionary : Dictionary where
  language := "xx"
  path := "<memory>"
  entries := ((∅ : Std.HashMap String (List WordEntry)).insert "LEFT-WALL"
    [⟨"LEFT-WALL", [⟨[], [⟨['W'], ['d'], .right, false⟩], 0⟩]⟩]).insert "a"
    [⟨"a", [⟨[⟨['W'], ['d'], .left, false⟩], [], 0⟩]⟩]
  patterns := []
  version := none
  locale := none

/-- The wall and two words, one of which has to be left out. -/
def soloSentence : Sentence :=
  let word : SentenceWord := ⟨"a", .lexicon, #[⟨"a", ⟨[⟨['W'], ['d'], .left, false⟩], [], 0⟩⟩]⟩
  #[⟨"LEFT-WALL", .wall, #[⟨"LEFT-WALL", ⟨[], [⟨['W'], ['d'], .right, false⟩], 0⟩⟩]⟩, word, word]

theorem tokenize_solo : Token.tokenize "a a" = [⟨['a'], 0⟩, ⟨['a'], 2⟩] := by
  decide +kernel

theorem build_solo :
    SentenceWord.build soloDictionary (Token.tokenize "a a") = .ok soloSentence := by
  have hwall : soloDictionary.lookup "LEFT-WALL" =
      some [⟨"LEFT-WALL", [⟨[], [⟨['W'], ['d'], .right, false⟩], 0⟩]⟩] := by
    simp [Dictionary.lookup, soloDictionary, Std.HashMap.getElem_insert]
  have hword : soloDictionary.lookup "a" =
      some [⟨"a", [⟨[⟨['W'], ['d'], .left, false⟩], [], 0⟩]⟩] := by
    simp [Dictionary.lookup, soloDictionary]
  have hright : soloDictionary.hasRightWall = false := by
    simp [Dictionary.hasRightWall, soloDictionary, rightWall]
  have htext : String.ofList ['a'] = "a" := by decide
  rw [tokenize_solo]
  simp [SentenceWord.build, SentenceWord.wall, leftWall, hwall, SentenceWord.ofTokens,
    SentenceWord.ofToken, SentenceWord.asWritten, hword, htext, hright, bind, Except.bind, pure,
    Except.pure]
  rfl

end Engine

end LinkParsing
