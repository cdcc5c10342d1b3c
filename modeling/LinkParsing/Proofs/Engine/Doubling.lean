import LinkParsing.Proofs.Dictionary.Contents
import LinkParsing.Proofs.Engine.Selection
import LinkParsing.Proofs.Formula.Costs
import LinkParsing.Proofs.Sentence.Words

/-!
# Lexicons that double costs

A lexicon of few short entries can mean costs of any size: its first name stands for a bracket,
and every further name stands twice for the one before.  In `lexicon n` the left wall has the choice
between a clause with the last name, which costs 2^n, and one that costs 1.

Such lexicons can be written (`exists_readEntries`), and names may nest deep enough for clauses that
cost more than 32 bits hold (`resolve_wall`).  As long as they hold it, a sentence of one word has
two linkages (`parse_sentence`).
-/

namespace LinkParsing

open Dictionary Lexicon

namespace Doubling

/-- The name of the formula whose cost has been doubled so many times. -/
def name (k : Nat) : String := String.ofList ('<' :: (List.replicate (k + 1) 'x' ++ ['>']))

/-- What a name stands for. -/
def body : Nat → Formula
  | 0 => .cost .empty
  | k + 1 => .and [.macroRef (name k), .macroRef (name k)]

def rightward (head : Char) : Connector := ⟨[head], [], .right, false⟩

def leftward (head : Char) : Connector := ⟨[head], [], .left, false⟩

/-- A wall that links either by a clause as dear as `f` or by one that costs 1. -/
def wallFormula (f : Formula) : Formula :=
  .or [.and [f, .connector (rightward 'W')], .cost (.connector (rightward 'V'))]

def wordFormula : Formula := .or [.connector (leftward 'W'), .connector (leftward 'V')]

/-- The entries that define the first `n` names. -/
def definitions (n : Nat) : List EntryContent :=
  (List.range n).map fun k => ⟨[name k], body k⟩

/-- A wall with a clause that costs 2^n, and a word. -/
def lexicon (n : Nat) : List EntryContent :=
  definitions (n + 1) ++
    [⟨["LEFT-WALL"], wallFormula (.macroRef (name n))⟩, ⟨["a"], wordFormula⟩]

variable {k n : Nat}

/-! ## Names -/

theorem delimited_name (k : Nat) : Delimited '<' '>' isMacroChar (name k).toList := by
  refine ⟨List.replicate (k + 1) 'x', by simp, List.all_eq_true.mpr fun c hc => ?_, by simp [name]⟩
  rw [List.eq_of_mem_replicate hc]
  decide

theorem isMacroName_name (k : Nat) : isMacroName (name k) = true := by
  rw [isMacroName, name, String.toList_ofList, ← List.cons_append, List.getLast?_append]
  rfl

theorem name_inj : name k = name n ↔ k = n := by
  refine ⟨fun h => ?_, congrArg name⟩
  have hlength := congrArg (fun s => s.toList.length) h
  simpa [name] using hlength

theorem ne_name {word : String} (h : word.toList[1]? ≠ some 'x') (k : Nat) : word ≠ name k := by
  rintro rfl
  exact h (by simp [name, List.replicate_succ])

/-- An entry of another word defines no name. -/
theorem not_defines {word other : String} (h : word ≠ other) (f : Formula) :
    EntryContent.defines ⟨[other], f⟩ word = false := by
  simp [EntryContent.defines, h]

theorem getLast?_definitions (h : k < n) :
    ((definitions n).filter (·.defines (name k))).getLast? = some ⟨[name k], body k⟩ := by
  -- A name is defined once, so either the last entry has it or the ones before do.
  induction n with
  | zero => exact absurd h (Nat.not_lt_zero k)
  | succ n ih =>
      rw [definitions, List.range_succ, List.map_append, List.filter_append, ← definitions,
        List.map_singleton]
      rcases Nat.lt_succ_iff_lt_or_eq.mp h with hlt | rfl
      · have hother : EntryContent.defines ⟨[name n], body n⟩ (name k) = false :=
          not_defines (mt name_inj.mp (Nat.ne_of_lt hlt)) _
        rw [List.filter_cons_of_neg (by simp [hother]), List.filter_nil, List.append_nil]
        exact ih hlt
      · have hself : EntryContent.defines ⟨[name k], body k⟩ (name k) = true := by
          simp [EntryContent.defines, isMacroName_name]
        rw [List.filter_cons, if_pos hself, List.filter_nil, List.getLast?_concat]

theorem lastDefinition_name (h : k ≤ n) : lastDefinition (lexicon n) (name k) = some (body k) := by
  have hother (word : String) (hword : isMacroName word = false) : name k ≠ word := by
    rintro rfl
    exact absurd (isMacroName_name k) (by simp [hword])
  have hwall := not_defines (hother "LEFT-WALL" (by decide)) (wallFormula (.macroRef (name n)))
  have hword := not_defines (hother "a" (by decide)) wordFormula
  rw [lastDefinition, lexicon, List.filter_append, List.filter_cons_of_neg (by simp [hwall]),
    List.filter_cons_of_neg (by simp [hword]), List.filter_nil, List.append_nil,
    getLast?_definitions (Nat.lt_succ_of_le h), Option.map_some]

theorem lastDefinition_eq_none {word : String} (hname : ∀ k, word ≠ name k)
    (hwall : word ≠ "LEFT-WALL") (hword : word ≠ "a") : lastDefinition (lexicon n) word = none := by
  have hnone : (lexicon n).filter (·.defines word) = [] := by
    rw [List.filter_eq_nil_iff, lexicon, definitions, List.forall_mem_append]
    refine ⟨List.forall_mem_map.mpr fun k _ => ?_, ?_⟩
    · simp [not_defines (hname k)]
    · simp [not_defines hwall, not_defines hword]
  rw [lastDefinition, hnone]
  rfl

/-! ## Formulas -/

theorem writable_body : (k : Nat) → WritableFormula (body k)
  | 0 => .cost .empty
  | k + 1 => .and (Nat.le_refl 2) (by simpa using .macroRef (delimited_name k))

theorem writable_lexicon (n : Nat) : ∀ c ∈ lexicon n, c.Writable := by
  have hconnector {c : Connector} (hc : c.WellFormed) : WritableFormula (.connector c) :=
    .connector hc
  have hdear : WritableFormula (.and [.macroRef (name n), .connector (rightward 'W')]) :=
    .and (Nat.le_refl 2) (by simpa using ⟨.macroRef (delimited_name n), hconnector (by decide)⟩)
  have hwall : WritableFormula (wallFormula (.macroRef (name n))) :=
    .or (Nat.le_refl 2) (by simpa using ⟨hdear, .cost (hconnector (by decide))⟩)
  have hword : WritableFormula wordFormula :=
    .or (Nat.le_refl 2) (by simpa using ⟨hconnector (by decide), hconnector (by decide)⟩)
  rw [lexicon, definitions, List.forall_mem_append]
  refine ⟨List.forall_mem_map.mpr fun k _ => ?_, ?_⟩
  · exact ⟨by simp, by simp [name], by simp [name], writable_body k⟩
  · simpa using ⟨⟨by simp, by simp, by simp, hwall⟩, ⟨by simp, by simp, by simp, hword⟩⟩

/-- The lexicon can be written. -/
theorem exists_readEntries (n : Nat) :
    ∃ text es, readEntries text = .ok es ∧ es.map Entry.content = lexicon n := by
  obtain ⟨_, g, t, lss, hg, hlss, ht, rfl⟩ := exists_prints (lexicon n)
  obtain ⟨es, hes, htext⟩ := entriesText_of_laidOut (writable_lexicon n) hlss ht hg 0
  refine ⟨String.ofList (g ++ t), es, ?_, hes⟩
  rw [readEntries, String.toList_ofList]
  exact entriesOfChars_eq_ok_iff.mpr htext

theorem resolve_wall (h : n < maxMacroDepth) :
    (wallFormula (.macroRef (name n))).resolve (lastDefinition (lexicon n)) =
      .ok (wallFormula (.tower n)) := by
  have htower : Formula.resolveWithin (lastDefinition (lexicon n)) (63 + 1) (.macroRef (name n)) =
      .ok (.tower n) :=
    Formula.resolveWithin_tower (lastDefinition_name (Nat.zero_le n))
      (fun k hk => lastDefinition_name hk) h
  -- One step of replacement for the name is the same whether it stands alone or in the formula.
  rw [Formula.resolveWithin, Formula.substitute] at htower
  change Formula.resolveWithin _ (63 + 1) _ = _
  rw [wallFormula, Formula.resolveWithin]
  simp only [Formula.substitute, Formula.substituteAll, htower]
  rfl

theorem exactClauses_wall (n : Nat) : (wallFormula (.tower n)).exactClauses =
    [⟨[rightward 'W'], 2 ^ n⟩, ⟨[rightward 'V'], 1⟩] := by
  simp [wallFormula, Formula.exactClauses, Formula.exactClausesOfAny, Formula.exactClausesOfAll,
    Formula.exactClauses_tower, ExactClause.products, ExactClause.append, ExactClause.raise,
    ExactClause.nothing]

theorem dearest_wall (n : Nat) : (wallFormula (.tower n)).dearest = 2 ^ n := by
  have hpos : 1 ≤ 2 ^ n := Nat.one_le_two_pow
  simp [wallFormula, Formula.dearest, Formula.dearestOfAny, Formula.dearestOfAll,
    Formula.dearest_tower, hpos]

theorem expand_wall (n : Nat) : (wallFormula (.tower n)).expand =
    .ok [⟨[], [rightward 'W'], .ofNat (2 ^ n)⟩, ⟨[], [rightward 'V'], 1⟩] := by
  have hdear : (Formula.and [.tower n, .connector (rightward 'W')]).OrsFilled :=
    .and (by simpa using ⟨Formula.orsFilled_tower n, .connector _⟩)
  have hfilled : (wallFormula (.tower n)).OrsFilled :=
    .or (List.cons_ne_nil _ _) (by simpa using ⟨hdear, .cost (.connector _)⟩)
  have hfree : (wallFormula (.tower n)).macroFree = true := by
    simp [wallFormula, Formula.macroFree, Formula.macroFreeAll, Formula.macroFree_tower]
  rw [hfilled.expand_eq hfree, ← Formula.length_exactClauses, exactClauses_wall,
    if_neg (by simp [maxDisjuncts])]
  rfl

theorem disjunctsGiven_wall (h : n < maxMacroDepth) :
    disjunctsGiven (lastDefinition (lexicon n)) (wallFormula (.macroRef (name n))) =
      [⟨[], [rightward 'W'], .ofNat (2 ^ n)⟩, ⟨[], [rightward 'V'], 1⟩] := by
  rw [disjunctsGiven, resolve_wall h]
  dsimp only
  rw [expand_wall]

theorem disjunctsGiven_word (definition : String → Option Formula) :
    disjunctsGiven definition wordFormula =
      [⟨[leftward 'W'], [], 0⟩, ⟨[leftward 'V'], [], 0⟩] := rfl

/-! ## The dictionary -/

theorem headwords_lexicon (n : Nat) : headwords (lexicon n) =
    [("LEFT-WALL", wallFormula (.macroRef (name n))), ("a", wordFormula)] := by
  have hnone : headwords (definitions (n + 1)) = [] := by
    simp [headwords, definitions, EntryContent.headwords, isMacroName_name]
  rw [headwords] at hnone
  rw [headwords, lexicon, List.flatMap_append, hnone]
  rfl

/-- What the wall is found with if the dear clause is kept at this cost. -/
def wallEntries (cost : Cost) : List WordEntry :=
  [⟨"LEFT-WALL", [⟨[], [rightward 'W'], cost⟩, ⟨[], [rightward 'V'], 1⟩]⟩]

def wordEntries : List WordEntry :=
  [⟨"a", [⟨[leftward 'W'], [], 0⟩, ⟨[leftward 'V'], [], 0⟩]⟩]

/-- The dictionary of the lexicon. -/
def dictionary (n : Nat) : Dictionary :=
  ⟨"xx", joinPath "<memory>" "xx", index (lexicon n), [], none, none⟩

theorem lookup_dictionary (n : Nat) (key : String) : (dictionary n).lookup key =
    Option.guard (· ≠ []) ((([("LEFT-WALL", wallFormula (.macroRef (name n))),
      ("a", wordFormula)]).filter (lookupKey ·.1 = key)).map
        (entryOf (lastDefinition (lexicon n)))) := by
  rw [← headwords_lexicon, ← getElem?_index]
  rfl

theorem lookupKey_leftWall : lookupKey "LEFT-WALL" = "LEFT-WALL" := by decide

theorem lookupKey_word : lookupKey "a" = "a" := by decide

theorem lookup_leftWall (h : n < maxMacroDepth) :
    (dictionary n).lookup "LEFT-WALL" = some (wallEntries (.ofNat (2 ^ n))) := by
  simp [lookup_dictionary, lookupKey_leftWall, lookupKey_word, entryOf, disjunctsGiven_wall h,
    wallEntries]

theorem lookup_word (n : Nat) : (dictionary n).lookup "a" = some wordEntries := by
  simp [lookup_dictionary, lookupKey_leftWall, lookupKey_word, entryOf, disjunctsGiven_word,
    wordEntries]

theorem lookup_rightWall (n : Nat) : (dictionary n).lookup "RIGHT-WALL" = none := by
  simp [lookup_dictionary, lookupKey_leftWall, lookupKey_word, Option.guard]

theorem holds_dictionary {compile : PatternCompiler} (h : n < maxMacroDepth) :
    Holds compile (lexicon n) none (dictionary n) where
  disjuncts := by
    rw [headwords_lexicon, List.forall_mem_cons, List.forall_mem_singleton, disjunctsGiven_wall h,
      disjunctsGiven_word]
    exact ⟨List.cons_ne_nil _ _, List.cons_ne_nil _ _⟩
  entries := rfl
  leftWall := by
    have hwall : (dictionary n).entries[leftWall]? = some (wallEntries (.ofNat (2 ^ n))) :=
      lookup_leftWall h
    rw [hasLeftWall, hwall]
    rfl
  patterns := rfl
  patternEntries := nofun
  version := by
    rw [lastDefinition_eq_none (ne_name (by decide)) (by decide) (by decide)]
    rfl
  locale := by
    rw [lastDefinition_eq_none (ne_name (by decide)) (by decide) (by decide)]
    rfl

/-! ## A sentence -/

open Engine Search

/-- The wall and the word. -/
def sentence (cost : Cost) : Sentence :=
  #[.ofEntries "LEFT-WALL" .wall none (wallEntries cost), .ofEntries "a" .lexicon none wordEntries]

theorem tokenize_a : Token.tokenize "a" = [⟨['a'], 0⟩] := by decide +kernel

theorem build_sentence (h : n < maxMacroDepth) :
    SentenceWord.build (dictionary n) (Token.tokenize "a") = .ok (sentence (.ofNat (2 ^ n))) := by
  have hleft : (dictionary n).lookup leftWall = some (wallEntries (.ofNat (2 ^ n))) :=
    lookup_leftWall h
  have hword : (dictionary n).lookup (String.ofList ['a']) = some wordEntries := lookup_word n
  have hright : (dictionary n).lookup rightWall = none := lookup_rightWall n
  rw [SentenceWord.build_eq hleft, tokenize_a, hright]
  simp [SentenceWord.ofTokens, SentenceWord.ofToken, SentenceWord.asWritten, hword, bind,
    Except.bind, pure, Except.pure]
  rfl

/-- A parse that may leave out no words keeps the linkages of this sentence. -/
theorem parse_sentence (entropy : Sampling.Generator) (h : n < maxMacroDepth)
    (hfound : plainLinkages (sentence (.ofNat (2 ^ n))) 0 = 2) :
    parseSentence entropy (dictionary n) "a" .default =
      .ok (outcomeAt (sentence (.ofNat (2 ^ n))) 100 0) := by
  have hnone : min Options.default.maxNullCount.toNat (Token.tokenize "a").length = 0 :=
    Nat.zero_min _
  have hleast : leastNulls (sentence (.ofNat (2 ^ n))) 0 = some 0 := by
    simp [leastNulls, hasLinkages, hfound]
  rw [parseSentence, parseTimed_eq_unlimitedParse _ _ _ _ rfl rfl,
    unlimitedParse_of_build (by simp [tokenize_a]) (build_sentence h), hnone, hleast]
  rfl

theorem plainLinkages_two : plainLinkages (sentence 2) 0 = 2 := by decide +kernel

end Doubling

end LinkParsing
