import LinkParsing.Pattern.Reading
import LinkParsing.Proofs.Engine.Doubling
import Mathlib.Algebra.Order.BigOperators.Group.List

/-!
# Costs of linkages in 32 bits

A linkage adds up the costs of its words, and the sum is kept just if it is less than 2^32
(`keeps_disjunctCost_iff`).  A sum that is kept is exact, so linkages whose costs are kept are
ranked by what they cost (`rankKey_eq_exactKey`).

The words of a linkage that a parse gives cost what the disjuncts chosen for them cost, and these
come from the formulas of the lexicon (`word_of_shows`).  Where the dearest clauses of these
formulas are cheap enough for the length of the sentence, all costs are kept (`costs_exact`).
-/

namespace LinkParsing

/-! ## Sums in 32 bits -/

namespace Linkage

variable {l : Linkage} {ls : List Linkage} {n : Nat}

/-- What the words of a linkage cost together. -/
def exactCost (l : Linkage) : Nat := (l.words.map fun w => w.cost.toNat).sum

/-- What linkages ought to be ranked by: the words left out, what the words cost together, and how
many words the links skip. -/
def exactKey (l : Linkage) : ℕ ×ₗ ℕ ×ₗ ℕ := toLex (l.nullCount, toLex (l.exactCost, l.linkCost))

theorem disjunctCost_eq_ofNat (h : ∀ w ∈ l.words, w.cost ≠ .overflow) :
    l.disjunctCost = .ofNat l.exactCost := by
  have hsum := Cost.foldl_add_eq_ofNat (List.forall_mem_map.mpr h) 0
  rw [List.map_map, Nat.zero_add] at hsum
  exact hsum

/-- A linkage costs what its words cost together, just if they have costs and this is less than
2^32. -/
theorem keeps_disjunctCost_iff : l.disjunctCost.Keeps n ↔
    (∀ w ∈ l.words, w.cost ≠ .overflow) ∧ n = l.exactCost ∧ l.exactCost < 2 ^ 32 := by
  by_cases h : ∀ w ∈ l.words, w.cost ≠ .overflow
  · rw [disjunctCost_eq_ofNat h, Cost.keeps_ofNat_iff, and_iff_right h]
  · push Not at h
    obtain ⟨w, hw, hcost⟩ := h
    have hsum : l.disjunctCost = .overflow :=
      Cost.foldl_add_eq_overflow (List.mem_map.mpr ⟨w, hw, hcost⟩) 0
    rw [hsum, Cost.keeps_iff]
    exact ⟨fun h => absurd rfl h.1, fun h => absurd hcost (h.1 w hw)⟩

theorem toNat_disjunctCost (h : l.disjunctCost ≠ .overflow) :
    l.disjunctCost.toNat = l.exactCost :=
  (keeps_disjunctCost_iff.mp (Cost.keeps_iff.mpr ⟨h, rfl⟩)).2.1

theorem rankKey_eq_exactKey (h : l.disjunctCost ≠ .overflow) : l.rankKey = l.exactKey := by
  rw [rankKey, exactKey, toNat_disjunctCost h]

/-- Linkages in order of their ranks are in order of their exact costs if these are all kept. -/
theorem pairwise_exactKey (h : ls.Pairwise fun a b => a.rankKey ≤ b.rankKey)
    (hkept : ∀ l ∈ ls, l.disjunctCost ≠ .overflow) :
    ls.Pairwise fun a b => a.exactKey ≤ b.exactKey :=
  h.imp_of_mem fun ha hb hle => by
    rwa [← rankKey_eq_exactKey (hkept _ ha), ← rankKey_eq_exactKey (hkept _ hb)]

end Linkage

/-! ## Parses -/

namespace Engine

open Dictionary Lexicon Search

variable {compile : PatternCompiler} {cs : List EntryContent} {patterns : Option String}
  {d : Dictionary} {s : Sentence} {tokens : List Token} {sentence : String} {options : Options}
  {clocks : Nat → Clock} {entropy : Sampling.Generator} {repeatable : Bool} {o : ParseOutcome}

/-- A parse gives linkages in order of their ranks, each of which shows a wiring of the sentence. -/
structure Ranked (d : Dictionary) (sentence : String) (o : ParseOutcome) : Prop where
  sorted : o.linkages.Pairwise fun a b => a.rankKey ≤ b.rankKey
  shown : ∀ l ∈ o.linkages, ∃ s x, SentenceWord.build d (Token.tokenize sentence) = .ok s ∧
    Shows s o.nullCount x l

theorem ranked_of_linkages_eq_nil (h : o.linkages = []) : Ranked d sentence o :=
  ⟨h ▸ .nil, fun _ hl => absurd (h ▸ hl) List.not_mem_nil⟩

theorem ranked_of_attempts {limit count : Nat}
    (hs : SentenceWord.build d (Token.tokenize sentence) = .ok s)
    (h : attempts s (pickIndices entropy repeatable limit) clocks count 0 = .ok o) :
    Ranked d sentence o := by
  rcases attempts_eq_or_expired s (pickIndices entropy repeatable limit) clocks count 0 with
    heq | ⟨k, q, -, hexpired⟩
  · rw [heq] at h
    rcases attempts_never s entropy repeatable limit count 0 with
      ⟨k, linkages, -, -, -, -, hkept, hok⟩ | ⟨-, hnothing⟩
    · cases hok.symm.trans h
      obtain ⟨xs, -, hshown⟩ := hkept.shown
      refine ⟨hkept.sorted, fun l hl => ?_⟩
      obtain ⟨i, hi, rfl⟩ := List.getElem_of_mem hl
      exact ⟨s, _, hs, hshown.get (hshown.length_eq.symm ▸ hi) hi⟩
    · cases hnothing.symm.trans h
      exact ranked_of_linkages_eq_nil rfl
  · -- Nothing is kept where the time was up.
    cases hexpired.symm.trans h
    exact ranked_of_linkages_eq_nil rfl

theorem ranked_of_parseTimed (h : parseTimed clocks entropy d sentence options = .ok o) :
    Ranked d sentence o := by
  unfold parseTimed at h
  cases htokens : Token.tokenize sentence with
  | nil =>
      rw [htokens] at h
      cases h
      exact ranked_of_linkages_eq_nil rfl
  | cons token tokens =>
      rw [htokens] at h
      obtain ⟨s, hs, h⟩ := bind_eq_ok_iff.mp h
      exact ranked_of_attempts (htokens ▸ hs) h

/-! ## Costs from a lexicon -/

theorem exists_readings_of_build {w : SentenceWord} {i : Nat} (hd : Complete d)
    (hs : SentenceWord.build d tokens = .ok s) (hw : s[i]? = some w) :
    ∃ key ws display, d.lookup key = some ws ∧ w.HasReadings display ws := by
  have hsentence := SentenceWord.isSentenceOf_of_build hd hs
  have hwall {name : String} (h : SentenceWord.IsWallOf d name w) :
      ∃ key ws display, d.lookup key = some ws ∧ w.HasReadings display ws := by
    obtain ⟨ws, hws, hreadings⟩ := h.found
    exact ⟨_, ws, _, hws, hreadings⟩
  cases i with
  | zero =>
      obtain ⟨w', hw', hleft⟩ := hsentence.first
      obtain rfl := Option.some.inj (hw.symm.trans hw')
      exact hwall hleft
  | succ i =>
      rcases Nat.lt_or_ge i tokens.length with hi | hi
      · obtain ⟨w', hw', hword⟩ := hsentence.word i _ (List.getElem?_eq_getElem hi)
        obtain rfl := Option.some.inj (hw.symm.trans hw')
        obtain ⟨key, ws, -, hws, hreadings⟩ := hword.found
        exact ⟨key, ws, _, hws, hreadings⟩
      · -- Behind the tokens there is a word only if there is a right wall.
        have hlt : i + 1 < s.size := (Array.getElem?_eq_some_iff.mp hw).1
        rw [hsentence.size] at hlt
        split at hlt
        next hright =>
          obtain ⟨w', hw', hlast⟩ := hsentence.last hright
          obtain rfl : i = tokens.length := by omega
          obtain rfl := Option.some.inj (hw.symm.trans hw')
          exact hwall hlast
        next => omega

/-- The readings of the words of a sentence come from the formulas of the lexicon. -/
theorem exists_headword_of_build (h : Holds compile cs patterns d) {w : SentenceWord}
    {c : Candidate} {i j : Nat} (hs : SentenceWord.build d tokens = .ok s) (hw : s[i]? = some w)
    (hc : w.candidates[j]? = some c) : ∃ headword ∈ headwords cs, ∃ g ds,
      headword.2.resolve (lastDefinition cs) = .ok g ∧ g.expand = .ok ds ∧ c.disjunct ∈ ds := by
  obtain ⟨key, ws, display, hws, hreadings⟩ := exists_readings_of_build h.complete hs hw
  have hmem : c ∈ w.candidates.toList :=
    Array.mem_toList_iff.mpr (Array.mem_of_getElem? hc)
  rw [hreadings, List.mem_flatMap] at hmem
  obtain ⟨e, he, hmem⟩ := hmem
  obtain ⟨disjunct, hdisjunct, rfl⟩ := List.mem_map.mp hmem
  obtain ⟨-, rfl⟩ := h.lookup_eq_some_iff.mp hws
  obtain ⟨headword, hheadword, rfl⟩ := List.mem_map.mp he
  have hheadword := List.mem_of_mem_filter hheadword
  obtain ⟨g, hresolve, hexpand⟩ := expand_of_disjunctsGiven_ne_nil (h.disjuncts headword hheadword)
  exact ⟨headword, hheadword, g, _, hresolve, hexpand, hdisjunct⟩

/-- What a word of a linkage costs exactly: nothing if it is left out, else as much as the disjunct
chosen for it, which comes from a formula of the lexicon. -/
inductive WordCost (cs : List EntryContent) (w : LinkageWord) : Nat → Prop where
  | null (hnull : w.isNull = true) : WordCost cs w 0
  | read {headword : String × Formula} {g : Formula} {ds : List Disjunct} {disjunct : Disjunct}
      {n : Nat} (hheadword : headword ∈ headwords cs)
      (hresolve : headword.2.resolve (lastDefinition cs) = .ok g) (hexpand : g.expand = .ok ds)
      (hdisjunct : disjunct ∈ ds) (htext : w.disjunct = some disjunct.toText)
      (hcost : g.ExactCost disjunct n) : WordCost cs w n

/-- No clause of a formula of the lexicon, with its names replaced, costs more than so much. -/
def CostsAtMost (cs : List EntryContent) (bound : Nat) : Prop :=
  ∀ headword ∈ headwords cs, ∀ g, headword.2.resolve (lastDefinition cs) = .ok g →
    g.dearest ≤ bound

/-- A word of a linkage is left out, or it costs what a disjunct of the lexicon costs. -/
theorem word_of_shows (h : Holds compile cs patterns d) (hs : SentenceWord.build d tokens = .ok s)
    {nulls : Nat} {x : Wiring} {l : Linkage} (hshows : Shows s nulls x l) {w : LinkageWord}
    (hw : w ∈ l.words) : (w.isNull = true ∧ w.cost = 0) ∨
      ∃ headword ∈ headwords cs, ∃ g ds disjunct, headword.2.resolve (lastDefinition cs) = .ok g ∧
        g.expand = .ok ds ∧ disjunct ∈ ds ∧ w.disjunct = some disjunct.toText ∧
        w.cost = disjunct.cost := by
  obtain ⟨i, hi, rfl⟩ := List.getElem_of_mem hw
  have hword := List.getElem?_eq_getElem hi
  cases hreading : x.reading i with
  | none =>
      rw [hshows.words_length] at hi
      rw [hshows.null_word i _ (Array.getElem?_eq_getElem hi) hreading] at hword
      rw [← Option.some.inj hword]
      exact .inl ⟨rfl, rfl⟩
  | some c =>
      obtain ⟨word, candidate, hsource, hcandidate, hshown⟩ := hshows.read_word i c hreading
      rw [hshown] at hword
      obtain ⟨headword, hheadword, g, ds, hresolve, hexpand, hdisjunct⟩ :=
        exists_headword_of_build h hs hsource hcandidate
      rw [← Option.some.inj hword]
      exact .inr ⟨headword, hheadword, g, ds, _, hresolve, hexpand, hdisjunct, rfl, rfl⟩

section Words

variable (h : Holds compile cs patterns d) (hs : SentenceWord.build d tokens = .ok s) {nulls : Nat}
  {x : Wiring} {l : Linkage} (hshows : Shows s nulls x l)
include h hs hshows

/-- A cost of a word that is kept is what the word costs exactly. -/
theorem wordCost_of_shows {w : LinkageWord} (hw : w ∈ l.words) {n : Nat} (hn : w.cost.Keeps n) :
    WordCost cs w n := by
  rcases word_of_shows h hs hshows hw with ⟨hnull, hcost⟩ |
    ⟨headword, hheadword, g, ds, disjunct, hresolve, hexpand, hdisjunct, htext, hcost⟩
  · rw [hcost] at hn
    obtain rfl := (Cost.keeps_ofNat_iff.mp hn).1
    exact .null hnull
  · rw [hcost] at hn
    exact .read hheadword hresolve hexpand hdisjunct htext
      ((Formula.keeps_cost_iff hexpand hdisjunct).mp hn).1

variable {bound : Nat} (hbound : CostsAtMost cs bound)
include hbound

/-- No word costs more than the dearest clause. -/
theorem exists_cost_le_of_shows {w : LinkageWord} (hw : w ∈ l.words) :
    ∃ n ≤ bound, w.cost = .ofNat n := by
  rcases word_of_shows h hs hshows hw with ⟨-, hcost⟩ |
    ⟨headword, hheadword, g, ds, disjunct, hresolve, hexpand, hdisjunct, -, hcost⟩
  · exact ⟨0, Nat.zero_le bound, hcost⟩
  · obtain ⟨c, hc, -, hclause⟩ := Formula.exists_clause_of_expand hexpand hdisjunct
    have hdearest := (Formula.cost_le_dearest hc).trans (hbound headword hheadword g hresolve)
    exact ⟨c.cost, hdearest, hcost.trans hclause.symm⟩

variable (hlt : bound < 2 ^ 32)
include hlt

/-- Where no clause is too dear, the costs of all words are kept. -/
theorem keeps_of_shows {w : LinkageWord} (hw : w ∈ l.words) : ∃ n ≤ bound, w.cost.Keeps n := by
  obtain ⟨n, hn, hcost⟩ := exists_cost_le_of_shows h hs hshows hbound hw
  rw [hcost]
  exact ⟨n, hn, Cost.keeps_ofNat_iff.mpr ⟨rfl, hn.trans_lt hlt⟩⟩

/-- A linkage has at most two words more than there are tokens, and none of them costs more than
the dearest clause. -/
theorem exactCost_le_of_shows : l.exactCost ≤ (tokens.length + 2) * bound := by
  have hlength : l.words.length ≤ tokens.length + 2 := by
    rw [hshows.words_length, (SentenceWord.isSentenceOf_of_build h.complete hs).size]
    split <;> omega
  have hcosts : ∀ w ∈ l.words, w.cost.toNat ≤ bound := by
    intro w hw
    obtain ⟨n, hn, hkeeps⟩ := keeps_of_shows h hs hshows hbound hlt hw
    rwa [hkeeps.toNat_eq]
  have hsum : l.exactCost ≤ (l.words.map fun w => w.cost.toNat).length * bound :=
    List.sum_le_card_nsmul _ _ (List.forall_mem_map.mpr hcosts)
  rw [List.length_map] at hsum
  exact hsum.trans (Nat.mul_le_mul_right bound hlength)

/-- Where the sentence is short enough too, the cost of the linkage is kept. -/
theorem keeps_disjunctCost_of_shows (hshort : (tokens.length + 2) * bound < 2 ^ 32) :
    l.disjunctCost.Keeps l.exactCost := by
  refine Linkage.keeps_disjunctCost_iff.mpr ⟨fun w hw => ?_, rfl,
    (exactCost_le_of_shows h hs hshows hbound hlt).trans_lt hshort⟩
  obtain ⟨n, -, hkeeps⟩ := keeps_of_shows h hs hshows hbound hlt hw
  exact (Cost.keeps_iff.mp hkeeps).1

end Words

/-! ### Lexicons that double costs -/

section Doubling

open Doubling

variable {n : Nat}

theorem costsAtMost_lexicon (h : n < maxMacroDepth) : CostsAtMost (lexicon n) (2 ^ n) := by
  intro headword hheadword g hresolve
  rw [headwords_lexicon] at hheadword
  rcases List.mem_cons.mp hheadword with rfl | hheadword
  · cases (resolve_wall h).symm.trans hresolve
    exact Nat.le_of_eq (dearest_wall n)
  · cases List.mem_singleton.mp hheadword
    cases hresolve
    exact Nat.zero_le _

/-- The dear clause of the wall costs 2^n exactly. -/
theorem exactCost_wall (n : Nat) :
    (wallFormula (.tower n)).ExactCost ⟨[], [rightward 'W'], .ofNat (2 ^ n)⟩ (2 ^ n) := by
  rw [Formula.ExactCost, exactClauses_wall]
  refine ⟨⟨_, List.mem_cons_self, rfl, rfl⟩, ?_⟩
  rintro _ ⟨c, hc, hsides, rfl⟩
  rcases List.mem_pair.mp hc with rfl | rfl
  · exact le_rfl
  · exact absurd (List.cons.inj (Prod.mk.inj hsides).2).1 (by decide)

end Doubling

/-- A cost that is kept is exact, and a cost is kept just if it is less than 2^32: the cost of a
clause, that of a disjunct, where all clauses that become it count, and that of a linkage, which is
what its words cost together.  All clauses of a formula have their costs kept just if the dearest
one has.  Linkages whose costs are kept are ranked by the words left out, the exact costs and the
words skipped.

So whatever is parsed with whatever lexicon, the words of a linkage that have costs cost exactly
what the disjuncts chosen for them do, and linkages that have costs are ranked by them.  If no
clause of the lexicon costs too much all words have costs, and if the sentence is short enough too
all linkages have. -/
theorem costs_exact (f : Formula) (words : List LinkageWord) (links : List Link)
    (ls : List Linkage) (lexicon sentence : String) (options : Options) :
    (∀ cs, f.clauses = .ok cs → cs = f.exactClauses.map ExactClause.toClause ∧
      (∀ c ∈ f.exactClauses, ∀ n, c.toClause.cost.Keeps n ↔ n = c.cost ∧ c.cost < 2 ^ 32) ∧
      (f.OrsFilled → (f.StoresCosts ↔ f.dearest < 2 ^ 32))) ∧
    (∀ ds, f.expand = .ok ds → ∀ disjunct ∈ ds, ∀ n, disjunct.cost.Keeps n ↔
      f.ExactCost disjunct n ∧
        ∀ c ∈ f.exactClauses, c.sides = disjunct.sides → c.cost < 2 ^ 32) ∧
    (∀ n, (Linkage.ofLinks words links).disjunctCost.Keeps n ↔
      (∀ w ∈ words, w.cost ≠ .overflow) ∧ n = (words.map fun w => w.cost.toNat).sum ∧
        (words.map fun w => w.cost.toNat).sum < 2 ^ 32) ∧
    ((∀ l ∈ ls, l.disjunctCost ≠ .overflow) →
      (Linkage.ranked ls).Pairwise fun a b => a.exactKey ≤ b.exactKey) ∧
    ∀ compile language patterns d es, fromText compile language lexicon patterns = .ok d →
      readEntries lexicon = .ok es →
      ∀ clocks entropy o, parseTimed clocks entropy d sentence options = .ok o →
        (∀ l ∈ o.linkages, ∀ w ∈ l.words, ∀ n, w.cost.Keeps n →
          WordCost (es.map Entry.content) w n) ∧
        ((∀ l ∈ o.linkages, l.disjunctCost ≠ .overflow) →
          o.linkages.Pairwise fun a b => a.exactKey ≤ b.exactKey) ∧
        ∀ bound, CostsAtMost (es.map Entry.content) bound → bound < 2 ^ 32 →
          (∀ l ∈ o.linkages, ∀ w ∈ l.words, ∃ n, w.cost.Keeps n) ∧
          (((Token.tokenize sentence).length + 2) * bound < 2 ^ 32 →
            ∀ l ∈ o.linkages, l.disjunctCost.Keeps l.exactCost) := by
  refine ⟨fun cs hcs => ?_, fun ds hds disjunct hd n => Formula.keeps_cost_iff hds hd,
    fun n => Linkage.keeps_disjunctCost_iff, fun hls => ?_, ?_⟩
  · obtain ⟨hfree, hclauses⟩ := Formula.expands_of_clauses hcs
    exact ⟨hclauses, fun c _ n => Cost.keeps_ofNat_iff, fun h => h.storesCosts_iff hfree⟩
  · exact Linkage.pairwise_exactKey (Linkage.pairwise_ranked ls) fun l hl =>
      hls l ((List.mergeSort_perm ls _).mem_iff.mp hl)
  · intro compile language patterns d es hbuild hread clocks entropy o ho
    obtain ⟨⟨es', hread', hholds⟩, -⟩ := build_eq_ok_iff.mp hbuild
    obtain rfl := Except.ok.inj (hread'.symm.trans hread)
    have hranked := ranked_of_parseTimed ho
    refine ⟨fun l hl w hw n hn => ?_, Linkage.pairwise_exactKey hranked.sorted,
      fun bound hbound hlt => ⟨fun l hl w hw => ?_, fun hshort l hl => ?_⟩⟩
    · obtain ⟨s, x, hs, hshows⟩ := hranked.shown l hl
      exact wordCost_of_shows hholds hs hshows hw hn
    · obtain ⟨s, x, hs, hshows⟩ := hranked.shown l hl
      obtain ⟨n, -, hkeeps⟩ := keeps_of_shows hholds hs hshows hbound hlt hw
      exact ⟨n, hkeeps⟩
    · obtain ⟨s, x, hs, hshows⟩ := hranked.shown l hl
      exact keeps_disjunctCost_of_shows hholds hs hshows hbound hlt hshort

/-- The text of a lexicon in which costs are doubled once. -/
def doubledOnce : String := "<x>:[()];<xx>:<x>&<x>;LEFT-WALL:<xx>&W+ or [V+];a:W- or V-;"

/-- Its formulas cost at most 2, so all costs are exact, and the linkages of a sentence are ranked
by them. -/
theorem costs_exact_doubled : ∃ o,
    fromText Pattern.compile "xx" doubledOnce none = .ok (Doubling.dictionary 1) ∧
    parseSentence 0 (Doubling.dictionary 1) "a" .default = .ok o ∧ o.numFound = 2 ∧
    (∀ l ∈ o.linkages, ∀ w ∈ l.words, ∃ n, w.cost.Keeps n ∧ WordCost (Doubling.lexicon 1) w n) ∧
    (∀ l ∈ o.linkages, l.disjunctCost.Keeps l.exactCost) ∧
    o.linkages.Pairwise fun a b => a.exactKey ≤ b.exactKey := by
  have hread : (readEntries doubledOnce).map (·.map Entry.content) = .ok (Doubling.lexicon 1) := by
    decide +kernel
  obtain ⟨es, hread, hes⟩ := map_eq_ok_iff.mp hread
  have hdepth : 1 < maxMacroDepth := by decide
  have hbuild : fromText Pattern.compile "xx" doubledOnce none = .ok (Doubling.dictionary 1) :=
    build_eq_ok_iff.mpr ⟨⟨es, hread, hes ▸ Doubling.holds_dictionary hdepth⟩, rfl, rfl⟩
  have hparse := Doubling.parse_sentence 0 hdepth Doubling.plainLinkages_two
  have hbound : CostsAtMost (es.map Entry.content) 2 := hes ▸ costsAtMost_lexicon hdepth
  have hshort : ((Token.tokenize "a").length + 2) * 2 < 2 ^ 32 := by
    rw [Doubling.tokenize_a]
    decide
  obtain ⟨-, -, -, -, hexact⟩ := costs_exact .empty [] [] [] doubledOnce "a" .default
  obtain ⟨hwords, hranked, hkept⟩ := hexact _ _ _ _ es hbuild hread _ _ _ hparse
  obtain ⟨hkeeps, hsums⟩ := hkept 2 hbound (by decide)
  refine ⟨_, hbuild, hparse, Doubling.plainLinkages_two, fun l hl w hw => ?_, hsums hshort,
    hranked fun l hl => (Cost.keeps_iff.mp (hsums hshort l hl)).1⟩
  obtain ⟨n, hn⟩ := hkeeps l hl w hw
  exact ⟨n, hn, hes ▸ hwords l hl w hw n hn⟩

/-- Two words that cost 2^32 together. -/
def dearWords : List LinkageWord :=
  [⟨"a", false, false, none, 4294967295⟩, ⟨"b", false, false, none, 1⟩]

/-- Not every list of words with costs makes a linkage with a cost; and there is a lexicon with a
disjunct that costs 2^32 exactly and whose cost is not kept. -/
theorem costs_overflow :
    (¬∀ words links, (∀ w ∈ words, w.cost ≠ .overflow) →
      (Linkage.ofLinks words links).disjunctCost.Keeps (words.map fun w => w.cost.toNat).sum) ∧
    ∃ text es g ds disjunct, readEntries text = .ok es ∧
      (∃ headword ∈ headwords (es.map Entry.content),
        headword.2.resolve (lastDefinition (es.map Entry.content)) = .ok g) ∧
      g.expand = .ok ds ∧ disjunct ∈ ds ∧ g.ExactCost disjunct (2 ^ 32) ∧
      disjunct.cost = .overflow := by
  refine ⟨fun h => ?_, ?_⟩
  · have hkeeps := h dearWords [] (by decide)
    exact absurd (Linkage.keeps_disjunctCost_iff.mp hkeeps).2.2 (by decide)
  · have hdepth : 32 < maxMacroDepth := by decide
    obtain ⟨text, es, hread, hes⟩ := Doubling.exists_readEntries 32
    have hwall : ("LEFT-WALL", Doubling.wallFormula (.macroRef (Doubling.name 32))) ∈
        headwords (es.map Entry.content) := by simp [hes, Doubling.headwords_lexicon]
    exact ⟨text, es, _, _, _, hread, ⟨_, hwall, hes ▸ Doubling.resolve_wall hdepth⟩,
      Doubling.expand_wall 32, List.mem_cons_self, exactCost_wall 32,
      Cost.ofNat_eq_overflow_iff.mpr le_rfl⟩

end Engine

end LinkParsing
