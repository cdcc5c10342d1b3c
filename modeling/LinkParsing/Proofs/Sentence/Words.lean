import LinkParsing.Pattern.Reading
import LinkParsing.Proofs.Dictionary.Contents
import LinkParsing.Proofs.Lexicon.WordPatterns
import LinkParsing.Proofs.Search.Rooting

/-!
# Words of a sentence

There are four ways to find a token, and the first of them that applies is taken (`Applies`,
`IsWordOf`).  In a complete dictionary every way that applies leads to entries with disjuncts, so a
token is refused only if none of them applies (`ofToken_ends`).

The walls are found in any case.  So it is the tokens alone that can keep a sentence from having
words (`refused_of_build`), and all words it has can be read (`isSentenceOf_of_build`).
-/

namespace LinkParsing

open Lexicon

/-- The order in which the ways to find a token are tried. -/
def WordSource.rank : WordSource → Nat
  | .wall => 0
  | .lexicon => 1
  | .lowercased => 2
  | .pattern => 3
  | .unknown => 4

namespace SentenceWord

open Dictionary (Complete)

/-! ## Ways to find a token -/

/-- This way to find a token applies, and it leads to this key. -/
inductive Applies (d : Dictionary) (first : Bool) (token : List Char) :
    WordSource → String → Prop where
  | lexicon {ws : List WordEntry} (h : d.lookup (String.ofList token) = some ws) :
      Applies d first token .lexicon (String.ofList token)
  | lowercased {ws : List WordEntry} (hfirst : first = true)
      (hlower : Text.lowercase token ≠ token)
      (h : d.lookup (String.ofList (Text.lowercase token)) = some ws) :
      Applies d first token .lowercased (String.ofList (Text.lowercase token))
  /-- By the first pattern that matches. -/
  | pattern {before after : List WordPattern} {p : WordPattern}
      (hpatterns : d.patterns = before ++ p :: after)
      (hbefore : ∀ q ∈ before, q.isMatch token = false)
      (h : p.isMatch token = true) :
      Applies d first token .pattern (String.ofList p.name)
  | unknown {ws : List WordEntry} (h : d.lookup unknownWord = some ws) :
      Applies d first token .unknown unknownWord

/-- How a reading is shown that has been found in this way. -/
def shown (token : List Char) : WordSource → WordEntry → String
  | .pattern, _ => String.ofList token ++ "[!]"
  | .unknown, _ => String.ofList token ++ "[?]"
  | _, e => e.display

/-- The readings of a word are all disjuncts of these entries, in order. -/
def HasReadings (w : SentenceWord) (display : WordEntry → String) (ws : List WordEntry) : Prop :=
  w.candidates.toList = ws.flatMap fun e => e.disjuncts.map fun disjunct => ⟨display e, disjunct⟩

/-- A token has become a word in the first way that applies. -/
structure IsWordOf (d : Dictionary) (first : Bool) (token : List Char) (w : SentenceWord) :
    Prop where
  named : w.token = String.ofList token
  found : ∃ key ws, Applies d first token w.source key ∧ d.lookup key = some ws ∧
    w.HasReadings (shown token w.source) ws
  least : ∀ source key, Applies d first token source key → w.source.rank ≤ source.rank

/-- A word stands for a wall. -/
structure IsWallOf (d : Dictionary) (name : String) (w : SentenceWord) : Prop where
  named : w.token = name
  source : w.source = .wall
  found : ∃ ws, d.lookup name = some ws ∧ w.HasReadings WordEntry.display ws

variable {d : Dictionary} {first : Bool} {token : List Char} {source : WordSource} {key : String}
  {w : SentenceWord} {ws : List WordEntry}

/-- What a way to find a token gives. -/
def stage (d : Dictionary) (first : Bool) (token : List Char) : WordSource → Option SentenceWord
  | .wall => none
  | .lexicon => asWritten d token
  | .lowercased => if first then inLowercase d token else none
  | .pattern => byPattern d token
  | .unknown => asUnknown d token

/-- In a complete dictionary a way that applies leads to entries. -/
theorem Applies.exists_lookup (hd : Complete d) (h : Applies d first token source key) :
    ∃ ws, d.lookup key = some ws := by
  cases h with
  | lexicon h => exact ⟨_, h⟩
  | lowercased hfirst hlower h => exact ⟨_, h⟩
  | pattern hpatterns hbefore h => exact hd.patterns _ (by simp [hpatterns])
  | unknown h => exact ⟨_, h⟩

/-- How readings are shown that have been found in this way, if not as the lexicon has them. -/
def marked (token : List Char) : WordSource → Option String
  | .pattern => some (String.ofList token ++ "[!]")
  | .unknown => some (String.ofList token ++ "[?]")
  | _ => none

theorem Applies.stage_eq (h : Applies d first token source key) (hws : d.lookup key = some ws) :
    stage d first token source =
      some (ofEntries (String.ofList token) source (marked token source) ws) := by
  cases h with
  | lexicon h =>
      rw [stage, asWritten, hws]
      rfl
  | lowercased hfirst hlower h =>
      rw [stage, if_pos hfirst, inLowercase, if_neg hlower, hws]
      rfl
  | @pattern before after p hpatterns hbefore h =>
      have hname := WordPattern.classify_eq_some_iff.mpr
        ⟨before, p, after, hpatterns, hbefore, h, rfl⟩
      rw [stage, byPattern, hname, Option.bind_eq_bind, Option.bind_some, hws]
      rfl
  | unknown h =>
      rw [stage, asUnknown, hws]
      rfl

theorem exists_applies_of_stage (h : stage d first token source = some w) :
    ∃ key ws, Applies d first token source key ∧ d.lookup key = some ws ∧
      w = ofEntries (String.ofList token) source (marked token source) ws := by
  cases source with
  | wall => cases h
  | lexicon =>
      obtain ⟨ws, hws, rfl⟩ := Option.map_eq_some_iff.mp h
      exact ⟨_, ws, .lexicon hws, hws, rfl⟩
  | lowercased =>
      rw [stage, inLowercase] at h
      split at h
      next hfirst =>
        split at h
        next => cases h
        next hlower =>
          obtain ⟨ws, hws, rfl⟩ := Option.map_eq_some_iff.mp h
          exact ⟨_, ws, .lowercased hfirst hlower hws, hws, rfl⟩
      next => cases h
  | pattern =>
      obtain ⟨name, hname, hrest⟩ := Option.bind_eq_some_iff.mp h
      obtain ⟨ws, hws, hword⟩ := Option.bind_eq_some_iff.mp hrest
      obtain ⟨before, p, after, hpatterns, hbefore, hmatch, rfl⟩ :=
        WordPattern.classify_eq_some_iff.mp hname
      exact ⟨_, ws, .pattern hpatterns hbefore hmatch, hws, (Option.some.inj hword).symm⟩
  | unknown =>
      obtain ⟨ws, hws, rfl⟩ := Option.map_eq_some_iff.mp h
      exact ⟨_, ws, .unknown hws, hws, rfl⟩

theorem stage_eq_none_iff (hd : Complete d) :
    stage d first token source = none ↔ ∀ key, ¬Applies d first token source key := by
  rw [Option.eq_none_iff_forall_ne_some]
  constructor
  · intro hnone key h
    obtain ⟨ws, hws⟩ := h.exists_lookup hd
    exact hnone _ (h.stage_eq hws)
  · intro hnone w hw
    obtain ⟨key, ws, h, -⟩ := exists_applies_of_stage hw
    exact hnone key h

theorem hasReadings_ofEntries (text : String) (source : WordSource) (ws : List WordEntry) :
    (ofEntries text source (marked token source) ws).HasReadings (shown token source) ws := by
  cases source with
  | wall | lexicon | lowercased | pattern | unknown => rfl

/-! ## One token -/

theorem ofToken_eq (d : Dictionary) (token : List Char) (first : Bool) : ofToken d token first =
    match stage d first token .lexicon <|> stage d first token .lowercased <|>
      stage d first token .pattern <|> stage d first token .unknown with
    | some w => .ok w
    | none => .error (.parse (.unknownWord (String.ofList token) d.language)) := rfl

/-- Of the words that the ways to find a token give, the first one is taken. -/
theorem ofToken_of_stage (h : stage d first token source = some w)
    (hbefore : ∀ source', source'.rank < source.rank → stage d first token source' = none) :
    ofToken d token first = .ok w := by
  rw [ofToken_eq]
  cases source with
  | wall => cases h
  | lexicon => rw [h]; rfl
  | lowercased => rw [hbefore .lexicon (by decide), h]; rfl
  | pattern =>
      rw [hbefore .lexicon (by decide), hbefore .lowercased (by decide), h]
      rfl
  | unknown =>
      rw [hbefore .lexicon (by decide), hbefore .lowercased (by decide),
        hbefore .pattern (by decide), h]
      rfl

/-- A token becomes a word in the first way that applies, and is refused if none does. -/
theorem ofToken_ends (hd : Complete d) (first : Bool) (token : List Char) :
    (∃ w, ofToken d token first = .ok w ∧ IsWordOf d first token w) ∨
      (∀ source key, ¬Applies d first token source key) ∧
        ofToken d token first =
          .error (.parse (.unknownWord (String.ofList token) d.language)) := by
  by_cases hnone : ∀ source, stage d first token source = none
  · refine .inr ⟨fun source => (stage_eq_none_iff hd).mp (hnone source), ?_⟩
    rw [ofToken_eq, hnone, hnone, hnone, hnone]
    rfl
  · -- Of the ways that give a word, the one that is tried first is taken.
    push Not at hnone
    obtain ⟨source, hsource, hleast⟩ := (measure WordSource.rank).wf.has_min _ hnone
    obtain ⟨w, hw⟩ := Option.ne_none_iff_exists'.mp hsource
    have hbefore (source' : WordSource) (hlt : source'.rank < source.rank) :
        stage d first token source' = none := by
      by_contra hsome
      exact hleast source' hsome hlt
    refine .inl ⟨w, ofToken_of_stage hw hbefore, ?_⟩
    obtain ⟨key, ws, happlies, hws, rfl⟩ := exists_applies_of_stage hw
    refine ⟨rfl, ⟨key, ws, happlies, hws, hasReadings_ofEntries _ _ _⟩, fun source' key' h' => ?_⟩
    by_contra hlt
    exact (stage_eq_none_iff hd).mp (hbefore source' (Nat.not_le.mp hlt)) key' h'

/-- Where any pattern matches, there is a first one that does. -/
theorem applies_pattern_iff : (∃ key, Applies d first token .pattern key) ↔
    ∃ p ∈ d.patterns, p.isMatch token = true := by
  constructor
  · rintro ⟨key, h⟩
    cases h with
    | pattern hpatterns hbefore h => exact ⟨_, by simp [hpatterns], h⟩
  · intro hmatch
    have hsome : (d.patterns.find? (·.isMatch token)).isSome :=
      List.find?_isSome.mpr hmatch
    obtain ⟨q, hq⟩ := Option.isSome_iff_exists.mp hsome
    have hname : WordPattern.classify d.patterns token = some (String.ofList q.name) := by
      rw [WordPattern.classify, hq, Option.map_some]
    obtain ⟨before, p, after, hpatterns, hbefore, hmatch, -⟩ :=
      WordPattern.classify_eq_some_iff.mp hname
    exact ⟨_, .pattern hpatterns hbefore hmatch⟩

/-- Which tokens are found. -/
theorem exists_applies_iff : (∃ source key, Applies d first token source key) ↔
    d.lookup unknownWord ≠ none ∨ d.lookup (String.ofList token) ≠ none ∨
      (first = true ∧ Text.lowercase token ≠ token ∧
        d.lookup (String.ofList (Text.lowercase token)) ≠ none) ∨
      ∃ p ∈ d.patterns, p.isMatch token = true := by
  rw [← @applies_pattern_iff d first token]
  simp only [Option.ne_none_iff_exists']
  constructor
  · rintro ⟨source, key, h⟩
    cases h with
    | lexicon h => exact .inr (.inl ⟨_, h⟩)
    | lowercased hfirst hlower h => exact .inr (.inr (.inl ⟨hfirst, hlower, _, h⟩))
    | pattern hpatterns hbefore h =>
        exact .inr (.inr (.inr ⟨_, .pattern hpatterns hbefore h⟩))
    | unknown h => exact .inl ⟨_, h⟩
  · rintro (⟨ws, h⟩ | ⟨ws, h⟩ | ⟨hfirst, hlower, ws, h⟩ | ⟨key, h⟩)
    · exact ⟨_, _, .unknown h⟩
    · exact ⟨_, _, .lexicon h⟩
    · exact ⟨_, _, .lowercased hfirst hlower h⟩
    · exact ⟨_, key, h⟩

/-! ## All tokens -/

variable {tokens : List Token} {words : List SentenceWord} {e : Error}

theorem getElem?_ofTokens (h : ofTokens d first tokens = .ok words) :
    words.length = tokens.length ∧ ∀ i t, tokens[i]? = some t →
      ∃ w, words[i]? = some w ∧ ofToken d t.chars (first && i == 0) = .ok w := by
  induction tokens generalizing first words with
  | nil =>
      cases h
      exact ⟨rfl, nofun⟩
  | cons t tokens ih =>
      rw [ofTokens] at h
      obtain ⟨w, hw, h⟩ := bind_eq_ok_iff.mp h
      obtain ⟨others, hothers, h⟩ := bind_eq_ok_iff.mp h
      cases h
      obtain ⟨hlength, hall⟩ := ih hothers
      refine ⟨by rw [List.length_cons, List.length_cons, hlength], fun i t' ht' => ?_⟩
      cases i with
      | zero =>
          obtain rfl := Option.some.inj ht'
          exact ⟨w, rfl, by simpa using hw⟩
      | succ i => simpa using hall i t' ht'

/-- What is wrong with some token is all that can be wrong. -/
theorem exists_of_ofTokens_eq_error (h : ofTokens d first tokens = .error e) :
    ∃ i t, tokens[i]? = some t ∧ ofToken d t.chars (first && i == 0) = .error e := by
  induction tokens generalizing first with
  | nil => cases h
  | cons t tokens ih =>
      rw [ofTokens] at h
      rcases bind_eq_error_iff.mp h with h | ⟨w, -, h⟩
      · exact ⟨0, t, rfl, by simpa using h⟩
      · rcases bind_eq_error_iff.mp h with h | ⟨others, -, h⟩
        · obtain ⟨i, t', ht', h⟩ := ih h
          exact ⟨i + 1, t', ht', by simpa using h⟩
        · cases h

/-- The walls are put around the words of the tokens. -/
theorem build_eq (hleft : d.lookup leftWall = some ws) (tokens : List Token) :
    build d tokens = (ofTokens d true tokens).map fun words =>
      (ofEntries leftWall .wall none ws :: words ++
        ((d.lookup rightWall).map (ofEntries rightWall .wall none)).toList).toArray := by
  have hhas : d.hasRightWall = (d.lookup rightWall).isSome :=
    Std.HashMap.contains_eq_isSome_getElem?
  rw [build, wall, hleft]
  cases hwords : ofTokens d true tokens with
  | error e => rfl
  | ok words =>
      cases hright : d.lookup rightWall with
      | none => simp [hhas, hright, bind, Except.bind, Except.map, pure, Except.pure]
      | some ws' => simp [hhas, hright, wall, bind, Except.bind, Except.map, pure, Except.pure]

/-! ## The words of a sentence -/

/-- The left wall, the tokens in order, and the right wall if there is one, all with readings; and
the sentence can begin. -/
structure IsSentenceOf (d : Dictionary) (tokens : List Token) (s : Sentence) : Prop where
  size : s.size = tokens.length + 1 + if (d.lookup rightWall).isSome then 1 else 0
  first : ∃ w, s[0]? = some w ∧ IsWallOf d leftWall w
  word : ∀ i t, tokens[i]? = some t → ∃ w, s[i + 1]? = some w ∧ IsWordOf d (i == 0) t.chars w
  last : (d.lookup rightWall).isSome → ∃ w, s[tokens.length + 1]? = some w ∧ IsWallOf d rightWall w
  candidates : ∀ w ∈ s, w.candidates ≠ #[]
  root : ∃ w c, s[0]? = some w ∧ c ∈ w.candidates ∧ c.disjunct.left = []

variable {s : Sentence}

theorem HasReadings.ne_empty {display : WordEntry → String} (h : w.HasReadings display ws)
    (hws : ws ≠ []) (hdisjuncts : ∀ e ∈ ws, e.disjuncts ≠ []) : w.candidates ≠ #[] := by
  obtain ⟨e, ws, rfl⟩ := List.exists_cons_of_ne_nil hws
  obtain ⟨disjunct, others, hfirst⟩ := List.exists_cons_of_ne_nil (hdisjuncts e List.mem_cons_self)
  intro hnone
  rw [HasReadings, hnone, List.flatMap_cons, hfirst] at h
  cases h

theorem isWallOf_ofEntries {name : String} (h : d.lookup name = some ws) :
    IsWallOf d name (ofEntries name .wall none ws) :=
  ⟨rfl, rfl, ws, h, rfl⟩

theorem IsWallOf.ne_empty (hd : Complete d) {name : String} (h : IsWallOf d name w) :
    w.candidates ≠ #[] := by
  obtain ⟨ws, hws, hreadings⟩ := h.found
  exact hreadings.ne_empty (hd.entries name ws hws) (hd.disjuncts name ws hws)

theorem IsWordOf.ne_empty (hd : Complete d) (h : IsWordOf d first token w) :
    w.candidates ≠ #[] := by
  obtain ⟨key, ws, -, hws, hreadings⟩ := h.found
  exact hreadings.ne_empty (hd.entries key ws hws) (hd.disjuncts key ws hws)

theorem isWordOf_of_ofToken (hd : Complete d) (h : ofToken d token first = .ok w) :
    IsWordOf d first token w := by
  rcases ofToken_ends hd first token with ⟨w', hw', hword⟩ | ⟨-, herror⟩
  · obtain rfl := Except.ok.inj (hw'.symm.trans h)
    exact hword
  · cases herror.symm.trans h

/-- Only a token that is not found in any way keeps a sentence from having words. -/
theorem refused_of_build (hd : Complete d) (h : build d tokens = .error e) :
    ∃ i t, tokens[i]? = some t ∧ (∀ source key, ¬Applies d (i == 0) t.chars source key) ∧
      e = .parse (.unknownWord t.text d.language) := by
  obtain ⟨ws, hleft, -⟩ := hd.leftWall
  rw [build_eq hleft] at h
  cases hwords : ofTokens d true tokens with
  | ok words =>
      rw [hwords] at h
      cases h
  | error e' =>
      rw [hwords] at h
      cases h
      obtain ⟨i, t, ht, herror⟩ := exists_of_ofTokens_eq_error hwords
      rw [Bool.true_and] at herror
      rcases ofToken_ends hd (i == 0) t.chars with ⟨w, hw, -⟩ | ⟨hnone, herror'⟩
      · cases hw.symm.trans herror
      · exact ⟨i, t, ht, hnone, Except.error.inj (herror.symm.trans herror')⟩

theorem isSentenceOf_of_build (hd : Complete d) (h : build d tokens = .ok s) :
    IsSentenceOf d tokens s := by
  obtain ⟨ws, hleft, e, he, disjunct, hdisjunct, hempty⟩ := hd.leftWall
  rw [build_eq hleft] at h
  obtain ⟨words, hwords, rfl⟩ := map_eq_ok_iff.mp h
  obtain ⟨hlength, htokens⟩ := getElem?_ofTokens hwords
  have hwall := isWallOf_ofEntries hleft
  have hword (i : Nat) (t : Token) (ht : tokens[i]? = some t) :
      ∃ w, words[i]? = some w ∧ IsWordOf d (i == 0) t.chars w := by
    obtain ⟨w, hw, hof⟩ := htokens i t ht
    exact ⟨w, hw, isWordOf_of_ofToken hd (by simpa using hof)⟩
  -- The left wall stands in front of the words of the tokens, so these are one place behind them.
  refine ⟨?_, ⟨_, rfl, hwall⟩, fun i t ht => ?_, fun hright => ?_, fun w hw => ?_, ?_⟩
  · cases hright : d.lookup rightWall with
    | none | some ws' => simp [hlength]
  · obtain ⟨w, hw, hisword⟩ := hword i t ht
    obtain ⟨hlt, -⟩ := List.getElem?_eq_some_iff.mp hw
    refine ⟨w, ?_, hisword⟩
    rw [List.getElem?_toArray, List.cons_append, List.getElem?_cons_succ,
      List.getElem?_append_left hlt, hw]
  · obtain ⟨ws', hws'⟩ := Option.isSome_iff_exists.mp hright
    refine ⟨_, ?_, isWallOf_ofEntries hws'⟩
    rw [List.getElem?_toArray, List.cons_append, List.getElem?_cons_succ, ← hlength,
      List.getElem?_append_right (Nat.le_refl _), hws', Nat.sub_self]
    rfl
  · rw [List.mem_toArray, List.mem_append, List.mem_cons, Option.mem_toList,
      Option.map_eq_some_iff] at hw
    rcases hw with (rfl | hw) | ⟨ws', hws', rfl⟩
    · exact hwall.ne_empty hd
    · obtain ⟨i, hi, rfl⟩ := List.getElem_of_mem hw
      obtain ⟨w, hw, hisword⟩ := hword i _ (List.getElem?_eq_getElem (hlength ▸ hi))
      rw [List.getElem?_eq_getElem hi] at hw
      obtain rfl := Option.some.inj hw
      exact hisword.ne_empty hd
    · exact (isWallOf_ofEntries hws').ne_empty hd
  · refine ⟨_, ⟨e.display, disjunct⟩, rfl, ?_, hempty⟩
    rw [ofEntries, List.mem_toArray]
    exact List.mem_flatMap.mpr ⟨e, he, List.mem_map_of_mem hdisjunct⟩

theorem IsSentenceOf.roots_ne_nil (h : IsSentenceOf d tokens s) (nulls : Nat) :
    s.roots nulls ≠ [] := by
  obtain ⟨w, c, hw, hc, hempty⟩ := h.root
  obtain ⟨i, hi, rfl⟩ := Array.getElem_of_mem hc
  have hroot : (i, Search.rootRegion s nulls i) ∈ s.roots nulls ↔ _ := Search.mem_roots
  refine List.ne_nil_of_mem (hroot.mpr ⟨?_, ?_, rfl⟩)
  · simpa [Sentence.numCandidates, hw] using hi
  · change s.leftConnectors 0 i = []
    simpa [Sentence.leftConnectors, Sentence.candidate?, hw, hi] using hempty

/-- A sentence has words just if each of its tokens is found in some way. -/
theorem exists_build_iff (hd : Complete d) : (∃ s, build d tokens = .ok s) ↔
    ∀ i t, tokens[i]? = some t → ∃ source key, Applies d (i == 0) t.chars source key := by
  constructor
  · rintro ⟨s, hs⟩ i t ht
    obtain ⟨w, -, hword⟩ := (isSentenceOf_of_build hd hs).word i t ht
    obtain ⟨key, ws, happlies, -⟩ := hword.found
    exact ⟨_, key, happlies⟩
  · intro hall
    cases hs : build d tokens with
    | ok s => exact ⟨s, rfl⟩
    | error e =>
        obtain ⟨i, t, ht, hnone, -⟩ := refused_of_build hd hs
        obtain ⟨source, key, happlies⟩ := hall i t ht
        exact absurd happlies (hnone source key)

/-- With a dictionary that has been built, a sentence has words just if each of its tokens is found
or there is an unknown word, and it is one of the tokens that is refused otherwise.  The words are
the walls and the tokens, each in the first way that applies, all with readings, and the sentence
can begin.  A token that a pattern matches is never refused or taken for the unknown word. -/
theorem build_words {compile : PatternCompiler} {language root lexicon : String}
    {patterns : Option String}
    (h : Dictionary.build compile language root lexicon patterns = .ok d) (tokens : List Token) :
    ((∃ s, build d tokens = .ok s) ↔ d.lookup unknownWord ≠ none ∨
      ∀ i t, tokens[i]? = some t → d.lookup t.text ≠ none ∨
        (i = 0 ∧ Text.lowercase t.chars ≠ t.chars ∧
          d.lookup (String.ofList (Text.lowercase t.chars)) ≠ none) ∨
        ∃ p ∈ d.patterns, p.isMatch t.chars = true) ∧
    (∀ e, build d tokens = .error e → ∃ i t, tokens[i]? = some t ∧
      (∀ source key, ¬Applies d (i == 0) t.chars source key) ∧
        e = .parse (.unknownWord t.text d.language)) ∧
    (∀ s, build d tokens = .ok s →
      IsSentenceOf d tokens s ∧ ∀ nulls, Sentence.roots s nulls ≠ []) ∧
    ∀ first token, (∃ p ∈ d.patterns, p.isMatch token = true) →
      ∃ w, ofToken d token first = .ok w ∧ w.source ≠ .unknown := by
  obtain ⟨⟨es, -, hholds⟩, -⟩ := Dictionary.build_eq_ok_iff.mp h
  have hd := hholds.complete
  refine ⟨?_, fun e he => refused_of_build hd he, fun s hs => ?_, fun first token hmatch => ?_⟩
  · rw [exists_build_iff hd]
    simp only [exists_applies_iff, beq_iff_eq]
    by_cases hunknown : d.lookup unknownWord = none
    · simp only [hunknown, ne_eq, not_true_eq_false, false_or]
      rfl
    · simp only [hunknown, ne_eq, not_false_eq_true, true_or, implies_true]
  · have hsentence := isSentenceOf_of_build hd hs
    exact ⟨hsentence, hsentence.roots_ne_nil⟩
  · obtain ⟨key, happlies⟩ := applies_pattern_iff.mpr hmatch
    rcases ofToken_ends hd first token with ⟨w, hw, hword⟩ | ⟨hnone, -⟩
    · refine ⟨w, hw, fun hunknown => ?_⟩
      have hrank := hword.least _ _ happlies
      rw [hunknown] at hrank
      exact absurd hrank (by decide)
    · exact absurd happlies (hnone _ _)

/-- A left wall and two words, of which one is the name of a pattern. -/
def numbered : List EntryContent :=
  [⟨["LEFT-WALL"], .connector ⟨['W'], [], .right, false⟩⟩,
    ⟨["a", "N"], .connector ⟨['W'], [], .left, false⟩⟩]

/-- The pattern of a single digit. -/
def digitOne : WordPattern := ⟨['N'], ['1'], (Pattern.literal ['1']).isMatch⟩

theorem compile_digitOne : Pattern.compile ['1'] = some digitOne.isMatch := by
  have hread : Pattern.readGroup 2 .none .nothing ['1'] = some (.flat (.literal ['1']), []) := by
    simp [Pattern.readGroup, Pattern.Atom.toPattern, Pattern.Flags.none]
    rfl
  have hchars : Pattern.ofChars? ['1'] = some (.literal ['1']) := by
    rw [Pattern.ofChars?, List.length_singleton, hread]
    exact if_pos (by decide +kernel)
  rw [Pattern.compile, hchars]
  rfl

theorem parse_digitOne : WordPattern.parse Pattern.compile "N:/1/;" = .ok [digitOne] := by
  have hlines : WordPattern.linesOf "N:/1/;".toList = [['N', ':', '/', '1', '/', ';']] := by
    decide +kernel
  have htrim : Text.trim ['N', ':', '/', '1', '/', ';'] = ['N', ':', '/', '1', '/', ';'] := by
    decide +kernel
  have hsplit : WordPattern.splitLine ['N', ':', '/', '1', '/', ';'] = some (['N'], ['1']) := by
    decide +kernel
  have hline : WordPattern.ofLine Pattern.compile ['N', ':', '/', '1', '/', ';'] =
      .ok (some digitOne) := by
    rw [WordPattern.ofLine, htrim]
    simp [hsplit, compile_digitOne, digitOne]
  rw [WordPattern.parse, hlines, WordPattern.ofLines, hline]
  rfl

/-- The dictionary with this pattern. -/
def numberedDictionary : Dictionary :=
  ⟨"xx", joinPath "." "xx", Dictionary.index numbered, [digitOne], none, none⟩

theorem holds_numbered :
    Dictionary.Holds Pattern.compile numbered (some "N:/1/;") numberedDictionary where
  disjuncts := by decide
  entries := rfl
  leftWall := by
    rw [Dictionary.hasLeftWall, numberedDictionary, Dictionary.getElem?_index]
    decide +kernel
  patterns := parse_digitOne
  patternEntries p hp := by
    rw [List.mem_singleton.mp hp, numberedDictionary, Std.HashMap.contains_eq_isSome_getElem?,
      Dictionary.getElem?_index]
    decide +kernel
  version := rfl
  locale := rfl

/-- A capital letter is found in small letters, but only at the start. -/
theorem build_words_numbered :
    Dictionary.build Pattern.compile "xx" "." "LEFT-WALL:W+;a N:W-;" (some "N:/1/;") =
      .ok numberedDictionary ∧
    (∃ s, build numberedDictionary [⟨['A'], 0⟩, ⟨['1'], 2⟩] = .ok s ∧
      ∀ w ∈ s, w.candidates ≠ #[]) ∧
    ∃ e, build numberedDictionary [⟨['1'], 0⟩, ⟨['A'], 2⟩] = .error e := by
  have hread : (readEntries "LEFT-WALL:W+;a N:W-;").map (·.map Entry.content) =
      .ok numbered := by decide +kernel
  obtain ⟨es, hread, hes⟩ := map_eq_ok_iff.mp hread
  have hbuild : Dictionary.build Pattern.compile "xx" "." "LEFT-WALL:W+;a N:W-;"
      (some "N:/1/;") = .ok numberedDictionary :=
    Dictionary.build_eq_ok_iff.mpr ⟨⟨es, hread, hes ▸ holds_numbered⟩, rfl, rfl⟩
  have hfound (key : String) : numberedDictionary.lookup key ≠ none ↔
      ∃ headword ∈ Dictionary.headwords numbered, lookupKey headword.1 = key :=
    Option.ne_none_iff_exists'.trans holds_numbered.exists_lookup_iff
  have hlower : Text.lowercase ['A'] = ['a'] := by decide +kernel
  refine ⟨hbuild, ?_, ?_⟩
  · obtain ⟨hiff, -, hwords, -⟩ := build_words hbuild [⟨['A'], 0⟩, ⟨['1'], 2⟩]
    have hall : ∃ s, build numberedDictionary [⟨['A'], 0⟩, ⟨['1'], 2⟩] = .ok s := by
      refine hiff.mpr (.inr fun i t ht => ?_)
      match i, ht with
      | 0, rfl =>
          have hsmall := (hfound (String.ofList ['a'])).mpr (by decide +kernel)
          exact .inr (.inl ⟨rfl, by decide +kernel, hlower ▸ hsmall⟩)
      | 1, rfl => exact .inr (.inr ⟨digitOne, List.mem_cons_self, by decide +kernel⟩)
    obtain ⟨s, hs⟩ := hall
    exact ⟨s, hs, (hwords s hs).1.candidates⟩
  · obtain ⟨hiff, -, -, -⟩ := build_words hbuild [⟨['1'], 0⟩, ⟨['A'], 2⟩]
    cases hs : build numberedDictionary [⟨['1'], 0⟩, ⟨['A'], 2⟩] with
    | error e => exact ⟨e, rfl⟩
    | ok s =>
        rcases hiff.mp ⟨s, hs⟩ with h | h
        · exact absurd ((hfound _).mp h) (by decide +kernel)
        · rcases h 1 ⟨['A'], 2⟩ rfl with h | ⟨h, -⟩ | ⟨p, hp, h⟩
          · exact absurd ((hfound _).mp h) (by decide +kernel)
          · cases h
          · rw [List.mem_singleton.mp hp] at h
            exact absurd h (by decide +kernel)

end SentenceWord

end LinkParsing
