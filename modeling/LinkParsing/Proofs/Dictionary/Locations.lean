import LinkParsing.Proofs.Dictionary.Faults
import LinkParsing.Proofs.Lexicon.Places
import LinkParsing.Proofs.Lexicon.Slices
import LinkParsing.Proofs.Lexicon.WordPatterns

/-!
# Where the faults of a dictionary are shown

Building a dictionary goes through its sources in a fixed order: the lexicon is read, its entries
are given disjuncts one after the other, the left wall is looked for, and the file of patterns is
read.  The first thing that is wrong is the one that is reported (`Diagnosis`).

Every place that is reported lies in the text that comes with it and begins and ends between
characters: it is a point of the lexicon, the span of an entry, or a line of the patterns
(`fromText_location`).
-/

namespace LinkParsing.Dictionary

open Lexicon

variable {compile : PatternCompiler} {source : Source} {definition : String → Option Formula}
  {e : Entry} {es : List Entry} {found : Std.HashMap String (List WordEntry)} {err : Error}
  {patterns : Option String}

/-! ## Entries -/

/-- The formula of an entry has disjuncts once its names are replaced. -/
def Expands (definition : String → Option Formula) (e : Entry) : Prop :=
  ∃ g disjuncts, e.formula.resolve definition = .ok g ∧ g.expand = .ok disjuncts

/-- Why an entry has no disjuncts. -/
inductive Unusable (definition : String → Option Formula) (e : Entry) : DictionaryFault → Prop where
  | substitution {err : SubstitutionError} (h : e.formula.resolve definition = .error err) :
      Unusable definition e (.substitution err)
  | expansion {g : Formula} {err : ExpansionError} (hresolve : e.formula.resolve definition = .ok g)
      (hexpand : g.expand = .error err) : Unusable definition e (.expansion err)

/-- The entries that have words to be looked up expand. -/
def AllExpand (definition : String → Option Formula) (es : List Entry) : Prop :=
  ∀ e ∈ es, e.content.headwords ≠ [] → Expands definition e

theorem Unusable.not_expands {fault : DictionaryFault} (h : Unusable definition e fault) :
    ¬Expands definition e := by
  rintro ⟨g, disjuncts, hresolve, hexpand⟩
  cases h with
  | substitution h => cases h.symm.trans hresolve
  | expansion hresolve' hexpand' =>
      obtain rfl := Except.ok.inj (hresolve.symm.trans hresolve')
      cases hexpand.symm.trans hexpand'

theorem unusable_of_disjunctsOf (h : disjunctsOf source definition e = .error err) :
    ∃ fault, Unusable definition e fault ∧ err = source.errorAt fault e.span "in this entry" := by
  unfold disjunctsOf at h
  split at h
  next err' hresolve =>
    cases h
    exact ⟨_, .substitution hresolve, rfl⟩
  next g hresolve =>
    split at h
    next err' hexpand =>
      cases h
      exact ⟨_, .expansion hresolve hexpand, rfl⟩
    next => cases h

theorem headwords_content (e : Entry) :
    e.content.headwords = (e.words.filter fun w => !isMacroName w.text).map EntryWord.text := by
  rw [EntryContent.headwords, Entry.content, List.filter_map]
  rfl

/-- The first entry with words to be looked up that has no disjuncts is the one that is
reported. -/
theorem exists_unusable_of_addEntries
    (hdefinition : ∀ name body, definition name = some body → body.JoinsSeveral)
    (hes : ∀ e ∈ es, e.formula.JoinsSeveral)
    (h : addEntries source definition found es = .error err) :
    ∃ before e after fault, es = before ++ e :: after ∧ AllExpand definition before ∧
      e.content.headwords ≠ [] ∧ Unusable definition e fault ∧
      err = source.errorAt fault e.span "in this entry" := by
  induction es generalizing found with
  | nil => cases h
  | cons first es ih =>
      obtain ⟨hfirst, hes⟩ := List.forall_mem_cons.mp hes
      -- An entry that is got over goes before the one that is reported.
      have hgo {found : Std.HashMap String (List WordEntry)}
          (hok : first.content.headwords ≠ [] → Expands definition first)
          (h : addEntries source definition found es = .error err) :
          ∃ before e after fault, first :: es = before ++ e :: after ∧
            AllExpand definition before ∧ e.content.headwords ≠ [] ∧
            Unusable definition e fault ∧
            err = source.errorAt fault e.span "in this entry" := by
        obtain ⟨before, e, after, fault, rfl, hbefore, hrest⟩ := ih hes h
        exact ⟨first :: before, e, after, fault, rfl, List.forall_mem_cons.mpr ⟨hok, hbefore⟩,
          hrest⟩
      rw [addEntries] at h
      split at h
      next hnone =>
        refine hgo (fun hwords => absurd ?_ hwords) h
        rw [headwords_content, hnone, List.map_nil]
      next hsome =>
        rcases bind_eq_error_iff.mp h with h | ⟨disjuncts, hok, h⟩
        · obtain ⟨fault, hfault, rfl⟩ := unusable_of_disjunctsOf h
          have hnone : AllExpand definition [] := fun _ he => absurd he List.not_mem_nil
          refine ⟨[], first, es, fault, rfl, hnone, ?_, hfault, rfl⟩
          rw [headwords_content, ne_eq, List.map_eq_nil_iff]
          exact hsome
        · have hne := ne_nil_of_disjunctsOf hdefinition hfirst hok
          rw [addWords_eq_ok_iff.mpr ⟨fun _ => hne, rfl⟩] at h
          obtain ⟨g, hresolve, hexpand⟩ := disjunctsOf_eq_ok_iff.mp hok
          exact hgo (fun _ => ⟨g, disjuncts, hresolve, hexpand⟩) h

/-! ## Building -/

/-- What the errors of building are about, in the order in which they are looked for. -/
inductive Diagnosis (compile : PatternCompiler) (source : Source) (patterns : Option String) :
    Error → Prop where
  | malformed {e : SyntaxError} (h : readEntries source.lexicon = .error e) :
      Diagnosis compile source patterns (source.errorAt (.malformed e) e.span "here")
  | entry {before after : List Entry} {e : Entry} {fault : DictionaryFault}
      (hread : readEntries source.lexicon = .ok (before ++ e :: after))
      (hbefore : AllExpand (lastDefinition ((before ++ e :: after).map Entry.content)) before)
      (hwords : e.content.headwords ≠ [])
      (hfault : Unusable (lastDefinition ((before ++ e :: after).map Entry.content)) e fault) :
      Diagnosis compile source patterns (source.errorAt fault e.span "in this entry")
  | leftWall {es : List Entry} (hread : readEntries source.lexicon = .ok es)
      (hes : AllExpand (lastDefinition (es.map Entry.content)) es)
      (hwall : hasLeftWall (index (es.map Entry.content)) = false) :
      Diagnosis compile source patterns (source.errorAt .noLeftWall ⟨0, 0⟩ "dictionary starts here")
  | patterns {text : String} {e : WordPattern.LineError} (htext : patterns = some text)
      (h : WordPattern.parse compile text = .error e) :
      Diagnosis compile source patterns (source.patternErrorAt text e)
  | patternEntry {ps : List WordPattern} {p : WordPattern}
      (hparse : patternsIn compile patterns = .ok ps) (hp : p ∈ ps) :
      Diagnosis compile source patterns (.dictionary source.language source.root
        (.patternWithoutEntry (String.ofList p.name)) none)

theorem diagnosis_of_patternsOf (h : patternsOf compile source found patterns = .error err) :
    Diagnosis compile source patterns err := by
  unfold patternsOf at h
  split at h
  next => cases h
  next text =>
    split at h
    next e hparse =>
      cases h
      exact .patterns rfl hparse
    next ps hparse =>
      split at h
      next p hfind =>
        cases h
        exact .patternEntry hparse (List.mem_of_find?_eq_some hfind)
      next => cases h

theorem allExpand_of_addEntries {found' : Std.HashMap String (List WordEntry)}
    (h : addEntries source definition found es = .ok found') : AllExpand definition es := by
  intro e he hwords
  obtain ⟨word, hword⟩ := List.exists_mem_of_ne_nil _ hwords
  have hgiven : disjunctsGiven definition e.formula ≠ [] :=
    (addEntries_eq_ok_iff.mp h).1 (word, e.formula) <| List.mem_flatMap.mpr
      ⟨e.content, List.mem_map_of_mem he, List.mem_map_of_mem hword⟩
  obtain ⟨g, hresolve, hexpand⟩ := expand_of_disjunctsGiven_ne_nil hgiven
  exact ⟨g, _, hresolve, hexpand⟩

theorem diagnosis_of_build {language root lexicon : String}
    (h : build compile language root lexicon patterns = .error err) :
    Diagnosis compile ⟨language, root, lexicon⟩ patterns err := by
  unfold build at h
  cases hread : readEntries lexicon with
  | error e =>
      rw [hread] at h
      cases h
      exact .malformed hread
  | ok es =>
      rw [hread] at h
      simp only [getElem?_definitions] at h
      rcases bind_eq_error_iff.mp h with h | ⟨entries, hentries, h⟩
      · obtain ⟨before, e, after, fault, rfl, hbefore, hwords, hfault, rfl⟩ :=
          exists_unusable_of_addEntries (joinsSeveral_of_lastDefinition hread)
            (fun e he => joinsSeveral_of_readEntries hread he) h
        exact .entry hread hbefore hwords hfault
      · obtain ⟨-, rfl⟩ := addEntries_eq_ok_iff.mp hentries
        split at h
        next =>
          rcases bind_eq_error_iff.mp h with h | ⟨ps, -, h⟩
          · exact diagnosis_of_patternsOf h
          · cases h
        next hwall =>
          cases h
          exact .leftWall hread (allExpand_of_addEntries hentries) (Bool.not_eq_true _ ▸ hwall)

/-! ## Places -/

theorem within_of_readEntries {text : String} (h : readEntries text = .ok es) (he : e ∈ es) :
    e.span.Within text.toList := by
  have hentries : EntriesText 0 es text.toList := entriesOfChars_eq_ok_iff.mp h
  obtain ⟨before, t, after, htext, hentry⟩ := hentries.exists_place he
  rw [Nat.zero_add] at hentry
  rw [hentry.span_eq, htext]
  exact within_append before t after

/-- The first faulty line of a file of patterns is what its span cuts out, without the white space
behind it. -/
theorem slice?_of_parse_eq_error {text : String} {e : WordPattern.LineError}
    (h : WordPattern.parse compile text = .error e) : e.span.Within text.toList ∧
      ∃ before line after, WordPattern.linesOf text.toList = before ++ line :: after ∧
        (∀ l ∈ before, ∃ p, WordPattern.Says compile l p) ∧
        (¬∃ p, WordPattern.Says compile line p) ∧
        slice? text.toList e.span = some (Text.trimEnd line) := by
  obtain ⟨before, line, after, hlines, hbefore, hfault, hspan⟩ := WordPattern.parse_eq_error h
  obtain ⟨blanks, -, hline⟩ := Text.exists_trimEnd_append line
  have htext : text.toList =
      before.flatten ++ (Text.trimEnd line ++ (blanks ++ after.flatten)) := by
    calc text.toList
        = (before ++ line :: after).flatten := by rw [← hlines, WordPattern.flatten_linesOf]
      _ = before.flatten ++ ((Text.trimEnd line ++ blanks) ++ after.flatten) := by
          rw [← hline, List.flatten_append, List.flatten_cons]
      _ = _ := by rw [List.append_assoc]
  rw [hspan, htext]
  refine ⟨within_append _ _ _, before, line, after, ?_, hbefore, ?_, ?_⟩
  · rw [← htext, hlines]
  · rintro ⟨p, hp⟩
    cases hfault.symm.trans (WordPattern.ofLine_eq_ok_iff.mpr hp)
  · rw [← List.append_assoc]
    exact slice?_append _ _ _

/-- A place in the lexicon of a source. -/
def InLexicon (source : Source) (loc : Location) : Prop :=
  loc.file = source.language ++ "/4.0.dict" ∧ loc.source = source.lexicon

/-- The place is that of the first entry which has words to be looked up and no disjuncts. -/
def FirstUnusable (source : Source) (loc : Location) (fault : DictionaryFault) : Prop :=
  ∃ before e after, readEntries source.lexicon = .ok (before ++ e :: after) ∧ loc.span = e.span ∧
    AllExpand (lastDefinition ((before ++ e :: after).map Entry.content)) before ∧
    e.content.headwords ≠ [] ∧
    ¬Expands (lastDefinition ((before ++ e :: after).map Entry.content)) e ∧
    Unusable (lastDefinition ((before ++ e :: after).map Entry.content)) e fault

/-- What stands at the place where a fault is shown. -/
def ShownAt (compile : PatternCompiler) (source : Source) (patterns : Option String)
    (loc : Location) : DictionaryFault → Prop
  | .malformed e => InLexicon source loc ∧ readEntries source.lexicon = .error e ∧ loc.span = e.span
  | .substitution e => InLexicon source loc ∧ FirstUnusable source loc (.substitution e)
  | .expansion e => InLexicon source loc ∧ FirstUnusable source loc (.expansion e)
  | .noLeftWall => InLexicon source loc ∧ loc.span = ⟨0, 0⟩ ∧
      ∃ es, readEntries source.lexicon = .ok es ∧
        AllExpand (lastDefinition (es.map Entry.content)) es ∧
        hasLeftWall (index (es.map Entry.content)) = false
  | .malformedPatterns e => loc.file = source.language ++ "/4.0.regex" ∧
      patterns = some loc.source ∧ WordPattern.parse compile loc.source = .error e ∧
      ∃ before line after, WordPattern.linesOf loc.source.toList = before ++ line :: after ∧
        (∀ l ∈ before, ∃ p, WordPattern.Says compile l p) ∧
        (¬∃ p, WordPattern.Says compile line p) ∧
        slice? loc.source.toList loc.span = some (Text.trimEnd line)
  | .invalidCode | .noLexicon _ | .unreadable _ _ | .noDisjuncts _ | .patternWithoutEntry _ => False

/-- A text that no dictionary can be built from is refused with a place, unless a pattern has a name
that the lexicon does not have.  The place lies in the text that comes with it and begins and ends
between characters.  For an entry without disjuncts it is the span of the first such entry with
words to be looked up; for a faulty line it cuts out the first such line without the white space
behind it. -/
theorem fromText_location {language lexicon : String} {patterns : Option String} {err : Error}
    (h : fromText compile language lexicon patterns = .error err) :
    ∃ fault location, err = .dictionary language "<memory>" fault location ∧
      (location = none ↔ ∃ name, fault = .patternWithoutEntry name) ∧
      ∀ loc, location = some loc → loc.span.Within loc.source.toList ∧
        ShownAt compile ⟨language, "<memory>", lexicon⟩ patterns loc fault := by
  cases diagnosis_of_build h with
  | @malformed e hread =>
      refine ⟨_, _, rfl, by simp only [reduceCtorEq, exists_false], ?_⟩
      rintro loc ⟨⟩
      obtain ⟨-, hlength, hpoint⟩ := readEntries_eq_error hread
      have hstop : IsBoundary lexicon.toList (e.span.offset + e.span.length) := by
        rwa [hlength, Nat.add_zero]
      exact ⟨⟨hpoint, hstop, hstop.le⟩, ⟨rfl, rfl⟩, hread, rfl⟩
  | @entry before after e fault hread hbefore hwords hfault =>
      have hwithin : e.span.Within lexicon.toList :=
        within_of_readEntries hread (List.mem_append_right _ List.mem_cons_self)
      have hfirst (loc : Location) (hspan : loc.span = e.span) :
          FirstUnusable ⟨language, "<memory>", lexicon⟩ loc fault :=
        ⟨before, e, after, hread, hspan, hbefore, hwords, hfault.not_expands, hfault⟩
      refine ⟨_, _, rfl, ?_, ?_⟩
      · cases hfault with
        | substitution | expansion => simp only [reduceCtorEq, exists_false]
      · rintro loc ⟨⟩
        refine ⟨hwithin, ?_⟩
        cases hfault with
        | substitution | expansion => exact ⟨⟨rfl, rfl⟩, hfirst _ rfl⟩
  | @leftWall es hread hes hwall =>
      refine ⟨_, _, rfl, by simp only [reduceCtorEq, exists_false], ?_⟩
      rintro loc ⟨⟩
      exact ⟨within_append [] [] lexicon.toList, ⟨rfl, rfl⟩, rfl, es, hread, hes, hwall⟩
  | @patterns text e htext hparse =>
      refine ⟨_, _, rfl, by simp only [reduceCtorEq, exists_false], ?_⟩
      rintro loc ⟨⟩
      obtain ⟨hwithin, hline⟩ := slice?_of_parse_eq_error hparse
      exact ⟨hwithin, rfl, htext, hparse, hline⟩
  | patternEntry hparse hp => exact ⟨_, none, rfl, ⟨fun _ => ⟨_, rfl⟩, fun _ => rfl⟩, nofun⟩

/-- A lexicon with a name that is not defined.  Two of its entries need the name, but there is
nothing to be looked up in the first one. -/
def brokenLexicon : String := "<a>:<b>;\né <c>:A+;\nß:<a>;"

/-- The place of the last entry. -/
def brokenPlace : Location := ⟨"xx/4.0.dict", brokenLexicon, ⟨20, 7⟩, "in this entry"⟩

theorem fromText_broken (compile : PatternCompiler) : fromText compile "xx" brokenLexicon none =
    .error (.dictionary "xx" "<memory>" (.substitution (.undefined "<b>")) (some brokenPlace)) := by
  have hread : readEntries brokenLexicon = .ok
      [⟨[⟨"<a>", ⟨0, 3⟩⟩], .macroRef "<b>", ⟨0, 8⟩⟩,
        ⟨[⟨"é", ⟨9, 2⟩⟩, ⟨"<c>", ⟨12, 3⟩⟩], .connector ⟨['A'], [], .right, false⟩, ⟨9, 10⟩⟩,
        ⟨[⟨"ß", ⟨20, 2⟩⟩], .macroRef "<a>", ⟨20, 7⟩⟩] := by decide +kernel
  unfold fromText build
  rw [hread]
  simp only [getElem?_definitions]
  rfl

theorem fromText_location_broken :
    fromText Pattern.compile "xx" brokenLexicon none = .error (.dictionary "xx" "<memory>"
      (.substitution (.undefined "<b>")) (some brokenPlace)) ∧
    brokenPlace.span.Within brokenLexicon.toList ∧
    FirstUnusable ⟨"xx", "<memory>", brokenLexicon⟩ brokenPlace
      (.substitution (.undefined "<b>")) ∧
    slice? brokenLexicon.toList brokenPlace.span = some "ß:<a>;".toList := by
  have herror := fromText_broken Pattern.compile
  obtain ⟨fault, location, herr, -, hplace⟩ := fromText_location herror
  cases herr
  obtain ⟨hwithin, -, hfirst⟩ := hplace brokenPlace rfl
  exact ⟨herror, hwithin, hfirst, by decide⟩

end LinkParsing.Dictionary
