import LinkParsing.Dictionary
import LinkParsing.Proofs.Formula.Resolution
import LinkParsing.Proofs.Lexicon.Printing
import Mathlib.Data.List.Induction

/-!
# What a dictionary holds of its lexicon

A lexicon defines formulas by name, the last definition of a name being the one that counts
(`lastDefinition`), and gives headwords, each with the formula of its entry (`headwords`).  Reading
the entries one by one comes to the same as indexing all headwords at once, each with the disjuncts
of its formula; it fails just if some headword has none (`addEntries_eq_ok_iff`).

So a dictionary is built from what the entries say alone (`build_eq_ok_iff`), and it lists under
every key the headwords of this key, in order (`Holds.lookup_eq_some_iff`).  What is looked up in it
always leads to disjuncts (`Complete`).
-/

namespace LinkParsing

open Lexicon

/-! ## What a lexicon says -/

/-- A name in angle brackets is among the words of the entry. -/
def Lexicon.EntryContent.defines (c : EntryContent) (name : String) : Bool :=
  isMacroName name && c.words.contains name

/-- The words of an entry that are no names of formulas. -/
def Lexicon.EntryContent.headwords (c : EntryContent) : List String :=
  c.words.filter (!isMacroName ·)

namespace Dictionary

/-- The formula of the last entry that defines a name. -/
def lastDefinition (cs : List EntryContent) (name : String) : Option Formula :=
  (cs.filter (·.defines name)).getLast?.map (·.formula)

/-- All words that are looked up, each with the formula of its entry, as often as they are there. -/
def headwords (cs : List EntryContent) : List (String × Formula) :=
  cs.flatMap fun c => c.headwords.map (·, c.formula)

/-- The disjuncts of a formula whose names are defined, or none if it has no such. -/
def disjunctsGiven (definition : String → Option Formula) (f : Formula) : List Disjunct :=
  match f.resolve definition with
  | .error _ => []
  | .ok g =>
    match g.expand with
    | .error _ => []
    | .ok disjuncts => disjuncts

/-- Entries that have been made of headwords are found under the keys of these. -/
def Indexes (found : Std.HashMap String (List WordEntry)) (all : List WordEntry) : Prop :=
  ∀ key, found[key]? = Option.guard (· ≠ []) (all.filter (lookupKey ·.display = key))

variable {cs : List EntryContent} {es : List Entry} {e : Entry}
  {definition : String → Option Formula} {source : Source}
  {found found' : Std.HashMap String (List WordEntry)} {all : List WordEntry}
  {disjuncts : List Disjunct} {f : Formula} {name : String}

/-! ## Definitions -/

/-- All names among the words of an entry are defined by it. -/
private theorem getElem?_defineWords (defined : Std.HashMap String Formula) (ws : List EntryWord)
    (f : Formula) (name : String) :
    (ws.foldl (fun found w => if isMacroName w.text then found.insert w.text f else found)
      defined)[name]? =
        if isMacroName name && (ws.map EntryWord.text).contains name then some f
        else defined[name]? := by
  induction ws generalizing defined with
  | nil => simp
  | cons w ws ih =>
      rw [List.foldl_cons, ih, List.map_cons, List.contains_cons]
      by_cases hname : name = w.text
      · subst hname
        cases isMacroName w.text with
        | true | false => simp
      · have hother : (w.text == name) = false := beq_false_of_ne (Ne.symm hname)
        rw [beq_false_of_ne hname, Bool.false_or]
        congr 1
        split
        next => rw [Std.HashMap.getElem?_insert, hother, if_neg Bool.false_ne_true]
        next => rfl

/-- Of several definitions of a name the last one counts. -/
theorem getElem?_definitions (es : List Entry) (name : String) :
    (definitions es)[name]? = lastDefinition (es.map Entry.content) name := by
  -- Later definitions replace earlier ones, so this goes over the entries from the end.
  induction es using List.reverseRecOn with
  | nil => simp [definitions, lastDefinition]
  | append_singleton es e ih =>
      rw [definitions, List.foldl_concat, getElem?_defineWords, ← definitions, ih, lastDefinition,
        lastDefinition, List.map_append, List.filter_append, List.map_singleton]
      change (if e.content.defines name = true then some e.content.formula else _) = _
      cases hdefines : e.content.defines name with
      | true | false => simp [hdefines]

/-! ## Disjuncts -/

theorem disjunctsOf_eq_ok_iff : disjunctsOf source definition e = .ok disjuncts ↔
    ∃ g, e.formula.resolve definition = .ok g ∧ g.expand = .ok disjuncts := by
  rw [disjunctsOf]
  cases e.formula.resolve definition with
  | error err => simp
  | ok g =>
      dsimp only
      cases hexpand : g.expand with
      | error err => simp [hexpand]
      | ok ds => simp [hexpand]

/-- A formula has disjuncts only where its names can be replaced and the result expands to them. -/
theorem expand_of_disjunctsGiven_ne_nil (h : disjunctsGiven definition f ≠ []) :
    ∃ g, f.resolve definition = .ok g ∧ g.expand = .ok (disjunctsGiven definition f) := by
  rw [disjunctsGiven] at h ⊢
  cases hresolve : f.resolve definition with
  | error err =>
      rw [hresolve] at h
      exact absurd rfl h
  | ok g =>
      rw [hresolve] at h
      refine ⟨g, rfl, ?_⟩
      dsimp only at h ⊢
      cases hexpand : g.expand with
      | error err =>
          rw [hexpand] at h
          exact absurd rfl h
      | ok ds => rfl

theorem disjunctsGiven_of_ok (h : disjunctsOf source definition e = .ok disjuncts) :
    disjunctsGiven definition e.formula = disjuncts := by
  obtain ⟨g, hresolve, hexpand⟩ := disjunctsOf_eq_ok_iff.mp h
  rw [disjunctsGiven, hresolve]
  dsimp only
  rw [hexpand]

theorem disjunctsGiven_of_error {err : Error} (h : disjunctsOf source definition e = .error err) :
    disjunctsGiven definition e.formula = [] := by
  by_contra hne
  have hok : disjunctsOf source definition e = .ok (disjunctsGiven definition e.formula) :=
    disjunctsOf_eq_ok_iff.mpr (expand_of_disjunctsGiven_ne_nil hne)
  cases hok.symm.trans h

/-! ## Headwords -/

/-- The entry of a headword. -/
def entryOf (definition : String → Option Formula) (headword : String × Formula) : WordEntry :=
  ⟨headword.1, disjunctsGiven definition headword.2⟩

/-- Add the entry of a headword. -/
def addHeadword (definition : String → Option Formula)
    (found : Std.HashMap String (List WordEntry)) (headword : String × Formula) :
    Std.HashMap String (List WordEntry) :=
  addWord found headword.1 (disjunctsGiven definition headword.2)

theorem addWords_eq_ok_iff {ws : List EntryWord} :
    addWords source disjuncts found ws = .ok found' ↔ (ws ≠ [] → disjuncts ≠ []) ∧
      found' = ws.foldl (fun found w => addWord found w.text disjuncts) found := by
  induction ws generalizing found with
  | nil => simp [addWords, eq_comm]
  | cons w ws ih =>
      rw [addWords, List.foldl_cons]
      by_cases hnone : disjuncts = []
      · simp [hnone]
      · rw [if_neg (by simpa using hnone), ih]
        simp [hnone]

/-- Adding the words of one entry, of which there are some. -/
private theorem addEntry_eq_ok_iff {ws : List EntryWord} (hws : ws ≠ []) :
    (disjunctsOf source definition e >>= fun disjuncts => addWords source disjuncts found ws) =
        .ok found' ↔
      (∀ headword ∈ ws.map fun w => (w.text, e.formula),
        disjunctsGiven definition headword.2 ≠ []) ∧
      found' = (ws.map fun w => (w.text, e.formula)).foldl (addHeadword definition) found := by
  have hgiven : (∀ headword ∈ ws.map fun w => (w.text, e.formula),
      disjunctsGiven definition headword.2 ≠ []) ↔ disjunctsGiven definition e.formula ≠ [] := by
    rw [List.forall_mem_map]
    obtain ⟨w, hw⟩ := List.exists_mem_of_ne_nil ws hws
    exact ⟨fun h => h w hw, fun h _ _ => h⟩
  rw [hgiven, List.foldl_map]
  cases hdisjuncts : disjunctsOf source definition e with
  | error err =>
      rw [disjunctsGiven_of_error hdisjuncts]
      exact ⟨nofun, fun h => absurd rfl h.1⟩
  | ok disjuncts =>
      simp only [addHeadword, disjunctsGiven_of_ok hdisjuncts]
      refine addWords_eq_ok_iff.trans ?_
      simp only [hws, ne_eq, not_false_eq_true, forall_const]

/-- Adding the words of the entries one by one is adding all headwords.  It succeeds just if each
of these has a disjunct. -/
theorem addEntries_eq_ok_iff : addEntries source definition found es = .ok found' ↔
    (∀ headword ∈ headwords (es.map Entry.content), disjunctsGiven definition headword.2 ≠ []) ∧
      found' = (headwords (es.map Entry.content)).foldl (addHeadword definition) found := by
  induction es generalizing found with
  | nil =>
      constructor
      · rintro ⟨⟩
        exact ⟨nofun, rfl⟩
      · rintro ⟨-, rfl⟩
        rfl
  | cons e es ih =>
      have hcons : headwords ((e :: es).map Entry.content) =
          (e.words.filter fun w => !isMacroName w.text).map (fun w => (w.text, e.formula)) ++
            headwords (es.map Entry.content) := by
        simp [headwords, Entry.content, EntryContent.headwords, List.filter_map, Function.comp_def]
      rw [hcons, addEntries, List.forall_mem_append, List.foldl_append]
      split
      next hnone => simpa [hnone] using ih
      next hsome =>
        rw [← bind_assoc, bind_eq_ok_iff]
        simp only [addEntry_eq_ok_iff hsome, ih]
        constructor
        · rintro ⟨_, ⟨hfirst, rfl⟩, hothers, rfl⟩
          exact ⟨⟨hfirst, hothers⟩, rfl⟩
        · rintro ⟨⟨hfirst, hothers⟩, rfl⟩
          exact ⟨_, ⟨hfirst, rfl⟩, hothers, rfl⟩

/-! ## The index -/

/-- All headwords of a lexicon, indexed by their keys. -/
def index (cs : List EntryContent) : Std.HashMap String (List WordEntry) :=
  (headwords cs).foldl (addHeadword (lastDefinition cs)) ∅

theorem getD_guard_ne_nil (ws : List WordEntry) : (Option.guard (· ≠ []) ws).getD [] = ws := by
  cases ws with
  | nil | cons w ws => rfl

theorem Indexes.addWord (h : Indexes found all) (word : String) (disjuncts : List Disjunct) :
    Indexes (Dictionary.addWord found word disjuncts) (all ++ [⟨word, disjuncts⟩]) := by
  intro key
  rw [Dictionary.addWord, Std.HashMap.getElem?_alter, h (lookupKey word), getD_guard_ne_nil,
    List.filter_append]
  by_cases hkey : lookupKey word = key
  · simp [hkey, Option.guard]
  · simp [hkey, h key]

theorem indexes_headwords (h : Indexes found all) (hs : List (String × Formula)) :
    Indexes (hs.foldl (addHeadword definition) found) (all ++ hs.map (entryOf definition)) := by
  induction hs generalizing found all with
  | nil => simpa using h
  | cons headword hs ih =>
      have hmore := ih (h.addWord headword.1 (disjunctsGiven definition headword.2))
      rwa [List.append_assoc, List.singleton_append] at hmore

theorem getElem?_index (cs : List EntryContent) (key : String) : (index cs)[key]? =
    Option.guard (· ≠ []) (((headwords cs).filter (lookupKey ·.1 = key)).map
      (entryOf (lastDefinition cs))) := by
  have hempty : Indexes ∅ [] := fun key => by simp [Option.guard]
  have hindex : Indexes (index cs) ([] ++ (headwords cs).map (entryOf (lastDefinition cs))) :=
    indexes_headwords hempty (headwords cs)
  rw [hindex, List.nil_append, List.filter_map]
  rfl

/-! ## Building -/

/-- The patterns that are in a file, if there is one. -/
def patternsIn (compile : PatternCompiler) :
    Option String → Except WordPattern.LineError (List WordPattern)
  | none => .ok []
  | some text => WordPattern.parse compile text

/-- A dictionary holds what the entries of a lexicon say, and the patterns of a file. -/
structure Holds (compile : PatternCompiler) (cs : List EntryContent) (patterns : Option String)
    (d : Dictionary) : Prop where
  disjuncts : ∀ headword ∈ headwords cs, disjunctsGiven (lastDefinition cs) headword.2 ≠ []
  entries : d.entries = index cs
  leftWall : hasLeftWall d.entries = true
  patterns : patternsIn compile patterns = .ok d.patterns
  /-- Every pattern has entries under its name. -/
  patternEntries : ∀ p ∈ d.patterns, d.entries.contains (String.ofList p.name) = true
  version : d.version = (lastDefinition cs "<dictionary-version-number>").map metadataText
  locale : d.locale = (lastDefinition cs "<dictionary-locale>").map metadataText

variable {compile : PatternCompiler} {patterns : Option String} {d : Dictionary}

theorem patternsOf_eq_ok_iff {ps : List WordPattern} :
    patternsOf compile source found patterns = .ok ps ↔ patternsIn compile patterns = .ok ps ∧
      ∀ p ∈ ps, found.contains (String.ofList p.name) = true := by
  cases patterns with
  | none =>
      simp only [patternsOf, patternsIn, Except.ok.injEq]
      refine (and_iff_left_of_imp ?_).symm
      rintro rfl
      simp
  | some text =>
      rw [patternsOf, patternsIn]
      cases hparse : WordPattern.parse compile text with
      | error e => simp
      | ok parsed =>
          dsimp only
          cases hfind : parsed.find? fun p => !found.contains (String.ofList p.name) with
          | some p =>
              have hmissing := List.find?_some hfind
              simp only [reduceCtorEq, Except.ok.injEq, false_iff, not_and]
              rintro rfl hall
              rw [hall p (List.mem_of_find?_eq_some hfind)] at hmissing
              cases hmissing
          | none =>
              simp only [Except.ok.injEq]
              refine (and_iff_left_of_imp ?_).symm
              rintro rfl p hp
              simpa using List.find?_eq_none.mp hfind p hp

/-- Under a key stand the headwords of this key, if there are some. -/
theorem Holds.lookup_eq_some_iff (h : Holds compile cs patterns d) {key : String}
    {ws : List WordEntry} : d.lookup key = some ws ↔
      (∃ headword ∈ headwords cs, lookupKey headword.1 = key) ∧
        ws = ((headwords cs).filter (lookupKey ·.1 = key)).map (entryOf (lastDefinition cs)) := by
  rw [lookup, h.entries, getElem?_index, Option.guard_eq_some_iff, eq_comm, and_comm]
  exact and_congr_left fun _ => by simp

theorem Holds.exists_lookup_iff (h : Holds compile cs patterns d) {key : String} :
    (∃ ws, d.lookup key = some ws) ↔ ∃ headword ∈ headwords cs, lookupKey headword.1 = key := by
  simp only [h.lookup_eq_some_iff, exists_and_left, exists_eq, and_true]

/-- A dictionary is built just if it holds what the entries say. -/
theorem build_eq_ok_iff {language root lexicon : String} :
    build compile language root lexicon patterns = .ok d ↔
      (∃ es, readEntries lexicon = .ok es ∧ Holds compile (es.map Entry.content) patterns d) ∧
        d.language = language ∧ d.path = joinPath root language := by
  unfold build
  cases hread : readEntries lexicon with
  | error e =>
      refine ⟨nofun, ?_⟩
      rintro ⟨⟨es, ⟨⟩, -⟩, -⟩
  | ok es =>
      simp only [getElem?_definitions]
      constructor
      · intro h
        obtain ⟨entries, hentries, h⟩ := bind_eq_ok_iff.mp h
        obtain ⟨hdisjuncts, rfl⟩ := addEntries_eq_ok_iff.mp hentries
        split at h
        next hwall =>
          obtain ⟨ps, hps, h⟩ := bind_eq_ok_iff.mp h
          obtain ⟨hpatterns, hnamed⟩ := patternsOf_eq_ok_iff.mp hps
          cases h
          exact ⟨⟨es, rfl, ⟨hdisjuncts, rfl, hwall, hpatterns, hnamed, rfl, rfl⟩⟩, rfl, rfl⟩
        next => cases h
      · rintro ⟨⟨_, ⟨⟩, hholds⟩, hlanguage, hpath⟩
        obtain ⟨language', path, entries, ps, version, locale⟩ := d
        obtain ⟨hdisjuncts, rfl, hwall, hpatterns, hnamed, rfl, rfl⟩ := hholds
        obtain rfl : language' = language := hlanguage
        obtain rfl : path = joinPath root language' := hpath
        refine bind_eq_ok_iff.mpr ⟨index (es.map Entry.content),
          addEntries_eq_ok_iff.mpr ⟨hdisjuncts, rfl⟩, (if_pos hwall).trans ?_⟩
        exact bind_eq_ok_iff.mpr ⟨ps, patternsOf_eq_ok_iff.mpr ⟨hpatterns, hnamed⟩, rfl⟩

/-! ## What can be relied on -/

/-- Whatever is found has disjuncts, a sentence can begin, and every pattern leads to entries. -/
structure Complete (d : Dictionary) : Prop where
  entries : ∀ key ws, d.lookup key = some ws → ws ≠ []
  disjuncts : ∀ key ws, d.lookup key = some ws → ∀ e ∈ ws, e.disjuncts ≠ []
  leftWall : ∃ ws, d.lookup leftWall = some ws ∧
    ∃ e ∈ ws, ∃ disjunct ∈ e.disjuncts, disjunct.left = []
  patterns : ∀ p ∈ d.patterns, ∃ ws, d.lookup (String.ofList p.name) = some ws

theorem Holds.complete (h : Holds compile cs patterns d) : Complete d where
  entries key ws hws := by
    obtain ⟨⟨headword, hheadword, hkey⟩, rfl⟩ := h.lookup_eq_some_iff.mp hws
    refine List.ne_nil_of_mem (List.mem_map_of_mem (List.mem_filter.mpr ⟨hheadword, ?_⟩))
    exact decide_eq_true hkey
  disjuncts key ws hws := by
    obtain ⟨-, rfl⟩ := h.lookup_eq_some_iff.mp hws
    exact List.forall_mem_map.mpr fun headword hheadword =>
      h.disjuncts headword (List.mem_of_mem_filter hheadword)
  leftWall := by
    have hwall := h.leftWall
    rw [hasLeftWall] at hwall
    cases hlookup : d.entries[LinkParsing.leftWall]? with
    | none =>
        rw [hlookup] at hwall
        cases hwall
    | some ws =>
        rw [hlookup] at hwall
        exact ⟨ws, hlookup, by simpa using hwall⟩
  patterns p hp := by
    have hnamed := h.patternEntries p hp
    rwa [Std.HashMap.contains_eq_isSome_getElem?, Option.isSome_iff_exists] at hnamed

end Dictionary

end LinkParsing
