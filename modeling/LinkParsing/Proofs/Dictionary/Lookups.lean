import LinkParsing.Pattern.Reading
import LinkParsing.Proofs.Dictionary.Contents

/-!
# A dictionary is its lexicon

A dictionary lists under every key the headwords of the lexicon with this key, in order, each with
the disjuncts of its formula, in which every name has been replaced by its last definition
(`Lists`).  Nothing else of the lexicon is in the dictionary.

So an entry that only defines names may stand anywhere else, as long as the definitions of one
name keep their order, and the dictionary is the same (`fromText_contents`).
-/

namespace LinkParsing.Dictionary

open Lexicon

/-- Of two lexicons, the entries with headwords are the same in the same order, and so are, for
every name, the entries that define it.  An entry that only defines names may stand elsewhere. -/
structure SameOrder (cs cs' : List EntryContent) : Prop where
  headed : cs.filter (·.headwords ≠ []) = cs'.filter (·.headwords ≠ [])
  defining : ∀ name, cs.filter (·.defines name) = cs'.filter (·.defines name)

/-- Every name within reach of a formula stands for its definition, with the names in there
standing for theirs likewise. -/
def StandFor (definition : String → Option Formula) (full : String → Formula) (f : Formula) :
    Prop :=
  ∀ name, Formula.Reaches definition f name →
    ∃ body, definition name = some body ∧ full name = body.replaceNames full

/-- The entry of a headword shows it as it is written and has the disjuncts of its formula, in
which no name is left. -/
structure IsEntryOf (full : String → Formula) (headword : String × Formula) (entry : WordEntry) :
    Prop where
  display : entry.display = headword.1
  macroFree : (headword.2.replaceNames full).macroFree = true
  disjuncts : (headword.2.replaceNames full).expand = .ok entry.disjuncts

/-- What a dictionary gives is what the lexicon says. -/
structure Lists (cs : List EntryContent) (d : Dictionary) : Prop where
  found : ∀ key, d.lookup key ≠ none ↔ ∃ headword ∈ headwords cs, lookupKey headword.1 = key
  entries : ∃ full : String → Formula,
    (∀ headword ∈ headwords cs, StandFor (lastDefinition cs) full headword.2) ∧
    ∀ key found, d.lookup key = some found →
      List.Forall₂ (IsEntryOf full) ((headwords cs).filter (lookupKey ·.1 = key)) found
  version : d.version = (lastDefinition cs "<dictionary-version-number>").map metadataText
  locale : d.locale = (lastDefinition cs "<dictionary-locale>").map metadataText

variable {compile : PatternCompiler} {cs cs' : List EntryContent} {patterns : Option String}
  {d : Dictionary} {headword : String × Formula} {key : String} {found : List WordEntry}

/-! ## What is listed -/

theorem Holds.isEntryOf (h : Holds compile cs patterns d) (hheadword : headword ∈ headwords cs) :
    IsEntryOf (Formula.fullDefinition (lastDefinition cs)) headword
      (entryOf (lastDefinition cs) headword) := by
  obtain ⟨g, hg, hexpand⟩ := expand_of_disjunctsGiven_ne_nil (h.disjuncts headword hheadword)
  have hfull := Formula.replaceNames_fullDefinition hg
  exact ⟨rfl, hfull ▸ Formula.macroFree_of_resolveWithin hg, hfull ▸ hexpand⟩

theorem Holds.standFor (h : Holds compile cs patterns d) (hheadword : headword ∈ headwords cs) :
    StandFor (lastDefinition cs) (Formula.fullDefinition (lastDefinition cs)) headword.2 := by
  obtain ⟨g, hg, -⟩ := expand_of_disjunctsGiven_ne_nil (h.disjuncts headword hheadword)
  intro name hname
  obtain ⟨body, hbody, -, hfull⟩ := hname.fullDefinition_eq hg
  exact ⟨body, hbody, hfull⟩

theorem Holds.lists (h : Holds compile cs patterns d) : Lists cs d where
  found _ := Option.ne_none_iff_exists'.trans h.exists_lookup_iff
  entries := by
    refine ⟨_, fun headword hheadword => h.standFor hheadword, fun key found hfound => ?_⟩
    obtain ⟨-, rfl⟩ := h.lookup_eq_some_iff.mp hfound
    rw [List.forall₂_map_right_iff, List.forall₂_same]
    exact fun headword hheadword => h.isEntryOf (List.mem_of_mem_filter hheadword)
  version := h.version
  locale := h.locale

/-! ## The order of the entries -/

theorem headwords_filter (cs : List EntryContent) :
    headwords (cs.filter (·.headwords ≠ [])) = headwords cs := by
  induction cs with
  | nil => rfl
  | cons c cs ih =>
      by_cases hnone : c.headwords = []
      · rw [List.filter_cons_of_neg (by simpa using hnone), ih, headwords, headwords,
          List.flatMap_cons, hnone, List.map_nil, List.nil_append]
      · rw [List.filter_cons_of_pos (by simpa using hnone), headwords, headwords,
          List.flatMap_cons, List.flatMap_cons, ← headwords, ih, headwords]

theorem SameOrder.headwords_eq (h : SameOrder cs cs') : headwords cs = headwords cs' := by
  rw [← headwords_filter cs, h.headed, headwords_filter]

theorem SameOrder.lastDefinition_eq (h : SameOrder cs cs') :
    lastDefinition cs = lastDefinition cs' := by
  funext name
  rw [lastDefinition, h.defining, lastDefinition]

/-- The same dictionary holds both. -/
theorem Holds.of_sameOrder (h : Holds compile cs patterns d) (horder : SameOrder cs cs') :
    Holds compile cs' patterns d := by
  obtain ⟨hdisjuncts, hentries, hwall, hpatterns, hnamed, hversion, hlocale⟩ := h
  have hindex : index cs = index cs' := by
    rw [index, horder.headwords_eq, horder.lastDefinition_eq, index]
  rw [horder.headwords_eq, horder.lastDefinition_eq] at hdisjuncts
  rw [horder.lastDefinition_eq] at hversion hlocale
  exact ⟨hdisjuncts, hentries.trans hindex, hwall, hpatterns, hnamed, hversion, hlocale⟩

/-- A dictionary lists just the headwords of its lexicon, with their formulas worked out by the
last definitions, and it stays the same when entries that only define names are moved. -/
theorem fromText_contents {language lexicon : String}
    (h : fromText compile language lexicon patterns = .ok d) : ∃ es, readEntries lexicon = .ok es ∧
      Lists (es.map Entry.content) d ∧ ∀ lexicon' es', readEntries lexicon' = .ok es' →
        SameOrder (es.map Entry.content) (es'.map Entry.content) →
          fromText compile language lexicon' patterns = .ok d := by
  obtain ⟨⟨es, hread, hholds⟩, hlanguage, hpath⟩ := build_eq_ok_iff.mp h
  refine ⟨es, hread, hholds.lists, fun lexicon' es' hread' horder => ?_⟩
  exact build_eq_ok_iff.mpr ⟨⟨es', hread', hholds.of_sameOrder horder⟩, hlanguage, hpath⟩

/-- Two words under one key, and a name that is defined behind its use and once more. -/
def twiceDefined : List EntryContent :=
  [⟨["LEFT-WALL"], .macroRef "<s>"⟩, ⟨["<s>"], .connector ⟨['A'], [], .right, false⟩⟩,
    ⟨["a.x", "a.y"], .macroRef "<s>"⟩, ⟨["<s>"], .connector ⟨['B'], [], .right, false⟩⟩]

/-- The same with both definitions in front. -/
def definedFirst : List EntryContent :=
  [⟨["<s>"], .connector ⟨['A'], [], .right, false⟩⟩,
    ⟨["<s>"], .connector ⟨['B'], [], .right, false⟩⟩, ⟨["LEFT-WALL"], .macroRef "<s>"⟩,
    ⟨["a.x", "a.y"], .macroRef "<s>"⟩]

/-- The dictionary of both. -/
def twiceDefinedDictionary : Dictionary :=
  ⟨"xx", joinPath "<memory>" "xx", index twiceDefined, [], none, none⟩

theorem readEntries_twiceDefined :
    (readEntries "LEFT-WALL:<s>;<s>:A+;a.x a.y:<s>;<s>:B+;").map (·.map Entry.content) =
      .ok twiceDefined := by
  decide +kernel

theorem readEntries_definedFirst :
    (readEntries "<s>:A+;<s>:B+;LEFT-WALL:<s>;a.x a.y:<s>;").map (·.map Entry.content) =
      .ok definedFirst := by
  decide +kernel

theorem holds_twiceDefined : Holds compile twiceDefined none twiceDefinedDictionary where
  disjuncts := by decide
  entries := rfl
  leftWall := by
    rw [hasLeftWall, twiceDefinedDictionary, getElem?_index]
    decide
  patterns := rfl
  patternEntries := nofun
  version := rfl
  locale := rfl

theorem sameOrder_twiceDefined : SameOrder twiceDefined definedFirst where
  headed := rfl
  defining name := by
    by_cases hname : name = "<s>"
    · subst hname
      rfl
    · have hnames : ∀ c ∈ twiceDefined ++ definedFirst, ∀ w ∈ c.words,
          isMacroName w = true → w = "<s>" := by decide
      have hnone : ∀ c ∈ twiceDefined ++ definedFirst, ¬c.defines name = true := by
        intro c hc hdefines
        obtain ⟨hnamed, hw⟩ := Bool.and_eq_true_iff.mp hdefines
        exact hname (hnames c hc name (List.contains_iff_mem.mp hw) hnamed)
      obtain ⟨hfirst, hsecond⟩ := List.forall_mem_append.mp hnone
      rw [List.filter_eq_nil_iff.mpr hfirst, List.filter_eq_nil_iff.mpr hsecond]

/-- With the definitions in front the dictionary is the same, with both words under their key. -/
theorem fromText_contents_twiceDefined :
    fromText Pattern.compile "xx" "LEFT-WALL:<s>;<s>:A+;a.x a.y:<s>;<s>:B+;" none =
      .ok twiceDefinedDictionary ∧
    fromText Pattern.compile "xx" "<s>:A+;<s>:B+;LEFT-WALL:<s>;a.x a.y:<s>;" none =
      .ok twiceDefinedDictionary ∧
    ∃ found, twiceDefinedDictionary.lookup "a" = some found ∧
      found.map (·.display) = ["a.x", "a.y"] := by
  obtain ⟨es, hread, hes⟩ := map_eq_ok_iff.mp readEntries_twiceDefined
  obtain ⟨es', hread', hes'⟩ := map_eq_ok_iff.mp readEntries_definedFirst
  have hbuild : fromText Pattern.compile "xx" "LEFT-WALL:<s>;<s>:A+;a.x a.y:<s>;<s>:B+;" none =
      .ok twiceDefinedDictionary :=
    build_eq_ok_iff.mpr ⟨⟨es, hread, hes ▸ holds_twiceDefined⟩, rfl, rfl⟩
  obtain ⟨_, hread'', hlists, hmoved⟩ := fromText_contents hbuild
  obtain rfl := Except.ok.inj (hread.symm.trans hread'')
  rw [hes] at hlists hmoved
  refine ⟨hbuild, hmoved _ es' hread' (hes' ▸ sameOrder_twiceDefined), ?_⟩
  have hkeys : lookupKey "LEFT-WALL" ≠ "a" ∧ lookupKey "a.x" = "a" ∧ lookupKey "a.y" = "a" := by
    decide +kernel
  have hheadwords : headwords twiceDefined =
      [("LEFT-WALL", .macroRef "<s>"), ("a.x", .macroRef "<s>"), ("a.y", .macroRef "<s>")] := rfl
  have hlisted : (headwords twiceDefined).filter (lookupKey ·.1 = "a") =
      [("a.x", .macroRef "<s>"), ("a.y", .macroRef "<s>")] := by
    rw [hheadwords]
    simp [hkeys]
  obtain ⟨found, hfound⟩ := Option.ne_none_iff_exists'.mp ((hlists.found "a").mpr
    ⟨("a.x", .macroRef "<s>"), by rw [hheadwords]; simp, hkeys.2.1⟩)
  obtain ⟨full, -, hentries⟩ := hlists.entries
  have hboth := hentries "a" found hfound
  rw [hlisted] at hboth
  refine ⟨found, hfound, ?_⟩
  obtain _ | ⟨hx, _ | ⟨hy, _ | _⟩⟩ := hboth
  rw [List.map_cons, List.map_cons, hx.display, hy.display, List.map_nil]

end LinkParsing.Dictionary
