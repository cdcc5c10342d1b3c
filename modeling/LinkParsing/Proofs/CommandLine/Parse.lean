import LinkParsing.CommandLine.Run
import LinkParsing.Proofs.Catalog.Writing
import LinkParsing.Proofs.Options.Documents
import LinkParsing.Proofs.Session.Blank
import LinkParsing.Proofs.Session.States

/-!
# The command that parses

A run of the command goes through loading the dictionary, the options, parsing, the choice of a
linkage and writing it, and may end at each of them (`Course`).  It succeeds if all of them do,
where a sentence without linkages needs no choice; the linkage chosen is written as a PostScript
document if this was asked for, and all other runs leave the files as they were (`parse_command`).
-/

namespace LinkParsing.CommandLine

open Engine

variable {env : Environment} {general : GeneralChoices} {sentence : String}
  {choices : ParseChoices} {clock : Nat → Search.Clock} {o : Options} {kept : List Linkage}

/-! ## The command, with a clock -/

/-- The engine of this library, which looks at such clocks if the options limit the time. -/
def timedEngine (clock : Nat → Search.Clock) (entropy : Sampling.Generator) : Engine :=
  ⟨(linkEngine entropy).version, parseTimed clock entropy⟩

/-- Parse a sentence with an engine, and show and write one of its linkages. -/
def parseWith (engine : Engine) (env : Environment) (general : GeneralChoices)
    (sentence : String) (choices : ParseChoices) : Outcome :=
  match catalogOf env general with
  | .error e => failed env "" e
  | .ok catalog =>
    match sessionOf env catalog general with
    | .error e => failed env "" e
    | .ok s => runParse env sentence choices { s with engine }

/-! ## The dictionary -/

/-- The directory of the dictionaries. -/
def searchRoot (env : Environment) (general : GeneralChoices) : String :=
  general.dataDirectory.getD (Catalog.default env.bundledRoot env.configuredRoot).root

/-- The dictionary of the language that was asked for, from a directory that is there if it was
asked for too. -/
structure Loads (env : Environment) (general : GeneralChoices) (dict : Dictionary) : Prop where
  root : ∀ root ∈ general.dataDirectory, env.files.isDirectory root = true
  load : Dictionary.load env.compile env.files (general.language.getD "en")
    (searchRoot env general) = .ok dict

/-! ## The options -/

/-- The options with those that flags give in place of their own. -/
def ParseChoices.appliedTo (choices : ParseChoices) (o : Options) : Options where
  maxLinkages := choices.maxLinkages.getD o.maxLinkages
  parseTimeLimitSeconds := choices.timeLimit.getD o.parseTimeLimitSeconds
  verbosity := choices.diagramVerbosity.getD o.verbosity
  maxNullCount := choices.maxNullCount.getD o.maxNullCount
  displayWalls := if choices.noWalls then false else o.displayWalls
  repeatableRand := o.repeatableRand

/-- The options of the document, which is checked when it is read, or the usual ones, with those
that flags give in place of theirs, if they pass their check too. -/
def IsEffective (files : FileTree) (choices : ParseChoices) (o : Options) : Prop :=
  ∃ base, baseOptions files choices = .ok base ∧ o = choices.appliedTo base ∧ o.validate = .ok ()

theorem validate_eq_ok_iff : o.validate = .ok () ↔ 0 < o.maxLinkages := by
  rw [Options.validate, UInt64.pos_iff_ne_zero]
  by_cases hzero : o.maxLinkages = 0
  · simp only [hzero, if_true, reduceCtorEq, ne_eq, not_true_eq_false]
  · simp only [hzero, if_false, ne_eq, not_false_eq_true]

/-- The options that flags can change have passed their check. -/
theorem maxLinkages_pos_of_baseOptions {files : FileTree} {base : Options}
    (h : baseOptions files choices = .ok base) : 0 < base.maxLinkages := by
  unfold baseOptions readOptions at h
  split at h
  next =>
    split at h
    next => cases h
    next =>
      split at h
      next => exact (Options.ofDocument_eq_ok_iff.mp h).2
      next => exact (Options.ofDocument_eq_ok_iff.mp h).2
  next =>
    cases h
    decide

/-- Of the flags only the number of linkages is checked. -/
theorem overrideOptions_eq (choices : ParseChoices) (base : Options) :
    overrideOptions choices base =
      if choices.maxLinkages = some 0 then
        .error (.configuration (.outOfRange .maxLinkages .positive 0))
      else .ok (choices.appliedTo base) := by
  rw [overrideOptions, ParseChoices.appliedTo]
  cases choices.maxLinkages with
  | none => rfl
  | some n =>
      simp only [Options.setMaxLinkages, Option.some.injEq]
      split <;> rfl

theorem overrideOptions_eq_ok_iff {base : Options} (hbase : 0 < base.maxLinkages) :
    overrideOptions choices base = .ok o ↔ o = choices.appliedTo base ∧ o.validate = .ok () := by
  have hcheck : 0 < (choices.appliedTo base).maxLinkages ↔ choices.maxLinkages ≠ some 0 := by
    rw [ParseChoices.appliedTo]
    cases choices.maxLinkages with
    | none => simpa using hbase
    | some n => simp [UInt64.pos_iff_ne_zero]
  rw [overrideOptions_eq, validate_eq_ok_iff]
  split
  next hzero =>
    refine ⟨nofun, ?_⟩
    rintro ⟨rfl, hpos⟩
    exact absurd hzero (hcheck.mp hpos)
  next hne =>
    rw [Except.ok.injEq, eq_comm]
    refine ⟨?_, And.left⟩
    rintro rfl
    exact ⟨rfl, hcheck.mpr hne⟩

/-- The options of a parse are those of the document, or the usual ones, with those of the flags. -/
theorem effectiveOptions_eq_ok_iff {files : FileTree} :
    effectiveOptions files choices = .ok o ↔ IsEffective files choices o := by
  rw [effectiveOptions, bind_eq_ok_iff]
  refine exists_congr fun base => and_congr_right fun hbase => ?_
  exact overrideOptions_eq_ok_iff (maxLinkages_pos_of_baseOptions hbase)

/-! ## The course of a run -/

/-- The linkages that are kept of the sentence, with the options that hold. -/
structure Keeps (clock : Nat → Search.Clock) (env : Environment) (general : GeneralChoices)
    (sentence : String) (choices : ParseChoices) (o : Options) (kept : List Linkage) : Prop where
  effective : IsEffective env.files choices o
  parsed : ∃ dict outcome, Loads env general dict ∧
    parseTimed clock env.entropy dict sentence o = .ok outcome ∧ outcome.linkages = kept

theorem Loads.unique {dict dict' : Dictionary} (h : Loads env general dict)
    (h' : Loads env general dict') : dict = dict' := Except.ok.inj (h.load.symm.trans h'.load)

theorem IsEffective.unique {files : FileTree} {o' : Options} (h : IsEffective files choices o)
    (h' : IsEffective files choices o') : o = o' :=
  Except.ok.inj
    ((effectiveOptions_eq_ok_iff.mpr h).symm.trans (effectiveOptions_eq_ok_iff.mpr h'))

theorem Keeps.unique {o' : Options} {kept' : List Linkage}
    (h : Keeps clock env general sentence choices o kept)
    (h' : Keeps clock env general sentence choices o' kept') : o = o' ∧ kept = kept' := by
  obtain ⟨heffective, dict, outcome, hdict, hparse, rfl⟩ := h
  obtain ⟨heffective', dict', outcome', hdict', hparse', rfl⟩ := h'
  obtain rfl := heffective.unique heffective'
  obtain rfl := hdict.unique hdict'
  rw [hparse] at hparse'
  cases hparse'
  exact ⟨rfl, rfl⟩

/-- The number of the linkage to show is that of one that was kept. -/
def IndexFits (choices : ParseChoices) (kept : List Linkage) : Prop :=
  0 ≤ choices.index ∧ choices.index < kept.length

/-- The document of a linkage, as bytes. -/
def documentOf (linkage : Linkage) (o : Options) : List UInt8 :=
  Text.Utf8.encode (linkage.postscript o).toList

/-- How a run may go. -/
inductive Course (clock : Nat → Search.Clock) (env : Environment) (general : GeneralChoices)
    (sentence : String) (choices : ParseChoices) : Outcome → Prop where
  /-- The dictionary, the options or the sentence is refused. -/
  | refused (h : ∀ o kept, ¬Keeps clock env general sentence choices o kept) (e : Error) :
      Course clock env general sentence choices (failed env "" e)
  | empty {o : Options} (h : Keeps clock env general sentence choices o []) (printed : String) :
      Course clock env general sentence choices (succeeded env printed)
  | outOfRange {o : Options} {kept : List Linkage}
      (h : Keeps clock env general sentence choices o kept) (hne : kept ≠ [])
      (hindex : ¬IndexFits choices kept) (printed : String) (e : Error) :
      Course clock env general sentence choices (failed env printed e)
  | shown {o : Options} {kept : List Linkage}
      (h : Keeps clock env general sentence choices o kept) (hindex : IndexFits choices kept)
      (hpath : choices.postscript = none) (printed : String) :
      Course clock env general sentence choices (succeeded env printed)
  | unwritable {o : Options} {kept : List Linkage} {path : String}
      (h : Keeps clock env general sentence choices o kept) (hindex : IndexFits choices kept)
      (hpath : choices.postscript = some path)
      (hroom : ∀ place name, ¬env.files.HasRoom path place name) (printed : String) (e : Error) :
      Course clock env general sentence choices (failed env printed e)
  | written {o : Options} {kept : List Linkage} {path : String} {n : Nat} {linkage : Linkage}
      {files : FileTree} (h : Keeps clock env general sentence choices o kept)
      (hn : n = choices.index) (hlinkage : kept[n]? = some linkage)
      (hpath : choices.postscript = some path)
      (hwrite : env.files.write path (documentOf linkage o) = .ok files) (printed : String) :
      Course clock env general sentence choices
        ⟨printed, .ok (), some (path, documentOf linkage o), files⟩

/-! ## From the beginning to the linkages -/

theorem catalogOf_eq_ok_iff {catalog : Catalog} : catalogOf env general = .ok catalog ↔
    (∀ root ∈ general.dataDirectory, env.files.isDirectory root = true) ∧
      catalog = .make (searchRoot env general) .shared := by
  unfold catalogOf searchRoot
  cases general.dataDirectory with
  | none =>
      have hdefault : Catalog.default env.bundledRoot env.configuredRoot =
          .make (Catalog.default env.bundledRoot env.configuredRoot).root .shared := by
        unfold Catalog.default
        cases env.configuredRoot <;> rfl
      simp only [Option.getD_none, Except.ok.injEq, ← hdefault, Option.mem_def, reduceCtorEq,
        false_implies, implies_true, true_and]
      exact eq_comm
  | some root =>
      simp only [Catalog.makeChecked, Catalog.checkRoot, Option.getD_some, Option.mem_def,
        Option.some.injEq, forall_eq']
      split
      next hroot => exact ⟨fun h => ⟨hroot, (Except.ok.inj h).symm⟩, fun h => congrArg _ h.2.symm⟩
      next hroot => exact ⟨nofun, fun h => absurd h.1 hroot⟩

theorem sessionOf_make (root : String) : sessionOf env (.make root .shared) general =
    (Dictionary.load env.compile env.files (general.language.getD "en") root).map
      (.create env.entropy (general.language.getD "en")) := by
  simp only [sessionOf, Catalog.createSession, Catalog.load, Catalog.make, Catalog.shared?,
    Catalog.loadNew, List.lookup_nil]
  cases Dictionary.load env.compile env.files (general.language.getD "en") root with
  | error e => rfl
  | ok dict => rfl

theorem parseWith_of_loads {engine : Engine} {dict : Dictionary} (h : Loads env general dict) :
    parseWith engine env general sentence choices = runParse env sentence choices
      ⟨engine, general.language.getD "en", dict, .default, none⟩ := by
  rw [parseWith, catalogOf_eq_ok_iff.mpr ⟨h.root, rfl⟩]
  simp only [sessionOf_make, h.load]
  rfl

theorem parseWith_of_not_loads (engine : Engine) (sentence : String) (choices : ParseChoices)
    (h : ∀ dict, ¬Loads env general dict) :
    ∃ e, parseWith engine env general sentence choices = failed env "" e := by
  rw [parseWith]
  cases hcatalog : catalogOf env general with
  | error e => exact ⟨e, rfl⟩
  | ok catalog =>
      obtain ⟨hroot, rfl⟩ := catalogOf_eq_ok_iff.mp hcatalog
      simp only [sessionOf_make]
      cases hload : Dictionary.load env.compile env.files (general.language.getD "en")
          (searchRoot env general) with
      | error e => exact ⟨e, rfl⟩
      | ok dict => exact absurd ⟨hroot, hload⟩ (h dict)

/-- The options are set, and the linkages of the sentence are kept. -/
theorem parseSentence_eq (clock : Nat → Search.Clock) (entropy : Sampling.Generator)
    {s : LiveSession} (hengine : s.engine.parse = parseTimed clock entropy) :
    parseSentence env sentence choices s = effectiveOptions env.files choices >>= fun o =>
      (parseTimed clock entropy s.dictionary sentence o).map fun outcome =>
        ((outcome.toSet sentence).summary,
          { s with options := o, linkages := some (outcome.toSet sentence) }) := by
  rw [parseSentence]
  cases ho : effectiveOptions env.files choices with
  | error e => rfl
  | ok o =>
      obtain ⟨-, -, -, hvalid⟩ := effectiveOptions_eq_ok_iff.mp ho
      have hset : s.setOptions o = (.ok (), { s with options := o }) := by
        rw [LiveSession.setOptions, hvalid]
      have hlinkages : ({ s with options := o } : LiveSession).linkagesOf sentence =
          (parseTimed clock entropy s.dictionary sentence o).map (·.toSet sentence) := by
        rw [← hengine]
        exact LiveSession.linkagesOf_eq (s := { s with options := o }) hengine sentence
      simp only [hset, LiveSession.parse, hlinkages]
      show _ = (parseTimed clock entropy s.dictionary sentence o).map _
      cases parseTimed clock entropy s.dictionary sentence o with
      | error e => rfl
      | ok outcome => rfl

/-! ## From the linkages to the end -/

/-- A linkage is shown and goes on to be written. -/
theorem showLinkage_eq (env : Environment) (choices : ParseChoices) (printed : String)
    {s : LiveSession} {linkage : Linkage} (h : s.selectedLinkage = some linkage) : ∃ printed',
    showLinkage env choices printed s = writeDocument env choices printed' s := by
  rw [showLinkage]
  split
  next => exact ⟨printed, rfl⟩
  next =>
    rw [LiveSession.diagram, LiveSession.selection, h]
    exact ⟨_, rfl⟩

theorem indexFits_iff : IndexFits choices kept ↔
    ∃ (n : Nat) (linkage : Linkage), (n : Int) = choices.index ∧ kept[n]? = some linkage := by
  constructor
  · rintro ⟨hpos, hlt⟩
    obtain ⟨n, hn⟩ := Int.eq_ofNat_of_zero_le hpos
    have hlt' : n < kept.length := by omega
    exact ⟨n, kept[n], hn.symm, List.getElem?_eq_getElem hlt'⟩
  · rintro ⟨n, linkage, hn, hlinkage⟩
    obtain ⟨hlt, -⟩ := List.getElem?_eq_some_iff.mp hlinkage
    rw [IndexFits, ← hn]
    exact ⟨Int.natCast_nonneg n, Int.ofNat_lt.mpr hlt⟩

theorem not_indexFits_nil : ¬IndexFits choices [] :=
  fun ⟨hpos, hlt⟩ => Int.not_le.mpr hlt hpos

/-- With the linkage selected, a run ends as the path lets it. -/
theorem Keeps.course_writeDocument (h : Keeps clock env general sentence choices o kept) {n : Nat}
    {linkage : Linkage} (hn : n = choices.index) (hlinkage : kept[n]? = some linkage)
    {s : LiveSession} (hoptions : s.options = o) (hselected : s.selectedLinkage = some linkage)
    (printed : String) :
    Course clock env general sentence choices (writeDocument env choices printed s) := by
  have hindex : IndexFits choices kept := indexFits_iff.mpr ⟨n, linkage, hn, hlinkage⟩
  have hdocument : s.postscript = .ok (linkage.postscript o) := by
    rw [LiveSession.postscript, LiveSession.selection, hselected, hoptions]
    rfl
  rw [writeDocument, hdocument]
  cases hpath : choices.postscript with
  | none => exact .shown h hindex hpath printed
  | some path =>
      dsimp only
      split
      next fault hwrite =>
        refine .unwritable h hindex hpath ?_ _ _
        intro place name hroom
        rw [FileTree.write_eq_ok_iff.mpr ⟨place, name, hroom, rfl⟩] at hwrite
        cases hwrite
      next files hwrite => exact .written h hn hlinkage hpath hwrite printed

/-- With the linkages kept, a run ends as they and the number let it. -/
theorem Keeps.course_selectLinkage {outcome : ParseOutcome}
    (h : Keeps clock env general sentence choices o outcome.linkages) {s : LiveSession}
    (hoptions : s.options = o) (hset : s.linkages = some (outcome.toSet sentence)) :
    Course clock env general sentence choices
      (selectLinkage env choices (outcome.toSet sentence).summary s) := by
  have hcount : (outcome.toSet sentence).summary.numLinkages = outcome.linkages.length := rfl
  have hget : ∀ n, (outcome.toSet sentence).get? n = outcome.linkages[n]? := fun n =>
    List.getElem?_toArray
  unfold selectLinkage
  rw [hcount]
  by_cases hempty : outcome.linkages.length = 0
  · rw [if_pos hempty]
    rw [List.eq_nil_of_length_eq_zero hempty] at h
    exact .empty h _
  · rw [if_neg hempty]
    cases hselect : (outcome.toSet sentence).select choices.index with
    | error e =>
        -- A number that is refused is not that of a linkage that was kept.
        have hrefused : s.selectLinkage choices.index = (.error e, s) := by
          simp only [LiveSession.selectLinkage, LiveSession.linkagesFor, hset, hselect]
        rw [hrefused]
        refine .outOfRange h (fun hnil => hempty (by rw [hnil]; rfl)) (fun hindex => ?_) _ e
        obtain ⟨n, linkage, hn, hlinkage⟩ := indexFits_iff.mp hindex
        rw [LinkageSet.select_eq_ok_iff.mpr ⟨n, hn, (hget n).trans hlinkage, rfl⟩] at hselect
        cases hselect
    | ok selected =>
        obtain ⟨linkage, set'⟩ := selected
        have hdone : s.selectLinkage choices.index =
            (.ok linkage, { s with linkages := some set' }) := by
          simp only [LiveSession.selectLinkage, LiveSession.linkagesFor, hset, hselect]
        obtain ⟨n, hn, hlinkage, rfl⟩ := LinkageSet.select_eq_ok_iff.mp hselect
        rw [hdone]
        obtain ⟨printed, hshow⟩ := showLinkage_eq env choices
          (if choices.json then summaryJson (outcome.toSet sentence).summary
            else summaryText (outcome.toSet sentence).summary)
          (s := { s with linkages := some { outcome.toSet sentence with selected := some n } })
          hlinkage
        dsimp only
        rw [hshow]
        refine h.course_writeDocument hn ((hget n).symm.trans hlinkage) ?_ ?_ printed
        · exact hoptions
        · exact hlinkage

/-- Every run goes one of these ways. -/
theorem course (clock : Nat → Search.Clock) (env : Environment) (general : GeneralChoices)
    (sentence : String) (choices : ParseChoices) :
    Course clock env general sentence choices
      (parseWith (timedEngine clock env.entropy) env general sentence choices) := by
  -- The stages in their order: the dictionary, the options, the sentence, then its linkages.
  by_cases hloads : ∃ dict, Loads env general dict
  · obtain ⟨dict, hloads⟩ := hloads
    rw [parseWith_of_loads hloads, runParse, parseSentence_eq clock env.entropy rfl]
    cases ho : effectiveOptions env.files choices with
    | error e =>
        refine .refused ?_ e
        rintro o kept ⟨heffective, -⟩
        rw [effectiveOptions_eq_ok_iff.mpr heffective] at ho
        cases ho
    | ok o =>
        cases hparse : parseTimed clock env.entropy dict sentence o with
        | error e =>
            -- Any other dictionary and options would be these, which do not parse the sentence.
            simp only [bind, Except.bind, Except.map, hparse]
            refine .refused ?_ e
            rintro o' kept ⟨heffective, dict', outcome, hdict', hparse', -⟩
            obtain rfl := heffective.unique (effectiveOptions_eq_ok_iff.mp ho)
            obtain rfl := hdict'.unique hloads
            rw [hparse] at hparse'
            cases hparse'
        | ok outcome =>
            have hkeeps : Keeps clock env general sentence choices o outcome.linkages :=
              ⟨effectiveOptions_eq_ok_iff.mp ho, dict, outcome, hloads, hparse, rfl⟩
            simp only [bind, Except.bind, Except.map, hparse]
            exact hkeeps.course_selectLinkage rfl rfl
  · obtain ⟨e, he⟩ := parseWith_of_not_loads (timedEngine clock env.entropy) sentence choices
      (not_exists.mp hloads)
    rw [he]
    refine .refused ?_ e
    rintro o kept ⟨-, dict, outcome, hdict, -⟩
    exact hloads ⟨dict, hdict⟩

/-! ## What a run does -/

/-- The linkages that are kept let a run succeed: there are none, or the number is that of one of
them and the document, if one was asked for, has room. -/
def Succeeds (env : Environment) (choices : ParseChoices) (kept : List Linkage) : Prop :=
  kept = [] ∨ IndexFits choices kept ∧
    ∀ path ∈ choices.postscript, ∃ place name, env.files.HasRoom path place name

variable {outcome : Outcome}

/-- A run that goes on to the end succeeds, and any other one has linkages that do not let it. -/
theorem Course.result_iff (h : Course clock env general sentence choices outcome) :
    outcome.result = .ok () ↔ ∃ o kept, Keeps clock env general sentence choices o kept ∧
      Succeeds env choices kept := by
  cases h with
  | refused h e => exact iff_of_false nofun fun ⟨o, kept, hkeeps, _⟩ => h o kept hkeeps
  | empty h => exact iff_of_true rfl ⟨_, _, h, .inl rfl⟩
  | outOfRange h hne hindex =>
      refine iff_of_false nofun ?_
      rintro ⟨o', kept', hkeeps, hsucceeds⟩
      obtain ⟨rfl, rfl⟩ := h.unique hkeeps
      exact hsucceeds.elim hne fun hfits => hindex hfits.1
  | shown h hindex hpath =>
      refine iff_of_true rfl ⟨_, _, h, .inr ⟨hindex, ?_⟩⟩
      rw [hpath]
      nofun
  | unwritable h hindex hpath hroom =>
      refine iff_of_false nofun ?_
      rintro ⟨o', kept', hkeeps, hsucceeds⟩
      obtain ⟨rfl, rfl⟩ := h.unique hkeeps
      rcases hsucceeds with rfl | ⟨-, hwritable⟩
      · exact not_indexFits_nil hindex
      · obtain ⟨place, name, hplace⟩ := hwritable _ hpath
        exact hroom place name hplace
  | written h hn hlinkage hpath hwrite =>
      refine iff_of_true rfl ⟨_, _, h, .inr ⟨indexFits_iff.mpr ⟨_, _, hn, hlinkage⟩, ?_⟩⟩
      intro path' hpath'
      obtain rfl : _ = path' := Option.some.inj (hpath.symm.trans hpath')
      obtain ⟨place, name, hroom, -⟩ := FileTree.write_eq_ok_iff.mp hwrite
      exact ⟨place, name, hroom⟩

/-- A document is written by the runs that succeed with linkages if it was asked for. -/
theorem Course.written_iff (h : Course clock env general sentence choices outcome) {path : String}
    {content : List UInt8} : outcome.written = some (path, content) ↔
      outcome.result = .ok () ∧ choices.postscript = some path ∧
      ∃ (o : Options) (kept : List Linkage) (n : Nat) (linkage : Linkage),
        Keeps clock env general sentence choices o kept ∧ (n : Int) = choices.index ∧
        kept[n]? = some linkage ∧ content = documentOf linkage o := by
  cases h with
  | refused | outOfRange | unwritable => exact iff_of_false nofun fun h => nomatch h.1
  | empty h =>
      refine iff_of_false nofun ?_
      rintro ⟨-, -, o', kept', n, linkage, hkeeps, -, hlinkage, -⟩
      obtain ⟨rfl, rfl⟩ := h.unique hkeeps
      cases hlinkage
  | shown h hindex hpath =>
      refine iff_of_false nofun ?_
      rintro ⟨-, hpath', -⟩
      rw [hpath] at hpath'
      cases hpath'
  | written h hn hlinkage hpath hwrite =>
      constructor
      · intro heq
        cases heq
        exact ⟨rfl, hpath, _, _, _, _, h, hn, hlinkage, rfl⟩
      · rintro ⟨-, hpath', o', kept', n', linkage', hkeeps, hn', hlinkage', rfl⟩
        obtain ⟨rfl, rfl⟩ := h.unique hkeeps
        obtain rfl := Int.ofNat.inj (hn.trans hn'.symm)
        obtain rfl := Option.some.inj (hlinkage.symm.trans hlinkage')
        obtain rfl := Option.some.inj (hpath.symm.trans hpath')
        rfl

theorem Course.files (h : Course clock env general sentence choices outcome) :
    outcome.written = none ∧ outcome.files = env.files ∨ ∃ path content,
      outcome.written = some (path, content) ∧ env.files.Receives path content outcome.files := by
  cases h with
  | written _ _ _ _ hwrite printed =>
      exact .inr ⟨_, _, rfl, FileTree.receives_of_write hwrite⟩
  | refused | empty | outOfRange | shown | unwritable => exact .inl ⟨rfl, rfl⟩

/-- The engine of a run looks at no clock. -/
theorem run_parse_eq (env : Environment) (general : GeneralChoices) (sentence : String)
    (choices : ParseChoices) : run env ⟨general, .parse sentence choices⟩ =
      parseWith (timedEngine (fun _ => .never) env.entropy) env general sentence choices := by
  rw [run, parseWith]
  cases hcatalog : catalogOf env general with
  | error e => rfl
  | ok catalog =>
      obtain ⟨-, rfl⟩ := catalogOf_eq_ok_iff.mp hcatalog
      simp only [sessionOf_make]
      cases Dictionary.load env.compile env.files (general.language.getD "en")
          (searchRoot env general) with
      | error e => rfl
      | ok dict => rfl

/-- What the command that parses does, whatever its clock.  Its options are those of the document,
or the usual ones, with those that flags give.  It succeeds just if the dictionary loads, the
options pass their check, the sentence is parsed, and either no linkage is kept or the number is
that of one of them and its document, if asked for, can be written.  This document is written just
if the run succeeds with a linkage and it was asked for, and then nothing else is changed.
Otherwise the files stay as they are. -/
theorem parse_command (env : Environment) (general : GeneralChoices) (sentence : String)
    (choices : ParseChoices) :
    run env ⟨general, .parse sentence choices⟩ =
      parseWith (timedEngine (fun _ => .never) env.entropy) env general sentence choices ∧
    (∀ o, effectiveOptions env.files choices = .ok o ↔ IsEffective env.files choices o) ∧
    ∀ clock, let outcome := parseWith (timedEngine clock env.entropy) env general sentence choices
      (outcome.result = .ok () ↔ ∃ o kept, Keeps clock env general sentence choices o kept ∧
        Succeeds env choices kept) ∧
      (∀ path content, outcome.written = some (path, content) ↔
        outcome.result = .ok () ∧ choices.postscript = some path ∧
        ∃ (o : Options) (kept : List Linkage) (n : Nat) (linkage : Linkage),
          Keeps clock env general sentence choices o kept ∧ (n : Int) = choices.index ∧
          kept[n]? = some linkage ∧ content = documentOf linkage o) ∧
      (outcome.written = none ∧ outcome.files = env.files ∨ ∃ path content,
        outcome.written = some (path, content) ∧
          env.files.Receives path content outcome.files) := by
  refine ⟨run_parse_eq env general sentence choices, fun o => effectiveOptions_eq_ok_iff,
    fun clock => ?_⟩
  have hcourse := course clock env general sentence choices
  exact ⟨hcourse.result_iff, fun path content => hcourse.written_iff, hcourse.files⟩

end LinkParsing.CommandLine
