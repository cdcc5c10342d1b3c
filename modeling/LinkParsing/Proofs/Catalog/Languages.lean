import LinkParsing.Pattern.Reading
import LinkParsing.Proofs.Catalog.Paths
import LinkParsing.Proofs.Dictionary.Locations

/-!
# Languages that are listed and languages that are loaded

The languages below a root are found by going over its directories, while loading a language puts
its path together from the root and the code.  Both look for the same file (`isListed_iff`,
`reachesLexicon_iff`), but only loading has a notion of its own of what a code is: it refuses every
name with a backslash, and the list does not leave these out.
-/

namespace LinkParsing

open Dictionary FileTree

variable {compile : Lexicon.PatternCompiler} {files : FileTree} {root code : String}

/-! ## Loading -/

theorem isLanguageCode_iff :
    isLanguageCode code = true ↔ IsEntryName code ∧ '\\' ∉ code.toList := by
  have hchars : (∀ c ∈ code.toList, c ≠ '/' ∧ c ≠ '\\') ↔
      '/' ∉ code.toList ∧ '\\' ∉ code.toList := by
    constructor
    · exact fun h => ⟨fun hmem => (h _ hmem).1 rfl, fun hmem => (h _ hmem).2 rfl⟩
    · rintro ⟨hslash, hback⟩ c hc
      exact ⟨fun h => hslash (h ▸ hc), fun h => hback (h ▸ hc)⟩
  simp only [isLanguageCode, Bool.and_eq_true, Bool.not_eq_true', String.isEmpty_eq_false_iff,
    List.all_eq_true, bne_iff_ne, hchars]
  constructor
  · rintro ⟨⟨⟨hempty, hslash, hback⟩, hhere⟩, habove⟩
    exact ⟨⟨hempty, hhere, habove, hslash⟩, hback⟩
  · rintro ⟨⟨hempty, hhere, habove, hslash⟩, hback⟩
    exact ⟨⟨⟨hempty, hslash, hback⟩, hhere⟩, habove⟩

/-- The code of the language is taken for one and its lexicon is found, whatever comes of reading
it. -/
def ReachesLexicon (compile : Lexicon.PatternCompiler) (files : FileTree) (code root : String) :
    Prop :=
  ∀ fault location, load compile files code root = .error (.dictionary code root fault location) →
    fault ≠ .invalidCode ∧ ∀ directory, fault ≠ .noLexicon directory

/-- Building has nothing to say about codes and files. -/
theorem build_error_ne {language lexicon : String} {patterns : Option String}
    {fault : DictionaryFault} {location : Option Location}
    (h : build compile language root lexicon patterns =
      .error (.dictionary language root fault location)) :
    fault ≠ .invalidCode ∧ ∀ directory, fault ≠ .noLexicon directory := by
  generalize herr : Error.dictionary language root fault location = err at h
  cases diagnosis_of_build h with
  | malformed h | leftWall hread hes hwall | patterns htext h | patternEntry hparse hp =>
      cases herr
      exact ⟨nofun, nofun⟩
  | entry hread hbefore hwords hfault =>
      cases herr
      cases hfault with
      | substitution | expansion => exact ⟨nofun, nofun⟩

theorem exists_unreadable_of_readFiles (hcode : isLanguageCode code = true)
    (hfile : files.isFile (joinPath (joinPath root code) lexiconFile) = true) {err : Error}
    (h : readFiles files code root = .error err) :
    ∃ path reason, err = .dictionary code root (.unreadable path reason) none := by
  simp only [readFiles, hcode, hfile, Bool.not_true, Bool.false_eq_true, if_false] at h
  split at h
  next =>
    cases h
    exact ⟨_, _, rfl⟩
  next =>
    split at h
    next => cases h
    next =>
      split at h
      next =>
        cases h
        exact ⟨_, _, rfl⟩
      next => cases h

theorem reachesLexicon_iff : ReachesLexicon compile files code root ↔ isLanguageCode code = true ∧
    files.isFile (joinPath (joinPath root code) lexiconFile) = true := by
  constructor
  · intro h
    -- Otherwise loading fails at once, with one of the two faults.
    by_cases hcode : isLanguageCode code = true
    · refine ⟨hcode, ?_⟩
      by_contra hfile
      have hread : readFiles files code root =
          .error (.dictionary code root (.noLexicon (joinPath root code)) none) := by
        simp [readFiles, hcode, hfile]
      exact (h _ none (bind_eq_error_iff.mpr (.inl hread))).2 _ rfl
    · have hread : readFiles files code root =
          .error (.dictionary code root .invalidCode none) := by
        simp [readFiles, hcode]
      exact absurd rfl (h _ none (bind_eq_error_iff.mpr (.inl hread))).1
  · rintro ⟨hcode, hfile⟩ fault location h
    rcases bind_eq_error_iff.mp h with h | ⟨⟨lexicon, patterns⟩, -, h⟩
    · obtain ⟨path, reason, herr⟩ := exists_unreadable_of_readFiles hcode hfile h
      cases herr
      exact ⟨nofun, nofun⟩
    · exact build_error_ne h

/-! ## Listing -/

/-- The code is among the languages below a root. -/
def IsListed (files : FileTree) (root code : String) : Prop :=
  ∃ codes, availableLanguages files root = .ok codes ∧ code ∈ codes

theorem mem_languagesIn_iff {tree : FileTree} : code ∈ languagesIn tree ↔
    ∃ entries entries' content, tree = .directory entries ∧
      (code, .directory entries') ∈ entries ∧
      entries'.lookup lexiconFile = some (.file content) := by
  cases tree with
  | file content => simp [languagesIn]
  | directory entries =>
      simp only [languagesIn, List.mem_map, List.mem_filter]
      constructor
      · rintro ⟨⟨code', tree⟩, ⟨hmem, hlexicon⟩, rfl⟩
        split at hlexicon
        next content hchild =>
          cases tree with
          | file content' => cases hchild
          | directory entries' => exact ⟨entries, entries', content, rfl, hmem, hchild⟩
        next => cases hlexicon
      · rintro ⟨_, entries', content, ⟨⟩, hmem, hlookup⟩
        refine ⟨_, ⟨hmem, ?_⟩, rfl⟩
        simp only [child?, hlookup]

theorem nodup_languagesIn {tree : FileTree} (h : tree.WellFormed) : (languagesIn tree).Nodup := by
  cases h with
  | file content => exact List.nodup_nil
  | directory hnodup hnames htrees => exact hnodup.sublist (List.filter_sublist.map _)

theorem availableLanguages_eq_ok_iff {codes : List String} :
    availableLanguages files root = .ok codes ↔
      ∃ tree, files.locate root = .ok tree ∧ codes = (languagesIn tree).mergeSort textLe := by
  rw [availableLanguages]
  split
  next tree hlocate => simp [hlocate, eq_comm]
  next fault hlocate => simp [hlocate]

/-- What a path leads to is well-formed too. -/
theorem wellFormed_of_locate (hfiles : files.WellFormed) {tree : FileTree}
    (h : files.locate root = .ok tree) : tree.WellFormed := by
  obtain ⟨-, names, -, hfind⟩ := locate_eq_ok_iff.mp h
  exact hfiles.find? hfind

/-- What is listed is every directory below the root with a lexicon in it. -/
theorem isListed_iff (hfiles : files.WellFormed) : IsListed files root code ↔
    root ≠ "" ∧ IsEntryName code ∧
      files.isFile (joinPath (joinPath root code) lexiconFile) = true := by
  have hlexicon : IsEntryName lexiconFile :=
    ⟨by decide, by decide, by decide, by decide⟩
  have hlisted : IsListed files root code ↔ ∃ entries entries' content,
      files.locate root = .ok (.directory entries) ∧ (code, .directory entries') ∈ entries ∧
        entries'.lookup lexiconFile = some (.file content) := by
    simp only [IsListed, availableLanguages_eq_ok_iff]
    constructor
    · rintro ⟨_, ⟨tree, hlocate, rfl⟩, hmem⟩
      obtain ⟨entries, entries', content, rfl, hrest⟩ :=
        mem_languagesIn_iff.mp (List.mem_mergeSort.mp hmem)
      exact ⟨entries, entries', content, hlocate, hrest⟩
    · rintro ⟨entries, entries', content, hlocate, hrest⟩
      exact ⟨_, ⟨_, hlocate, rfl⟩, List.mem_mergeSort.mpr
        (mem_languagesIn_iff.mpr ⟨entries, entries', content, rfl, hrest⟩)⟩
  rw [hlisted]
  constructor
  · rintro ⟨entries, entries', content, hlocate, hmem, hlookup⟩
    have hroot : root ≠ "" := (locate_eq_ok_iff.mp hlocate).1
    cases wellFormed_of_locate hfiles hlocate with
    | directory hnodup hnames htrees =>
        have hcode : IsEntryName code := hnames _ hmem
        exact ⟨hroot, hcode, (isFile_joinPath_joinPath_iff hroot hcode hlexicon).mpr
          ⟨entries, entries', content, hlocate, (lookup_eq_some_iff hnodup).mpr hmem, hlookup⟩⟩
  · rintro ⟨hroot, hcode, hfile⟩
    obtain ⟨entries, entries', content, hlocate, hdirectory, hlookup⟩ :=
      (isFile_joinPath_joinPath_iff hroot hcode hlexicon).mp hfile
    cases wellFormed_of_locate hfiles hlocate with
    | directory hnodup hnames htrees =>
        exact ⟨entries, entries', content, hlocate, (lookup_eq_some_iff hnodup).mp hdirectory,
          hlookup⟩

/-- The list is in order, and no language is in it twice. -/
theorem pairwise_availableLanguages (hfiles : files.WellFormed) {codes : List String}
    (h : availableLanguages files root = .ok codes) : codes.Pairwise (· < ·) := by
  obtain ⟨tree, hlocate, rfl⟩ := availableLanguages_eq_ok_iff.mp h
  have hnodup : ((languagesIn tree).mergeSort textLe).Nodup :=
    (List.mergeSort_perm _ _).nodup_iff.mpr
      (nodup_languagesIn (wellFormed_of_locate hfiles hlocate))
  have hle (a b : String) : textLe a b = true ↔ a ≤ b := by
    rw [textLe, Bool.not_eq_true', decide_eq_false_iff_not, String.not_lt]
  have hsorted : ((languagesIn tree).mergeSort textLe).Pairwise fun a b => textLe a b = true := by
    refine List.pairwise_mergeSort (fun a b c => ?_) (fun a b => ?_) _
    · simp only [hle]
      exact String.le_trans
    · simp only [Bool.or_eq_true, hle]
      exact String.le_total a b
  exact hsorted.imp₂ (fun a b hab hne => Std.lt_of_le_of_ne ((hle a b).mp hab) hne) hnodup

/-- A language with a code that has no backslash is listed just if loading it gets to its lexicon,
unless the root is empty.  A directory with a backslash in its name and a lexicon in it is listed,
but it is no code that loading takes.  Below an empty root nothing is listed. -/
theorem listed_languages (compile : Lexicon.PatternCompiler) (hfiles : files.WellFormed) :
    (∀ root code, root ≠ "" → '\\' ∉ code.toList →
      (IsListed files root code ↔ ReachesLexicon compile files code root)) ∧
    (∀ root code, '\\' ∈ code.toList → ¬ReachesLexicon compile files code root ∧
      (IsListed files root code ↔ root ≠ "" ∧ IsEntryName code ∧
        files.isFile (joinPath (joinPath root code) lexiconFile) = true)) ∧
    (∀ code, ¬IsListed files "" code) ∧
    ∀ root codes, availableLanguages files root = .ok codes → codes.Pairwise (· < ·) := by
  refine ⟨fun root code hroot hcode => ?_,
    fun root code hcode => ⟨fun h => ?_, isListed_iff hfiles⟩,
    fun code h => ((isListed_iff hfiles).mp h).1 rfl,
    fun root codes => pairwise_availableLanguages hfiles⟩
  · rw [isListed_iff hfiles, reachesLexicon_iff, isLanguageCode_iff]
    exact ⟨fun ⟨_, hname, hfile⟩ => ⟨⟨hname, hcode⟩, hfile⟩,
      fun ⟨⟨hname, _⟩, hfile⟩ => ⟨hroot, hname, hfile⟩⟩
  · exact (isLanguageCode_iff.mp (reachesLexicon_iff.mp h).1).2 hcode

/-- Two directories with a lexicon below a root, one with a backslash in its name. -/
def oddFiles : FileTree :=
  .directory [("r", .directory [("a\\b", .directory [("4.0.dict", .file [])]),
    ("aa", .directory [("4.0.dict", .file [])])])]

theorem wellFormed_oddFiles : oddFiles.WellFormed := by
  have hname (name : String) (h : name ≠ "" ∧ name ≠ "." ∧ name ≠ ".." ∧ '/' ∉ name.toList) :
      IsEntryName name := ⟨h.1, h.2.1, h.2.2.1, h.2.2.2⟩
  have hlanguage : (FileTree.directory [("4.0.dict", .file [])]).WellFormed := by
    refine .directory (by decide) ?_ ?_ <;> rw [List.forall_mem_singleton]
    · exact hname "4.0.dict" (by decide)
    · exact .file []
  refine .directory (by decide) ?_ ?_ <;> rw [List.forall_mem_singleton]
  · exact hname "r" (by decide)
  · refine .directory (by decide) ?_ ?_ <;>
      rw [List.forall_mem_cons, List.forall_mem_singleton]
    · exact ⟨hname "a\\b" (by decide), hname "aa" (by decide)⟩
    · exact ⟨hlanguage, hlanguage⟩

theorem listed_languages_odd : oddFiles.WellFormed ∧
    IsListed oddFiles "r" "aa" ∧ ReachesLexicon Pattern.compile oddFiles "aa" "r" := by
  obtain ⟨hagree, -⟩ := listed_languages Pattern.compile wellFormed_oddFiles
  have hreached : ReachesLexicon Pattern.compile oddFiles "aa" "r" :=
    reachesLexicon_iff.mpr ⟨by decide, by decide⟩
  exact ⟨wellFormed_oddFiles, (hagree "r" "aa" (by decide) (by decide)).mpr hreached, hreached⟩

/-- So not every language that is listed can be loaded. -/
theorem listed_not_reached : ¬∀ files root code, files.WellFormed → root ≠ "" →
    (IsListed files root code ↔ ReachesLexicon Pattern.compile files code root) := by
  intro h
  have hlisted : IsListed oddFiles "r" "a\\b" := (isListed_iff wellFormed_oddFiles).mpr
    ⟨by decide, ⟨by decide, by decide, by decide, by decide⟩, by decide⟩
  have hreached := (h oddFiles "r" "a\\b" wellFormed_oddFiles (by decide)).mp hlisted
  exact absurd (reachesLexicon_iff.mp hreached).1 (by decide)

end LinkParsing
