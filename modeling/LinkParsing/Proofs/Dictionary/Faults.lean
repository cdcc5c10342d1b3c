import LinkParsing.Pattern.Reading
import LinkParsing.Proofs.Dictionary.Contents
import LinkParsing.Proofs.Formula.Limit

/-!
# Faults that no lexicon has

A formula of a lexicon joins several items wherever it joins some.  So do its definitions, and so
does the formula with its names replaced (`joinsSeveral_of_resolve`).  There are no names left in
this one, so that expanding it can only give too many disjuncts, or some.

So of the faults that a dictionary is refused for two never occur: a word without disjuncts, and a
name in a formula to be expanded (`build_faults`).
-/

namespace LinkParsing

open Lexicon

namespace Formula

variable {f g : Formula} {full : String → Formula} {definition : String → Option Formula}

/-! ## Names replaced -/

theorem JoinsSeveral.replaceNames (h : f.JoinsSeveral)
    (hfull : ∀ name ∈ f.names, (full name).JoinsSeveral) : (f.replaceNames full).JoinsSeveral := by
  induction h with
  | connector c => exact .connector c
  | empty => exact .empty
  | macroRef name => exact hfull name List.mem_cons_self
  | optional h ih => exact .optional (ih hfull)
  | cost h ih => exact .cost (ih hfull)
  | @and items htwo hitems ih =>
      rw [Formula.replaceNames, replaceNamesOfAll_eq_map]
      refine .and (by rwa [List.length_map]) (List.forall_mem_map.mpr fun f hf => ?_)
      exact ih f hf fun name hname => hfull name (mem_namesOfAll.mpr ⟨f, hf, hname⟩)
  | @or items htwo hitems ih =>
      rw [Formula.replaceNames, replaceNamesOfAll_eq_map]
      refine .or (by rwa [List.length_map]) (List.forall_mem_map.mpr fun f hf => ?_)
      exact ih f hf fun name hname => hfull name (mem_namesOfAll.mpr ⟨f, hf, hname⟩)

/-- Whatever the names are defined by, as long as the definitions join several items too. -/
theorem joinsSeveral_of_resolve
    (hdefinition : ∀ name body, definition name = some body → body.JoinsSeveral)
    (h : f.resolve definition = .ok g) (hf : f.JoinsSeveral) : g.JoinsSeveral := by
  refine resolveWithin_induction (motive := fun f g => f.JoinsSeveral → g.JoinsSeveral)
    (fun f full ih hf => hf.replaceNames fun name hname => ?_) h hf
  obtain ⟨body, hbody, hfull⟩ := ih name hname
  exact hfull (hdefinition name body hbody)

/-- Where no name is left, expansion does not meet one. -/
theorem JoinsSeveral.expand_ne_unresolvedMacro (h : f.JoinsSeveral) (hfree : f.macroFree = true)
    (name : String) : f.expand ≠ .error (.unresolvedMacro name) := by
  rw [h.orsFilled.expand_eq hfree]
  split
  next => exact nofun
  next => exact nofun

end Formula

namespace Dictionary

/-- A lexicon is refused, but not because a word has no disjuncts or a formula has a name in it
when it is expanded. -/
def Refuses (source : Source) (err : Error) : Prop :=
  ∃ fault location, err = .dictionary source.language source.root fault location ∧
    (∀ word, fault ≠ .noDisjuncts word) ∧ ∀ name, fault ≠ .expansion (.unresolvedMacro name)

variable {source : Source} {definition : String → Option Formula} {e : Entry} {es : List Entry}
  {found : Std.HashMap String (List WordEntry)} {disjuncts : List Disjunct} {err : Error}

/-! ## Entries -/

theorem exists_of_lastDefinition {cs : List EntryContent} {name : String} {f : Formula}
    (h : lastDefinition cs name = some f) : ∃ c ∈ cs, c.formula = f := by
  obtain ⟨c, hc, rfl⟩ := Option.map_eq_some_iff.mp h
  exact ⟨c, List.mem_of_mem_filter (List.mem_of_getLast? hc), rfl⟩

theorem joinsSeveral_of_lastDefinition {text : String} (h : readEntries text = .ok es)
    (name : String) (body : Formula)
    (hbody : lastDefinition (es.map Entry.content) name = some body) : body.JoinsSeveral := by
  obtain ⟨_, hc, rfl⟩ := exists_of_lastDefinition hbody
  obtain ⟨e, he, rfl⟩ := List.mem_map.mp hc
  exact joinsSeveral_of_readEntries h he

section Entries

variable (hdefinition : ∀ name body, definition name = some body → body.JoinsSeveral)
include hdefinition

theorem ne_nil_of_disjunctsOf (he : e.formula.JoinsSeveral)
    (h : disjunctsOf source definition e = .ok disjuncts) : disjuncts ≠ [] := by
  obtain ⟨g, hresolve, hexpand⟩ := disjunctsOf_eq_ok_iff.mp h
  have hg := Formula.joinsSeveral_of_resolve hdefinition hresolve he
  exact hg.orsFilled.ne_nil_of_expand hexpand

theorem refuses_of_disjunctsOf (he : e.formula.JoinsSeveral)
    (h : disjunctsOf source definition e = .error err) : Refuses source err := by
  unfold disjunctsOf at h
  split at h
  next err' hresolve =>
    cases h
    exact ⟨_, _, rfl, nofun, nofun⟩
  next g hresolve =>
    have hg := Formula.joinsSeveral_of_resolve hdefinition hresolve he
    have hfree := Formula.macroFree_of_resolveWithin hresolve
    split at h
    next err' hexpand =>
      cases h
      refine ⟨_, _, rfl, nofun, ?_⟩
      rintro name ⟨⟩
      exact hg.expand_ne_unresolvedMacro hfree name hexpand
    next => cases h

theorem refuses_of_addEntries (hes : ∀ e ∈ es, e.formula.JoinsSeveral)
    (h : addEntries source definition found es = .error err) : Refuses source err := by
  induction es generalizing found with
  | nil => cases h
  | cons e es ih =>
      obtain ⟨he, hes⟩ := List.forall_mem_cons.mp hes
      rw [addEntries] at h
      split at h
      next => exact ih hes h
      next =>
        rcases bind_eq_error_iff.mp h with h | ⟨disjuncts, hok, h⟩
        · exact refuses_of_disjunctsOf hdefinition he h
        · -- adding the words cannot fail, since there are disjuncts
          have hne := ne_nil_of_disjunctsOf hdefinition he hok
          rw [addWords_eq_ok_iff.mpr ⟨fun _ => hne, rfl⟩] at h
          exact ih hes h

end Entries

/-! ## Building -/

theorem refuses_of_patternsOf {compile : PatternCompiler} {patterns : Option String}
    (h : patternsOf compile source found patterns = .error err) : Refuses source err := by
  unfold patternsOf at h
  split at h
  next => cases h
  next =>
    split at h
    next =>
      cases h
      exact ⟨_, _, rfl, nofun, nofun⟩
    next =>
      split at h
      next =>
        cases h
        exact ⟨_, _, rfl, nofun, nofun⟩
      next => cases h

/-- Building a dictionary fails only in that it refuses the lexicon or the patterns. -/
theorem refuses_of_build {compile : PatternCompiler} {language root lexicon : String}
    {patterns : Option String}
    (h : build compile language root lexicon patterns = .error err) :
    Refuses ⟨language, root, lexicon⟩ err := by
  unfold build at h
  cases hread : readEntries lexicon with
  | error e =>
      rw [hread] at h
      cases h
      exact ⟨_, _, rfl, nofun, nofun⟩
  | ok es =>
      have hes : ∀ e ∈ es, e.formula.JoinsSeveral := fun e he =>
        joinsSeveral_of_readEntries hread he
      have hdefinition (name : String) (body : Formula)
          (hbody : (definitions es)[name]? = some body) : body.JoinsSeveral :=
        joinsSeveral_of_lastDefinition hread name body (getElem?_definitions es name ▸ hbody)
      rw [hread] at h
      rcases bind_eq_error_iff.mp h with h | ⟨entries, -, h⟩
      · exact refuses_of_addEntries hdefinition hes h
      · split at h
        next =>
          rcases bind_eq_error_iff.mp h with h | ⟨ps, -, h⟩
          · exact refuses_of_patternsOf h
          · cases h
        next =>
          cases h
          exact ⟨_, _, rfl, nofun, nofun⟩

/-- No text is refused because a word has no disjuncts or because a name is left in a formula when
this is expanded.  For in the formulas that are read every conjunction and disjunction has at
least two items; this stays so when names are replaced by formulas of this kind, which leaves no
name; and such formulas have disjuncts if they expand. -/
theorem build_faults :
    (∀ compile language root lexicon patterns err,
      build compile language root lexicon patterns = .error err →
      ∃ fault location, err = .dictionary language root fault location ∧
        (∀ word, fault ≠ .noDisjuncts word) ∧
        ∀ name, fault ≠ .expansion (.unresolvedMacro name)) ∧
    (∀ text es, readEntries text = .ok es → ∀ e ∈ es, e.formula.JoinsSeveral) ∧
    (∀ (definition : String → Option Formula) f g, Formula.resolve definition f = .ok g →
      g.macroFree = true ∧ ((∀ name body, definition name = some body → body.JoinsSeveral) →
        f.JoinsSeveral → g.JoinsSeveral)) ∧
    ∀ g : Formula, g.JoinsSeveral →
      (g.macroFree = true → ∀ name, g.expand ≠ .error (.unresolvedMacro name)) ∧
      ∀ disjuncts, g.expand = .ok disjuncts → disjuncts ≠ [] := by
  refine ⟨fun compile language root lexicon patterns err h => refuses_of_build h,
    fun text es h e he => joinsSeveral_of_readEntries h he, fun definition f g h => ?_,
    fun g hg => ⟨hg.expand_ne_unresolvedMacro, fun disjuncts => hg.orsFilled.ne_nil_of_expand⟩⟩
  exact ⟨Formula.macroFree_of_resolveWithin h, fun hdefinition hf =>
    Formula.joinsSeveral_of_resolve hdefinition h hf⟩

/-- A lexicon with a name that is not defined is refused for that, and defined as nothing at all the
name has a disjunct. -/
theorem build_faults_undefined :
    (∃ fault location,
      build Pattern.compile "xx" "." "w:<n>;" none = .error (.dictionary "xx" "." fault location) ∧
        (∀ word, fault ≠ .noDisjuncts word) ∧
        ∀ name, fault ≠ .expansion (.unresolvedMacro name)) ∧
    (∃ es, readEntries "w:<n>;" = .ok es ∧ ∀ e ∈ es, e.formula.JoinsSeveral) ∧
    ∃ g, Formula.resolve (fun _ => some .empty) (.macroRef "<n>") = .ok g ∧
      g.macroFree = true ∧ g.JoinsSeveral ∧
      ∃ disjuncts, g.expand = .ok disjuncts ∧ disjuncts ≠ [] := by
  have hread : (readEntries "w:<n>;").map (·.map Entry.content) =
      .ok [⟨["w"], .macroRef "<n>"⟩] := by decide +kernel
  obtain ⟨es, hread, hes⟩ := map_eq_ok_iff.mp hread
  obtain ⟨hbuild, hshape, hresolve, hexpand⟩ := build_faults
  refine ⟨?_, ⟨es, hread, hshape _ es hread⟩, .empty, rfl, ?_⟩
  · cases hresult : build Pattern.compile "xx" "." "w:<n>;" none with
    | error err =>
        obtain ⟨fault, location, rfl, hfault⟩ := hbuild _ _ _ _ _ _ hresult
        exact ⟨fault, location, rfl, hfault⟩
    | ok d =>
        obtain ⟨⟨es', hread', hholds⟩, -⟩ := build_eq_ok_iff.mp hresult
        obtain rfl := Except.ok.inj (hread.symm.trans hread')
        rw [hes] at hholds
        exact absurd rfl (hholds.disjuncts ("w", .macroRef "<n>") List.mem_cons_self)
  · obtain ⟨hfree, hjoins⟩ := hresolve (fun _ => some .empty) (.macroRef "<n>") .empty rfl
    have hempty := hjoins (fun _ _ hbody => Option.some.inj hbody ▸ .empty) (.macroRef "<n>")
    exact ⟨hfree, hempty, _, rfl, (hexpand _ hempty).2 _ rfl⟩

end Dictionary

end LinkParsing
