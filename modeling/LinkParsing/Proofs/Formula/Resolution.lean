import LinkParsing.Formula.Substitution
import LinkParsing.Proofs.Result
import Mathlib.Data.List.Basic

/-!
# Replacement of names ends, and leaves none

Replacement goes from a formula to the definitions of its names, which may be of any size and
may lead back to where they started, so nothing but the bound on the depth makes it end
(`Ends`).  It succeeds just if every name in reach of the formula is defined and the names never
nest too deep (`resolves_iff_reaches`).  A name within reach of its own definition nests as deep
as one likes, so that replacement then fails.

The result is the formula with every name replaced by its definition, in which the names are
replaced likewise (`resolve_meaning`).
-/

namespace LinkParsing.Formula

variable {f g : Formula} {items : List Formula} {name : String}

/-! ## Names in a formula -/

mutual

/-- The names that occur in a formula, in written order. -/
def names : Formula → List String
  | .connector _ => []
  | .empty => []
  | .optional inner => inner.names
  | .cost inner => inner.names
  | .and items => namesOfAll items
  | .or items => namesOfAll items
  | .macroRef name => [name]

/-- The names that occur in any of the items. -/
def namesOfAll : List Formula → List String
  | [] => []
  | item :: items => item.names ++ namesOfAll items

end

theorem mem_namesOfAll : name ∈ namesOfAll items ↔ ∃ f ∈ items, name ∈ f.names := by
  induction items with
  | nil => exact ⟨nofun, nofun⟩
  | cons item items ih => rw [namesOfAll, List.mem_append, ih, List.exists_mem_cons_iff]

mutual

/-- The formula with every name replaced and all else as it is. -/
def replaceNames (full : String → Formula) : Formula → Formula
  | .connector c => .connector c
  | .empty => .empty
  | .optional inner => .optional (inner.replaceNames full)
  | .cost inner => .cost (inner.replaceNames full)
  | .and items => .and (replaceNamesOfAll full items)
  | .or items => .or (replaceNamesOfAll full items)
  | .macroRef name => full name

/-- Every name replaced in each of the items. -/
def replaceNamesOfAll (full : String → Formula) : List Formula → List Formula
  | [] => []
  | item :: items => item.replaceNames full :: replaceNamesOfAll full items

end

theorem replaceNamesOfAll_eq_map (full : String → Formula) (items : List Formula) :
    replaceNamesOfAll full items = items.map (replaceNames full) := by
  induction items with
  | nil => rfl
  | cons item items ih => rw [replaceNamesOfAll, ih, List.map_cons]

/-- No name is left if none comes in. -/
theorem macroFree_replaceNames {full : String → Formula}
    (h : ∀ name ∈ f.names, (full name).macroFree = true) :
    (f.replaceNames full).macroFree = true := by
  induction f with
  | connector c | empty => rfl
  | optional inner ih => exact ih h
  | cost inner ih => exact ih h
  | and items ih | or items ih =>
      rw [replaceNames, macroFree, macroFreeAll_iff, replaceNamesOfAll_eq_map]
      refine List.forall_mem_map.mpr fun f hf => ih f hf fun name hname => h name ?_
      exact mem_namesOfAll.mpr ⟨f, hf, hname⟩
  | macroRef name => exact h name List.mem_cons_self

/-! ## One replacement -/

section Substitution

variable {ε : Type} {replace replace' : String → Except ε Formula}

private theorem substituteAll_congr
    (h : ∀ f ∈ items, f.substitute replace = f.substitute replace') :
    substituteAll replace items = substituteAll replace' items := by
  induction items with
  | nil => rfl
  | cons item items ih =>
      obtain ⟨hitem, hitems⟩ := List.forall_mem_cons.mp h
      rw [substituteAll, substituteAll, hitem, ih hitems]

/-- Only what the names of the formula are replaced by matters. -/
theorem substitute_congr (h : ∀ name ∈ f.names, replace name = replace' name) :
    f.substitute replace = f.substitute replace' := by
  induction f with
  | connector c | empty => rfl
  | optional inner ih => rw [substitute, substitute, ih h]
  | cost inner ih => rw [substitute, substitute, ih h]
  | and items ih | or items ih =>
      rw [substitute, substitute, substituteAll_congr fun f hf => ih f hf fun name hname =>
        h name (mem_namesOfAll.mpr ⟨f, hf, hname⟩)]
  | macroRef name => exact h name List.mem_cons_self

private theorem substituteAll_eq_ok {full : String → Formula}
    (h : ∀ f ∈ items, f.substitute replace = .ok (f.replaceNames full)) :
    substituteAll replace items = .ok (replaceNamesOfAll full items) := by
  induction items with
  | nil => rfl
  | cons item items ih =>
      obtain ⟨hitem, hitems⟩ := List.forall_mem_cons.mp h
      rw [substituteAll, hitem, ih hitems]
      rfl

/-- Where nothing fails, every name is replaced. -/
theorem substitute_eq_ok {full : String → Formula}
    (h : ∀ name ∈ f.names, replace name = .ok (full name)) :
    f.substitute replace = .ok (f.replaceNames full) := by
  induction f with
  | connector c | empty => rfl
  | optional inner ih => rw [substitute, ih h]; rfl
  | cost inner ih => rw [substitute, ih h]; rfl
  | and items ih | or items ih =>
      rw [substitute, substituteAll_eq_ok fun f hf => ih f hf fun name hname =>
        h name (mem_namesOfAll.mpr ⟨f, hf, hname⟩)]
      rfl
  | macroRef name => exact h name List.mem_cons_self

private theorem exists_of_substituteAll {items' : List Formula}
    (hitems : ∀ f ∈ items, ∀ g, f.substitute replace = .ok g →
      ∀ name ∈ f.names, ∃ g, replace name = .ok g)
    (h : substituteAll replace items = .ok items') :
    ∀ name ∈ namesOfAll items, ∃ g, replace name = .ok g := by
  induction items generalizing items' with
  | nil => exact nofun
  | cons item items ih =>
      obtain ⟨hitem, hitems⟩ := List.forall_mem_cons.mp hitems
      rw [substituteAll] at h
      obtain ⟨first, hfirst, h⟩ := bind_eq_ok_iff.mp h
      obtain ⟨others, hothers, -⟩ := bind_eq_ok_iff.mp h
      rw [namesOfAll]
      exact List.forall_mem_append.mpr ⟨hitem first hfirst, ih hitems hothers⟩

/-- A formula comes through only if all its names do. -/
theorem exists_of_substitute (h : f.substitute replace = .ok g) :
    ∀ name ∈ f.names, ∃ g, replace name = .ok g := by
  induction f generalizing g with
  | connector c | empty => exact nofun
  | optional inner ih | cost inner ih =>
      rw [substitute] at h
      obtain ⟨inner', hinner, -⟩ := bind_eq_ok_iff.mp h
      exact ih hinner
  | and items ih | or items ih =>
      rw [substitute] at h
      obtain ⟨items', hitems, -⟩ := bind_eq_ok_iff.mp h
      exact exists_of_substituteAll (fun f hf g => ih f hf) hitems
  | macroRef name => exact List.forall_mem_singleton.mpr ⟨g, h⟩

/-- What a name is replaced by where nothing fails. -/
def okOrEmpty (replace : String → Except ε Formula) (name : String) : Formula :=
  (replace name).toOption.getD .empty

theorem okOrEmpty_of_eq_ok (h : replace name = .ok g) : okOrEmpty replace name = g := by
  rw [okOrEmpty, h]
  rfl

/-- A formula comes through just if all its names do, and then with these replaced. -/
theorem substitute_eq_ok_iff : f.substitute replace = .ok g ↔
    (∀ name ∈ f.names, ∃ g, replace name = .ok g) ∧ f.replaceNames (okOrEmpty replace) = g := by
  have heq (hnames : ∀ name ∈ f.names, ∃ g, replace name = .ok g) :
      f.substitute replace = .ok (f.replaceNames (okOrEmpty replace)) := by
    refine substitute_eq_ok fun name hname => ?_
    obtain ⟨g', hg'⟩ := hnames name hname
    rw [okOrEmpty_of_eq_ok hg', hg']
  constructor
  · intro h
    have hnames := exists_of_substitute h
    exact ⟨hnames, Except.ok.inj ((heq hnames).symm.trans h)⟩
  · rintro ⟨hnames, rfl⟩
    exact heq hnames

end Substitution

/-! ## One name -/

variable {definition : String → Option Formula} {depth : Nat} {body : Formula}

/-- What a name is replaced by, for definitions that nest at most `depth` deep. -/
def resolveName (definition : String → Option Formula) (depth : Nat) (name : String) :
    Except SubstitutionError Formula :=
  match definition name, depth with
  | none, _ => .error (.undefined name)
  | some _, 0 => .error .tooDeep
  | some body, depth + 1 => resolveWithin definition depth body

theorem resolveWithin_eq (definition : String → Option Formula) (depth : Nat) (f : Formula) :
    resolveWithin definition depth f = f.substitute (resolveName definition depth) := by
  cases depth with
  | zero | succ depth =>
      refine substitute_congr fun name _ => ?_
      unfold resolveName
      cases definition name with
      | none | some body => rfl

/-- A name is replaced just if it is defined by a formula whose names are replaced one less
deep. -/
theorem resolveName_eq_ok_iff :
    resolveName definition depth name = .ok g ↔ ∃ body, definition name = some body ∧
      ∃ rest, depth = rest + 1 ∧ resolveWithin definition rest body = .ok g := by
  unfold resolveName
  cases definition name with
  | none => exact ⟨nofun, nofun⟩
  | some body =>
      cases depth with
      | zero => exact ⟨nofun, nofun⟩
      | succ depth => simp

/-- More depth changes nothing where there was enough. -/
theorem resolveWithin_succ (h : resolveWithin definition depth f = .ok g) :
    resolveWithin definition (depth + 1) f = .ok g := by
  -- Parts of a formula keep the depth, and only names take from it, so this goes over the depth.
  induction depth using Nat.strongRecOn generalizing f g with
  | ind depth ih =>
      rw [resolveWithin_eq] at h ⊢
      rw [← h]
      refine substitute_congr fun name hname => ?_
      obtain ⟨g', hg'⟩ := exists_of_substitute h name hname
      obtain ⟨body, hbody, rest, rfl, hrest⟩ := resolveName_eq_ok_iff.mp hg'
      rw [hg']
      exact resolveName_eq_ok_iff.mpr ⟨body, hbody, rest + 1, rfl, ih rest rest.lt_succ_self hrest⟩

theorem resolveWithin_mono {depth' : Nat} (hle : depth ≤ depth')
    (h : resolveWithin definition depth f = .ok g) : resolveWithin definition depth' f = .ok g := by
  induction hle with
  | refl => exact h
  | step hle ih => exact resolveWithin_succ ih

/-- All names in a formula can be replaced, for definitions that nest at most `depth` deep. -/
def Resolves (definition : String → Option Formula) (depth : Nat) (f : Formula) : Prop :=
  ∃ g, resolveWithin definition depth f = .ok g

/-- So they can if this is true, one less deep, of the definition of each of them. -/
theorem resolves_iff : Resolves definition depth f ↔
    ∀ name ∈ f.names, ∃ body, definition name = some body ∧
      ∃ rest, depth = rest + 1 ∧ Resolves definition rest body := by
  rw [Resolves, resolveWithin_eq]
  constructor
  · rintro ⟨g, h⟩ name hname
    obtain ⟨g', hg'⟩ := exists_of_substitute h name hname
    obtain ⟨body, hbody, rest, hrest, hg'⟩ := resolveName_eq_ok_iff.mp hg'
    exact ⟨body, hbody, rest, hrest, g', hg'⟩
  · intro h
    refine ⟨_, substitute_eq_ok_iff.mpr ⟨fun name hname => ?_, rfl⟩⟩
    obtain ⟨body, hbody, rest, hrest, g, hg⟩ := h name hname
    exact ⟨g, resolveName_eq_ok_iff.mpr ⟨body, hbody, rest, hrest, hg⟩⟩

/-! ## Names within reach -/

/-- The name occurs in the formula, or in the definition of a name within reach of it. -/
inductive Reaches (definition : String → Option Formula) : Formula → String → Prop where
  | direct {f : Formula} {name : String} (h : name ∈ f.names) : Reaches definition f name
  | through {f body : Formula} {via name : String} (h : via ∈ f.names)
      (hbody : definition via = some body) (hrest : Reaches definition body name) :
      Reaches definition f name

/-- The first of the names occurs in the formula, and each further one in the definition of the
one before. -/
inductive Nesting (definition : String → Option Formula) : Formula → List String → Prop where
  | last {f : Formula} {name : String} (h : name ∈ f.names) : Nesting definition f [name]
  | further {f body : Formula} {name : String} {names : List String} (h : name ∈ f.names)
      (hbody : definition name = some body) (hrest : Nesting definition body names) :
      Nesting definition f (name :: names)

/-- If the names in a formula can be replaced, then every name within reach of it is defined,
and the names in its definition can be replaced less deep. -/
theorem Reaches.resolves (h : Reaches definition f name) (hf : Resolves definition depth f) :
    ∃ body, definition name = some body ∧ ∃ rest < depth, Resolves definition rest body := by
  induction h generalizing depth with
  | direct h =>
      obtain ⟨body, hbody, rest, rfl, hrest⟩ := resolves_iff.mp hf _ h
      exact ⟨body, hbody, rest, rest.lt_succ_self, hrest⟩
  | through h hvia _ ih =>
      obtain ⟨_, hbody, rest, rfl, hrest⟩ := resolves_iff.mp hf _ h
      obtain rfl := Option.some.inj (hvia.symm.trans hbody)
      obtain ⟨body, hbody, rest', hlt, hrest'⟩ := ih hrest
      exact ⟨body, hbody, rest', Nat.lt_succ_of_lt hlt, hrest'⟩

/-- If the names in a formula can be replaced, then they do not nest deeper than is allowed. -/
theorem Nesting.length_le {names : List String} (h : Nesting definition f names)
    (hf : Resolves definition depth f) : names.length ≤ depth := by
  induction h generalizing depth with
  | last h =>
      obtain ⟨_, _, rest, rfl, _⟩ := resolves_iff.mp hf _ h
      exact Nat.le_add_left 1 rest
  | further h hname _ ih =>
      obtain ⟨_, hbody, rest, rfl, hrest⟩ := resolves_iff.mp hf _ h
      obtain rfl := Option.some.inj (hname.symm.trans hbody)
      exact Nat.succ_le_succ (ih hrest)

/-- All names in a formula can be replaced just if every name within reach of it is defined and
the names do not nest deeper than is allowed. -/
theorem resolves_iff_reaches : Resolves definition depth f ↔
    (∀ name, Reaches definition f name → ∃ body, definition name = some body) ∧
      ∀ names, Nesting definition f names → names.length ≤ depth := by
  constructor
  · intro hf
    refine ⟨fun name hname => ?_, fun names hnames => hnames.length_le hf⟩
    obtain ⟨body, hbody, -⟩ := hname.resolves hf
    exact ⟨body, hbody⟩
  · rintro ⟨hdefined, hnesting⟩
    induction depth generalizing f with
    | zero =>
        refine resolves_iff.mpr fun name hname => ?_
        exact absurd (hnesting [name] (.last hname)) (Nat.not_succ_le_zero 0)
    | succ depth ih =>
        refine resolves_iff.mpr fun name hname => ?_
        obtain ⟨body, hbody⟩ := hdefined name (.direct hname)
        -- Names within reach of the definition are within reach of the formula, one deeper.
        refine ⟨body, hbody, depth, rfl, ih ?_ ?_⟩
        · exact fun name' h => hdefined name' (.through hname hbody h)
        · exact fun names h => Nat.le_of_succ_le_succ (hnesting _ (.further hname hbody h))

/-- A name within reach of its own definition is not replaced at any depth. -/
theorem Reaches.not_resolves (h : Reaches definition body name)
    (hbody : definition name = some body) (depth : Nat) : ¬Resolves definition depth body := by
  induction depth using Nat.strongRecOn with
  | ind depth ih =>
      intro hresolves
      obtain ⟨_, hbody', rest, hlt, hrest⟩ := h.resolves hresolves
      -- Once around, the same definition would have been replaced less deep.
      obtain rfl := Option.some.inj (hbody.symm.trans hbody')
      exact ih rest hlt hrest

/-! ## The result -/

/-- What carries over from the definitions of all names in a formula to the formula with these
replaced, is true of every formula and its result. -/
theorem resolveWithin_induction {motive : Formula → Formula → Prop}
    (step : ∀ f full, (∀ name ∈ f.names, ∃ body, definition name = some body ∧
      motive body (full name)) → motive f (f.replaceNames full))
    (h : resolveWithin definition depth f = .ok g) : motive f g := by
  induction depth using Nat.strongRecOn generalizing f g with
  | ind depth ih =>
      rw [resolveWithin_eq] at h
      obtain ⟨hnames, rfl⟩ := substitute_eq_ok_iff.mp h
      refine step f _ fun name hname => ?_
      obtain ⟨g, hg⟩ := hnames name hname
      obtain ⟨body, hbody, rest, rfl, hrest⟩ := resolveName_eq_ok_iff.mp hg
      rw [okOrEmpty_of_eq_ok hg]
      exact ⟨body, hbody, ih rest rest.lt_succ_self hrest⟩

/-- No name is left. -/
theorem macroFree_of_resolveWithin (h : resolveWithin definition depth f = .ok g) :
    g.macroFree = true := by
  refine resolveWithin_induction (motive := fun _ g => g.macroFree = true) (fun f full ih => ?_) h
  refine macroFree_replaceNames fun name hname => ?_
  obtain ⟨body, -, hfree⟩ := ih name hname
  exact hfree

/-- What a name is replaced by in the end: its definition, with its own names replaced. -/
def fullDefinition (definition : String → Option Formula) : String → Formula :=
  okOrEmpty (resolveName definition (maxMacroDepth + 1))

theorem fullDefinition_eq (hbody : definition name = some body)
    (h : body.resolve definition = .ok g) : fullDefinition definition name = g :=
  okOrEmpty_of_eq_ok (resolveName_eq_ok_iff.mpr ⟨body, hbody, maxMacroDepth, rfl, h⟩)

/-- Every name has been replaced in the same way, however deep it occurred. -/
theorem replaceNames_fullDefinition (h : f.resolve definition = .ok g) :
    f.replaceNames (fullDefinition definition) = g := by
  have hsucc := resolveWithin_succ h
  rw [resolveWithin_eq] at hsucc
  exact (substitute_eq_ok_iff.mp hsucc).2

/-- Names within reach are defined, and replaced by their definitions in which this has been done
likewise. -/
theorem Reaches.fullDefinition_eq (h : Reaches definition f name)
    (hg : f.resolve definition = .ok g) : ∃ body, definition name = some body ∧
      body.resolve definition = .ok (fullDefinition definition name) ∧
        fullDefinition definition name = body.replaceNames (fullDefinition definition) := by
  obtain ⟨body, hbody, rest, hlt, full, hrest⟩ := h.resolves ⟨g, hg⟩
  have hfull : body.resolve definition = .ok full := resolveWithin_mono (Nat.le_of_lt hlt) hrest
  rw [Formula.fullDefinition_eq hbody hfull]
  exact ⟨body, hbody, hfull, (replaceNames_fullDefinition hfull).symm⟩

/-! ## Replacement ends -/

/-- Replacement in a formula that stands `depth` definitions down from the first one ends, with
this result.  The results for the names are what replacement in their definitions ends with. -/
inductive Ends (definition : String → Option Formula) :
    Nat → Formula → Except SubstitutionError Formula → Prop where
  | tooDeep {depth : Nat} {f : Formula} (h : maxMacroDepth < depth) :
      Ends definition depth f (.error .tooDeep)
  | replaced {depth : Nat} {f : Formula} (h : depth ≤ maxMacroDepth)
      {results : String → Except SubstitutionError Formula}
      (hdefined : ∀ name ∈ f.names, ∀ body, definition name = some body →
        Ends definition (depth + 1) body (results name))
      (hundefined : ∀ name ∈ f.names, definition name = none →
        results name = .error (.undefined name)) :
      Ends definition depth f (f.substitute results)

/-- Replacement with the depth counted up from the start. -/
def resolveFrom (definition : String → Option Formula) (depth : Nat) (f : Formula) :
    Except SubstitutionError Formula :=
  if maxMacroDepth < depth then .error .tooDeep
  else resolveWithin definition (maxMacroDepth - depth) f

theorem resolveFrom_of_le (h : depth ≤ maxMacroDepth) (f : Formula) :
    resolveFrom definition depth f = f.substitute fun name =>
      match definition name with
      | some body => resolveFrom definition (depth + 1) body
      | none => .error (.undefined name) := by
  rw [resolveFrom, if_neg (Nat.not_lt.mpr h), resolveWithin_eq]
  refine substitute_congr fun name _ => ?_
  unfold resolveName
  cases definition name with
  | none => rfl
  | some body =>
      dsimp only
      rw [resolveFrom]
      rcases Nat.eq_or_lt_of_le h with rfl | hlt
      · rw [if_pos (Nat.lt_succ_self _), Nat.sub_self]
      · rw [if_neg (Nat.not_lt.mpr hlt), ← Nat.sub_add_cancel (Nat.sub_pos_of_lt hlt), Nat.sub_sub]

theorem Ends.eq_resolveFrom {r : Except SubstitutionError Formula}
    (h : Ends definition depth f r) : resolveFrom definition depth f = r := by
  induction h with
  | tooDeep h => exact if_pos h
  | replaced h _ hundefined ih =>
      rw [resolveFrom_of_le h]
      refine substitute_congr fun name hname => ?_
      cases hbody : definition name with
      | none => exact (hundefined name hname hbody).symm
      | some body => exact ih name hname body hbody

theorem ends_resolveFrom (definition : String → Option Formula) (depth : Nat) (f : Formula) :
    Ends definition depth f (resolveFrom definition depth f) := by
  rcases Nat.lt_or_ge maxMacroDepth depth with hdeep | hle
  · rw [resolveFrom, if_pos hdeep]
    exact .tooDeep hdeep
  · rw [resolveFrom_of_le hle]
    refine .replaced hle (fun name _ body hbody => ?_) fun name _ hbody => ?_
    · rw [hbody]
      exact ends_resolveFrom definition (depth + 1) body
    · rw [hbody]
termination_by maxMacroDepth + 1 - depth

/-- Replacement ends with one result. -/
theorem ends_iff {r : Except SubstitutionError Formula} :
    Ends definition 0 f r ↔ f.resolve definition = r :=
  ⟨fun h => h.eq_resolveFrom, fun h => h ▸ ends_resolveFrom definition 0 f⟩

/-- Whatever is defined, replacement ends.  It succeeds just if every name within reach is
defined and the names do not nest deeper than is allowed, so it fails where a name is within
reach of its own definition.  In the result no name is left: every name has been replaced by its
definition, in which this has been done likewise, and all else is as it was. -/
theorem resolve_meaning (definition : String → Option Formula) (f : Formula) :
    (∀ r, Ends definition 0 f r ↔ f.resolve definition = r) ∧
    ((∃ g, f.resolve definition = .ok g) ↔
      (∀ name, Reaches definition f name → ∃ body, definition name = some body) ∧
        ∀ names, Nesting definition f names → names.length ≤ maxMacroDepth) ∧
    (∀ name body, Reaches definition f name → definition name = some body →
      Reaches definition body name → ∃ e, f.resolve definition = .error e) ∧
    ∀ g, f.resolve definition = .ok g →
      g.macroFree = true ∧ ∃ full : String → Formula, g = f.replaceNames full ∧
        ∀ name, Reaches definition f name → ∃ body, definition name = some body ∧
          body.resolve definition = .ok (full name) ∧ full name = body.replaceNames full := by
  refine ⟨fun r => ends_iff, resolves_iff_reaches, ?_, ?_⟩
  · intro name body hname hbody hcycle
    cases hresult : f.resolve definition with
    | error e => exact ⟨e, rfl⟩
    | ok g =>
        obtain ⟨_, hbody', rest, -, hrest⟩ := hname.resolves ⟨g, hresult⟩
        obtain rfl := Option.some.inj (hbody.symm.trans hbody')
        exact absurd hrest (hcycle.not_resolves hbody rest)
  · intro g hg
    exact ⟨macroFree_of_resolveWithin hg, fullDefinition definition,
      (replaceNames_fullDefinition hg).symm, fun name hname => hname.fullDefinition_eq hg⟩

/-- One name defined by another, and one by itself: `<a>: {<b>} & A+; <b>: B-; <c>: <c> or ();`. -/
def sampleDefinitions (name : String) : Option Formula :=
  if name = "<a>" then
    some (.and [.optional (.macroRef "<b>"), .connector ⟨['A'], [], .right, false⟩])
  else if name = "<b>" then some (.connector ⟨['B'], [], .left, false⟩)
  else if name = "<c>" then some (.or [.macroRef "<c>", .empty])
  else none

/-- `<a> & [<b>]` becomes `({B-} & A+) & [B-]`, and `<c>` cannot be replaced. -/
theorem resolve_meaning_sample :
    (∃ full : String → Formula,
      Formula.and [.and [.optional (.connector ⟨['B'], [], .left, false⟩),
        .connector ⟨['A'], [], .right, false⟩], .cost (.connector ⟨['B'], [], .left, false⟩)] =
          (Formula.and [.macroRef "<a>", .cost (.macroRef "<b>")]).replaceNames full ∧
      full "<a>" = (Formula.and [.optional (.macroRef "<b>"),
        .connector ⟨['A'], [], .right, false⟩]).replaceNames full) ∧
    ∃ e, (Formula.macroRef "<c>").resolve sampleDefinitions = .error e := by
  constructor
  · obtain ⟨-, -, -, hok⟩ := resolve_meaning sampleDefinitions
      (.and [.macroRef "<a>", .cost (.macroRef "<b>")])
    obtain ⟨-, full, hfull, hreached⟩ := hok _ rfl
    obtain ⟨_, hbody, -, ha⟩ := hreached "<a>" (.direct List.mem_cons_self)
    obtain rfl := Option.some.inj hbody
    exact ⟨full, hfull, ha⟩
  · obtain ⟨-, -, hcycle, -⟩ := resolve_meaning sampleDefinitions (.macroRef "<c>")
    exact hcycle "<c>" _ (.direct List.mem_cons_self) rfl (.direct List.mem_cons_self)

end LinkParsing.Formula
