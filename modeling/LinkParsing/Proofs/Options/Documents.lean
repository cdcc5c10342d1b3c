import LinkParsing.Proofs.Options.Held
import LinkParsing.Proofs.Options.Objects

/-!
# Options and documents

Options are given back by their own document, whatever they hold (`ofJson_toJson`).  A document
with one option does what setting this option by the same name does, from the defaults: values are
refused by both or by none (`ofJson_of_single`).  The names are not the same, though: two names that
can be set are unknown in documents, and these are all the difference (`single_agrees_iff`).
-/

namespace LinkParsing.Options

/-- Set an option by one of its names. -/
def setNamed (o : Options) (text : String) (value : OptionValue) : Except Error Options := do
  let name ← nameOf text
  o.set name value

variable {o o' : Options} {key text : String} {name : OptionName} {value : OptionValue}
  {v : DocumentValue}

/-! ## Names -/

theorem nameOf_eq_ok_iff : nameOf text = .ok name ↔ OptionName.ofText? text = some name := by
  unfold nameOf
  cases OptionName.ofText? text <;> simp

/-- Documents know all names but two. -/
theorem documentName?_eq_some_iff : documentName? key = some name ↔
    OptionName.ofText? key = some name ∧ key ≠ "linkage_limit" ∧ key ≠ "max_parse_time" := by
  unfold documentName? OptionName.ofText?
  split
  case h_8 =>
      -- A name that documents do not know is one of the two, or unknown.
      split <;> simp_all
  all_goals simp

theorem documentName?_text (name : OptionName) : documentName? name.text = some name := by
  cases name <;> rfl

/-! ## Values -/

theorem toText_of_document? (h : value.document? = some v) : value.toText.toList = v.toChars := by
  cases value with
  | bool b =>
      cases h
      cases b <;> rfl
  | int n =>
      simp only [OptionValue.document?] at h
      split at h
      · cases h
      · next hn =>
          cases h
          have hint : n.toInt = n.toNatClampNeg := Int64.toInt_eq_toNatClampNeg (Int64.not_lt.mp hn)
          have htext : toString (n.toNatClampNeg : Int) = toString n.toNatClampNeg := rfl
          rw [OptionValue.toText, hint, htext, Nat.toString_eq_ofList_toDigits,
            String.toList_ofList]
          rfl

theorem toText_of_document?_eq_none (h : value.document? = none) :
    ∃ digits, value.toText.toList = '-' :: digits := by
  cases value with
  | bool b => cases h
  | int n =>
      simp only [OptionValue.document?] at h
      split at h
      · next hn =>
          have hneg : n.toInt < 0 := Int64.lt_iff_toInt_lt.mp hn
          rw [OptionValue.toText, Int.toString_eq_repr, Int.repr_eq_if,
            if_neg (Int.not_le.mpr hneg), String.toList_append]
          exact ⟨_, rfl⟩
      · cases h

/-! ## Documents with one option -/

theorem ofDocument_eq_ok_iff {document : Option Document} : ofDocument document = .ok o ↔
    document.bind Document.options? = some o ∧ 0 < o.maxLinkages := by
  unfold ofDocument
  cases document.bind Document.options? with
  | none => simp
  | some given =>
      simp only [validate, Option.some.injEq, UInt64.pos_iff_ne_zero, bind, Except.bind, pure,
        Except.pure]
      by_cases hzero : given.maxLinkages = 0
      · rw [if_pos hzero]
        constructor
        · nofun
        · rintro ⟨rfl, hpos⟩
          exact absurd hzero hpos
      · rw [if_neg hzero]
        simp only [Except.ok.injEq]
        exact ⟨fun h => ⟨h, h ▸ hzero⟩, fun h => h.1⟩

theorem options?_single : (Document.named [(key, v)]).options? = some o ↔
    ∃ name, documentName? key = some name ∧ Options.default.store? name v = some o := by
  cases hname : documentName? key with
  | none => simp [Document.options?, hname]
  | some name =>
      cases hstore : Options.default.store? name v <;>
        simp [Document.options?, storeAll?, hname, hstore]

/-- A document with one option gives the defaults with this option set, if the option is known and
the value is one that it can be set to. -/
theorem ofJson_of_single
    (h : Json.WritesObject text.toList [(key, value.toText.toList)]) :
    ofJson text = .ok o ↔ ∃ name, documentName? key = some name ∧
      Options.default.set name value = .ok o := by
  have hpos : 0 < Options.default.maxLinkages := by decide
  simp only [ofJson, ofDocument_eq_ok_iff, set_eq_ok_iff_of_pos hpos]
  cases hv : value.document? with
  | none =>
      obtain ⟨digits, hdigits⟩ := toText_of_document?_eq_none hv
      rw [hdigits] at h
      have hread : Json.readDocument text.toList = none :=
        Json.readDocument_eq_none h fun rest =>
          ⟨stops_cons.mpr (by decide), by simp [Json.readValue]⟩
      simp [hread]
  | some v =>
      rw [toText_of_document? hv] at h
      have hread : Json.readDocument text.toList = some (.named [(key, v)]) :=
        Json.readDocument_of_object h (List.cons_ne_nil _ _)
      simp [hread, options?_single, ← exists_and_right, and_assoc]

theorem setNamed_eq_ok_iff : o.setNamed text value = .ok o' ↔
    ∃ name, OptionName.ofText? text = some name ∧ o.set name value = .ok o' := by
  rw [setNamed, bind_eq_ok_iff]
  simp only [nameOf_eq_ok_iff]

/-- Setting one option of the defaults by name and reading a document with just this name and this
value agree on whether this can be done and on the options that it leads to.  The only exceptions
are two names that documents do not know, where setting is possible. -/
theorem single_agrees_iff
    (h : Json.WritesObject text.toList [(key, value.toText.toList)]) :
    (∀ o, Options.default.setNamed key value = .ok o ↔ ofJson text = .ok o) ↔
      ¬((key = "linkage_limit" ∨ key = "max_parse_time") ∧
        ∃ o, Options.default.setNamed key value = .ok o) := by
  simp only [ofJson_of_single h, documentName?_eq_some_iff, setNamed_eq_ok_iff]
  by_cases hkey : key = "linkage_limit" ∨ key = "max_parse_time"
  · have hunknown : ¬(key ≠ "linkage_limit" ∧ key ≠ "max_parse_time") := by
      rwa [not_and_or, not_not, not_not]
    simp [hkey, hunknown]
  · have hknown : key ≠ "linkage_limit" ∧ key ≠ "max_parse_time" := not_or.mp hkey
    simp [hknown]

/-- The name `verbosity`, whose first letter is given by its code and around which there are blanks,
means the same in both ways; `max_parse_time` does not. -/
theorem single_agrees_iff_verbosity :
    let text := "\x7B \"\\u0076erbosity\" : 2 \x7D"
    let undocumented := "\x7B\"max_parse_time\":5\x7D"
    Json.WritesObject text.toList [("verbosity", (OptionValue.int 2).toText.toList)] ∧
      (∀ o, Options.default.setNamed "verbosity" (.int 2) = .ok o ↔ ofJson text = .ok o) ∧
      Json.WritesObject undocumented.toList
        [("max_parse_time", (OptionValue.int 5).toText.toList)] ∧
      ¬∀ o, Options.default.setNamed "max_parse_time" (.int 5) = .ok o ↔
        ofJson undocumented = .ok o := by
  intro text undocumented
  have hspells : Json.Spells "\\u0076erbosity".toList "verbosity".toList :=
    .code (by decide) (Json.spells_self rfl)
  have hvalue : (OptionValue.int 2).toText.toList = ['2'] := by decide
  have hvalue' : (OptionValue.int 5).toText.toList = ['5'] := by decide
  have hfield := @Json.WritesField.intro [' '] [' '] [' '] [' '] _ ['2'] _
    rfl rfl rfl rfl hspells
  have hfield' : Json.WritesField _ ("max_parse_time", ['5']) :=
    Json.writesField_of_spells (Json.spells_self rfl) ['5']
  have hwrites : Json.WritesObject text.toList
      [("verbosity", (OptionValue.int 2).toText.toList)] := by
    rw [hvalue]
    exact Json.writesObject_singleton hfield (by decide)
  have hwrites' : Json.WritesObject undocumented.toList
      [("max_parse_time", (OptionValue.int 5).toText.toList)] := by
    rw [hvalue']
    exact Json.writesObject_singleton hfield' (by decide)
  have hset : Options.default.setNamed "max_parse_time" (.int 5) =
      .ok { Options.default with parseTimeLimitSeconds := 5 } := rfl
  refine ⟨hwrites, (single_agrees_iff hwrites).mpr fun h => ?_, hwrites', fun hagrees => ?_⟩
  · exact absurd h.1 (by decide)
  · exact (single_agrees_iff hwrites').mp hagrees ⟨by decide, _, hset⟩

/-- The number of linkages can be set as `linkage_limit`, but not in a document. -/
theorem linkageLimit_undocumented :
    Options.default.setNamed "linkage_limit" (.int 7) =
        .ok { Options.default with maxLinkages := 7 } ∧
      ofJson "\x7B\"linkage_limit\":7\x7D" = .error (.configuration .invalidDocument) :=
  ⟨rfl, rfl⟩

/-! ## Their own document -/

/-- The fields of the document that options are written as. -/
def fields (o : Options) : List (String × DocumentValue) :=
  OptionName.all.map fun name => (name.text, o.held name)

theorem jsonValue_toList (o : Options) (name : OptionName) :
    (o.jsonValue name).toList = (o.held name).toChars := by
  have htruth (b : Bool) :
      (if b then "true" else "false").toList = (DocumentValue.truth b).toChars := by
    cases b <;> rfl
  have hnumber (n : Nat) : (toString n).toList = (DocumentValue.number n).toChars := by
    rw [Nat.toString_eq_ofList_toDigits, String.toList_ofList]
    rfl
  cases name with
  | maxLinkages | parseTimeLimitSeconds | verbosity | maxNullCount => exact hnumber _
  | displayWalls | repeatableRand => exact htruth _

/-- The text of a field, without blanks. -/
def fieldChars (o : Options) (name : OptionName) : List Char :=
  '"' :: (name.text.toList ++ '"' :: ':' :: (o.held name).toChars)

theorem writesField_fieldChars (o : Options) (name : OptionName) :
    Json.WritesField (o.fieldChars name) (name.text, (o.held name).toChars) :=
  Json.writesField_of_spells (Json.spells_self (by cases name <;> rfl)) (o.held name).toChars

theorem toJson_toList (o : Options) : o.toJson.toList =
    '{' :: ([','].intercalate (OptionName.all.map o.fieldChars) ++ ['}']) := by
  have hfield : (String.toList ∘ fun name : OptionName =>
      "\"" ++ name.text ++ "\":" ++ o.jsonValue name) = o.fieldChars := by
    funext name
    simp [fieldChars, jsonValue_toList]
  simp only [toJson, String.toList_append, String.toList_intercalate, List.map_map, hfield]
  rfl

theorem writesObject_toJson (o : Options) :
    Json.WritesObject o.toJson.toList (Json.fieldTexts o.fields) := by
  have hfields : List.Forall₂ Json.WritesField (OptionName.all.map o.fieldChars)
      (Json.fieldTexts o.fields) := by
    rw [Json.fieldTexts, fields, List.map_map, List.forall₂_map_left_iff,
      List.forall₂_map_right_iff, List.forall₂_same]
    exact fun name _ => writesField_fieldChars o name
  rw [toJson_toList]
  exact @Json.WritesObject.intro [] [] _ _ rfl rfl hfields

/-- Storing the values that options hold, each of them once, gives these options. -/
theorem storeAll?_held (o target : Options) {names given : List OptionName} (hnodup : names.Nodup)
    (hgiven : ∀ name ∈ names, name ∉ given) :
    ∃ o', storeAll? o given (names.map fun name => (name, target.held name)) = some o' ∧
      ∀ name, o'.held name = if name ∈ names then target.held name else o.held name := by
  induction names generalizing o given with
  | nil => exact ⟨o, rfl, fun _ => rfl⟩
  | cons name names ih =>
      obtain ⟨hname, hnames⟩ := List.nodup_cons.mp hnodup
      obtain ⟨next, hnext⟩ := exists_store? (fits_held target name) o
      obtain ⟨-, hheld, hothers⟩ := store?_spec hnext
      have hnew : ∀ other ∈ names, other ∉ name :: given := by
        intro other hother hmem
        rcases List.mem_cons.mp hmem with rfl | hmem
        · exact hname hother
        · exact hgiven other (List.mem_cons_of_mem name hother) hmem
      obtain ⟨o', ho', hall⟩ := ih next hnames hnew
      refine ⟨o', ?_, fun other => ?_⟩
      · have hfirst : given.contains name = false := by
          simpa using hgiven name List.mem_cons_self
        simp only [List.map_cons, storeAll?, hfirst, hnext, ho', Bool.false_eq_true, if_false]
      · rw [hall]
        by_cases hother : other = name
        · subst hother
          simp [hname, hheld]
        · simp [hother, hothers other hother]

theorem options?_fields (o : Options) : (Document.named o.fields).options? = some o := by
  have hstored : (Document.named o.fields).options? =
      storeAll? .default [] (OptionName.all.map fun name => (name, o.held name)) := by
    simp only [Document.options?, fields, OptionName.all, List.map_cons, List.map_nil,
      List.mapM_cons, List.mapM_nil, documentName?_text]
    rfl
  have hnodup : OptionName.all.Nodup := by decide
  obtain ⟨o', ho', hall⟩ := storeAll?_held .default o hnodup fun name _ => List.not_mem_nil
  have hsame : o' = o := ext_held fun name => by rw [hall, if_pos (by cases name <;> decide)]
  rw [hstored, ho', hsame]

/-- Options are what their own document says. -/
theorem ofJson_toJson (ho : 0 < o.maxLinkages) : ofJson o.toJson = .ok o := by
  have hread : Json.readDocument o.toJson.toList = some (.named o.fields) :=
    Json.readDocument_of_object (writesObject_toJson o) (List.cons_ne_nil _ _)
  rw [ofJson, hread, ofDocument_eq_ok_iff]
  exact ⟨options?_fields o, ho⟩

end LinkParsing.Options
