import LinkParsing.Proofs.Lexicon.Entries
import Mathlib.Data.List.Forall2

/-!
# Writing a lexicon and reading it back

An entry is written as a list of lexemes: its words, each in quotes or bare, a colon, its
formula, in which every `&` or `or` that stands directly under another one is put into
parentheses, and a semicolon.  The lexemes are laid out with anything between them that is
ignored, and something between two words.

However that is done, reading gives the words and the formulas back
(`readEntries_of_prints`).
-/

namespace LinkParsing.Lexicon

/-- What an entry says, apart from where it stands. -/
structure EntryContent where
  words : List String
  formula : Formula
  deriving DecidableEq

def Entry.content (e : Entry) : EntryContent := ⟨e.words.map EntryWord.text, e.formula⟩

/-- The formulas that there is a notation for. -/
inductive WritableFormula : Formula → Prop where
  | connector {c : Connector} (hc : c.WellFormed) : WritableFormula (.connector c)
  | and {items : List Formula} (htwo : 2 ≤ items.length)
      (hitems : ∀ f ∈ items, WritableFormula f) : WritableFormula (.and items)
  | or {items : List Formula} (htwo : 2 ≤ items.length)
      (hitems : ∀ f ∈ items, WritableFormula f) : WritableFormula (.or items)
  | optional {f : Formula} (hf : WritableFormula f) : WritableFormula (.optional f)
  | cost {f : Formula} (hf : WritableFormula f) : WritableFormula (.cost f)
  | empty : WritableFormula .empty
  | macroRef {name : String} (hname : Delimited '<' '>' isMacroChar name.toList) :
      WritableFormula (.macroRef name)

/-- Words are not empty and hold no quotes, and there is at least one of them. -/
structure EntryContent.Writable (c : EntryContent) : Prop where
  words_ne_nil : c.words ≠ []
  word_ne_empty : ∀ w ∈ c.words, w.toList ≠ []
  word_no_quote : ∀ w ∈ c.words, '"' ∉ w.toList
  formula : WritableFormula c.formula

/-! ## Lexemes -/

/-- A lexeme of a text.  Words are told from the others because they would run into each
other. -/
inductive Lexeme where
  | word (text : List Char)
  | mark (text : List Char)

namespace Lexeme

def text : Lexeme → List Char
  | word t => t
  | mark t => t

/-- A word in front of a word. -/
def runsInto : Lexeme → List Lexeme → Bool
  | word _, word _ :: _ => true
  | _, _ => false

end Lexeme

/-- Lexemes put into parentheses if they stand for a part of a larger formula. -/
def parenthesised (nested : Bool) (ls : List (List Char)) : List (List Char) :=
  if nested then ['('] :: (ls ++ [[')']]) else ls

mutual

/-- The lexemes of a formula, as a whole or directly under `&` or `or`. -/
def formulaLexemes (nested : Bool) : Formula → List (List Char)
  | .connector c => [c.toChars]
  | .and items => parenthesised nested (itemLexemes ['&'] items)
  | .or items => parenthesised nested (itemLexemes ['o', 'r'] items)
  | .optional f => ['{'] :: (formulaLexemes false f ++ [['}']])
  | .cost f => ['['] :: (formulaLexemes false f ++ [[']']])
  | .empty => [['('], [')']]
  | .macroRef name => [name.toList]

/-- The lexemes of items with a joint between each two of them. -/
def itemLexemes (joint : List Char) : List Formula → List (List Char)
  | [] => []
  | [f] => formulaLexemes true f
  | f :: g :: items => formulaLexemes true f ++ joint :: itemLexemes joint (g :: items)

end

/-- A word is written in quotes, or as it is if it can be told from everything else. -/
inductive WordLexeme (w : String) : List Char → Prop where
  | quoted : WordLexeme w ('"' :: (w.toList ++ ['"']))
  | bare (hbare : w.toList.all isBareChar = true) (hname : w.toList.head? ≠ some '<') :
      WordLexeme w w.toList

/-- These are lexemes of an entry that says this. -/
def EntryLexemes (c : EntryContent) (ls : List Lexeme) : Prop :=
  ∃ words, List.Forall₂ WordLexeme c.words words ∧
    ls = words.map .word ++
      .mark [':'] :: ((formulaLexemes false c.formula).map .mark ++ [.mark [';']])

/-- Lexemes, each with something ignored behind it, which may only be missing where a word does
not run into a word. -/
inductive LaidOut : List Lexeme → List Char → Prop where
  | nil : LaidOut [] []
  | cons {l : Lexeme} {ls : List Lexeme} {g t : List Char} (hg : Ignored g)
      (hapart : l.runsInto ls = true → g ≠ []) (hrest : LaidOut ls t) :
      LaidOut (l :: ls) (l.text ++ (g ++ t))

/-- A text is one way to print entries that say this. -/
def Prints (cs : List EntryContent) (text : List Char) : Prop :=
  ∃ g t lss, Ignored g ∧ List.Forall₂ EntryLexemes cs lss ∧ LaidOut lss.flatten t ∧ text = g ++ t

variable {c : EntryContent} {cs : List EntryContent} {f : Formula} {g t u text : List Char}
  {l : Lexeme} {ls ls' : List Lexeme} {P : List Char → Prop}

/-! ## Layouts -/

theorem LaidOut.cons_inv (h : LaidOut (l :: ls) t) : ∃ g u, Ignored g ∧ LaidOut ls u ∧
    (l.runsInto ls = true → g ≠ []) ∧ t = l.text ++ (g ++ u) := by
  cases h with
  | @cons _ _ g u hg hapart hrest => exact ⟨g, u, hg, hrest, hapart, rfl⟩

theorem LaidOut.singleton_inv (h : LaidOut [l] t) : ∃ g, Ignored g ∧ t = l.text ++ g := by
  obtain ⟨g, u, hg, hu, -, rfl⟩ := h.cons_inv
  cases hu
  exact ⟨g, hg, by rw [List.append_nil]⟩

theorem LaidOut.append_inv (h : LaidOut (ls ++ ls') t) :
    ∃ u v, LaidOut ls u ∧ LaidOut ls' v ∧ t = u ++ v := by
  induction ls generalizing t with
  | nil => exact ⟨[], t, .nil, h, rfl⟩
  | cons l ls ih =>
      obtain ⟨g, w, hg, hw, hapart, rfl⟩ := LaidOut.cons_inv h
      obtain ⟨u, v, hu, hv, rfl⟩ := ih hw
      -- the last lexeme of the first part loses its neighbour, the others keep theirs
      have hapart' : l.runsInto ls = true → g ≠ [] := by
        intro hruns
        apply hapart
        cases ls with
        | nil => cases l <;> cases hruns
        | cons l' ls => cases l <;> cases l' <;> trivial
      refine ⟨l.text ++ (g ++ u), v, .cons hg hapart' hu, hv, ?_⟩
      simp only [List.append_assoc]

/-- There is always a layout, with blanks everywhere. -/
theorem LaidOut.exists (ls : List Lexeme) : ∃ t, LaidOut ls t := by
  induction ls with
  | nil => exact ⟨[], .nil⟩
  | cons l ls ih =>
      obtain ⟨t, ht⟩ := ih
      have hblank : Ignored [' '] := .blank (by decide) .nil
      exact ⟨_, .cons hblank (fun _ => List.cons_ne_nil _ _) ht⟩

/-- But for what is ignored behind it a text is of some kind. -/
def Trimmed (P : List Char → Prop) (t : List Char) : Prop :=
  ∃ u g, P u ∧ Ignored g ∧ t = u ++ g

/-! ## Formulas -/

/-- A unit that is an item of a disjunction is a conjunction of its own. -/
theorem Spelled.lastAlone (h : Spelled (.unit f) t) : Spelled (.disjunction [f]) t :=
  .lastConjunction (.lastUnit h)

theorem Spelled.furtherAlone {items : List Formula} {g' : List Char} (h : Spelled (.unit f) t)
    (hg : Ignored g) (hg' : Ignored g') (hrest : Spelled (.disjunction items) u) :
    Spelled (.disjunction (f :: items)) (t ++ (g ++ (['o', 'r'] ++ (g' ++ u)))) := by
  have hspelled := Spelled.furtherConjunctions h.lastUnit hg hg' hrest
  exact hspelled

theorem FormulaText.of_unit (h : Spelled (.unit f) t) : FormulaText f t :=
  ⟨[f], rfl, h.lastAlone⟩

theorem joinItems_of_two_le {join : List Formula → Formula} {items : List Formula}
    (htwo : 2 ≤ items.length) : joinItems join items = join items := by
  match items, htwo with
  | _ :: _ :: _, _ => rfl

theorem FormulaText.of_conjunction {items : List Formula} (htwo : 2 ≤ items.length)
    (h : Spelled (.conjunction items) t) : FormulaText (.and items) t :=
  ⟨[joinItems .and items], (joinItems_of_two_le htwo).symm, .lastConjunction h⟩

theorem FormulaText.of_disjunction {items : List Formula} (htwo : 2 ≤ items.length)
    (h : Spelled (.disjunction items) t) : FormulaText (.or items) t :=
  ⟨items, (joinItems_of_two_le htwo).symm, h⟩

theorem Trimmed.imp {Q : List Char → Prop} (h : Trimmed P t) (himp : ∀ {u}, P u → Q u) :
    Trimmed Q t := by
  obtain ⟨u, g, hu, hg, rfl⟩ := h
  exact ⟨u, g, himp hu, hg, rfl⟩

theorem LaidOut.bracketed (k : Bracket) {ls : List (List Char)}
    (h : LaidOut (([k.opening] :: (ls ++ [[k.closing]])).map .mark) t)
    (hinner : ∀ u, LaidOut (ls.map .mark) u → Trimmed (FormulaText f) u) :
    Trimmed (Spelled (.unit (k.wrap f))) t := by
  obtain ⟨g, u, hg, hu, -, rfl⟩ := h.cons_inv
  rw [List.map_append] at hu
  obtain ⟨v, w, hv, hw, rfl⟩ := hu.append_inv
  obtain ⟨inside, g', ⟨conjunctions, rfl, hinside⟩, hg', rfl⟩ := hinner v hv
  obtain ⟨g'', hg'', rfl⟩ := hw.singleton_inv
  refine ⟨_, g'', .bracketed k hg hinside hg', hg'', ?_⟩
  simp [Lexeme.text]

/-- What holds of the items, laid out each for itself, holds of all of them with joints. -/
theorem LaidOut.items {joint : List Char} {phrase : List Formula → Phrase}
    (hlast : ∀ {f t}, Spelled (.unit f) t → Spelled (phrase [f]) t)
    (hfurther : ∀ {f fs t g g' u}, Spelled (.unit f) t → Ignored g → Ignored g' →
      Spelled (phrase fs) u → Spelled (phrase (f :: fs)) (t ++ (g ++ (joint ++ (g' ++ u)))))
    {items : List Formula} (hne : items ≠ [])
    (hitems : ∀ f ∈ items, ∀ t, LaidOut ((formulaLexemes true f).map .mark) t →
      Trimmed (Spelled (.unit f)) t)
    (h : LaidOut ((itemLexemes joint items).map .mark) t) : Trimmed (Spelled (phrase items)) t := by
  induction items generalizing t with
  | nil => exact absurd rfl hne
  | cons f items ih =>
      have hfirst := hitems f List.mem_cons_self
      cases items with
      | nil => exact (hfirst t h).imp hlast
      | cons f' items =>
          rw [itemLexemes, List.map_append] at h
          obtain ⟨v, w, hv, hw, rfl⟩ := h.append_inv
          obtain ⟨t, g, ht, hg, rfl⟩ := hfirst v hv
          obtain ⟨g', others, hg', hothers, -, rfl⟩ := hw.cons_inv
          have hrest := ih (List.cons_ne_nil f' items)
            (fun f hf => hitems f (List.mem_cons_of_mem _ hf)) hothers
          obtain ⟨u, g'', hu, hg'', rfl⟩ := hrest
          refine ⟨_, g'', hfurther ht hg hg' hu, hg'', ?_⟩
          simp [Lexeme.text]

/-- How a formula reads as a part of a larger one and as a whole. -/
def ReadsBack (f : Formula) : Prop :=
  (∀ t, LaidOut ((formulaLexemes true f).map .mark) t → Trimmed (Spelled (.unit f)) t) ∧
    ∀ t, LaidOut ((formulaLexemes false f).map .mark) t → Trimmed (FormulaText f) t

theorem readsBack_of_unit (hsame : formulaLexemes false f = formulaLexemes true f)
    (hunit : ∀ t, LaidOut ((formulaLexemes true f).map .mark) t → Trimmed (Spelled (.unit f)) t) :
    ReadsBack f :=
  ⟨hunit, fun t h => (hunit t (hsame ▸ h)).imp .of_unit⟩

theorem readsBack_of_items {joint : List Char} {items : List Formula}
    (hlexemes : ∀ nested, formulaLexemes nested f = parenthesised nested (itemLexemes joint items))
    (hwhole : ∀ t, LaidOut ((itemLexemes joint items).map .mark) t → Trimmed (FormulaText f) t) :
    ReadsBack f := by
  constructor
  · intro t h
    rw [hlexemes true] at h
    exact h.bracketed .group hwhole
  · intro t h
    rw [hlexemes false] at h
    exact hwhole t h

theorem readsBack_of_writable (hf : WritableFormula f) : ReadsBack f := by
  induction hf with
  | connector hc =>
      refine readsBack_of_unit rfl fun t h => ?_
      obtain ⟨g, hg, rfl⟩ := LaidOut.singleton_inv h
      exact ⟨_, g, .connector hc, hg, rfl⟩
  | @macroRef name hname =>
      refine readsBack_of_unit rfl fun t h => ?_
      obtain ⟨g, hg, rfl⟩ := LaidOut.singleton_inv h
      have hunit := Spelled.macroRef hname
      rw [String.ofList_toList] at hunit
      exact ⟨name.toList, g, hunit, hg, rfl⟩
  | empty =>
      refine readsBack_of_unit rfl fun t h => ?_
      obtain ⟨g, u, hg, hu, -, rfl⟩ := LaidOut.cons_inv h
      obtain ⟨g', hg', rfl⟩ := hu.singleton_inv
      refine ⟨_, g', .empty hg, hg', ?_⟩
      simp [Lexeme.text]
  | optional hf ih =>
      exact readsBack_of_unit rfl fun t h => LaidOut.bracketed .optional h ih.2
  | cost hf ih =>
      exact readsBack_of_unit rfl fun t h => LaidOut.bracketed .cost h ih.2
  | @and items htwo hitems ih =>
      have hne : items ≠ [] := List.ne_nil_of_length_pos (by omega)
      refine readsBack_of_items (fun _ => rfl) fun t h => ?_
      have hunits := h.items .lastUnit .furtherUnits hne fun f hf => (ih f hf).1
      exact hunits.imp (.of_conjunction htwo)
  | @or items htwo hitems ih =>
      have hne : items ≠ [] := List.ne_nil_of_length_pos (by omega)
      refine readsBack_of_items (fun _ => rfl) fun t h => ?_
      have hconjunctions : Trimmed (Spelled (.disjunction items)) t :=
        h.items .lastAlone .furtherAlone hne fun f hf => (ih f hf).1
      exact hconjunctions.imp (.of_disjunction htwo)

/-! ## Words -/

theorem Ignored.stops_bare (hg : Ignored g) (hne : g ≠ []) (rest : List Char) :
    Stops isBareChar (g ++ rest) := by
  cases hg with
  | nil => exact absurd rfl hne
  | blank hc hg => exact stops_cons.mpr (by simp [isBareChar, hc])
  | comment hbody hg => exact stops_cons.mpr (by decide)

theorem Ignored.stops_colon (hg : Ignored g) (rest : List Char) :
    Stops isBareChar (g ++ ':' :: rest) := by
  by_cases hne : g = []
  · subst hne
    exact stops_cons.mpr (by decide)
  · exact hg.stops_bare hne _

theorem WordLexeme.wordText {w : String} {rest : List Char} (h : WordLexeme w t)
    (hne : w.toList ≠ []) (hquote : '"' ∉ w.toList) (hstop : Stops isBareChar rest) :
    WordText w.toList t rest := by
  cases h with
  | quoted =>
      refine .quoted hne (List.all_eq_true.mpr fun x hx => ?_)
      have hx' : x ≠ '"' := by
        rintro rfl
        exact hquote hx
      simpa using hx'
  | bare hbare hname =>
      refine .bare hne hbare hstop (scanMacro_eq_none_of_head? ?_)
      obtain ⟨x, u, hx⟩ := List.exists_cons_of_ne_nil hne
      rw [hx] at hname ⊢
      exact hname

/-- The words of an entry are laid out as words, whatever else comes behind them. -/
theorem LaidOut.words {ws : List String} {texts : List (List Char)}
    (hlexemes : List.Forall₂ WordLexeme ws texts) (hws : ws ≠ [])
    (hne : ∀ w ∈ ws, w.toList ≠ []) (hquote : ∀ w ∈ ws, '"' ∉ w.toList)
    (h : LaidOut (texts.map .word) t) :
    ∃ u g, Ignored g ∧ t = u ++ g ∧ ∀ o rest, Stops isBareChar rest →
      ∃ words, words.map EntryWord.text = ws ∧ WordsText o words u rest := by
  induction hlexemes generalizing t with
  | nil => exact absurd rfl hws
  | @cons w text ws texts hw hlexemes ih =>
      have hne' := hne w List.mem_cons_self
      have hquote' := hquote w List.mem_cons_self
      obtain ⟨g, v, hg, hv, hapart, rfl⟩ := LaidOut.cons_inv h
      cases hlexemes with
      | nil =>
          cases hv
          refine ⟨text, g, hg, by simp [Lexeme.text], fun o rest hstop => ?_⟩
          exact ⟨_, by simp, .last (hw.wordText hne' hquote' hstop)⟩
      | @cons w' text' ws texts hw' hlexemes =>
          -- two words in a row: the gap is what ends the first one if it is bare
          have hgap : g ≠ [] := hapart rfl
          obtain ⟨u, g', hg', rfl, hwords⟩ := ih (List.cons_ne_nil w' ws)
            (fun w hw => hne w (List.mem_cons_of_mem _ hw))
            (fun w hw => hquote w (List.mem_cons_of_mem _ hw)) hv
          refine ⟨text ++ (g ++ u), g', hg', by simp [Lexeme.text], fun o rest hstop => ?_⟩
          have hfirst := hw.wordText hne' hquote' (hg.stops_bare hgap (u ++ rest))
          obtain ⟨words, hcontent, htext⟩ :=
            hwords (o + byteLength text + byteLength g) rest hstop
          exact ⟨_, by simp [hcontent], .further hfirst hg htext⟩

/-! ## Entries -/

theorem LaidOut.entry (hc : c.Writable) (hls : EntryLexemes c ls) (h : LaidOut ls t) :
    ∃ u g, Ignored g ∧ t = u ++ g ∧ ∀ o rest, ∃ e, e.content = c ∧ EntryText o e u rest := by
  obtain ⟨texts, hlexemes, rfl⟩ := hls
  obtain ⟨wt, _, hwt, hbehind, rfl⟩ := h.append_inv
  obtain ⟨g', _, hg', hbehind', -, rfl⟩ := hbehind.cons_inv
  obtain ⟨ft, _, hft, hend, rfl⟩ := hbehind'.append_inv
  obtain ⟨g₄, hg₄, rfl⟩ := hend.singleton_inv
  obtain ⟨wt, g, hg, rfl, hwords⟩ :=
    hwt.words hlexemes hc.words_ne_nil hc.word_ne_empty hc.word_no_quote
  obtain ⟨ft, g'', hformula, hg'', rfl⟩ := (readsBack_of_writable hc.formula).2 ft hft
  refine ⟨wt ++ (g ++ ':' :: (g' ++ (ft ++ (g'' ++ [';'])))), g₄, hg₄, by simp [Lexeme.text], ?_⟩
  intro o rest
  have hstop := hg.stops_colon (g' ++ (ft ++ (g'' ++ ';' :: rest)))
  obtain ⟨words, hcontent, htext⟩ := hwords o _ hstop
  exact ⟨_, by rw [Entry.content, hcontent], .mk htext hg hg' hformula hg''⟩

theorem entriesText_of_laidOut {lss : List (List Lexeme)} (hcs : ∀ c ∈ cs, c.Writable)
    (hlss : List.Forall₂ EntryLexemes cs lss) (h : LaidOut lss.flatten t) (hg : Ignored g)
    (o : Nat) : ∃ es, es.map Entry.content = cs ∧ EntriesText o es (g ++ t) := by
  induction hlss generalizing g t o with
  | nil =>
      cases h
      rw [List.append_nil]
      exact ⟨[], rfl, .nil (.inl hg)⟩
  | @cons c ls cs lss hls hlss ih =>
      rw [List.flatten_cons] at h
      obtain ⟨v, w, hv, hw, rfl⟩ := h.append_inv
      -- the gap behind the semicolon is the one in front of the next entry
      obtain ⟨u, g', hg', rfl, hentry⟩ := hv.entry (hcs c List.mem_cons_self) hls
      obtain ⟨e, he, htext⟩ := hentry (o + byteLength g) (g' ++ w)
      obtain ⟨es, hes, hrest⟩ := ih (fun c hc => hcs c (List.mem_cons_of_mem _ hc)) hw hg'
        (o + byteLength g + byteLength u)
      refine ⟨e :: es, by rw [List.map_cons, he, hes], ?_⟩
      rw [List.append_assoc]
      exact .cons hg htext hrest

theorem exists_entryLexemes (c : EntryContent) : ∃ ls, EntryLexemes c ls :=
  ⟨_, _, List.forall₂_map_right_iff.mpr (List.forall₂_same.mpr fun _ _ => .quoted), rfl⟩

theorem exists_prints (cs : List EntryContent) : ∃ text, Prints cs text := by
  obtain ⟨lss, hlss⟩ : ∃ lss, List.Forall₂ EntryLexemes cs lss := by
    induction cs with
    | nil => exact ⟨[], .nil⟩
    | cons c cs ih =>
        obtain ⟨ls, hls⟩ := exists_entryLexemes c
        obtain ⟨lss, hlss⟩ := ih
        exact ⟨ls :: lss, .cons hls hlss⟩
  obtain ⟨t, ht⟩ := LaidOut.exists lss.flatten
  exact ⟨_, [], t, lss, .nil, hlss, ht, rfl⟩

/-- Entries can be printed, and whichever way that is done, reading the text gives what they
say, entry for entry. -/
theorem readEntries_of_prints (hcs : ∀ c ∈ cs, c.Writable) :
    (∃ text, Prints cs text) ∧ ∀ text, Prints cs text →
      ∃ es, readEntries (String.ofList text) = .ok es ∧ es.map Entry.content = cs := by
  refine ⟨exists_prints cs, ?_⟩
  rintro _ ⟨g, t, lss, hg, hlss, ht, rfl⟩
  obtain ⟨es, hes, htext⟩ := entriesText_of_laidOut hcs hlss ht hg 0
  refine ⟨es, ?_, hes⟩
  rw [readEntries, String.toList_ofList]
  exact entriesOfChars_eq_ok_iff.mpr htext

/-- Two words, one with an umlaut, of which the first one is written bare. -/
def articles : EntryContent :=
  ⟨["a", "für"], .or [.and [.connector ⟨['D'], ['s'], .right, true⟩, .optional (.macroRef "<n>")],
    .empty]⟩

theorem articles_writable : articles.Writable := by
  refine ⟨by decide, by decide, by decide, .or (by decide) ?_⟩
  have hname : Delimited '<' '>' isMacroChar "<n>".toList := ⟨['n'], by decide, by decide, rfl⟩
  have hconnector : WritableFormula (.connector ⟨['D'], ['s'], .right, true⟩) :=
    .connector (by decide)
  have hand : WritableFormula
      (.and [.connector ⟨['D'], ['s'], .right, true⟩, .optional (.macroRef "<n>")]) := by
    refine .and (by decide) ?_
    simpa using ⟨hconnector, .optional (.macroRef hname)⟩
  simpa using ⟨hand, .empty⟩

theorem prints_articles :
    Prints [articles] "a% both\n\"für\":(@Ds+ &\x7b<n>\x7d)or ( );\r\n".toList := by
  have hblank : Ignored [' '] := .blank (by decide) .nil
  have hcomment : Ignored ('%' :: ([' ', 'b', 'o', 't', 'h'] ++ ['\n'])) :=
    .comment (by decide) .nil
  have hend : Ignored ['\r', '\n'] := .blank (by decide) (.blank (by decide) .nil)
  have hwords : List.Forall₂ WordLexeme ["a", "für"] ["a".toList, "\"für\"".toList] :=
    .cons (.bare (by decide) (by decide)) (.cons .quoted .nil)
  refine ⟨[], _, [_], .nil, .cons ⟨_, hwords, rfl⟩ .nil, ?_, rfl⟩
  exact .cons hcomment (fun _ => List.cons_ne_nil _ _) <| .cons .nil nofun <| .cons .nil nofun <|
    .cons .nil nofun <| .cons hblank nofun <| .cons .nil nofun <| .cons .nil nofun <|
    .cons .nil nofun <| .cons .nil nofun <| .cons .nil nofun <| .cons hblank nofun <|
    .cons hblank nofun <| .cons .nil nofun <| .cons hend nofun .nil

theorem readEntries_of_prints_articles :
    ∃ es, readEntries "a% both\n\"für\":(@Ds+ &\x7b<n>\x7d)or ( );\r\n" = .ok es ∧
      es.map Entry.content = [articles] := by
  have hcs : ∀ c ∈ [articles], c.Writable := by simpa using articles_writable
  have hread := (readEntries_of_prints hcs).2 _ prints_articles
  rwa [String.ofList_toList] at hread

end LinkParsing.Lexicon
