import LinkParsing.Proofs.Lexicon.Printing

/-!
# What the spans of entries cut out of a text

The span of an entry cuts out of the text just what the entry has been read from, and that
text alone reads as the same entry (`faithfulSpans_of_readEntries`).  Nothing behind the
semicolon takes part in reading an entry but that a name in angle brackets might have gone on
there; where it does not it does not in the slice either (`EntryText.cut`).
-/

namespace LinkParsing.Lexicon

variable {e : Entry} {es : List Entry} {w : EntryWord} {ws : List EntryWord}
  {v t u rest text : List Char} {o : Nat}

/-! ## Cutting off what stands behind -/

theorem WordText.cut (h : WordText v t (u ++ rest)) (hu : u ≠ []) : WordText v t u := by
  cases h with
  | name ht => exact .name ht
  | quoted hne hbody => exact .quoted hne hbody
  | bare hne hbare hstop hname =>
      have hstop' : Stops isBareChar u := by
        obtain ⟨x, u, rfl⟩ := List.exists_cons_of_ne_nil hu
        exact stops_cons.mpr (stops_cons.mp hstop)
      rw [← List.append_assoc] at hname
      exact .bare hne hbare hstop' (scanMacro_eq_none_of_append hname)

theorem WordsText.cut (h : WordsText o ws t (u ++ rest)) (hu : u ≠ []) (p : Nat) :
    ∃ ws', ws'.map EntryWord.text = ws.map EntryWord.text ∧ WordsText p ws' t u := by
  generalize hbehind : u ++ rest = behind at h
  induction h generalizing p with
  | last h =>
      subst hbehind
      exact ⟨_, by simp only [List.map_cons, List.map_nil], .last (h.cut hu)⟩
  | @further o v t g t' behind ws h hg hrest ih =>
      obtain ⟨ws', hws', htext⟩ := ih (p + byteLength t + byteLength g) hbehind
      -- there is another word before the cut, so it is not behind this one that the text ends
      have hword : WordText v t (g ++ (t' ++ u) ++ rest) := by
        simpa only [List.append_assoc, hbehind] using h
      have hne : g ++ (t' ++ u) ≠ [] := by simp [hu]
      exact ⟨_, by rw [List.map_cons, List.map_cons, hws'], .further (hword.cut hne) hg htext⟩

theorem EntryText.cut (h : EntryText o e t rest) (p : Nat) :
    ∃ e', e'.content = e.content ∧ EntryText p e' t [] := by
  cases h with
  | @mk ws f wt g g' ft g'' _ hwords hg hg' hformula hg'' =>
      -- the words are followed by a colon on this side of the cut
      have hbehind : g ++ ':' :: (g' ++ (ft ++ (g'' ++ ';' :: rest))) =
          g ++ ':' :: (g' ++ (ft ++ (g'' ++ [';']))) ++ rest := by simp
      rw [hbehind] at hwords
      obtain ⟨ws', hws', htext⟩ := hwords.cut (by simp) p
      exact ⟨_, by simp [Entry.content, hws'], .mk htext hg hg' hformula hg''⟩

theorem EntryText.readEntries (h : EntryText o e t rest) :
    ∃ e', readEntries (String.ofList t) = .ok [e'] ∧ e'.content = e.content := by
  obtain ⟨e', hcontent, htext⟩ := h.cut 0
  refine ⟨e', ?_, hcontent⟩
  have hentries : EntriesText 0 [e'] ([] ++ (t ++ [])) := .cons .nil htext (.nil (.inl .nil))
  rw [List.nil_append, List.append_nil] at hentries
  rw [Lexicon.readEntries, String.toList_ofList]
  exact entriesOfChars_eq_ok_iff.mpr hentries

/-! ## Where words and entries stand -/

theorem EntryText.span_eq (h : EntryText o e t rest) : e.span = ⟨o, byteLength t⟩ := by
  cases h
  rfl

/-- A word is written as it is or in quotes. -/
theorem WordText.eq_or_quoted (h : WordText v t rest) : t = v ∨ t = '"' :: (v ++ ['"']) := by
  cases h with
  | name ht => exact .inl rfl
  | quoted hne hbody => exact .inr rfl
  | bare hne hbare hstop hname => exact .inl rfl

/-- A word stands, as it is or in quotes, where its span says in a text from an offset on. -/
def EntryWord.StandsIn (w : EntryWord) (o : Nat) (t : List Char) : Prop :=
  ∃ before lexeme after, t = before ++ (lexeme ++ after) ∧
    w.span = ⟨o + byteLength before, byteLength lexeme⟩ ∧
    (lexeme = w.text.toList ∨ lexeme = '"' :: (w.text.toList ++ ['"']))

theorem EntryWord.StandsIn.append (h : w.StandsIn o t) (u : List Char) :
    w.StandsIn o (t ++ u) := by
  obtain ⟨before, lexeme, after, rfl, hspan, hlexeme⟩ := h
  exact ⟨before, lexeme, after ++ u, by simp only [List.append_assoc], hspan, hlexeme⟩

theorem EntryWord.StandsIn.prepend (h : w.StandsIn (o + byteLength u) t) :
    w.StandsIn o (u ++ t) := by
  obtain ⟨before, lexeme, after, rfl, hspan, hlexeme⟩ := h
  refine ⟨u ++ before, lexeme, after, by simp only [List.append_assoc], ?_, hlexeme⟩
  rw [hspan, byteLength_append, Nat.add_assoc]

theorem WordText.standsIn (h : WordText v t rest) (o : Nat) :
    EntryWord.StandsIn ⟨String.ofList v, ⟨o, byteLength t⟩⟩ o t := by
  refine ⟨[], t, [], (List.append_nil t).symm, rfl, ?_⟩
  rw [String.toList_ofList]
  exact h.eq_or_quoted

theorem WordsText.standsIn (h : WordsText o ws t rest) (hw : w ∈ ws) : w.StandsIn o t := by
  induction h with
  | @last o v t rest h =>
      obtain rfl := List.mem_singleton.mp hw
      exact h.standsIn o
  | @further o v t g u rest ws h hg hrest ih =>
      rcases List.mem_cons.mp hw with rfl | hw
      · exact (h.standsIn o).append _
      · exact (ih hw).prepend.prepend

theorem EntryText.standsIn (h : EntryText o e t rest) (hw : w ∈ e.words) : w.StandsIn o t := by
  cases h with
  | mk hwords hg hg' hformula hg'' => exact (hwords.standsIn hw).append _

theorem EntriesText.exists_place (h : EntriesText o es text) (he : e ∈ es) :
    ∃ before t after, text = before ++ (t ++ after) ∧
      EntryText (o + byteLength before) e t after := by
  induction h with
  | nil => cases he
  | @cons o g t text e' es hg h hrest ih =>
      rcases List.mem_cons.mp he with rfl | he
      · exact ⟨g, t, text, rfl, h⟩
      · obtain ⟨before, t', after, rfl, hentry⟩ := ih he
        refine ⟨g ++ (t ++ before), t', after, by simp, ?_⟩
        have hoffset : o + byteLength (g ++ (t ++ before)) =
            o + byteLength g + byteLength t + byteLength before := by
          simp only [byteLength_append]
          omega
        rw [hoffset]
        exact hentry

/-! ## The order of entries and what stands between them -/

theorem EntriesText.le_offset (h : EntriesText o es text) (he : e ∈ es) : o ≤ e.span.offset := by
  obtain ⟨before, t, after, -, hentry⟩ := h.exists_place he
  rw [hentry.span_eq]
  exact Nat.le_add_right _ _

theorem EntriesText.pairwise (h : EntriesText o es text) :
    es.Pairwise fun e e' => e.span.stop ≤ e'.span.offset := by
  induction h with
  | nil => exact .nil
  | cons hg h hrest ih =>
      refine .cons (fun e' he' => ?_) ih
      rw [h.span_eq]
      exact hrest.le_offset he'

/-- The stretches between a start and an end that spans, given in order, leave free. -/
def freeSpans (start stop : Nat) : List Span → List Span
  | [] => [⟨start, stop - start⟩]
  | s :: spans => ⟨start, s.offset - start⟩ :: freeSpans s.stop stop spans

theorem EntriesText.free (h : EntriesText o es text) {before : List Char}
    (hbefore : byteLength before = o) {s : Span}
    (hs : s ∈ freeSpans o (o + byteLength text) (es.map Entry.span)) :
    ∃ g, slice? (before ++ text) s = some g ∧ Trailing g := by
  induction h generalizing before with
  | @nil o g hg =>
      obtain rfl := List.mem_singleton.mp hs
      rw [Nat.add_sub_cancel_left, ← hbefore, ← List.append_nil (before ++ g)]
      exact ⟨g, slice?_append before g [], hg⟩
  | @cons o g t text e es hg h hrest ih =>
      rw [List.map_cons, h.span_eq, freeSpans] at hs
      rcases List.mem_cons.mp hs with rfl | hs
      · rw [Nat.add_sub_cancel_left, ← hbefore, ← List.append_assoc]
        exact ⟨g, slice?_append before g (t ++ text), .inl hg⟩
      · have hstop : o + byteLength (g ++ (t ++ text)) =
            o + byteLength g + byteLength t + byteLength text := by
          simp only [byteLength_append]
          omega
        have hbefore' : byteLength (before ++ (g ++ t)) = o + byteLength g + byteLength t := by
          simp only [byteLength_append]
          omega
        rw [hstop] at hs
        have hfree := ih hbefore' hs
        simpa only [List.append_assoc] using hfree

/-- A word lies within its entry and is written there as it is or in quotes. -/
structure EntryWord.CutBy (w : EntryWord) (e : Entry) (text : List Char) : Prop where
  starts : e.span.offset ≤ w.span.offset
  stops : w.span.stop ≤ e.span.stop
  slice : slice? text w.span = some w.text.toList ∨
    slice? text w.span = some ('"' :: (w.text.toList ++ ['"']))

/-- The spans of entries cut a text into these entries. -/
structure FaithfulSpans (text : List Char) (es : List Entry) : Prop where
  ordered : es.Pairwise fun e e' => e.span.stop ≤ e'.span.offset
  /-- There is nothing else in the text. -/
  free : ∀ s ∈ freeSpans 0 (byteLength text) (es.map Entry.span),
    ∃ g, slice? text s = some g ∧ Trailing g
  /-- What an entry's span cuts out is the whole of a lexicon with this entry. -/
  entry : ∀ e ∈ es, ∃ t e', slice? text e.span = some t ∧
    readEntries (String.ofList t) = .ok [e'] ∧ e'.content = e.content
  word : ∀ e ∈ es, ∀ w ∈ e.words, w.CutBy e text

theorem EntriesText.slice (h : EntriesText 0 es text) (he : e ∈ es) :
    ∃ t e', slice? text e.span = some t ∧
      Lexicon.readEntries (String.ofList t) = .ok [e'] ∧ e'.content = e.content := by
  obtain ⟨before, t, after, rfl, hentry⟩ := h.exists_place he
  rw [Nat.zero_add] at hentry
  obtain ⟨e', hread, hcontent⟩ := hentry.readEntries
  refine ⟨t, e', ?_, hread, hcontent⟩
  rw [hentry.span_eq, ← List.append_assoc]
  exact slice?_append before t after

theorem EntriesText.word (h : EntriesText 0 es text) (he : e ∈ es) (hw : w ∈ e.words) :
    w.CutBy e text := by
  obtain ⟨before, t, after, rfl, hentry⟩ := h.exists_place he
  rw [Nat.zero_add] at hentry
  obtain ⟨before', lexeme, after', rfl, hword, hlexeme⟩ := hentry.standsIn hw
  have hslice := slice?_append (before ++ before') lexeme (after' ++ after)
  have htext : before ++ before' ++ lexeme ++ (after' ++ after) =
      before ++ (before' ++ (lexeme ++ after') ++ after) := by simp only [List.append_assoc]
  rw [byteLength_append, ← hword, htext] at hslice
  refine ⟨?_, ?_, ?_⟩
  · rw [hentry.span_eq, hword]
    exact Nat.le_add_right _ _
  · rw [hentry.span_eq, hword, Span.stop, Span.stop]
    simp only [byteLength_append]
    omega
  · rcases hlexeme with rfl | rfl
    · exact .inl hslice
    · exact .inr hslice

/-- The spans that reading gives cut the text faithfully. -/
theorem faithfulSpans_of_readEntries {text : String} (h : readEntries text = .ok es) :
    FaithfulSpans text.toList es := by
  have hentries : EntriesText 0 es text.toList := entriesOfChars_eq_ok_iff.mp h
  refine ⟨hentries.pairwise, ?_, fun e he => hentries.slice he, fun e he w hw =>
    hentries.word he hw⟩
  intro s hs
  rw [← Nat.zero_add (byteLength text.toList)] at hs
  exact hentries.free byteLength_nil hs

/-- A lexicon with letters of several bytes and with comments on both sides. -/
def shortLexicon : String := "% é\nß \"é\":A+; <m>:\x7bB-\x7d;%"

def shortEntries : List Entry :=
  [⟨[⟨"ß", ⟨5, 2⟩⟩, ⟨"é", ⟨8, 4⟩⟩], .connector ⟨['A'], [], .right, false⟩, ⟨5, 11⟩⟩,
    ⟨[⟨"<m>", ⟨17, 3⟩⟩], .optional (.connector ⟨['B'], [], .left, false⟩), ⟨17, 9⟩⟩]

theorem entriesText_short : EntriesText 0 shortEntries shortLexicon.toList := by
  have hblank : Ignored [' '] := .blank (by decide) .nil
  have hcomment : Ignored ('%' :: ([' ', 'é'] ++ ['\n'])) := .comment (by decide) .nil
  have hbare : WordText ['ß'] ['ß'] (' ' :: "\"é\":A+; <m>:\x7bB-\x7d;%".toList) :=
    .bare (by decide) (by decide) (stops_cons.mpr (by decide))
      (scanMacro_eq_none_of_head? (by decide))
  have hquoted : WordText ['é'] ['"', 'é', '"'] ":A+; <m>:\x7bB-\x7d;%".toList :=
    .quoted (by decide) (by decide)
  have hname : Delimited '<' '>' isMacroChar ['<', 'm', '>'] := ⟨['m'], by decide, by decide, rfl⟩
  have hright : FormulaText (.connector ⟨['A'], [], .right, false⟩) ['A', '+'] :=
    .of_unit (.connector (c := ⟨['A'], [], .right, false⟩) (by decide))
  have hleft : Spelled (.unit (.connector ⟨['B'], [], .left, false⟩)) ['B', '-'] :=
    .connector (c := ⟨['B'], [], .left, false⟩) (by decide)
  have hoptional : FormulaText (.optional (.connector ⟨['B'], [], .left, false⟩))
      ['\x7b', 'B', '-', '\x7d'] := .of_unit (.bracketed .optional .nil hleft.lastAlone .nil)
  have hend : Trailing ['%'] := .inr ⟨[], [], .nil, List.not_mem_nil, rfl⟩
  exact .cons hcomment (.mk (.further hbare hblank (.last hquoted)) .nil .nil hright .nil)
    (.cons hblank (.mk (.last (.name hname)) .nil .nil hoptional .nil) (.nil hend))

theorem faithfulSpans_short : readEntries shortLexicon = .ok shortEntries ∧
    FaithfulSpans shortLexicon.toList shortEntries := by
  have hread : readEntries shortLexicon = .ok shortEntries :=
    entriesOfChars_eq_ok_iff.mpr entriesText_short
  exact ⟨hread, faithfulSpans_of_readEntries hread⟩

end LinkParsing.Lexicon
