import LinkParsing.Proofs.Lexicon.Phrases

/-!
# Which texts are lexicons

`WordText`, `WordsText`, `EntryText` and `EntriesText` say how words, the words of an entry,
an entry and a whole lexicon are written, with the spans that go with them.  A word may be a
bare one only because of what stands behind it, so all but the last have a rest of the text as
argument.

A text is read as just the entries that it is a text of (`entriesOfChars_eq_ok_iff`).
-/

namespace LinkParsing.Lexicon

open Reader

variable {a b c : Place} {w : EntryWord} {ws : List EntryWord} {e : Entry} {es : List Entry}
  {v g t u rest text : List Char} {o : Nat}

/-- A text is one way to write a word, in front of this rest. -/
inductive WordText : List Char → List Char → List Char → Prop where
  | name {t rest : List Char} (ht : Delimited '<' '>' isMacroChar t) : WordText t t rest
  | quoted {body rest : List Char} (hne : body ≠ []) (hbody : body.all (· != '"') = true) :
      WordText body ('"' :: (body ++ ['"'])) rest
  | bare {t rest : List Char} (hne : t ≠ []) (hbare : t.all isBareChar = true)
      (hstop : Stops isBareChar rest) (hname : scanMacro (t ++ rest) = none) : WordText t t rest

/-- A text is one way to write words from an offset on. -/
inductive WordsText : Nat → List EntryWord → List Char → List Char → Prop where
  | last {o : Nat} {v t rest : List Char} (h : WordText v t rest) :
      WordsText o [⟨String.ofList v, ⟨o, byteLength t⟩⟩] t rest
  | further {o : Nat} {v t g u rest : List Char} {ws : List EntryWord}
      (h : WordText v t (g ++ (u ++ rest))) (hg : Ignored g)
      (hrest : WordsText (o + byteLength t + byteLength g) ws u rest) :
      WordsText o (⟨String.ofList v, ⟨o, byteLength t⟩⟩ :: ws) (t ++ (g ++ u)) rest

/-- A text is one way to write an entry from an offset on. -/
inductive EntryText : Nat → Entry → List Char → List Char → Prop where
  | mk {o : Nat} {ws : List EntryWord} {f : Formula} {wt g g' ft g'' rest : List Char}
      (hwords : WordsText o ws wt (g ++ ':' :: (g' ++ (ft ++ (g'' ++ ';' :: rest)))))
      (hg : Ignored g) (hg' : Ignored g') (hformula : FormulaText f ft) (hg'' : Ignored g'') :
      EntryText o
        ⟨ws, f, ⟨o, byteLength (wt ++ (g ++ ':' :: (g' ++ (ft ++ (g'' ++ [';'])))))⟩⟩
        (wt ++ (g ++ ':' :: (g' ++ (ft ++ (g'' ++ [';']))))) rest

/-- From an offset on a text is a list of entries. -/
inductive EntriesText : Nat → List Entry → List Char → Prop where
  | nil {o : Nat} {g : List Char} (hg : Trailing g) : EntriesText o [] g
  | cons {o : Nat} {g t text : List Char} {e : Entry} {es : List Entry} (hg : Ignored g)
      (h : EntryText (o + byteLength g) e t text)
      (hrest : EntriesText (o + byteLength g + byteLength t) es text) :
      EntriesText o (e :: es) (g ++ (t ++ text))

/-! ## Words -/

theorem isSolid_of_isBareChar {x : Char} (h : isBareChar x = true) : isSolid x = true := by
  simp only [isBareChar, Bool.not_eq_true', Bool.or_eq_false_iff] at h
  simp [isSolid, h.1.1.1.1, bne, h.2]

theorem WordText.exists_start (h : WordText v t rest) :
    ∃ x u, t = x :: u ∧ isSolid x = true ∧ x ≠ ':' := by
  cases h with
  | name ht =>
      obtain ⟨body, -, -, rfl⟩ := ht
      exact ⟨_, _, rfl, by decide, by decide⟩
  | quoted hne hbody => exact ⟨_, _, rfl, by decide, by decide⟩
  | bare hne hbare hstop hname =>
      obtain ⟨x, u, rfl, hx⟩ := exists_cons_of_all hne hbare
      refine ⟨x, u, rfl, isSolid_of_isBareChar hx, ?_⟩
      rintro rfl
      exact absurd hx (by decide)

theorem WordText.begins (h : WordText v t rest) : Begins t := by
  obtain ⟨x, u, rfl, hx, -⟩ := h.exists_start
  exact ⟨x, u, rfl, hx⟩

theorem reads_located {scan : List Char → Option (List Char × List Char)}
    (hscan : scan (t ++ rest) = some (t, rest)) (inside : List Char → List Char) (o : Nat) :
    Reads (word.located scan inside) ⟨t ++ rest, o⟩
      ⟨String.ofList (inside t), ⟨o, byteLength t⟩⟩ ⟨rest, o + byteLength t⟩ :=
  (reads_here _).bind ((readsAs_lexeme hscan o).bind (reads_pure _ _))

theorem fails_located {scan : List Char → Option (List Char × List Char)}
    (hscan : scan a.rest = none) (inside : List Char → List Char) :
    Fails (word.located scan inside) a := (fails_lexeme hscan).bind_left.bind_right (reads_here a)

theorem WordText.reads (h : WordText v t rest) (o : Nat) :
    Reads word ⟨t ++ rest, o⟩ ⟨String.ofList v, ⟨o, byteLength t⟩⟩ ⟨rest, o + byteLength t⟩ := by
  cases h with
  | name ht =>
      have hscan : scanMacro (v ++ rest) = some (v, rest) := scanMacro_eq_some_iff.mpr ⟨ht, rfl⟩
      exact ((reads_located hscan id o).named _).orElse_left
  | quoted hne hbody =>
      have hname : scanMacro ('"' :: (v ++ ['"']) ++ rest) = none :=
        scanMacro_eq_none_of_head? (by simp)
      have hscan : scanQuoted ('"' :: (v ++ ['"']) ++ rest) = some ('"' :: (v ++ ['"']), rest) :=
        scanQuoted_eq_some_iff.mpr ⟨⟨v, hne, hbody, rfl⟩, rfl⟩
      have hread := reads_located hscan unquote o
      rw [unquote_quoted] at hread
      exact ((hread.named _).orElse_left).orElse_right ((fails_located hname id).named _)
  | bare hne hbare hstop hname =>
      have hquoted : scanQuoted (v ++ rest) = none := by
        apply scanQuoted_eq_none_of_head?
        obtain ⟨x, u, rfl, hx⟩ := exists_cons_of_all hne hbare
        rintro hhead
        obtain rfl : x = '"' := by simpa using hhead
        exact absurd hx (by decide)
      have hscan : scanBare (v ++ rest) = some (v, rest) :=
        scanBare_eq_some_iff.mpr ⟨hne, hbare, hstop, rfl⟩
      have hread := ((reads_located hscan id o).named .bareWord).orElse_right
        ((fails_located hquoted unquote).named .quotedWord)
      exact hread.orElse_right ((fails_located hname id).named _)

/-- A word is read wherever one is written, and nowhere else. -/
theorem wordText_or_fails (a : Place) :
    (∃ v t rest, a.rest = t ++ rest ∧ WordText v t rest) ∨ Fails word a := by
  -- in the order of the readers: a bare word is one only where no name is
  rcases hname : scanMacro a.rest with _ | ⟨t, rest⟩
  · rcases hquoted : scanQuoted a.rest with _ | ⟨t, rest⟩
    · rcases hbare : scanBare a.rest with _ | ⟨t, rest⟩
      · exact .inr (((fails_located hname id).named _).orElse
          (((fails_located hquoted unquote).named _).orElse ((fails_located hbare id).named _)))
      · obtain ⟨hne, hall, hstop, htext⟩ := scanBare_eq_some_iff.mp hbare
        exact .inl ⟨t, t, rest, htext, .bare hne hall hstop (htext ▸ hname)⟩
    · obtain ⟨⟨body, hne, hbody, rfl⟩, htext⟩ := scanQuoted_eq_some_iff.mp hquoted
      exact .inl ⟨body, _, rest, htext, .quoted hne hbody⟩
  · obtain ⟨ht, htext⟩ := scanMacro_eq_some_iff.mp hname
    exact .inl ⟨t, t, rest, htext, .name ht⟩

theorem fails_word_colon (u : List Char) (o : Nat) : Fails word ⟨':' :: u, o⟩ := by
  rcases wordText_or_fails ⟨':' :: u, o⟩ with ⟨v, t, rest, htext, h⟩ | h
  · obtain ⟨x, t', rfl, -, hx⟩ := h.exists_start
    exact absurd (List.cons.inj htext).1.symm hx
  · exact h

theorem word_inv (h : Matched word a w b) : ∃ v t, Consumed a t b ∧ WordText v t b.rest ∧
    w = ⟨String.ofList v, ⟨a.offset, byteLength t⟩⟩ := by
  rcases wordText_or_fails a with ⟨v, t, rest, htext, hword⟩ | hfails
  · obtain ⟨text, o⟩ := a
    subst htext
    obtain ⟨rfl, rfl⟩ := (hword.reads o).eq_of_matched h
    exact ⟨v, t, ⟨rfl, rfl⟩, hword, rfl⟩
  · exact absurd h hfails.not_matched

/-! ## The words of an entry -/

theorem WordsText.begins (h : WordsText o ws t rest) : Begins t := by
  cases h with
  | last h => exact h.begins
  | further h hg hrest => exact h.begins.append _

theorem WordText.shorter (h : WordText v t rest) : rest.length < (t ++ rest).length := by
  have hpos := h.begins.length_pos
  rw [List.length_append]
  omega

theorem between_words (hg : Ignored g) (hrest : Solid rest) (o : Nat) :
    Between (pure ()) ⟨g ++ rest, o⟩ ⟨rest, o + byteLength g⟩ :=
  have hjoint : ReadsAs (pure ()) [] () ([] ++ rest) := fun _ => reads_pure () _
  have hbefore : Solid ([] ++ ([] ++ rest)) := hrest
  between_of_readsAs hg hbefore hjoint .nil hrest o

/-- The joint of words takes nothing, so it is the word behind it that is missing. -/
theorem fails_further_word (h : Behind [':'] rest) (o : Nat) :
    Fails (do skip; pure (); skip; word) ⟨rest, o⟩ := by
  obtain ⟨g, x, u, hg, hsolid, hx, rfl⟩ := h
  obtain rfl : x = ':' := by simpa using hx
  have hskip (o : Nat) : Reads skip ⟨':' :: u, o⟩ () ⟨':' :: u, o⟩ :=
    readsAs_skip .nil (solid_cons hsolid u) o
  have hword : Fails (do skip; word) ⟨':' :: u, o + byteLength g⟩ :=
    .bind_right (hskip _) (fails_word_colon u _)
  have hjoint : Fails (do pure (); skip; word) ⟨':' :: u, o + byteLength g⟩ :=
    .bind_right (reads_pure () _) hword
  exact .bind_right (readsAs_skip hg (solid_cons hsolid u) o) hjoint

theorem WordsText.chained (h : WordsText o ws t rest) (hbehind : Behind [':'] rest) :
    Chained word (pure ()) ⟨t ++ rest, o⟩ ws ⟨rest, o + byteLength t⟩ := by
  induction h with
  | last h => exact .last (h.reads _) h.shorter (fails_further_word hbehind _)
  | @further o v t g u rest ws h hg hrest ih =>
      have hlength : o + byteLength (t ++ (g ++ u)) =
          o + byteLength t + byteLength g + byteLength u := by
        simp only [byteLength_append]
        omega
      rw [List.append_assoc, List.append_assoc, hlength]
      have hbetween := between_words hg (hrest.begins.solid rest) (o + byteLength t)
      exact .further (h.reads o) h.shorter hbetween (ih hbehind)

theorem words_inv (h : ChainMatched word (pure ()) a ws b) :
    ∃ t, Consumed a t b ∧ WordsText a.offset ws t b.rest := by
  induction h with
  | last h =>
      obtain ⟨v, t, ht, hword, rfl⟩ := word_inv h
      exact ⟨t, ht, .last hword⟩
  | @further a b c d e f w ws h hbefore hjoint hbehind _ ih =>
      obtain ⟨v, t, ht, hword, rfl⟩ := word_inv h
      obtain ⟨u, hu, hwords⟩ := ih
      obtain ⟨-, rfl⟩ := pure_inv hjoint
      -- what is ignored may have been gone over in two parts
      obtain ⟨g', hg', hignored'⟩ := skip_inv_of_consumed hbehind hu hwords.begins.ne_nil
      have hne : g' ++ u ≠ [] := List.append_ne_nil_of_right_ne_nil g' hwords.begins.ne_nil
      obtain ⟨g, hg, hignored⟩ := skip_inv_of_consumed hbefore (hg'.trans hu) hne
      have hgap := hg.trans hg'
      have hoffset : e.offset = a.offset + byteLength t + byteLength (g ++ g') := by
        rw [hgap.2, ht.2]
      have hrest : b.rest = (g ++ g') ++ (u ++ f.rest) := by
        rw [hgap.1, hu.1]
      rw [hrest] at hword
      rw [hoffset] at hwords
      exact ⟨_, ht.trans (hgap.trans hu), .further hword (hignored.append hignored') hwords⟩

/-! ## Entries -/

theorem EntryText.begins (h : EntryText o e t rest) : Begins t := by
  obtain ⟨hwords, hg, hg', hformula, hg''⟩ := h
  exact hwords.begins.append _

theorem EntryText.reads (h : EntryText o e t rest) :
    Reads entry ⟨t ++ rest, o⟩ e ⟨rest, o + byteLength t⟩ := by
  cases h with
  | @mk ws f wt g g' ft g'' _ hwords hg hg' hformula hg'' =>
      have hlist := (hwords.chained ⟨g, ':', _, hg, by decide, List.mem_cons_self, rfl⟩).reads
      have hend : Behind afterFormula (g'' ++ ';' :: rest) :=
        ⟨g'', ';', rest, hg'', by decide, by decide, rfl⟩
      -- the readers count the parts one by one, the span counts the whole
      have hstop : o + byteLength wt + byteLength g + byteLength [':'] + byteLength g' +
          byteLength ft + byteLength g'' + byteLength [';'] =
            o + byteLength (wt ++ (g ++ ':' :: (g' ++ (ft ++ (g'' ++ [';']))))) := by
        simp only [byteLength_append, byteLength_cons, byteLength_nil]
        omega
      have hcolon := readsAs_symbol ':' (g' ++ (ft ++ (g'' ++ ';' :: rest)))
      have hskip := readsAs_skip hg' (hformula.begins.solid (g'' ++ ';' :: rest))
      have hskip' := readsAs_skip hg'' (solid_cons (c := ';') (by decide) rest)
      have hread : Reads entry ⟨wt ++ (g ++ ':' :: (g' ++ (ft ++ (g'' ++ ';' :: rest)))), o⟩
          ⟨ws, f, ⟨o, o + byteLength wt + byteLength g + byteLength [':'] + byteLength g' +
            byteLength ft + byteLength g'' + byteLength [';'] - o⟩⟩
          ⟨rest, o + byteLength wt + byteLength g + byteLength [':'] + byteLength g' +
            byteLength ft + byteLength g'' + byteLength [';']⟩ := by
        refine .named (.bind (reads_here _) (.bind (hlist.named _) ?_)) _
        refine .bind (readsAs_skip hg (solid_cons (by decide) _) _) (.bind (hcolon _) ?_)
        refine .bind (hskip _) (.bind (hformula.readsAs hend _) ?_)
        refine .bind (hskip' _) (.bind (readsAs_symbol ';' rest _) ?_)
        exact .bind (reads_here _) (reads_pure _ _)
      rw [hstop, Nat.add_sub_cancel_left] at hread
      simpa using hread

theorem entry_inv (h : Matched entry a e b) :
    ∃ t, Consumed a t b ∧ EntryText a.offset e t b.rest := by
  obtain ⟨_, _, hhere, hnext⟩ := bind_inv (named_inv h)
  obtain ⟨rfl, rfl⟩ := here_inv hhere
  obtain ⟨ws, _, hlist, hnext⟩ := bind_inv hnext
  obtain ⟨_, _, hskip, hnext⟩ := bind_inv hnext
  obtain ⟨_, _, hcolon, hnext⟩ := bind_inv hnext
  obtain ⟨_, _, hskip', hnext⟩ := bind_inv hnext
  obtain ⟨f, _, hread, hnext⟩ := bind_inv hnext
  obtain ⟨_, _, hskip'', hnext⟩ := bind_inv hnext
  obtain ⟨_, _, hsemicolon, hnext⟩ := bind_inv hnext
  obtain ⟨_, _, hhere', hpure⟩ := bind_inv hnext
  obtain ⟨rfl, rfl⟩ := here_inv hhere'
  obtain ⟨rfl, rfl⟩ := pure_inv hpure
  -- from the end to the start, each gap is followed by something
  obtain ⟨wt, hwt, hwords⟩ := words_inv (chain_inv (named_inv hlist))
  obtain ⟨ft, hft, hformula⟩ := formula_inv hread
  have hcolon := symbol_inv hcolon
  have hsemicolon := symbol_inv hsemicolon
  obtain ⟨g, hg, hignored⟩ := skip_inv_of_consumed hskip hcolon (List.cons_ne_nil _ _)
  obtain ⟨g', hg', hignored'⟩ := skip_inv_of_consumed hskip' hft hformula.begins.ne_nil
  obtain ⟨g'', hg'', hignored''⟩ :=
    skip_inv_of_consumed hskip'' hsemicolon (List.cons_ne_nil _ _)
  have hbehind := hg.trans (hcolon.trans (hg'.trans (hft.trans (hg''.trans hsemicolon))))
  have hentry := hwt.trans hbehind
  rw [hbehind.1] at hwords
  refine ⟨_, hentry, ?_⟩
  rw [hentry.2, Nat.add_sub_cancel_left]
  exact .mk (by simpa using hwords) hignored hignored' hformula hignored''

/-! ## Whole lexicons -/

theorem fails_entry_nil (o : Nat) : Fails entry ⟨[], o⟩ := by
  have hword : Fails word ⟨[], o⟩ := by
    rcases wordText_or_fails ⟨[], o⟩ with ⟨v, t, rest, htext, h⟩ | h
    · obtain ⟨x, u, rfl, -⟩ := h.exists_start
      cases htext
    · exact h
  exact .named (.bind_right (reads_here _) (.bind_left (.named (.bind_left hword) _))) _

/-- One entry after the other is read, up to what is ignored at the end. -/
theorem EntriesText.repeats (h : EntriesText o es text) :
    ∃ g p, Trailing g ∧ Repeats (do skip; entry) ⟨text, o⟩ es ⟨g, p⟩ := by
  induction h with
  | @nil o g hg =>
      have hstop : Fails (do skip; entry) ⟨g, o⟩ :=
        .bind_right (reads_skip_trailing hg o) (fails_entry_nil _)
      exact ⟨g, o, hg, .stop hstop⟩
  | @cons o g t text e es hg h _ ih =>
      obtain ⟨g', p, hg', hrepeats⟩ := ih
      have hread : Reads (do skip; entry) ⟨g ++ (t ++ text), o⟩ e _ :=
        .bind (readsAs_skip hg (h.begins.solid text) o) h.reads
      have hshorter : text.length < (g ++ (t ++ text)).length := by
        have hpos := h.begins.length_pos
        simp only [List.length_append]
        omega
      exact ⟨g', p, hg', .again hread hshorter hrepeats⟩

theorem reads_file {p : Nat} (hbefore : Reads skip a () b) (hmany : Reads (many entry) b es c)
    (hbehind : Reads skip c () ⟨[], p⟩) : Reads file a es ⟨[], p⟩ := by
  refine .named (.bind hbefore (.bind hmany (.bind hbehind ?_))) _
  exact .bind ((reads_endOfText p).named _) (reads_pure _ _)

theorem EntriesText.reads (h : EntriesText o es text) :
    ∃ p, Reads file ⟨text, o⟩ es ⟨[], p⟩ := by
  cases h with
  | nil hg =>
      have hmany : Reads (many entry) ⟨[], o + byteLength text⟩ [] ⟨[], o + byteLength text⟩ :=
        (reads_pure [] _).orElse_right (fails_entry_nil _).bind_left
      exact ⟨_, reads_file (reads_skip_trailing hg o) hmany (reads_skip_trailing (.inl .nil) _)⟩
  | @cons _ g t text e es hg h hrest =>
      obtain ⟨g', p, hg', hrepeats⟩ := hrest.repeats
      have hmany : Reads (many entry) ⟨t ++ text, o + byteLength g⟩ (e :: es) ⟨g', p⟩ :=
        (h.reads.bind (hrepeats.reads_repeated.bind (reads_pure (e :: es) _))).orElse_left
      have hskip := readsAs_skip hg (h.begins.solid text) o
      exact ⟨_, reads_file hskip hmany (reads_skip_trailing hg' p)⟩

theorem EntriesText.of_matched (hskip : Matched skip a () b) (hentry : Matched entry b e c)
    (hrest : EntriesText c.offset es c.rest) : EntriesText a.offset (e :: es) a.rest := by
  obtain ⟨t, ht, htext⟩ := entry_inv hentry
  obtain ⟨g, hg, hignored⟩ := skip_inv_of_consumed hskip ht htext.begins.ne_nil
  rw [ht.2, hg.2] at hrest
  rw [hg.2] at htext
  rw [hg.1, ht.1]
  exact .cons hignored htext hrest

theorem entries_inv (h : MatchedAll (do skip; entry) a es b) (hskip : Matched skip b () c)
    (hend : c.rest = []) : EntriesText a.offset es a.rest := by
  induction h with
  | nil a =>
      obtain ⟨g, hg, -, htrailing, -⟩ := skip_inv hskip
      rw [hg.1, hend, List.append_nil]
      exact .nil htrailing
  | cons h _ ih =>
      obtain ⟨_, _, hbefore, hentry⟩ := bind_inv h
      exact .of_matched hbefore hentry (ih hskip)

theorem file_inv (h : Matched file a es b) : EntriesText a.offset es a.rest := by
  obtain ⟨_, c, hbefore, hnext⟩ := bind_inv (named_inv h)
  obtain ⟨_, d, hmany, hnext⟩ := bind_inv hnext
  obtain ⟨_, e, hbehind, hnext⟩ := bind_inv hnext
  obtain ⟨_, _, hend, hpure⟩ := bind_inv hnext
  obtain ⟨rfl, -⟩ := pure_inv hpure
  obtain ⟨hend, -⟩ := endOfText_inv (named_inv hend)
  rcases orElse_inv hmany with hmany | hmany
  · obtain ⟨first, _, hentry, hmany⟩ := bind_inv hmany
    obtain ⟨others, _, hothers, hpure⟩ := bind_inv hmany
    obtain ⟨rfl, rfl⟩ := pure_inv hpure
    exact .of_matched hbefore hentry (entries_inv (repeated_inv hothers) hbehind hend)
  · obtain ⟨rfl, rfl⟩ := pure_inv hmany
    obtain ⟨g, hg, -, htrailing, hignored⟩ := skip_inv hbefore
    obtain ⟨g', hg', -, htrailing', -⟩ := skip_inv hbehind
    have hrest : d.rest = g' := by rw [hg'.1, hend, List.append_nil]
    rw [hg.1, hrest]
    -- only a last comment without end of line needs the text to be over
    by_cases hne : d.rest = []
    · rw [← hrest, hne, List.append_nil]
      exact .nil htrailing
    · exact .nil ((hignored hne).append_trailing htrailing')

/-- A text is read as just the entries that it is a text of. -/
theorem entriesOfChars_eq_ok_iff : entriesOfChars text = .ok es ↔ EntriesText 0 es text := by
  constructor
  · intro h
    unfold entriesOfChars at h
    split at h
    next entries b furthest hread =>
      cases h
      exact file_inv ⟨.start, furthest, hread⟩
    next => cases h
    next => cases h
  · intro h
    obtain ⟨p, hread⟩ := h.reads
    obtain ⟨furthest, hread⟩ := hread .start
    unfold entriesOfChars
    rw [hread]

end LinkParsing.Lexicon
