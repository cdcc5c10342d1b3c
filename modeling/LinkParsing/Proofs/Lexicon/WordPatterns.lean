import LinkParsing.Lexicon.WordPattern
import LinkParsing.Pattern.Reading
import LinkParsing.Proofs.Result
import LinkParsing.Proofs.Text.Trimming
import Mathlib.Data.List.Forall2

/-!
# Files of word patterns

A line of a file is silent, that is blank or a comment, or it writes a name and a pattern text
(`Writes`), or it is faulty.  A file is read just if none of its lines is faulty, and it holds the
patterns of its lines, in order (`ofLines_eq_ok_iff`); otherwise the first faulty line is reported
(`ofLines_eq_error_iff`).

A name has neither a colon nor white space in it, and the slashes and the semicolon are looked for
at the ends of what follows the first colon.  So any text without line feeds may stand between the
slashes, and files that are written line by line are read as they are meant (`parse_written`).  All
this is so whatever the patterns compile to.
-/

namespace LinkParsing.Lexicon.WordPattern

open Text

variable {text line body rest name source : List Char} {lines : List (List Char)} {c : Char}
  {o : Nat} {compile : PatternCompiler} {ps : List WordPattern} {found : Option WordPattern}

/-! ## Lines -/

/-- A text has these lines: each of them ends with its line feed, but the last one may have none. -/
inductive HasLines : List Char → List (List Char) → Prop where
  | nil : HasLines [] []
  | last {line : List Char} (hne : line ≠ []) (hfeed : '\n' ∉ line) : HasLines line [line]
  | further {body rest : List Char} {lines : List (List Char)} (hfeed : '\n' ∉ body)
      (hrest : HasLines rest lines) : HasLines (body ++ '\n' :: rest) ((body ++ ['\n']) :: lines)

theorem linesOf_append (hfeed : '\n' ∉ body) (rest : List Char) :
    linesOf (body ++ '\n' :: rest) = (body ++ ['\n']) :: linesOf rest := by
  induction body with
  | nil => rw [List.nil_append, linesOf, if_pos rfl, List.nil_append]
  | cons c body ih =>
      rw [List.mem_cons, not_or] at hfeed
      rw [List.cons_append, linesOf, if_neg (Ne.symm hfeed.1), ih hfeed.2, List.cons_append]

theorem linesOf_of_not_mem (hne : line ≠ []) (hfeed : '\n' ∉ line) : linesOf line = [line] := by
  induction line with
  | nil => exact absurd rfl hne
  | cons c line ih =>
      rw [List.mem_cons, not_or] at hfeed
      rw [linesOf, if_neg (Ne.symm hfeed.1)]
      cases line with
      | nil => rfl
      | cons d line => rw [ih (List.cons_ne_nil _ _) hfeed.2]

theorem hasLines_linesOf (text : List Char) : HasLines text (linesOf text) := by
  induction text with
  | nil => exact .nil
  | cons c text ih =>
      rw [linesOf]
      split
      next hc =>
        subst hc
        have hempty : '\n' ∉ ([] : List Char) := List.not_mem_nil
        exact .further hempty ih
      next hc =>
        -- A character that is no line feed goes in front of the first line there is.
        have hfeed {body : List Char} (h : '\n' ∉ body) : '\n' ∉ c :: body :=
          List.not_mem_cons_of_ne_of_not_mem (Ne.symm hc) h
        generalize hlines : linesOf text = lines at ih
        cases ih with
        | nil => exact .last (List.cons_ne_nil c []) (hfeed List.not_mem_nil)
        | last hne h => exact .last (List.cons_ne_nil c text) (hfeed h)
        | further h hrest => exact .further (hfeed h) hrest

theorem linesOf_eq_iff : linesOf text = lines ↔ HasLines text lines := by
  constructor
  · rintro rfl
    exact hasLines_linesOf text
  · intro h
    induction h with
    | nil => rfl
    | last hne hfeed => exact linesOf_of_not_mem hne hfeed
    | further hfeed hrest ih => rw [linesOf_append hfeed, ih]

/-- The lines together are the text. -/
theorem flatten_linesOf (text : List Char) : (linesOf text).flatten = text := by
  generalize hlines : linesOf text = lines
  have h := linesOf_eq_iff.mp hlines
  clear hlines
  induction h with
  | nil => rfl
  | last hne hfeed => exact List.flatten_singleton
  | further hfeed hrest ih => rw [List.flatten_cons, ih, List.append_assoc, List.singleton_append]

/-! ## Names -/

theorem toNat_of_isNameChar (h : isNameChar c = true) : c.toNat = 45 ∨ c.toNat = 95 ∨
    (48 ≤ c.toNat ∧ c.toNat ≤ 57) ∨ (65 ≤ c.toNat ∧ c.toNat ≤ 90) := by
  change (((decide (65 ≤ c.val ∧ c.val ≤ 90) || decide (48 ≤ c.val) && decide (c.val ≤ 57)) ||
    c == '_') || c == '-') = true at h
  simp only [Bool.or_eq_true, Bool.and_eq_true, decide_eq_true_eq, beq_iff_eq,
    UInt32.le_iff_toNat_le] at h
  change (((65 ≤ c.toNat ∧ c.toNat ≤ 90) ∨ (48 ≤ c.toNat ∧ c.toNat ≤ 57)) ∨ c = '_') ∨
    c = '-' at h
  rcases h with ((h | h) | rfl) | rfl
  · exact .inr (.inr (.inr h))
  · exact .inr (.inr (.inl h))
  · exact .inr (.inl rfl)
  · exact .inl rfl

theorem isSpace_of_isNameChar (h : isNameChar c = true) : isSpace c = false := by
  have hrange := toNat_of_isNameChar h
  simp only [isSpace, Bool.or_eq_false_iff, Bool.and_eq_false_iff, decide_eq_false_iff_not,
    beq_eq_false_iff_ne]
  omega

theorem isNameChar_of_mem (h : isName name = true) (hc : c ∈ name) : isNameChar c = true := by
  cases name with
  | nil => cases hc
  | cons d name =>
      rw [isName, Bool.and_eq_true] at h
      exact List.all_eq_true.mp h.2 c hc

theorem ne_nil_of_isName (h : isName name = true) : name ≠ [] := by
  rintro rfl
  cases h

theorem tight_of_isName (h : isName name = true) : Tight name :=
  ⟨fun _ hc => isSpace_of_isNameChar (isNameChar_of_mem h (List.mem_of_mem_head? hc)),
    fun _ hc => isSpace_of_isNameChar
      (isNameChar_of_mem h (List.mem_reverse.mp (List.mem_of_mem_head? hc)))⟩

/-! ## Names and pattern texts -/

theorem dropFirst?_eq_some_iff : dropFirst? c text = some rest ↔ text = c :: rest := by
  cases text with
  | nil => simp [dropFirst?]
  | cons d text => simp [dropFirst?]

theorem dropLast?_eq_some_iff : dropLast? c text = some body ↔ text = body ++ [c] := by
  rw [dropLast?]
  constructor
  · intro h
    split at h
    next hlast =>
      cases h
      exact (List.dropLast_append_getLast? c hlast).symm
    next => cases h
  · rintro rfl
    rw [if_pos List.getLast?_concat, List.dropLast_concat]

/-- A line writes a name and, between slashes, a pattern text.  White space may stand around the
name, on both sides of what is between slashes, and behind the semicolon. -/
def Writes (line name source : List Char) : Prop :=
  isName name = true ∧ ∃ a b c d e, Blank a ∧ Blank b ∧ Blank c ∧ Blank d ∧ Blank e ∧
    line = a ++ (name ++ (b ++ ':' :: (c ++ '/' :: (source ++ '/' :: (d ++ ';' :: e)))))

theorem writes_of_splitLine (h : splitLine line = some (name, source)) :
    Writes line name source := by
  simp only [splitLine, Option.bind_eq_bind, Option.bind_eq_some_iff] at h
  obtain ⟨rest, hrest, h⟩ := h
  split at h
  next hname =>
    simp only [Option.bind_eq_some_iff, Option.some.injEq, Prod.mk.injEq,
      dropFirst?_eq_some_iff, dropLast?_eq_some_iff] at h
    obtain ⟨inner, hinner, behind, hbehind, _, rfl, rfl, rfl⟩ := h
    obtain ⟨a, b, ha, hb, hbefore⟩ := exists_trim_append (line.takeWhile (· != ':'))
    obtain ⟨c, e, hc, he, hafter⟩ := exists_trim_append rest
    obtain ⟨d, hd, hslashes⟩ := exists_trimEnd_append inner
    refine ⟨hname, a, b, c, d, e, ha, hb, hc, hd, he, ?_⟩
    calc line
        = line.takeWhile (· != ':') ++ line.dropWhile (· != ':') :=
          List.takeWhile_append_dropWhile.symm
      _ = line.takeWhile (· != ':') ++ ':' :: (c ++ (inner ++ [';'] ++ e)) := by
          rw [dropFirst?_eq_some_iff.mp hrest, ← hinner, ← hafter]
      _ = _ := by
          rw [hslashes, hbehind]
          nth_rewrite 1 [hbefore]
          simp
  next => cases h

theorem Writes.splitLine_eq (h : Writes line name source) :
    splitLine line = some (name, source) := by
  obtain ⟨hname, a, b, c, d, e, ha, hb, hc, hd, he, rfl⟩ := h
  -- There is no colon before the one that is written behind the name.
  have hspace {a : List Char} (ha : Blank a) : a.all (· != ':') = true := by
    refine List.all_eq_true.mpr fun x hx => bne_iff_ne.mpr ?_
    rintro rfl
    exact absurd (List.all_eq_true.mp ha ':' hx) (by decide)
  have hcolon : (a ++ (name ++ b)).all (· != ':') = true := by
    rw [List.all_append, List.all_append, hspace ha, hspace hb, Bool.true_and, Bool.and_true]
    refine List.all_eq_true.mpr fun x hx => bne_iff_ne.mpr ?_
    rintro rfl
    exact absurd (isNameChar_of_mem hname hx) (by decide)
  have hstop (rest : List Char) : Stops (· != ':') (':' :: rest) := stops_cons.mpr rfl
  have hline : a ++ (name ++ (b ++ ':' :: (c ++ '/' :: (source ++ '/' :: (d ++ ';' :: e))))) =
      (a ++ (name ++ b)) ++ ':' :: (c ++ ('/' :: (source ++ '/' :: d) ++ [';'] ++ e)) := by simp
  have hwhole : Tight ('/' :: (source ++ '/' :: d) ++ [';']) :=
    tight_of_ends (x := '/') (y := ';') (by decide) (by decide) rfl List.getLast?_concat
  have hslashes : trimEnd ('/' :: (source ++ '/' :: d)) = '/' :: source ++ ['/'] := by
    refine trimEnd_eq_iff.mpr ⟨?_, d, hd, by simp⟩
    rw [List.reverse_concat]
    exact stops_cons.mpr (by decide)
  rw [splitLine, hline, takeWhile_append hcolon (hstop _), dropWhile_append hcolon (hstop _),
    trim_append (tight_of_isName hname) ha hb, dropFirst?_eq_some_iff.mpr rfl]
  simp only [Option.bind_eq_bind, Option.bind_some, if_pos hname, trim_append hwhole hc he,
    dropLast?_eq_some_iff.mpr rfl, hslashes]
  rw [List.cons_append, dropFirst?_eq_some_iff.mpr rfl, Option.bind_some,
    dropLast?_eq_some_iff.mpr rfl, Option.bind_some]

/-- With the white space around it taken off, a line begins with the name and ends with the
semicolon. -/
theorem Writes.trim_eq (h : Writes line name source) : ∃ b c d, Blank b ∧ Blank c ∧ Blank d ∧
    trim line = name ++ (b ++ ':' :: (c ++ '/' :: (source ++ '/' :: (d ++ [';'])))) := by
  obtain ⟨hname, a, b, c, d, e, ha, hb, hc, hd, he, rfl⟩ := h
  refine ⟨b, c, d, hb, hc, hd, ?_⟩
  obtain ⟨x, others, rfl⟩ := List.exists_cons_of_ne_nil (ne_nil_of_isName hname)
  have hx : isSpace x = false := (tight_of_isName hname).1 x rfl
  have hwhole : Tight (x :: (others ++ (b ++ ':' :: (c ++ '/' :: (source ++ '/' :: d)))) ++
      [';']) := tight_of_ends (x := x) (y := ';') hx (by decide) rfl List.getLast?_concat
  have htrim := trim_append hwhole ha he
  simpa only [List.append_assoc, List.cons_append, List.nil_append] using htrim

theorem writes_trim_iff : Writes (trim line) name source ↔ Writes line name source := by
  constructor
  · rintro ⟨hname, a, b, c, d, e, ha, hb, hc, hd, he, hline⟩
    obtain ⟨a', e', ha', he', hpadded⟩ := exists_trim_append line
    refine ⟨hname, a' ++ a, b, c, d, e ++ e', blank_append.mpr ⟨ha', ha⟩, hb, hc, hd,
      blank_append.mpr ⟨he, he'⟩, ?_⟩
    rw [hpadded, hline]
    simp
  · intro h
    obtain ⟨b, c, d, hb, hc, hd, htrim⟩ := h.trim_eq
    exact ⟨h.1, [], b, c, d, [], blank_nil, hb, hc, hd, blank_nil, htrim⟩

/-! ## What a line says -/

/-- A line that is blank or a comment. -/
def Silent (line : List Char) : Prop :=
  Blank line ∨ ∃ a comment, Blank a ∧ line = a ++ '%' :: comment

/-- A line says nothing, or it writes a pattern under its name. -/
inductive Says (compile : PatternCompiler) (line : List Char) : Option WordPattern → Prop where
  | nothing (h : Silent line) : Says compile line none
  | pattern {p : WordPattern} (h : Writes line p.name p.source)
      (hpattern : compile p.source = some p.isMatch) : Says compile line (some p)

theorem silent_iff : Silent line ↔ trim line = [] ∨ ∃ comment, trim line = '%' :: comment := by
  constructor
  · rintro (h | ⟨a, comment, ha, rfl⟩)
    · exact .inl (trim_eq_nil_iff.mpr h)
    · have hstop : Stops isSpace ('%' :: comment) := stops_cons.mpr (by decide)
      rw [trim, trimStart_eq_iff.mpr ⟨hstop, a, ha, rfl⟩]
      obtain ⟨b, hb, hcomment⟩ := exists_trimEnd_append ('%' :: comment)
      cases htrim : trimEnd ('%' :: comment) with
      | nil => exact .inl rfl
      | cons x rest =>
          rw [htrim] at hcomment
          exact .inr ⟨rest, by rw [(List.cons.inj hcomment).1]⟩
  · rintro (h | ⟨comment, h⟩)
    · exact .inl (trim_eq_nil_iff.mp h)
    · obtain ⟨a, b, ha, -, hline⟩ := exists_trim_append line
      rw [h] at hline
      exact .inr ⟨a, comment ++ b, ha, hline⟩

/-- A line that writes something begins with a character of a name. -/
theorem Writes.not_silent (h : Writes line name source) : ¬Silent line := by
  obtain ⟨b, c, d, -, -, -, htrim⟩ := h.trim_eq
  obtain ⟨x, others, hname⟩ := List.exists_cons_of_ne_nil (ne_nil_of_isName h.1)
  have hx : isNameChar x = true := isNameChar_of_mem h.1 (hname ▸ List.mem_cons_self)
  rw [silent_iff, htrim, hname]
  rintro (hnil | ⟨comment, hcomment⟩)
  · cases hnil
  · rw [(List.cons.inj hcomment).1] at hx
    exact absurd hx (by decide)

theorem ofLine_eq_ok_iff : ofLine compile line = .ok found ↔ Says compile line found := by
  unfold ofLine
  constructor
  · intro h
    split at h
    next hnil =>
      cases h
      exact .nothing (silent_iff.mpr (.inl hnil))
    next comment hcomment =>
      cases h
      exact .nothing (silent_iff.mpr (.inr ⟨comment, hcomment⟩))
    next =>
      split at h
      next => cases h
      next name source hsplit =>
        split at h
        next isMatch hpattern =>
          cases h
          exact .pattern (writes_trim_iff.mp (writes_of_splitLine hsplit)) hpattern
        next => cases h
  · rintro (h | ⟨h, hpattern⟩)
    · rcases silent_iff.mp h with hnil | ⟨comment, hcomment⟩
      · rw [hnil]
      · rw [hcomment]
        rfl
    · split
      next hnil => exact absurd (silent_iff.mpr (.inl hnil)) h.not_silent
      next comment hcomment =>
        exact absurd (silent_iff.mpr (.inr ⟨comment, hcomment⟩)) h.not_silent
      next =>
        rw [(writes_trim_iff.mpr h).splitLine_eq]
        simp only [hpattern]

/-- A line is faulty just if it is not silent and writes no pattern. -/
theorem exists_says_iff : (∃ found, Says compile line found) ↔
    (¬Silent line → ∃ name source isMatch, Writes line name source ∧
      compile source = some isMatch) := by
  constructor
  · rintro ⟨_, h | ⟨h, hpattern⟩⟩ hsilent
    · exact absurd h hsilent
    · exact ⟨_, _, _, h, hpattern⟩
  · intro h
    by_cases hsilent : Silent line
    · exact ⟨none, .nothing hsilent⟩
    · obtain ⟨name, source, isMatch, hwrites, hpattern⟩ := h hsilent
      exact ⟨some ⟨name, source, isMatch⟩, .pattern hwrites hpattern⟩

/-! ## Files -/

theorem toList_append_reduceOption (found : Option WordPattern)
    (founds : List (Option WordPattern)) :
    found.toList ++ founds.reduceOption = (found :: founds).reduceOption := by
  cases found with
  | none => rfl
  | some p => rfl

/-- A file is read just if every line says something or is silent. -/
theorem ofLines_eq_ok_iff : ofLines compile o lines = .ok ps ↔
    ∃ founds, List.Forall₂ (Says compile) lines founds ∧ ps = founds.reduceOption := by
  induction lines generalizing o ps with
  | nil =>
      simp only [ofLines, List.forall₂_nil_left_iff, exists_eq_left, Except.ok.injEq]
      exact eq_comm
  | cons line lines ih =>
      rw [ofLines]
      simp only [List.forall₂_cons_left_iff]
      cases hline : ofLine compile line with
      | error fault =>
          refine ⟨nofun, ?_⟩
          rintro ⟨_, ⟨found, founds, hsays, -, rfl⟩, -⟩
          cases hline.symm.trans (ofLine_eq_ok_iff.mpr hsays)
      | ok found =>
          dsimp only
          rw [bind_eq_ok_iff]
          constructor
          · rintro ⟨others, hothers, h⟩
            obtain ⟨founds, hfounds, rfl⟩ := ih.mp hothers
            cases h
            exact ⟨found :: founds, ⟨found, founds, ofLine_eq_ok_iff.mp hline, hfounds, rfl⟩,
              toList_append_reduceOption found founds⟩
          · rintro ⟨_, ⟨found', founds, hsays, hfounds, rfl⟩, rfl⟩
            obtain rfl := Except.ok.inj (hline.symm.trans (ofLine_eq_ok_iff.mpr hsays))
            exact ⟨_, ih.mpr ⟨founds, hfounds, rfl⟩,
              congrArg _ (toList_append_reduceOption found founds)⟩

/-- Each line can say something just if all together can. -/
theorem exists_founds_iff :
    (∃ founds, List.Forall₂ (Says compile) lines founds) ↔
      ∀ line ∈ lines, ∃ found, Says compile line found := by
  induction lines with
  | nil => exact ⟨fun _ => nofun, fun _ => ⟨[], .nil⟩⟩
  | cons line lines ih =>
      rw [List.forall_mem_cons, ← ih]
      constructor
      · rintro ⟨_, _ | ⟨h, hrest⟩⟩
        exact ⟨⟨_, h⟩, _, hrest⟩
      · rintro ⟨⟨found, h⟩, founds, hrest⟩
        exact ⟨found :: founds, .cons h hrest⟩

/-- Otherwise the first faulty line is reported, with its place and without the white space behind
it. -/
theorem ofLines_eq_error_iff {fault : LineFault} {span : Span} :
    ofLines compile o lines = .error ⟨fault, span⟩ ↔
      ∃ before line after, lines = before ++ line :: after ∧
        (∀ l ∈ before, ∃ found, Says compile l found) ∧ ofLine compile line = .error fault ∧
          span = ⟨o + byteLength before.flatten, byteLength (trimEnd line)⟩ := by
  induction lines generalizing o with
  | nil =>
      refine ⟨nofun, ?_⟩
      rintro ⟨before, line, after, hlines, -⟩
      exact absurd hlines.symm (List.append_ne_nil_of_right_ne_nil _ (List.cons_ne_nil _ _))
  | cons line lines ih =>
      rw [ofLines]
      cases hline : ofLine compile line with
      | error fault' =>
          simp only [Except.error.injEq, LineError.mk.injEq]
          constructor
          · rintro ⟨rfl, rfl⟩
            exact ⟨[], line, lines, rfl, nofun, hline, rfl⟩
          · rintro ⟨before, line', after, hlines, hbefore, hfault, rfl⟩
            cases before with
            | nil =>
                obtain ⟨rfl, rfl⟩ := List.cons.inj hlines
                rw [hline] at hfault
                exact ⟨Except.error.inj hfault, rfl⟩
            | cons l before =>
                -- The first line says nothing, so it is not before the one that is reported.
                obtain ⟨rfl, rfl⟩ := List.cons.inj hlines
                obtain ⟨found, hfound⟩ := hbefore line List.mem_cons_self
                cases hline.symm.trans (ofLine_eq_ok_iff.mpr hfound)
      | ok found =>
          dsimp only
          have hsays : Says compile line found := ofLine_eq_ok_iff.mp hline
          rw [bind_eq_error_iff, ih]
          constructor
          · rintro (⟨before, line', after, rfl, hbefore, hfault, rfl⟩ | ⟨_, -, h⟩)
            · refine ⟨line :: before, line', after, rfl, ?_, hfault, ?_⟩
              · exact List.forall_mem_cons.mpr ⟨⟨found, hsays⟩, hbefore⟩
              · rw [List.flatten_cons, byteLength_append, Nat.add_assoc]
            · cases h
          · rintro ⟨before, line', after, hlines, hbefore, hfault, rfl⟩
            cases before with
            | nil =>
                obtain ⟨rfl, rfl⟩ := List.cons.inj hlines
                cases hline.symm.trans hfault
            | cons l before =>
                obtain ⟨rfl, rfl⟩ := List.cons.inj hlines
                refine .inl ⟨before, line', after, rfl, (List.forall_mem_cons.mp hbefore).2,
                  hfault, ?_⟩
                rw [List.flatten_cons, byteLength_append, Nat.add_assoc]

/-- What is reported cuts the first faulty line out of the text, without the white space behind
it. -/
theorem parse_eq_error {text : String} {e : LineError} (h : parse compile text = .error e) :
    ∃ before line after, linesOf text.toList = before ++ line :: after ∧
      (∀ l ∈ before, ∃ found, Says compile l found) ∧ ofLine compile line = .error e.fault ∧
        e.span = ⟨byteLength before.flatten, byteLength (trimEnd line)⟩ := by
  obtain ⟨before, line, after, hlines, hbefore, hfault, hspan⟩ := ofLines_eq_error_iff.mp h
  exact ⟨before, line, after, hlines, hbefore, hfault, by rw [hspan, Nat.zero_add]⟩

/-! ## Written files -/

/-- A line that is to be written: nothing in particular, or a pattern with white space around. -/
inductive Line where
  | silent (text : List Char)
  | pattern (before : List Char) (p : WordPattern) (after : List Char)

namespace Line

/-- The line as it is written, without a line feed. -/
def toChars : Line → List Char
  | silent text => text
  | pattern before p after =>
    before ++ (p.name ++ (':' :: ' ' :: '/' :: (p.source ++ ('/' :: ';' :: after))))

/-- What the line says. -/
def pattern? : Line → Option WordPattern
  | silent _ => none
  | pattern _ p _ => some p

/-- What may be written on a line: no line feed, and a name and a text that is a pattern. -/
def Fits (compile : PatternCompiler) : Line → Prop
  | silent text => Silent text ∧ '\n' ∉ text
  | pattern before p after => Blank before ∧ Blank after ∧ isName p.name = true ∧
    compile p.source = some p.isMatch ∧ '\n' ∉ before ++ (p.source ++ after)

variable {l : Line}

theorem Fits.says (h : l.Fits compile) : Says compile l.toChars l.pattern? := by
  cases l with
  | silent text => exact .nothing h.1
  | pattern before p after =>
      obtain ⟨hbefore, hafter, hname, hpattern, -⟩ := h
      exact .pattern ⟨hname, before, [], [' '], [], after, hbefore, blank_nil, rfl,
        blank_nil, hafter, rfl⟩ hpattern

theorem Fits.newline_not_mem (h : l.Fits compile) : '\n' ∉ l.toChars := by
  cases l with
  | silent text => exact h.2
  | pattern before p after =>
      obtain ⟨-, -, hname, -, hfeed⟩ := h
      have hname' : '\n' ∉ p.name := fun hmem =>
        absurd (isNameChar_of_mem hname hmem) (by decide)
      simpa [toChars, hname'] using hfeed

end Line

/-- The text of a file with these lines. -/
def fileText (lines : List Line) : List Char := ['\n'].intercalate (lines.map Line.toChars)

/-- The line feed behind a line makes no difference. -/
theorem Says.append_newline (h : Says compile line found) :
    Says compile (line ++ ['\n']) found := by
  have hspace : Blank ['\n'] := rfl
  cases h with
  | nothing h =>
      rcases h with h | ⟨a, comment, ha, rfl⟩
      · exact .nothing (.inl (blank_append.mpr ⟨h, hspace⟩))
      · exact .nothing (.inr ⟨a, comment ++ ['\n'], ha, by simp⟩)
  | pattern h hpattern =>
      obtain ⟨hname, a, b, c, d, e, ha, hb, hc, hd, he, rfl⟩ := h
      exact .pattern ⟨hname, a, b, c, d, e ++ ['\n'], ha, hb, hc, hd,
        blank_append.mpr ⟨he, hspace⟩, by simp⟩ hpattern

theorem filterMap_cons_eq {lines : List Line} {founds : List (Option WordPattern)} (l : Line)
    (h : lines.filterMap Line.pattern? = founds.reduceOption) :
    (l :: lines).filterMap Line.pattern? = (l.pattern? :: founds).reduceOption := by
  cases l with
  | silent text => exact h
  | pattern before p after => exact congrArg (p :: ·) h

/-- Every line says what it was written for. -/
theorem says_lines {lines : List Line} (h : ∀ l ∈ lines, l.Fits compile) :
    ∃ founds, List.Forall₂ (Says compile) (linesOf (fileText lines)) founds ∧
      lines.filterMap Line.pattern? = founds.reduceOption := by
  induction lines with
  | nil => exact ⟨[], .nil, rfl⟩
  | cons l lines ih =>
      obtain ⟨hl, hlines⟩ := List.forall_mem_cons.mp h
      cases lines with
      | nil =>
          have htext : fileText [l] = l.toChars := List.intercalate_singleton
          rw [htext]
          by_cases hnone : l.toChars = []
          · -- Behind the last line feed there is no line, and a pattern would have been one.
            rw [hnone]
            cases l with
            | silent text => exact ⟨[], .nil, rfl⟩
            | pattern before p after => simp [Line.toChars] at hnone
          · rw [linesOf_of_not_mem hnone hl.newline_not_mem]
            exact ⟨[l.pattern?], .cons hl.says .nil, filterMap_cons_eq l rfl⟩
      | cons l' lines =>
          obtain ⟨founds, hfounds, hpatterns⟩ := ih hlines
          have htext : fileText (l :: l' :: lines) =
              l.toChars ++ '\n' :: fileText (l' :: lines) := by
            simp [fileText, List.intercalate_cons_cons]
          rw [htext, linesOf_append hl.newline_not_mem]
          exact ⟨l.pattern? :: founds, .cons hl.says.append_newline hfounds,
            filterMap_cons_eq l hpatterns⟩

/-! ## Finding a pattern -/

theorem classify_eq_some_iff {word : List Char} {name : String} :
    classify ps word = some name ↔ ∃ before p after, ps = before ++ p :: after ∧
      (∀ q ∈ before, q.isMatch word = false) ∧ p.isMatch word = true ∧
        name = String.ofList p.name := by
  rw [classify, Option.map_eq_some_iff]
  simp only [List.find?_eq_some_iff_append, Bool.not_eq_eq_eq_not, Bool.not_true]
  constructor
  · rintro ⟨p, ⟨hmatch, before, after, rfl, hbefore⟩, rfl⟩
    exact ⟨before, p, after, rfl, hbefore, hmatch, rfl⟩
  · rintro ⟨before, p, after, rfl, hbefore, hmatch, rfl⟩
    exact ⟨p, ⟨hmatch, before, after, rfl, hbefore⟩, rfl⟩

theorem classify_eq_none_iff {word : List Char} :
    classify ps word = none ↔ ∀ p ∈ ps, p.isMatch word = false := by
  rw [classify, Option.map_eq_none_iff, List.find?_eq_none]
  simp only [Bool.not_eq_true]

/-- A text is a file of patterns just if each of its lines that is not silent writes a name and a
text that is a pattern, and it holds these patterns in order.  In particular, what is written line
by line is read back, whatever stands between the slashes, and the first pattern that matches a
word gives it its name. -/
theorem parse_written (compile : PatternCompiler) :
    (∀ text lines, linesOf text = lines ↔ HasLines text lines) ∧
    (∀ text, (∃ ps, parse compile text = .ok ps) ↔
      ∀ line ∈ linesOf text.toList, ¬Silent line → ∃ name source isMatch,
        Writes line name source ∧ compile source = some isMatch) ∧
    (∀ text ps, parse compile text = .ok ps ↔ ∃ founds,
      List.Forall₂ (Says compile) (linesOf text.toList) founds ∧ ps = founds.reduceOption) ∧
    (∀ lines : List Line, (∀ l ∈ lines, l.Fits compile) →
      parse compile (String.ofList (fileText lines)) = .ok (lines.filterMap Line.pattern?)) ∧
    ∀ ps word,
      (∀ name, classify ps word = some name ↔ ∃ before p after, ps = before ++ p :: after ∧
        (∀ q ∈ before, q.isMatch word = false) ∧ p.isMatch word = true ∧
          name = String.ofList p.name) ∧
      (classify ps word = none ↔ ∀ p ∈ ps, p.isMatch word = false) := by
  refine ⟨fun text lines => linesOf_eq_iff, fun text => ?_, fun text ps => ofLines_eq_ok_iff,
    fun lines h => ?_, fun ps word => ⟨fun name => classify_eq_some_iff, classify_eq_none_iff⟩⟩
  · simp only [← exists_says_iff, parse, ofLines_eq_ok_iff]
    rw [← exists_founds_iff]
    exact ⟨fun ⟨_, founds, h, _⟩ => ⟨founds, h⟩, fun ⟨founds, h⟩ => ⟨_, founds, h, rfl⟩⟩
  · obtain ⟨founds, hfounds, hpatterns⟩ := says_lines h
    rw [parse, String.toList_ofList]
    exact ofLines_eq_ok_iff.mpr ⟨founds, hfounds, hpatterns⟩

/-- A pattern text that has all the delimiters of a line in it. -/
def delimiters : WordPattern :=
  ⟨['A', '1'], ['/', ';', ':', '%', ' ', '"', '/'],
    (Pattern.literal ['/', ';', ':', '%', ' ', '"', '/']).isMatch⟩

/-- The pattern with no text at all. -/
def anything : WordPattern := ⟨['B'], [], Pattern.empty.isMatch⟩

theorem compile_delimiters : Pattern.compile delimiters.source = some delimiters.isMatch := by
  have hread : Pattern.readGroup (delimiters.source.length + 1) .none .nothing
      delimiters.source = some (⟨.literal delimiters.source, 1, []⟩, []) := by
    simp [delimiters, Pattern.readGroup, Pattern.Atom.toPattern, Pattern.Flags.none]
    rfl
  have hchars : Pattern.ofChars? delimiters.source = some (.literal delimiters.source) := by
    rw [Pattern.ofChars?, hread]
    exact if_pos (by decide)
  rw [Pattern.compile, hchars]
  rfl

theorem compile_anything : Pattern.compile anything.source = some anything.isMatch := by
  have hread : Pattern.readGroup (anything.source.length + 1) .none .nothing anything.source =
      some (.flat .empty, []) := by
    simp [anything, Pattern.readGroup]
    rfl
  have hchars : Pattern.ofChars? anything.source = some .empty := by
    rw [Pattern.ofChars?, hread]
    exact if_pos (by decide)
  rw [Pattern.compile, hchars]
  rfl

/-- A comment that looks like a pattern, and a blank line between two patterns. -/
theorem parse_written_delimiters :
    parse Pattern.compile "% A1: /b/;\n A1: //;:% \"//;\t\n\nB: //;" = .ok [delimiters, anything] ∧
    classify [delimiters, anything] ['x'] = some "B" := by
  obtain ⟨-, -, -, hwritten, hclassify⟩ := parse_written Pattern.compile
  constructor
  · have htext : "% A1: /b/;\n A1: //;:% \"//;\t\n\nB: //;" =
        String.ofList (fileText [.silent "% A1: /b/;".toList, .pattern [' '] delimiters ['\t'],
          .silent [], .pattern [] anything []]) := by decide
    rw [htext]
    refine hwritten _ ?_
    simp only [List.forall_mem_cons, List.not_mem_nil, false_imp_iff, implies_true, and_true]
    exact ⟨⟨.inr ⟨[], " A1: /b/;".toList, rfl, by decide⟩, by decide⟩,
      ⟨rfl, rfl, by decide, compile_delimiters, by decide⟩, ⟨.inl rfl, by decide⟩,
      rfl, rfl, by decide, compile_anything, by decide⟩
  · refine ((hclassify _ _).1 "B").mpr
      ⟨[delimiters], anything, [], rfl, ?_, by decide, by decide⟩
    exact List.forall_mem_singleton.mpr (by decide)

end LinkParsing.Lexicon.WordPattern
