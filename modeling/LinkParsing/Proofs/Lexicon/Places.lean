import LinkParsing.Lexicon.Entry
import LinkParsing.Proofs.Lexicon.Ignored
import LinkParsing.Proofs.Lexicon.Lexemes

/-!
# Where reading stops

A reader that starts between two characters of a text gets to places between two characters only,
and so does the record of failures (`Stays`).  Every way of putting readers together keeps to this.
No text is refused in spite of its shape either, since what is split off as a connector is one
(`stays_connector`).

So a text that is no lexicon is reported at a point between two of its characters
(`readEntries_eq_error`).
-/

namespace LinkParsing

variable {t u rest text : List Char}

/-! ## Points of a text -/

/-- An offset lies between two characters of a text, or at one of its ends. -/
def IsBoundary (text : List Char) (o : Nat) : Prop := ∃ t rest, text = t ++ rest ∧ o = byteLength t

theorem IsBoundary.le {o : Nat} (h : IsBoundary text o) : o ≤ byteLength text := by
  obtain ⟨t, rest, rfl, rfl⟩ := h
  rw [byteLength_append]
  exact Nat.le_add_right _ _

/-- A stretch lies within a text, and no character is cut in two at its ends. -/
structure Span.Within (s : Span) (text : List Char) : Prop where
  start : IsBoundary text s.offset
  stop : IsBoundary text (s.offset + s.length)
  le : s.offset + s.length ≤ byteLength text

theorem within_append (t u rest : List Char) :
    Span.Within ⟨byteLength t, byteLength u⟩ (t ++ (u ++ rest)) := by
  have hstop : IsBoundary (t ++ (u ++ rest)) (byteLength t + byteLength u) :=
    ⟨t ++ u, rest, (List.append_assoc t u rest).symm, (byteLength_append t u).symm⟩
  exact ⟨⟨t, u ++ rest, rfl, rfl⟩, hstop, hstop.le⟩

namespace Lexicon

open Reader

variable {α β : Type} {p q : Reader α} {f : α → Reader β} {a b : Place}

/-- A place that is got to by going over a start of the text. -/
def Place.Of (a : Place) (text : List Char) : Prop := ∃ t, Consumed ⟨text, 0⟩ t a

theorem Place.Of.next (h : a.Of text) (hab : Consumed a t b) : b.Of text := by
  obtain ⟨before, hbefore⟩ := h
  exact ⟨before ++ t, hbefore.trans hab⟩

theorem Place.Of.isBoundary (h : a.Of text) : IsBoundary text a.offset := by
  obtain ⟨before, htext, hoffset⟩ := h
  exact ⟨before, a.rest, htext, hoffset.trans (Nat.zero_add _)⟩

/-! ## Readers that stay between characters -/

/-- Reading has ended at a place of the text, or without a match, and the furthest failure was at a
place of the text. -/
def EndsIn {α : Type} (text : List Char) : Step α × Furthest → Prop
  | (.matched _ b, furthest) => b.Of text ∧ IsBoundary text furthest.offset
  | (.unmatched, furthest) => IsBoundary text furthest.offset
  | (.refused _, _) => False

/-- From a place of the text a reader gets to places of the text only. -/
def Stays {α : Type} (text : List Char) (p : Reader α) : Prop :=
  ∀ a furthest, a.Of text → IsBoundary text furthest.offset → EndsIn text (p a furthest)

theorem stays_pure (text : List Char) (u : α) : Stays text (pure u) :=
  fun _ _ ha hfurthest => ⟨ha, hfurthest⟩

theorem stays_fail (text : List Char) : Stays text (fail : Reader α) :=
  fun _ _ _ hfurthest => hfurthest

theorem stays_here (text : List Char) : Stays text here :=
  fun _ _ ha hfurthest => ⟨ha, hfurthest⟩

theorem stays_skip (text : List Char) : Stays text skip := by
  intro a furthest ha hfurthest
  obtain ⟨g, hg, -⟩ := skip_inv ⟨furthest, furthest, rfl⟩
  exact ⟨ha.next hg, hfurthest⟩

theorem stays_endOfText (text : List Char) : Stays text endOfText := by
  intro a furthest ha hfurthest
  unfold endOfText
  split
  next => exact ⟨ha, hfurthest⟩
  next => exact hfurthest

theorem stays_symbol (text : List Char) (c : Char) : Stays text (symbol c) := by
  intro a furthest ha hfurthest
  unfold symbol
  split
  next d rest hrest =>
    split
    next hd => exact ⟨ha.next ⟨by rw [hrest, hd]; rfl, rfl⟩, hfurthest⟩
    next => exact hfurthest
  next => exact hfurthest

/-- What a scanner splits off a text is the start of it. -/
def Splits (scan : List Char → Option (List Char × List Char)) : Prop :=
  ∀ text t rest, scan text = some (t, rest) → text = t ++ rest

theorem splits_scanMacro : Splits scanMacro :=
  fun _ _ _ h => (scanMacro_eq_some_iff.mp h).2

theorem splits_scanQuoted : Splits scanQuoted :=
  fun _ _ _ h => (scanQuoted_eq_some_iff.mp h).2

theorem splits_scanBare : Splits scanBare :=
  fun _ _ _ h => (scanBare_eq_some_iff.mp h).2.2.2

theorem stays_lexeme {scan : List Char → Option (List Char × List Char)} (hscan : Splits scan)
    (text : List Char) : Stays text (lexeme scan) := by
  intro a furthest ha hfurthest
  unfold lexeme
  split
  next t rest hrest => exact ⟨ha.next ⟨hscan _ _ _ hrest, rfl⟩, hfurthest⟩
  next => exact hfurthest

/-! ## Readers put together -/

theorem Stays.bind (hp : Stays text p) (hf : ∀ u, Stays text (f u)) : Stays text (p >>= f) := by
  intro a furthest ha hfurthest
  have hend := hp a furthest ha hfurthest
  rw [bind_apply]
  rcases hstep : p a furthest with ⟨step, between⟩
  rw [hstep] at hend
  cases step with
  | matched u b => exact hf u b between hend.1 hend.2
  | unmatched => exact hend
  | refused e => exact hend

theorem Stays.orElse (hp : Stays text p) (hq : Stays text q) : Stays text (orElse p q) := by
  intro a furthest ha hfurthest
  have hend := hp a furthest ha hfurthest
  unfold Reader.orElse
  rcases hstep : p a furthest with ⟨step, between⟩
  rw [hstep] at hend
  cases step with
  | matched u b => exact hend
  | unmatched => exact hq a between ha hend
  | refused e => exact hend

/-- A failure is recorded where the construct began, or the record stays where it was. -/
theorem Furthest.note_offset (furthest : Furthest) (construct : Construct) (o before : Nat) :
    (furthest.note construct o before).offset = furthest.offset ∨
      (furthest.note construct o before).offset = o := by
  unfold note
  split
  next => exact .inl rfl
  next =>
    split
    next => exact .inr rfl
    next =>
      split
      next => exact .inr rfl
      next => exact .inl rfl

theorem Stays.named (hp : Stays text p) (construct : Construct) :
    Stays text (named construct p) := by
  intro a furthest ha hfurthest
  have hend := hp a furthest ha hfurthest
  unfold Reader.named
  rcases hstep : p a furthest with ⟨step, between⟩
  rw [hstep] at hend
  cases step with
  | matched u b => exact hend
  | unmatched =>
      change IsBoundary text (between.note _ _ _).offset
      rcases between.note_offset construct a.offset (furthest.countAt a.offset) with hsame | hthere
      · rw [hsame]
        exact hend
      · rw [hthere]
        exact ha.isBoundary
  | refused e => exact hend

theorem stays_symbols (text cs : List Char) : Stays text (symbols cs) := by
  induction cs with
  | nil => exact stays_pure text ()
  | cons c cs ih => exact (stays_symbol text c).bind fun _ => ih

theorem Stays.repeatWithin (hp : Stays text p) (n : Nat) : Stays text (repeatWithin p n) := by
  induction n with
  | zero => exact stays_pure text []
  | succ n ih =>
      intro a furthest ha hfurthest
      have hend := hp a furthest ha hfurthest
      rw [repeatWithin_succ_apply]
      rcases hstep : p a furthest with ⟨step, between⟩
      rw [hstep] at hend
      cases step with
      | unmatched => exact ⟨ha, hend⟩
      | refused e => exact hend
      | matched u b =>
          have hlast := ih b between hend.1 hend.2
          dsimp only
          rcases hrest : Reader.repeatWithin p n b between with ⟨step, last⟩
          rw [hrest] at hlast
          cases step with
          | matched others c => exact hlast
          | unmatched => exact hlast
          | refused e => exact hlast

theorem Stays.repeated (hp : Stays text p) : Stays text (repeated p) :=
  fun a furthest => hp.repeatWithin (a.rest.length + 1) a furthest

theorem Stays.chain (hp : Stays text p) {joint : Reader Unit} (hjoint : Stays text joint) :
    Stays text (chain p joint) :=
  hp.bind fun _ => Stays.bind
    (.repeated ((stays_skip text).bind fun _ => hjoint.bind fun _ => (stays_skip text).bind
      fun _ => hp)) fun _ => stays_pure text _

theorem Stays.many (hp : Stays text p) : Stays text (many p) := by
  have hfurther : Stays text (Reader.repeated (do skip; p)) :=
    .repeated ((stays_skip text).bind fun _ => hp)
  exact .orElse (hp.bind fun _ => hfurther.bind fun _ => stays_pure text _) (stays_pure text [])

theorem Stays.not_refused (hp : Stays text p) {e : SyntaxError} {furthest : Furthest} :
    p ⟨text, 0⟩ .start ≠ (.refused e, furthest) := by
  intro h
  have hend := hp ⟨text, 0⟩ .start ⟨[], .nil _⟩ ⟨[], text, rfl, rfl⟩
  rw [h] at hend
  exact hend

theorem Stays.boundary_of_unmatched (hp : Stays text p) {furthest : Furthest}
    (h : p ⟨text, 0⟩ .start = (.unmatched, furthest)) : IsBoundary text furthest.offset := by
  have hend := hp ⟨text, 0⟩ .start ⟨[], .nil _⟩ ⟨[], text, rfl, rfl⟩
  rw [h] at hend
  exact hend

/-! ## Formulas -/

/-- What has the shape of a connector is one. -/
theorem stays_connector (text : List Char) : Stays text connector := by
  refine Stays.named (fun a furthest ha hfurthest => ?_) _
  simp only [bind_apply, here, lexeme]
  cases hscan : scanConnector a.rest with
  | none => exact hfurthest
  | some split =>
      obtain ⟨t, rest⟩ := split
      obtain ⟨c, hc, ht, htext⟩ := scanConnector_eq_some_iff.mp hscan
      simp only [Connector.ofChars?_eq_some_iff.mpr ⟨hc, ht⟩]
      exact ⟨ha.next ⟨htext, rfl⟩, hfurthest⟩

theorem stays_emptyFormula (text : List Char) : Stays text emptyFormula :=
  .named ((stays_symbol text '(').bind fun _ => (stays_skip text).bind fun _ =>
    (stays_symbol text ')').bind fun _ => stays_pure text _) _

theorem stays_macroReference (text : List Char) : Stays text macroReference :=
  .named ((stays_lexeme splits_scanMacro text).bind fun _ => stays_pure text _) _

section Formulas

variable {inner : Reader Formula} (hinner : Stays text inner)
include hinner

theorem stays_enclosed (opening closing : Char) : Stays text (enclosed opening closing inner) :=
  (stays_symbol text opening).bind fun _ => (stays_skip text).bind fun _ => hinner.bind fun _ =>
    (stays_skip text).bind fun _ => (stays_symbol text closing).bind fun _ => stays_pure text _

theorem stays_unit : Stays text (unit inner) := by
  have hbracketed (opening closing : Char) (wrap : Formula → Formula) :
      Stays text (do return wrap (← enclosed opening closing inner)) :=
    (stays_enclosed hinner opening closing).bind fun _ => stays_pure text _
  exact .orElse (stays_connector text) <| .orElse (stays_emptyFormula text) <|
    .orElse ((stays_enclosed hinner '(' ')').named .group) <|
    .orElse ((hbracketed '{' '}' .optional).named .optional) <|
    .orElse ((hbracketed '[' ']' .cost).named .cost) (stays_macroReference text)

theorem stays_disjunction : Stays text (disjunction inner) := by
  have hconjunction : Stays text (conjunction inner) :=
    .named (((stays_unit hinner).chain (stays_symbol text '&')).bind fun _ => stays_pure text _) _
  exact .named ((hconjunction.chain (stays_symbols text ['o', 'r'])).bind fun _ =>
    stays_pure text _) _

end Formulas

theorem stays_formulaWithin (text : List Char) (n : Nat) : Stays text (formulaWithin n) := by
  induction n with
  | zero => exact stays_fail text
  | succ n ih => exact stays_disjunction ih

theorem stays_formula (text : List Char) : Stays text formula :=
  fun a furthest => stays_formulaWithin text (a.rest.length + 1) a furthest

/-! ## Entries -/

theorem stays_located {scan : List Char → Option (List Char × List Char)} (hscan : Splits scan)
    (inside : List Char → List Char) (text : List Char) :
    Stays text (word.located scan inside) :=
  (stays_here text).bind fun _ => (stays_lexeme hscan text).bind fun _ => stays_pure text _

theorem stays_word (text : List Char) : Stays text word :=
  .orElse ((stays_located splits_scanMacro id text).named .macroName) <|
    .orElse ((stays_located splits_scanQuoted unquote text).named .quotedWord)
      ((stays_located splits_scanBare id text).named .bareWord)

theorem stays_entry (text : List Char) : Stays text entry := by
  have hwords : Stays text wordList :=
    ((stays_word text).chain (stays_pure text ())).named .wordList
  exact .named ((stays_here text).bind fun _ => hwords.bind fun _ => (stays_skip text).bind
    fun _ => (stays_symbol text ':').bind fun _ => (stays_skip text).bind fun _ =>
    (stays_formula text).bind fun _ => (stays_skip text).bind fun _ =>
    (stays_symbol text ';').bind fun _ => (stays_here text).bind fun _ => stays_pure text _) _

theorem stays_file (text : List Char) : Stays text file :=
  .named ((stays_skip text).bind fun _ => (stays_entry text).many.bind fun _ =>
    (stays_skip text).bind fun _ => ((stays_endOfText text).named .endOfInput).bind fun _ =>
    stays_pure text _) _

/-- A text that is no lexicon is reported at a point of it, with what was expected there. -/
theorem readEntries_eq_error {text : String} {e : SyntaxError} (h : readEntries text = .error e) :
    (∃ constructs, e.fault = .expected constructs) ∧ e.span.length = 0 ∧
      IsBoundary text.toList e.span.offset := by
  unfold readEntries entriesOfChars at h
  rcases hstep : file ⟨text.toList, 0⟩ .start with ⟨step, furthest⟩
  rw [hstep] at h
  cases step with
  | matched entries b => cases h
  | refused e => exact absurd hstep (stays_file text.toList).not_refused
  | unmatched =>
      cases h
      exact ⟨⟨furthest.expected, rfl⟩, rfl, (stays_file text.toList).boundary_of_unmatched hstep⟩

end Lexicon

end LinkParsing
