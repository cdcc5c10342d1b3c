import LinkParsing.Proofs.Sentence.Tokens
import LinkParsing.Proofs.Text.Trimming
import LinkParsing.Session.Basic
import Mathlib.Data.List.TakeWhile

/-!
# Blank sentences

A session does not trouble its engine with a sentence that is blank once the white space around it
is taken off.  Just these sentences have no tokens (`isBlank_iff_tokens`), and of a sentence without
tokens the engine of this library makes what the session makes of it itself.  So it is all the same
whether blank sentences are left to that engine or not (`parse_eq_parseByEngine`).
-/

namespace LinkParsing

namespace Token

variable {segments : List (List Char)} {last : Token} {o : Nat}

/-- A token that has been begun is not lost. -/
theorem ofSegments_some_ne_nil : ofSegments (some last) o segments ≠ [] := by
  induction segments generalizing last o with
  | nil => exact List.cons_ne_nil _ _
  | cons s segments ih =>
      rw [ofSegments]
      split
      next => exact ih
      next =>
        split
        next => exact ih
        next => exact List.cons_ne_nil _ _

/-- There are no tokens just if all segments are white space. -/
theorem ofSegments_eq_nil_iff :
    ofSegments none o segments = [] ↔ ∀ s ∈ segments, s.all Text.isSpace = true := by
  induction segments generalizing o with
  | nil => exact ⟨fun _ => nofun, fun _ => rfl⟩
  | cons s segments ih =>
      rw [List.forall_mem_cons, ofSegments]
      split
      next hblank => rw [ih, and_iff_right hblank]
      next hblank => exact ⟨fun h => absurd h ofSegments_some_ne_nil, fun h => absurd h.1 hblank⟩

end Token

namespace LiveSession

open Engine

variable {sentence : String}

/-- However a sentence is cut, it has no tokens just if it is blank. -/
theorem isBlank_iff_tokens {segments : List (List Char)}
    (hcuts : Text.Cuts segments sentence.toList) :
    isBlank sentence = true ↔ Token.ofSegments none 0 segments = [] := by
  rw [isBlank, List.isEmpty_iff, Text.trim_eq_nil_iff, Token.ofSegments_eq_nil_iff, Text.Blank,
    ← hcuts.1, List.all_flatten, List.all_eq_true]

theorem isBlank_iff_tokenize : isBlank sentence = true ↔ Token.tokenize sentence = [] :=
  isBlank_iff_tokens (Text.cuts_segments sentence.toList)

/-- Parse a sentence with the engine, be it blank or not, and keep its linkages in place of those
of the last one. -/
def parseByEngine (s : LiveSession) (sentence : String) :
    Except Error ParseSummary × LiveSession :=
  match s.engine.parse s.dictionary sentence s.options with
  | .error e => (.error e, s)
  | .ok outcome =>
    (.ok (outcome.toSet sentence).summary, { s with linkages := some (outcome.toSet sentence) })

/-- Of a blank sentence the engine of this library makes nothing, whatever the clock and the words
that the system draws. -/
theorem parseTimed_of_isBlank (hblank : isBlank sentence = true) (clock : Nat → Search.Clock)
    (entropy : Sampling.Generator) (dict : Dictionary) (options : Options) :
    parseTimed clock entropy dict sentence options = .ok .nothing := by
  rw [parseTimed, isBlank_iff_tokenize.mp hblank]

/-- What a session with the engine of this library keeps of a sentence is what the engine makes
of it. -/
theorem linkagesOf_eq {s : LiveSession} {clock : Nat → Search.Clock}
    {entropy : Sampling.Generator} (hengine : s.engine.parse = parseTimed clock entropy)
    (sentence : String) :
    s.linkagesOf sentence =
      (s.engine.parse s.dictionary sentence s.options).map (·.toSet sentence) := by
  rw [linkagesOf]
  split
  next hblank =>
    rw [hengine, parseTimed_of_isBlank hblank]
    rfl
  next => rfl

/-- A sentence is blank just if it has no tokens, however it is cut into segments; and a session
with the engine of this library, whatever its dictionary, its options, the clock and the words that
the system draws, makes of every sentence what the engine makes of it: leaving blank sentences out
changes nothing. -/
theorem parse_eq_parseByEngine :
    (∀ (sentence : String) (segments : List (List Char)), Text.Cuts segments sentence.toList →
      (isBlank sentence = true ↔ Token.ofSegments none 0 segments = [])) ∧
    (∀ sentence, isBlank sentence = true ↔ Token.tokenize sentence = []) ∧
    ∀ (s : LiveSession) (clock : Nat → Search.Clock) (entropy : Sampling.Generator),
      s.engine.parse = parseTimed clock entropy →
      ∀ sentence, s.parse sentence = s.parseByEngine sentence := by
  refine ⟨fun _ _ => isBlank_iff_tokens, fun _ => isBlank_iff_tokenize, ?_⟩
  intro s clock entropy hengine sentence
  rw [parse, parseByEngine, linkagesOf_eq hengine]
  cases s.engine.parse s.dictionary sentence s.options with
  | error e => rfl
  | ok outcome => rfl

/-- A dictionary without words. -/
def wordless : Dictionary := ⟨"xx", "<memory>", ∅, [], none, none⟩

/-- A sentence of two blanks, cut between them, in a new session. -/
theorem parse_eq_parseByEngine_blanks :
    Text.Cuts [[' '], ['\t']] " \t".toList ∧ Token.ofSegments none 0 [[' '], ['\t']] = [] ∧
      (create default "xx" wordless).engine.parse = parseTimed (fun _ => .never) default ∧
      (create default "xx" wordless).parse " \t" =
        (create default "xx" wordless).parseByEngine " \t" := by
  obtain ⟨hcut, -, hsession⟩ := parse_eq_parseByEngine
  have hcuts : Text.Cuts [[' '], ['\t']] " \t".toList := by
    unfold Text.Cuts
    decide
  have hblank : isBlank " \t" = true := by decide
  exact ⟨hcuts, (hcut _ _ hcuts).mp hblank, rfl, hsession _ (fun _ => .never) default rfl _⟩

end LiveSession

end LinkParsing
