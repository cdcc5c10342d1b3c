/-!
# Case mappings as runs

A mapping of letters is given by runs: from a first to a last code point, every one
or every second, the images keep the distance that the first one has.
-/

namespace LinkParsing.Text

/-- Runs of a mapping: first and last code point, step, and image of the first. -/
structure CaseRuns where
  runs : Array (Nat × Nat × Nat × Nat)

namespace CaseRuns

/-- The image of a code point, if one of the runs has it. -/
def image? (t : CaseRuns) (code : Nat) : Option Nat :=
  (t.runs.find? fun (first, last, step, _) =>
    first ≤ code && code ≤ last && (code - first) % step == 0).map
      fun (first, _, _, target) => target + (code - first)

/-- The image of a character; a character in no run is its own image. -/
def image (t : CaseRuns) (c : Char) : Char :=
  match t.image? c.toNat with
  | some code => Char.ofNat code
  | none => c

end CaseRuns

end LinkParsing.Text
