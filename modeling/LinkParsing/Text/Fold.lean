import LinkParsing.Text.FoldTable

/-!
# Letters regardless of case
-/

namespace LinkParsing.Text

/-- All characters that are the same letter as `c` regardless of case, `c` included.
No letter has more than four forms. -/
def caseVariants (c : Char) : List Char :=
  let second := foldRuns.image c
  let third := foldRuns.image second
  [c, second, third, foldRuns.image third]

end LinkParsing.Text
