import LinkParsing.Text.CaseTable

/-!
# Small letters

Every capital has its small letter, with two exceptions to one for one: the dotted
capital I becomes an i with a dot above, and the small letter of a sigma depends
on whether a letter precedes it and none follows.
-/

namespace LinkParsing.Text

/-- The first character that counts is a letter with case. -/
def startsCased (text : List Char) : Bool :=
  match text.dropWhile caseIgnorable.contains with
  | c :: _ => cased.contains c
  | [] => false

/-- The small letters of one character; `before` runs backwards from it, `after`
forwards. -/
def lowercaseOf (before : List Char) (c : Char) (after : List Char) : List Char :=
  if c = 'Σ' then [if startsCased before && !startsCased after then 'ς' else 'σ']
  else if c = 'İ' then ['i', '\u0307']
  else [lowercaseRuns.image c]

/-- The text in small letters; `before` is what precedes it, backwards. -/
def lowercaseAfter (before : List Char) : List Char → List Char
  | [] => []
  | c :: rest => lowercaseOf before c rest ++ lowercaseAfter (c :: before) rest

/-- A text in small letters. -/
def lowercase (text : List Char) : List Char := lowercaseAfter [] text

end LinkParsing.Text
