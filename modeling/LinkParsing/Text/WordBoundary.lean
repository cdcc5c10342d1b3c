import LinkParsing.Text.WordClassTable

/-!
# Word boundaries

A text is cut into segments: runs of letters and digits, with the punctuation that
may stand inside words and numbers, runs of blanks, flags, and single marks.
Format characters, marks of other letters and joiners belong to what they follow.

A segment is found by scanning forward from its first character.  Some characters
belong to the segment only if the right character follows, such as the stop in
`e.g`; until that is known the scan remembers where the segment would end without
them.
-/

namespace LinkParsing.Text

/-- The part that a character plays in cutting a text into words. -/
inductive WordClass where
  | carriageReturn
  | lineFeed
  /-- Line and paragraph separators of other kinds. -/
  | newline
  | letter
  | hebrew
  | digit
  | katakana
  /-- Punctuation that joins words. -/
  | connector
  /-- A half of a flag. -/
  | regional
  /-- Punctuation inside words. -/
  | midLetter
  /-- Punctuation inside numbers. -/
  | midNumber
  /-- Punctuation inside words and numbers. -/
  | midBoth
  | singleQuote
  | doubleQuote
  | space
  /-- A mark that belongs to the character before it. -/
  | extender
  | format
  /-- The joiner of pictographs. -/
  | joiner
  | other
  deriving DecidableEq, Repr

namespace WordClass

/-- The class of a character. -/
def of (c : Char) : WordClass :=
  let n := c.toNat
  if n == 0x0D then carriageReturn
  else if n == 0x0A then lineFeed
  else if n == 0x0B || n == 0x0C || n == 0x85 || n == 0x2028 || n == 0x2029 then newline
  else if n == 0x27 then singleQuote
  else if n == 0x22 then doubleQuote
  else if n == 0x200D then joiner
  else if 0x1F1E6 ≤ n && n ≤ 0x1F1FF then regional
  else if wordSpaces.contains c then space
  else if innerStops.contains c then midBoth
  else if innerWordMarks.contains c then midLetter
  else if innerNumberMarks.contains c then midNumber
  else if connectorMarks.contains c then connector
  else if wordLetters.contains c then letter
  else if wordDigits.contains c then digit
  else if wordExtenders.contains c then extender
  else if katakanaSigns.contains c then katakana
  else if hebrewLetters.contains c then hebrew
  else if formatCharacters.contains c then format
  else other

/-- The classes that belong to whatever stands before them. -/
def attaches : WordClass → Bool
  | extender | format | joiner => true
  | _ => false

end WordClass

/-- What a segment has been recognised as so far. -/
inductive SegmentState where
  | letter
  | hebrew
  | digit
  | katakana
  | connector
  /-- One half of a flag. -/
  | halfFlag
  | flag
  | joiner
  | pictograph
  | space
  /-- A single mark with what attaches to it. -/
  | mark
  /-- A single quote behind a Hebrew letter, to which it belongs in any case. -/
  | hebrewQuote
  /-- Punctuation behind a letter: a letter has to follow. -/
  | awaitLetter
  /-- A double quote behind a Hebrew letter: such a letter has to follow. -/
  | awaitHebrew
  /-- Punctuation behind a digit: a digit has to follow. -/
  | awaitDigit
  deriving DecidableEq, Repr

namespace SegmentState

/-- The last character belongs to the segment only if the right one follows. -/
def isTentative : SegmentState → Bool
  | awaitLetter | awaitHebrew | awaitDigit => true
  | _ => false

/-- The state that the first character of a segment leads to.  Characters that can
never be continued, but by what attaches to them, have none. -/
def ofFirst? : WordClass → Option SegmentState
  | .letter => some letter
  | .hebrew => some hebrew
  | .digit => some digit
  | .katakana => some katakana
  | .connector => some connector
  | .regional => some halfFlag
  | .joiner => some joiner
  | .space => some space
  | _ => none

/-- The state that the next character leads to, if it may belong to the segment.
`plain` says that nothing has attached itself to the segment yet. -/
def next? (plain : Bool) : SegmentState → WordClass → Option SegmentState
  | .letter, .letter | .hebrew, .letter => some letter
  | .letter, .hebrew | .hebrew, .hebrew => some hebrew
  | .letter, .digit | .hebrew, .digit => some digit
  | .letter, .connector | .hebrew, .connector => some connector
  | .hebrew, .doubleQuote => some awaitHebrew
  | .hebrew, .singleQuote => some hebrewQuote
  | .letter, .singleQuote => some awaitLetter
  | .letter, .midLetter | .hebrew, .midLetter => some awaitLetter
  | .letter, .midBoth | .hebrew, .midBoth => some awaitLetter
  | .digit, .digit => some digit
  | .digit, .letter => some letter
  | .digit, .hebrew => some hebrew
  | .digit, .connector => some connector
  | .digit, .midNumber | .digit, .midBoth | .digit, .singleQuote => some awaitDigit
  | .katakana, .katakana => some katakana
  | .katakana, .connector => some connector
  | .connector, .connector => some connector
  | .connector, .letter => some letter
  | .connector, .hebrew => some hebrew
  | .connector, .digit => some digit
  | .connector, .katakana => some katakana
  | .halfFlag, .regional => some flag
  | .space, .space => if plain then some space else none
  | .hebrewQuote, .letter | .awaitLetter, .letter => some letter
  | .hebrewQuote, .hebrew | .awaitLetter, .hebrew | .awaitHebrew, .hebrew => some hebrew
  | .awaitDigit, .digit => some digit
  | _, _ => none

end SegmentState

/-- The number of characters of a segment of which `taken` have been scanned.
`sure` is the length without tentative characters, `joined` says that the last
character was a joiner, and `plain` that nothing has attached itself yet. -/
def continueSegment (state : SegmentState) (taken sure : Nat) (joined plain : Bool) :
    List Char → Nat
  | [] => if state.isTentative then sure else taken
  | c :: rest =>
    let kind := WordClass.of c
    if kind.attaches then
      continueSegment state (taken + 1) sure (kind == .joiner) false rest
    else if joined && pictographs.contains c then
      continueSegment .pictograph (taken + 1) sure false plain rest
    else
      match state.next? plain kind with
      | some next =>
        continueSegment next (taken + 1) (if next.isTentative then taken else sure) false plain rest
      | none => if state.isTentative then sure else taken

/-- The number of characters of the first segment of a text. -/
def segmentLength : List Char → Nat
  | [] => 0
  | c :: rest =>
    match WordClass.of c with
    | .carriageReturn => if rest.head? = some '\n' then 2 else 1
    | .lineFeed | .newline => 1
    | kind =>
      match SegmentState.ofFirst? kind with
      | some state => continueSegment state 1 0 (kind == .joiner) true rest
      | none =>
        match rest with
        | d :: _ =>
          if (WordClass.of d).attaches then continueSegment .mark 1 0 false false rest else 1
        | [] => 1

/-- At most `count` segments from the start of a text. -/
def segmentsWithin : Nat → List Char → List (List Char)
  | 0, _ => []
  | _, [] => []
  | count + 1, text =>
    let length := max 1 (segmentLength text)
    text.take length :: segmentsWithin count (text.drop length)

/-- The segments of a text.  None is empty, so there are no more of them than
characters. -/
def segments (text : List Char) : List (List Char) := segmentsWithin text.length text

end LinkParsing.Text
