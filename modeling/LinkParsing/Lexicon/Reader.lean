import LinkParsing.Lexicon.SyntaxError

/-!
# Readers of lexicon text

A reader looks at the text from a place on and either matches, giving a value and
the place behind it, or does not match.  Alternatives are tried in order and the
first that matches is taken for good.

Beside the place goes a record of the furthest failure.  It never influences what
matches; it only collects what an error message has to say.
-/

namespace LinkParsing.Lexicon

/-- A place in a text: what follows, and how many bytes lie before it. -/
structure Place where
  rest : List Char
  offset : Nat
  deriving DecidableEq, Repr

/-- The place behind some characters and before others. -/
def Place.advance (p : Place) (lexeme rest : List Char) : Place :=
  ⟨rest, p.offset + byteLength lexeme⟩

/-- The furthest place at which constructs failed to match, and which ones. -/
structure Furthest where
  offset : Nat
  expected : List Construct
  deriving DecidableEq, Repr

namespace Furthest

/-- Nothing has failed yet. -/
def start : Furthest := ⟨0, []⟩

/-- How many constructs have failed at a place, as far as the record goes there. -/
def countAt (t : Furthest) (offset : Nat) : Nat :=
  if t.offset = offset then t.expected.length else 0

/-- Record that a construct that began at `offset`, when `before` constructs had
failed there, does not match.  If exactly one part of it failed at that same
place, the part stays as the more telling one; of several the construct itself
takes the place. -/
def note (t : Furthest) (construct : Construct) (offset before : Nat) : Furthest :=
  if t.countAt offset = before + 1 then t
  else if t.offset < offset then ⟨offset, [construct]⟩
  else if t.offset = offset then ⟨offset, t.expected.take before ++ [construct]⟩
  else t

end Furthest

/-- What reading from a place leads to. -/
inductive Step (α : Type) where
  | matched (value : α) (next : Place)
  | unmatched
  /-- The text has the right shape and is refused all the same. -/
  | refused (error : SyntaxError)

/-- A reader of values of a type. -/
def Reader (α : Type) : Type := Place → Furthest → Step α × Furthest

namespace Reader

instance : Monad Reader where
  pure a := fun place furthest => (.matched a place, furthest)
  bind p f := fun place furthest =>
    match p place furthest with
    | (.matched a next, furthest) => f a next furthest
    | (.unmatched, furthest) => (.unmatched, furthest)
    | (.refused e, furthest) => (.refused e, furthest)

/-- The reader that never matches. -/
def fail {α : Type} : Reader α := fun _ furthest => (.unmatched, furthest)

/-- The first reader if it matches, else the second from the same place. -/
def orElse {α : Type} (p q : Reader α) : Reader α := fun place furthest =>
  match p place furthest with
  | (.unmatched, furthest) => q place furthest
  | step => step

/-- A reader of one construct: its failure is recorded under the construct's name. -/
def named {α : Type} (construct : Construct) (p : Reader α) : Reader α :=
  fun place furthest =>
    let before := furthest.countAt place.offset
    match p place furthest with
    | (.unmatched, furthest) => (.unmatched, furthest.note construct place.offset before)
    | step => step

/-- Match the characters that `scan` splits off. -/
def lexeme (scan : List Char → Option (List Char × List Char)) : Reader (List Char) :=
  fun place furthest =>
    match scan place.rest with
    | some (taken, rest) => (.matched taken (place.advance taken rest), furthest)
    | none => (.unmatched, furthest)

/-- Match one given character. -/
def symbol (c : Char) : Reader Unit := fun place furthest =>
  match place.rest with
  | d :: rest => if d = c then (.matched () (place.advance [c] rest), furthest)
    else (.unmatched, furthest)
  | [] => (.unmatched, furthest)

/-- Match one given character after another. -/
def symbols : List Char → Reader Unit
  | [] => pure ()
  | c :: rest => do
    symbol c
    symbols rest

/-- Match the end of the text. -/
def endOfText : Reader Unit := fun place furthest =>
  if place.rest.isEmpty then (.matched () place, furthest) else (.unmatched, furthest)

/-- The place that a reader would start from. -/
def here : Reader Place := fun place furthest => (.matched place place, furthest)

/-- Match `p` as often as it matches, at most `n` times. -/
def repeatWithin {α : Type} (p : Reader α) : Nat → Reader (List α)
  | 0 => pure []
  | n + 1 => fun place furthest =>
    match p place furthest with
    | (.matched a next, furthest) =>
      match repeatWithin p n next furthest with
      | (.matched others next, furthest) => (.matched (a :: others) next, furthest)
      | (.unmatched, furthest) => (.unmatched, furthest)
      | (.refused e, furthest) => (.refused e, furthest)
    | (.unmatched, furthest) => (.matched [] place, furthest)
    | (.refused e, furthest) => (.refused e, furthest)

/-- Match `p` as often as it matches.  A match of `p` takes at least one character,
so there is no need for more attempts than there are characters and one. -/
def repeated {α : Type} (p : Reader α) : Reader (List α) := fun place furthest =>
  repeatWithin p (place.rest.length + 1) place furthest

end Reader

/-- The blanks of lexicon text. -/
def isBlank (c : Char) : Bool := c == ' ' || c == '\t' || c == '\r' || c == '\n'

/-- The place behind the blanks and comments that come next, starting `offset`
bytes into the text.  A comment runs from `%` to the end of its line. -/
def skipIgnored (offset : Nat) : List Char → Place
  | [] => ⟨[], offset⟩
  | c :: rest =>
    if isBlank c then skipIgnored (offset + c.utf8Size) rest
    else if c = '%' then skipComment (offset + c.utf8Size) rest
    else ⟨c :: rest, offset⟩
where
  skipComment (offset : Nat) : List Char → Place
    | [] => ⟨[], offset⟩
    | c :: rest =>
      if c = '\n' then skipIgnored (offset + c.utf8Size) rest
      else skipComment (offset + c.utf8Size) rest

/-- Go over blanks and comments. -/
def Reader.skip : Reader Unit := fun place furthest =>
  (.matched () (skipIgnored place.offset place.rest), furthest)

end LinkParsing.Lexicon
