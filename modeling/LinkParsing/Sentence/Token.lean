import LinkParsing.Text.Alphanumeric
import LinkParsing.Text.Span
import LinkParsing.Text.Whitespace
import LinkParsing.Text.WordBoundary

/-!
# Tokens

The tokens of a sentence are its segments between word boundaries, those of white
space left out.  Touching repeats of one mark are a single token, so that `...` is
one.
-/

namespace LinkParsing

/-- A token and where it starts, in bytes. -/
structure Token where
  chars : List Char
  start : Nat
  deriving DecidableEq, Repr

namespace Token

/-- The text of a token. -/
def text (t : Token) : String := String.ofList t.chars

/-- The first byte behind a token. -/
def stop (t : Token) : Nat := t.start + byteLength t.chars

/-- Whether a segment is a single mark of which `before` is a run. -/
def repeatsMark (before segment : List Char) : Bool :=
  match segment with
  | [mark] =>
    !Text.isAlphanumeric mark && !Text.isSpace mark && before.all (· == mark)
  | _ => false

/-- The tokens of segments that start at an offset.  `last` is the token before them,
to which repeats of a mark may still be added. -/
def ofSegments (last : Option Token) (offset : Nat) : List (List Char) → List Token
  | [] => last.toList
  | segment :: segments =>
    let next := offset + byteLength segment
    if segment.all Text.isSpace then ofSegments last next segments
    else
      match last with
      | none => ofSegments (some ⟨segment, offset⟩) next segments
      | some t =>
        if t.stop = offset && repeatsMark t.chars segment then
          ofSegments (some { t with chars := t.chars ++ segment }) next segments
        else t :: ofSegments (some ⟨segment, offset⟩) next segments

/-- The tokens of a sentence, given as characters. -/
def ofChars (sentence : List Char) : List Token := ofSegments none 0 (Text.segments sentence)

/-- The tokens of a sentence. -/
def tokenize (sentence : String) : List Token := ofChars sentence.toList

end Token

end LinkParsing
