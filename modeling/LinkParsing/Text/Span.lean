/-!
# Byte spans

Places in a text are given in bytes of its UTF-8 form, while the text itself is
handled as a list of characters.
-/

namespace LinkParsing

/-- A stretch of a text, in bytes. -/
structure Span where
  offset : Nat
  length : Nat
  deriving DecidableEq, Repr

/-- The first byte after the stretch. -/
def Span.stop (s : Span) : Nat := s.offset + s.length

/-- The number of bytes that characters take in UTF-8. -/
def byteLength : List Char → Nat
  | [] => 0
  | c :: rest => c.utf8Size + byteLength rest

@[simp] theorem byteLength_nil : byteLength [] = 0 := rfl

@[simp] theorem byteLength_cons (c : Char) (rest : List Char) :
    byteLength (c :: rest) = c.utf8Size + byteLength rest := rfl

@[simp] theorem byteLength_append (xs ys : List Char) :
    byteLength (xs ++ ys) = byteLength xs + byteLength ys := by
  induction xs with
  | nil => simp
  | cons c xs ih => simp [ih, Nat.add_assoc]

/-- The characters of a stretch, if it begins and ends between characters. -/
def slice? (text : List Char) (s : Span) : Option (List Char) :=
  (dropBytes? text s.offset).bind (takeBytes? · s.length)
where
  dropBytes? : List Char → Nat → Option (List Char)
    | rest, 0 => some rest
    | [], _ => none
    | c :: rest, n => if c.utf8Size ≤ n then dropBytes? rest (n - c.utf8Size) else none
  takeBytes? : List Char → Nat → Option (List Char)
    | _, 0 => some []
    | [], _ => none
    | c :: rest, n =>
      if c.utf8Size ≤ n then (takeBytes? rest (n - c.utf8Size)).map (c :: ·) else none

end LinkParsing
