/-!
# Strict UTF-8

A byte sequence is read as text from its start; the first place where no character
begins is reported.  Each character must have its shortest form, and surrogates and
code points above the last one have none.
-/

namespace LinkParsing.Text

/-- Why bytes are no text, and how many bytes of text come before. -/
inductive Utf8Error where
  /-- The first `length` bytes from there on begin no character. -/
  | invalid (length index : Nat)
  /-- The bytes end inside a character. -/
  | incomplete (index : Nat)
  deriving DecidableEq, Repr

def Utf8Error.message : Utf8Error → String
  | invalid length index => s!"invalid utf-8 sequence of {length} bytes from index {index}"
  | incomplete index => s!"incomplete utf-8 byte sequence from index {index}"

namespace Utf8

/-- What a first byte announces: the bits it contributes and, for each byte that has to
follow, the bounds of it. -/
def announced (b : UInt8) : Option (Nat × List (UInt8 × UInt8)) :=
  let rest := ((0x80 : UInt8), (0xBF : UInt8))
  if b < 0x80 then some (b.toNat, [])
  else if b < 0xC2 then none
  else if b < 0xE0 then some (b.toNat - 0xC0, [rest])
  else if b = 0xE0 then some (0, [(0xA0, 0xBF), rest])
  else if b = 0xED then some (0x0D, [(0x80, 0x9F), rest])
  else if b < 0xF0 then some (b.toNat - 0xE0, [rest, rest])
  else if b = 0xF0 then some (0, [(0x90, 0xBF), rest, rest])
  else if b < 0xF4 then some (b.toNat - 0xF0, [rest, rest, rest])
  else if b = 0xF4 then some (4, [(0x80, 0x8F), rest, rest])
  else none

/-- Where reading the rest of a character leads to. -/
inductive Tail where
  | done (code : Nat) (rest : List UInt8)
  /-- After `taken` bytes an unsuitable one follows. -/
  | broken (taken : Nat)
  | ended

/-- Read the bytes that a first byte has announced. -/
def readTail (code taken : Nat) : List (UInt8 × UInt8) → List UInt8 → Tail
  | [], bytes => .done code bytes
  | _ :: _, [] => .ended
  | (low, high) :: bounds, b :: bytes =>
    if low ≤ b && b ≤ high then readTail (code * 64 + (b.toNat - 0x80)) (taken + 1) bounds bytes
    else .broken taken

/-- Read at most `count` characters of bytes that start at an index. -/
def decodeFrom : Nat → Nat → List UInt8 → Except Utf8Error (List Char)
  | _, _, [] => .ok []
  | 0, _, _ :: _ => .ok []
  | count + 1, index, b :: bytes =>
    match announced b with
    | none => .error (.invalid 1 index)
    | some (bits, bounds) =>
      match readTail bits 1 bounds bytes with
      | .ended => .error (.incomplete index)
      | .broken taken => .error (.invalid taken index)
      | .done code rest => do
        let others ← decodeFrom count (index + 1 + bounds.length) rest
        return Char.ofNat code :: others

/-- Read bytes as text. -/
def decode (bytes : List UInt8) : Except Utf8Error (List Char) :=
  decodeFrom bytes.length 0 bytes

end Utf8

/-- The bytes of a character, at least one. -/
def utf8Bytes (c : Char) : List Nat :=
  let n := c.toNat
  if n < 0x80 then [n]
  else if n < 0x800 then [0xC0 + n / 64, 0x80 + n % 64]
  else if n < 0x10000 then [0xE0 + n / 4096, 0x80 + n / 64 % 64, 0x80 + n % 64]
  else [0xF0 + n / 262144, 0x80 + n / 4096 % 64, 0x80 + n / 64 % 64, 0x80 + n % 64]

/-- The bytes of a text. -/
def Utf8.encode (text : List Char) : List UInt8 := (text.flatMap utf8Bytes).map Nat.toUInt8

end LinkParsing.Text
