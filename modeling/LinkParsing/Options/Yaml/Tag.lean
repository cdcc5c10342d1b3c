import LinkParsing.Options.Yaml.Cursor
import LinkParsing.Text.Digits

/-!
# Tags, anchors and directives of YAML texts

A tag tells the type of what follows it: a handle and the rest of a name, or the whole name
between angle brackets.  Directives give the version of the notation and say what
handles stand for.
-/

namespace LinkParsing.Options.Yaml

/-- A tag as it is written: the handle, which may be empty, and the rest. -/
structure Tag where
  handle : List Char
  suffix : List Char
  deriving DecidableEq, Repr

/-- The characters of tags other than letters, digits, low line, hyphen and percent sign. -/
def isTagSign (c : Char) : Bool :=
  c == ';' || c == '/' || c == '?' || c == ':' || c == '@' || c == '&' || c == '=' || c == '+' ||
    c == '$' || c == '.' || c == '!' || c == '~' || c == '*' || c == '\'' || c == '(' || c == ')'

/-- The signs that whole names may have as well. -/
def isNameSign (c : Char) : Bool := c == ',' || c == '[' || c == ']'

/-- How many bytes a character has whose first one is given. -/
def byteCount? (first : Nat) : Option Nat :=
  if first < 0x80 then some 1
  else if first / 32 = 6 then some 2
  else if first / 16 = 14 then some 3
  else if first / 8 = 30 then some 4
  else none

/-- A byte, written as a percent sign and two hexadecimal digits. -/
def readByte : List Char → Option (Nat × List Char)
  | '%' :: a :: b :: rest =>
    match Text.hexDigit? a, Text.hexDigit? b with
    | some high, some low => some (16 * high + low, rest)
    | _, _ => none
  | _ => none

/-- So many more bytes of a character. -/
def readMoreBytes : Nat → List Char → Option (List Nat × List Char)
  | 0, text => some ([], text)
  | count + 1, text => do
    let (byte, rest) ← readByte text
    if byte / 64 = 2 then
      let (bytes, rest) ← readMoreBytes count rest
      return (byte :: bytes, rest)
    else failure

/-- The characters of a tag; escaped bytes count as a character each, since names that matter
have none beyond ASCII.  `steps` bounds their number. -/
def readTagText (whole : Bool) : (steps : Nat) → List Char → Option (List Char × List Char)
  | 0, text => some ([], text)
  | steps + 1, text =>
    match text with
    | [] => some ([], [])
    | c :: rest =>
      if c = '%' then do
        let (first, rest) ← readByte text
        let (more, rest) ← readMoreBytes ((← byteCount? first) - 1) rest
        let (chars, rest) ← readTagText whole steps rest
        return ((first :: more).map Char.ofNat ++ chars, rest)
      else if isNameChar c || isTagSign c || (whole && isNameSign c) then
        (readTagText whole steps rest).map fun (chars, rest) => (c :: chars, rest)
      else some ([], text)

/-- The characters of a tag, at least one. -/
def readTagText1 (whole : Bool) (text : List Char) : Option (List Char × List Char) :=
  match readTagText whole text.length text with
  | some ([], _) => none
  | found => found

/-- The cursor moved to what is left of the line. -/
def Cursor.moveTo (c : Cursor) (rest : List Char) : Cursor :=
  c.advance (c.rest.length - rest.length)

/-- A tag, and whether it ends where a tag may end. -/
def readTag (inFlow : Bool) (c : Cursor) : Option (Tag × Cursor) := do
  let (tag, rest) ← readWritten c.rest
  if endsWord rest || (inFlow && rest.head? = some ',') then return (tag, c.moveTo rest)
  else failure
where
  /-- The tag itself. -/
  readWritten : List Char → Option (Tag × List Char)
    | '!' :: '<' :: text =>
      match readTagText1 true text with
      | some (name, '>' :: rest) => some (⟨[], name⟩, rest)
      | _ => none
    | '!' :: text =>
      let name := text.takeWhile isNameChar
      match text.dropWhile isNameChar with
      | '!' :: rest =>
        (readTagText1 false rest).map fun (suffix, rest) => (⟨'!' :: name ++ ['!'], suffix⟩, rest)
      | _ =>
        (readTagText false text.length text).map fun (suffix, rest) =>
          (if suffix.isEmpty then ⟨[], ['!']⟩ else ⟨['!'], suffix⟩, rest)
    | _ => none

/-- The name behind the sign of an anchor or alias. -/
def readAnchor (c : Cursor) : Option (List Char × Cursor) :=
  let c := c.advance 1
  let name := c.rest.takeWhile isNameChar
  let c := c.advance name.length
  let mayEnd := endsWord c.rest || c.rest.head?.any fun d =>
    d == '?' || d == ':' || d == ',' || d == ']' || d == '\x7D' || d == '%' || d == '@' ||
      d == Char.ofNat 0x60
  if name.isEmpty || !mayEnd then none else some (name, c)

/-- A directive. -/
inductive Directive where
  | version (major minor : Nat)
  /-- What a handle stands for. -/
  | handle (name meaning : List Char)
  deriving DecidableEq, Repr

/-- A number of at most nine digits. -/
def readVersionNumber (text : List Char) : Option (Nat × List Char) :=
  let digits := text.takeWhile Char.isDigit
  if digits.isEmpty || 9 < digits.length then none
  else some (Text.decimal digits, text.dropWhile Char.isDigit)

/-- The version behind the name of its directive. -/
def readVersion (text : List Char) : Option (Directive × List Char) :=
  match readVersionNumber (text.dropWhile isBlank) with
  | some (major, '.' :: rest) =>
    (readVersionNumber rest).map fun (minor, rest) => (.version major minor, rest)
  | _ => none

/-- The handle of a directive: an exclamation mark, or two and a name between them. -/
def readHandle : List Char → Option (List Char × List Char)
  | '!' :: text =>
    let name := text.takeWhile isNameChar
    match text.dropWhile isNameChar with
    | '!' :: rest => some ('!' :: name ++ ['!'], rest)
    | rest => if name.isEmpty then some (['!'], rest) else none
  | _ => none

/-- A handle and its meaning behind the name of their directive. -/
def readHandleMeaning (text : List Char) : Option (Directive × List Char) := do
  let (name, rest) ← readHandle (text.dropWhile isBlank)
  if !rest.head?.any isBlank then failure
  let (meaning, rest) ← readTagText1 true (rest.dropWhile isBlank)
  if endsWord rest then return (.handle name meaning, rest) else failure

/-- A directive, up to the end of its line. -/
def readDirective (c : Cursor) : Option (Directive × Cursor) := do
  let text := c.rest.drop 1
  let name := text.takeWhile isNameChar
  let rest := text.dropWhile isNameChar
  if name.isEmpty || !endsWord rest then failure
  let (directive, rest) ← match String.ofList name with
    | "YAML" => readVersion rest
    | "TAG" => readHandleMeaning rest
    | _ => none
  let c := (c.moveTo rest).skipBlanks.skipComment
  if endsLine c.rest then
    return (directive, (c.nextLine?.map (·.2)).getD c)
  else failure

end LinkParsing.Options.Yaml
