import LinkParsing.Options.Document
import LinkParsing.Text.Digits

/-!
# Options in JSON

An object of options by name, or an array of their values.  Of JSON only what options
can consist of is read: strings as names, unsigned integers and truth values.
-/

namespace LinkParsing.Options.Json

/-- The blanks of JSON. -/
def isBlank (c : Char) : Bool := c == ' ' || c == '\t' || c == '\n' || c == '\r'

/-- The text behind blanks. -/
def skipBlanks (text : List Char) : List Char := text.dropWhile isBlank

/-- The character that four hexadecimal digits name.  Halves of characters beyond the first
plane name none: no option has such a character in its name. -/
def escapedChar? (a b c d : Char) : Option Char := do
  let high := 16 * (← Text.hexDigit? a) + (← Text.hexDigit? b)
  let code := 256 * high + 16 * (← Text.hexDigit? c) + (← Text.hexDigit? d)
  if 0xD800 ≤ code && code < 0xE000 then none else some (Char.ofNat code)

/-- The rest of a string behind its opening quote: its characters and what follows. -/
def readString : List Char → Option (List Char × List Char)
  | [] => none
  | '"' :: rest => some ([], rest)
  | '\\' :: 'u' :: a :: b :: c :: d :: rest =>
    match escapedChar? a b c d, readString rest with
    | some e, some (chars, rest) => some (e :: chars, rest)
    | _, _ => none
  | '\\' :: e :: rest =>
    let meant := match e with
      | '"' => some '"'
      | '\\' => some '\\'
      | '/' => some '/'
      | 'b' => some '\x08'
      | 'f' => some '\x0C'
      | 'n' => some '\n'
      | 'r' => some '\r'
      | 't' => some '\t'
      | _ => none
    match meant, readString rest with
    | some m, some (chars, rest) => some (m :: chars, rest)
    | _, _ => none
  | c :: rest =>
    if c.toNat < 0x20 then none
    else (readString rest).map fun (chars, rest) => (c :: chars, rest)

/-- A value: an integer without sign and without leading zeros, or a truth value. -/
def readValue : List Char → Option (DocumentValue × List Char)
  | 't' :: 'r' :: 'u' :: 'e' :: rest => some (.truth true, rest)
  | 'f' :: 'a' :: 'l' :: 's' :: 'e' :: rest => some (.truth false, rest)
  | '0' :: rest => some (.number 0, rest)
  | text =>
    match text.takeWhile Char.isDigit with
    | [] => none
    | digits => some (.number (Text.decimal digits), text.dropWhile Char.isDigit)

/-- A field: a name, a colon and a value. -/
def readField (text : List Char) : Option ((String × DocumentValue) × List Char) :=
  match skipBlanks text with
  | '"' :: rest =>
    match readString rest with
    | some (name, rest) =>
      match skipBlanks rest with
      | ':' :: rest =>
        (readValue (skipBlanks rest)).map fun (value, rest) => ((String.ofList name, value), rest)
      | _ => none
    | none => none
  | _ => none

/-- One or more items with commas between them, up to a closing character; `count` bounds
their number. -/
def readItems {α : Type} (item : List Char → Option (α × List Char)) (closing : Char) :
    Nat → List Char → Option (List α × List Char)
  | 0, _ => none
  | count + 1, text =>
    match item text with
    | none => none
    | some (a, rest) =>
      match skipBlanks rest with
      | [] => none
      | c :: rest =>
        if c = closing then some ([a], rest)
        else if c = ',' then
          (readItems item closing count rest).map fun (others, rest) => (a :: others, rest)
        else none

/-- Items up to a closing character, none being allowed. -/
def readList {α : Type} (item : List Char → Option (α × List Char)) (closing : Char)
    (text : List Char) : Option (List α × List Char) :=
  let behind := skipBlanks text
  if behind.head? = some closing then some ([], behind.tail)
  else readItems item closing (text.length + 1) text

/-- Read a text as a document. -/
def readDocument (text : List Char) : Option Document :=
  let read := match skipBlanks text with
    | '{' :: rest =>
      (readList readField '}' rest).map fun (fields, rest) => (Document.named fields, rest)
    | '[' :: rest =>
      (readList (fun text => readValue (skipBlanks text)) ']' rest).map fun (values, rest) =>
        (Document.listed values, rest)
    | _ => none
  match read with
  | some (document, rest) => if (skipBlanks rest).isEmpty then some document else none
  | none => none

end LinkParsing.Options.Json

namespace LinkParsing.Options

/-- The options of a JSON document. -/
def ofJson (text : String) : Except Error Options := ofDocument (Json.readDocument text.toList)

/-- The value of an option in JSON. -/
def jsonValue (o : Options) : OptionName → String
  | .maxLinkages => toString o.maxLinkages.toNat
  | .parseTimeLimitSeconds => toString o.parseTimeLimitSeconds.toNat
  | .verbosity => toString o.verbosity.toNat
  | .maxNullCount => toString o.maxNullCount.toNat
  | .displayWalls => if o.displayWalls then "true" else "false"
  | .repeatableRand => if o.repeatableRand then "true" else "false"

/-- The options as a JSON document. -/
def toJson (o : Options) : String :=
  let fields := OptionName.all.map fun name => "\"" ++ name.text ++ "\":" ++ o.jsonValue name
  "\x7B" ++ ",".intercalate fields ++ "\x7D"

end LinkParsing.Options
