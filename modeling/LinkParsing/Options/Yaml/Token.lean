import LinkParsing.Options.Yaml.Scalar
import LinkParsing.Options.Yaml.Tag

/-!
# Tokens of YAML texts

A text is cut into tokens, among them the starts and ends of mappings that only the
indentation tells.  That something is a key is known only when the colon behind it has
been read, so the place of the last possible key is remembered, one for each bracket
that is open, and the tokens that announce it are put there afterwards.

Sequences are refused at once, because no document of options has one.
-/

namespace LinkParsing.Options.Yaml

/-- A token. -/
inductive Token where
  | directive (d : Directive)
  | documentStart
  | documentEnd
  /-- The start of a mapping by indentation. -/
  | blockStart
  | blockEnd
  /-- The brackets around a mapping, and the commas in it. -/
  | flowStart
  | flowEnd
  | comma
  | key
  | value
  | alias (name : List Char)
  | anchor (name : List Char)
  | tag (t : Tag)
  | scalar (s : Scalar)
  /-- The end of the text. -/
  | finish
  deriving DecidableEq, Repr

/-- Where a key may have begun. -/
structure PossibleKey where
  /-- The number of tokens before it. -/
  tokens : Nat
  index : Nat
  line : Nat
  column : Nat
  /-- Whether nothing but a key may stand there. -/
  required : Bool

/-- The most characters between the start of a key and its colon. -/
def keyLimit : Nat := 1024

/-- How far a text has been cut. -/
structure Scanner where
  cursor : Cursor
  /-- The least column of what belongs to the innermost mapping by indentation: one more than its
  own, or zero outside of all. -/
  level : Nat
  /-- The same for those around it. -/
  outer : List Nat
  /-- The possible keys, the innermost one first: one for each open bracket and a last one for
  what is outside of all. -/
  keys : List (Option PossibleKey)
  /-- Whether a key may begin here. -/
  keyAllowed : Bool
  tokens : Array Token

namespace Scanner

/-- The start of a text. -/
def start (text : List Char) : Scanner := ⟨.start text, 0, [], [none], true, #[]⟩

/-- Whether a bracket is open. -/
def inFlow (s : Scanner) : Bool := 1 < s.keys.length

/-- One more token. -/
def emit (s : Scanner) (t : Token) : Scanner := { s with tokens := s.tokens.push t }

/-- Pass over so many characters, which are a token. -/
def take (s : Scanner) (count : Nat) (t : Token) : Scanner :=
  { s.emit t with cursor := s.cursor.advance count }

/-- Pass over blanks, comments and ends of lines.  Tabs may not indent where a key may begin.
`steps` bounds the number of lines. -/
def skipToToken (s : Scanner) : (steps : Nat) → Scanner
  | 0 => s
  | steps + 1 =>
    let c := s.cursor
    let c := if c.index = 0 && c.rest.head? = some '\uFEFF' then c.advance 1 else c
    let c := if s.inFlow || !s.keyAllowed then c.skipBlanks else c.skipWhile (· == ' ')
    let c := c.skipComment
    match c.nextLine? with
    | some (_, next) =>
      skipToToken { s with cursor := next, keyAllowed := s.keyAllowed || !s.inFlow } steps
    | none => { s with cursor := c }

/-- End the mappings by indentation that do not reach to a column, `reach` being one more than
it. -/
def endBlocks (s : Scanner) (reach : Nat) : Scanner :=
  if s.inFlow then s else go s.level s.outer s
where
  /-- The same for given levels. -/
  go (level : Nat) : List Nat → Scanner → Scanner
    | [], s => { s with level := level, outer := [] }
    | next :: outer, s =>
      if reach < level then go next outer (s.emit .blockEnd)
      else { s with level := level, outer := next :: outer }

/-- Begin a mapping by indentation if a column lies inside of the innermost one; its token is put
behind the first `tokens` ones. -/
def beginBlock (s : Scanner) (column tokens : Nat) : Scanner :=
  if !s.inFlow && s.level ≤ column then
    { s with
      level := column + 1
      outer := s.level :: s.outer
      tokens := s.tokens.insertIdxIfInBounds tokens .blockStart }
  else s

/-- Forget the innermost possible key; one that is required may not be forgotten. -/
def dropKey? (s : Scanner) : Option Scanner :=
  match s.keys with
  | some k :: keys => if k.required then none else some { s with keys := none :: keys }
  | _ => some s

/-- Remember that a key may begin here, if it may. -/
def saveKey? (s : Scanner) : Option Scanner :=
  if s.keyAllowed then do
    let c := s.cursor
    let required := !s.inFlow && s.level = c.column + 1
    let s ← s.dropKey?
    let key : PossibleKey := ⟨s.tokens.size, c.index, c.line, c.column, required⟩
    return { s with keys := some key :: s.keys.drop 1 }
  else some s

/-- Forget the possible keys that a colon here would be too far from: keys are limited to a
line and to a number of characters. -/
def forgetFarKeys? (s : Scanner) : Option Scanner := do
  let keys ← s.keys.mapM fun key =>
    match key with
    | some k =>
      if k.line < s.cursor.line || k.index + keyLimit < s.cursor.index then
        (if k.required then none else some none)
      else some (some k)
    | none => some none
  return { s with keys := keys }

/-- A question mark: a key is announced. -/
def announceKey? (s : Scanner) : Option Scanner := do
  if !s.inFlow && !s.keyAllowed then failure
  let s ← (s.beginBlock s.cursor.column s.tokens.size).dropKey?
  return { s with keyAllowed := !s.inFlow }.take 1 .key

/-- A colon: the last possible key was one, or else an announced key has ended. -/
def endKey? (s : Scanner) : Option Scanner :=
  match s.keys with
  | some k :: keys =>
    let s := { s with tokens := s.tokens.insertIdxIfInBounds k.tokens .key }
    let s := s.beginBlock k.column k.tokens
    some ({ s with keys := none :: keys, keyAllowed := false }.take 1 .value)
  | _ =>
    if !s.inFlow && !s.keyAllowed then none
    else
      let s := s.beginBlock s.cursor.column s.tokens.size
      some ({ s with keyAllowed := !s.inFlow }.take 1 .value)

/-- A token that may begin a key and is read by `read`. -/
def startOfKey? (s : Scanner) (read : Scanner → Option (Token × Cursor)) : Option Scanner := do
  let s ← s.saveKey?
  let (token, next) ← read s
  return { s.emit token with cursor := next, keyAllowed := false }

/-- A plain scalar. -/
def plainScalar? (s : Scanner) : Option Scanner := do
  let s ← s.saveKey?
  let (text, next, leftLine) ←
    readPlain s.inFlow s.level (s.cursor.rest.length + 1) [] .none s.cursor
  return { s.emit (.scalar ⟨text, .plain⟩) with cursor := next, keyAllowed := leftLine }

/-- A quoted scalar. -/
def quotedScalar? (s : Scanner) (quote : Char) : Option Scanner :=
  s.startOfKey? fun s =>
    (readQuoted quote (s.cursor.rest.length + 1) [] (s.cursor.advance 1)).map fun (text, next) =>
      (.scalar ⟨text, .other⟩, next)

/-- A block scalar. -/
def blockScalar? (s : Scanner) (isLiteral : Bool) : Option Scanner := do
  let s ← s.dropKey?
  let (text, next) ← readBlock isLiteral s.level (s.cursor.advance 1)
  return { s.emit (.scalar ⟨text, if isLiteral then .literal else .other⟩) with
    cursor := next, keyAllowed := true }

/-- A mark that begins or ends a document. -/
def documentMark? (s : Scanner) (t : Token) : Option Scanner := do
  let s ← (s.endBlocks 0).dropKey?
  return { s with keyAllowed := false }.take 3 t

/-- A directive. -/
def directive? (s : Scanner) : Option Scanner := do
  let s ← (s.endBlocks 0).dropKey?
  let (d, next) ← readDirective s.cursor
  return { s.emit (.directive d) with cursor := next, keyAllowed := false }

/-- The characters that begin no plain scalar. -/
def isIndicator (c : Char) : Bool :=
  isFlowSign c || c == '-' || c == '?' || c == ':' || c == '#' || c == '&' || c == '*' ||
    c == '!' || c == '|' || c == '>' || c == '\'' || c == '"' || c == '%' || c == '@' ||
      c == Char.ofNat 0x60

/-- The next token, whose first character is given. -/
def token? (s : Scanner) (first : Char) (rest : List Char) : Option Scanner :=
  let c := s.cursor
  if c.column = 0 && first = '%' then s.directive?
  else if c.isAtMark '-' then s.documentMark? .documentStart
  else if c.isAtMark '.' then s.documentMark? .documentEnd
  else
    match first with
    | '\x7B' => do
      let s ← s.saveKey?
      return { s with keys := none :: s.keys, keyAllowed := true }.take 1 .flowStart
    | '\x7D' => do
      let s ← s.dropKey?
      let keys := if s.inFlow then s.keys.drop 1 else s.keys
      return { s with keys := keys, keyAllowed := false }.take 1 .flowEnd
    | ',' => do return { (← s.dropKey?) with keyAllowed := true }.take 1 .comma
    | '*' => s.startOfKey? fun s => (readAnchor s.cursor).map fun (name, c) => (.alias name, c)
    | '&' => s.startOfKey? fun s => (readAnchor s.cursor).map fun (name, c) => (.anchor name, c)
    | '!' => s.startOfKey? fun s => (readTag s.inFlow s.cursor).map fun (t, c) => (.tag t, c)
    | '\'' => s.quotedScalar? '\''
    | '"' => s.quotedScalar? '"'
    | _ =>
      if first = '?' && (s.inFlow || endsWord rest) then s.announceKey?
      else if first = ':' && (s.inFlow || endsWord rest) then s.endKey?
      else if first = '|' && !s.inFlow then s.blockScalar? true
      else if first = '>' && !s.inFlow then s.blockScalar? false
      else if !(isBlank first || isIndicator first) || (first = '-' && !endsWord rest) ||
          (!s.inFlow && (first = '?' || first = ':')) then
        s.plainScalar?
      else none

/-- The end of the text. -/
def finish? (s : Scanner) : Option (List Token) := do
  let s ← (s.endBlocks 0).dropKey?
  return (s.emit .finish).tokens.toList

/-- The tokens of the rest of a text; `steps` bounds their number. -/
def run (s : Scanner) : (steps : Nat) → Option (List Token)
  | 0 => none
  | steps + 1 =>
    match (s.skipToToken (s.cursor.rest.length + 1)).forgetFarKeys? with
    | none => none
    | some s =>
      let s := s.endBlocks (s.cursor.column + 1)
      match s.cursor.rest with
      | [] => s.finish?
      | first :: rest =>
        match s.token? first rest with
        | some s => run s steps
        | none => none

end Scanner

/-- The tokens of a text. -/
def tokens? (text : List Char) : Option (List Token) :=
  if text.all isAllowed then (Scanner.start text).run (text.length + 1) else none

end LinkParsing.Options.Yaml
