import LinkParsing.Options.Yaml.Cursor
import LinkParsing.Text.Digits

/-!
# Scalars of YAML texts

A scalar is written plainly, between quotes, or as a block of lines.  Where it goes on over
several lines these are folded: one end of a line counts as a space, and of several ones
in a row the first is dropped.  A block keeps its lines as they are, or folds them.
-/

namespace LinkParsing.Options.Yaml

/-- How a scalar is written, as far as it matters for its value. -/
inductive Style where
  | plain
  /-- A block whose lines are kept. -/
  | literal
  /-- Between quotes, or a block whose lines are folded. -/
  | other
  deriving DecidableEq, Repr

/-- A scalar. -/
structure Scalar where
  text : List Char
  style : Style
  deriving DecidableEq, Repr

/-- The blanks and ends of lines between two parts of a scalar. -/
structure Gap where
  /-- The blanks before the first end of a line. -/
  blanks : List Char
  firstBreak : Option Char
  otherBreaks : List Char
  /-- Whether blanks count no more, an end of a line having been passed. -/
  onNewLine : Bool

namespace Gap

/-- Nothing between two parts. -/
def none : Gap := ⟨[], .none, [], false⟩

/-- What stands for the gap in the scalar. -/
def folded (g : Gap) : List Char :=
  if !g.onNewLine then g.blanks
  else
    match g.firstBreak with
    | some '\n' => if g.otherBreaks.isEmpty then [' '] else g.otherBreaks
    | some b => b :: g.otherBreaks
    | .none => g.otherBreaks

/-- Read blanks and ends of lines.  A tab that indents a line to less than `level` columns is an
error.  `steps` bounds the number of characters. -/
def read (level : Nat) : (steps : Nat) → Gap → Cursor → Option (Gap × Cursor)
  | 0, g, c => some (g, c)
  | steps + 1, g, c =>
    match c.rest with
    | [] => some (g, c)
    | b :: _ =>
      if isBlank b then
        if g.onNewLine && b == '\t' && c.column < level then Option.none
        else
          read level steps (if g.onNewLine then g else { g with blanks := g.blanks ++ [b] })
            (c.advance 1)
      else
        match c.nextLine? with
        | some (b, c) =>
          read level steps
            (if g.onNewLine then { g with otherBreaks := g.otherBreaks ++ [b] }
              else { g with firstBreak := some b, onNewLine := true })
            c
        | .none => some (g, c)

end Gap

/-! ## Plain scalars -/

/-- The brackets and the comma, which end plain scalars between brackets. -/
def isFlowSign (c : Char) : Bool :=
  c == ',' || c == '[' || c == ']' || c == '\x7B' || c == '\x7D'

/-- The characters of a plain scalar up to a blank, the end of a line, or what ends the scalar.
Between brackets a colon must not be followed by a sign. -/
def plainWord (inFlow : Bool) : List Char → Option (List Char)
  | [] => some []
  | c :: rest =>
    if isBlank c || isBreak c then some []
    else if c = ':' && inFlow && rest.head?.any fun d => isFlowSign d || d == '?' then none
    else if (c = ':' && endsWord rest) || (inFlow && isFlowSign c) then some []
    else (plainWord inFlow rest).map (c :: ·)

/-- The rest of a plain scalar behind `text` and a gap; lines of it must be indented to `level`
columns unless it stands between brackets.  It is also told whether the scalar was left over
the end of a line.  `steps` bounds the number of words. -/
def readPlain (inFlow : Bool) (level : Nat) :
    (steps : Nat) → List Char → Gap → Cursor → Option (List Char × Cursor × Bool)
  | 0, text, gap, c => some (text, c, gap.onNewLine)
  | steps + 1, text, gap, c =>
    if c.isAtDocumentMark || c.rest.head? = some '#' then some (text, c, gap.onNewLine)
    else
      match plainWord inFlow c.rest with
      | none => none
      | some [] => some (text, c, gap.onNewLine)
      | some word =>
        let text := text ++ gap.folded ++ word
        let c := c.advance word.length
        match Gap.read level c.rest.length .none c with
        | none => none
        | some (gap, next) =>
          if next.index = c.index || (!inFlow && next.column < level) then
            some (text, next, gap.onNewLine)
          else readPlain inFlow level steps text gap next

/-! ## Quoted scalars -/

/-- The character that a letter behind a backslash stands for. -/
def escaped? : Char → Option Char
  | '0' => some '\x00'
  | 'a' => some '\x07'
  | 'b' => some '\x08'
  | 't' => some '\t'
  | '\t' => some '\t'
  | 'n' => some '\n'
  | 'v' => some '\x0B'
  | 'f' => some '\x0C'
  | 'r' => some '\r'
  | 'e' => some '\x1B'
  | ' ' => some ' '
  | '"' => some '"'
  | '/' => some '/'
  | '\\' => some '\\'
  | 'N' => some '\u0085'
  | '_' => some '\u00A0'
  | 'L' => some '\u2028'
  | 'P' => some '\u2029'
  | _ => none

/-- How many hexadecimal digits follow a letter behind a backslash. -/
def codeLength? : Char → Option Nat
  | 'x' => some 2
  | 'u' => some 4
  | 'U' => some 8
  | _ => none

/-- The character that hexadecimal digits name. -/
def charOfCode? (digits : List Char) : Option Char := do
  let values ← digits.mapM Text.hexDigit?
  let code := values.foldl (fun n d => 16 * n + d) 0
  if code.isValidChar then some (Char.ofNat code) else none

/-- A step inside a quoted scalar. -/
inductive QuotedStep where
  /-- So many characters of the text stand for one. -/
  | char (meant : Char) (length : Nat)
  /-- An end of a line behind a backslash counts for nothing. -/
  | escapedBreak
  /-- A blank, an end of a line, or the closing quote. -/
  | wordEnd

/-- The next step inside a quoted scalar. -/
def quotedStep? (quote : Char) : List Char → Option QuotedStep
  | [] => some .wordEnd
  | c :: rest =>
    if isBlank c || isBreak c then some .wordEnd
    else if quote = '\'' && c = '\'' && rest.head? = some '\'' then some (.char '\'' 2)
    else if c = quote then some .wordEnd
    else if quote = '"' && c = '\\' then
      match rest with
      | [] => none
      | e :: digits =>
        if isBreak e then some .escapedBreak
        else
          match escaped? e, codeLength? e with
          | some meant, _ => some (.char meant 2)
          | none, some length =>
            if digits.length < length then none
            else (charOfCode? (digits.take length)).map fun meant => .char meant (length + 2)
          | none, none => none
    else some (.char c 1)

/-- The rest of a quoted scalar behind `text` and its closing quote.  `steps` bounds the number
of characters. -/
def readQuoted (quote : Char) : (steps : Nat) → List Char → Cursor → Option (List Char × Cursor)
  | 0, _, _ => none
  | steps + 1, text, c =>
    if c.isAtDocumentMark then none
    else
      match quotedStep? quote c.rest with
      | none => none
      | some (.char meant length) => readQuoted quote steps (text ++ [meant]) (c.advance length)
      | some .escapedBreak =>
        match (c.advance 1).nextLine? with
        | some (_, next) => goOn steps text { Gap.none with onNewLine := true } next
        | none => none
      | some .wordEnd =>
        match c.rest with
        | [] => none
        | d :: _ => if d = quote then some (text, c.advance 1) else goOn steps text .none c
where
  /-- Go on behind a gap. -/
  goOn (steps : Nat) (text : List Char) (gap : Gap) (c : Cursor) : Option (List Char × Cursor) :=
    match c.rest with
    | [] => none
    | d :: _ =>
      if d = quote then some (text, c.advance 1)
      else
        match Gap.read 0 c.rest.length gap c with
        | some (gap, next) => readQuoted quote steps (text ++ gap.folded) next
        | none => none

/-! ## Blocks -/

/-- What becomes of the ends of lines behind a block. -/
inductive Chomping where
  /-- They are dropped. -/
  | strip
  /-- The first one is kept. -/
  | clip
  /-- All are kept. -/
  | keep
  deriving DecidableEq, Repr

/-- What stands behind the sign of a block: how much deeper than its surroundings it is, if that
is given, and what becomes of the ends of lines behind it. -/
def readBlockHeader (c : Cursor) : Option (Option Nat × Chomping × Cursor) :=
  let (chomping, c) := readChomping c
  match readDepth c with
  | none => none
  | some (depth, c) =>
    match chomping with
    | some chomping => some (depth, chomping, c)
    | none =>
      if depth.isNone then some (none, .clip, c)
      else
        let (chomping, c) := readChomping c
        some (depth, chomping.getD .clip, c)
where
  /-- The sign of a chomping, if it is there. -/
  readChomping (c : Cursor) : Option Chomping × Cursor :=
    match c.rest with
    | '+' :: _ => (some .keep, c.advance 1)
    | '-' :: _ => (some .strip, c.advance 1)
    | _ => (none, c)
  /-- The digit of a depth, if it is there. -/
  readDepth (c : Cursor) : Option (Option Nat × Cursor) :=
    match c.rest with
    | '0' :: _ => none
    | d :: _ => if d.isDigit then some (some (d.toNat - 48), c.advance 1) else some (none, c)
    | [] => some (none, c)

/-- Indentation and ends of lines before a line of a block: the ends of lines, and the greatest
column that is reached by spaces.  Where no indentation is known all spaces indent. -/
def readIndentation (indent : Option Nat) :
    (steps : Nat) → List Char → (deepest : Nat) → Cursor → Option (List Char × Nat × Cursor)
  | 0, breaks, deepest, c => some (breaks, deepest, c)
  | steps + 1, breaks, deepest, c =>
    let spaces := (c.rest.takeWhile (· == ' ')).length
    let c := c.advance (match indent with
      | some indent => min spaces (indent - c.column)
      | none => spaces)
    let deepest := max deepest c.column
    if c.rest.head? = some '\t' && indent.all (c.column < ·) then none
    else
      match c.nextLine? with
      | some (b, next) => readIndentation indent steps (breaks ++ [b]) deepest next
      | none => some (breaks, deepest, c)

/-- What stands for the ends of lines before a line of a block: the one of the line before, if
there is one, and those of empty lines.  Folding spares lines that begin with a blank. -/
def joinLines (fold : Bool) (first : Option Char) (others : List Char) : List Char :=
  if fold && first == some '\n' then (if others.isEmpty then [' '] else others)
  else first.toList ++ others

/-- The rest of a block whose lines are indented to `indent` columns, behind `text`, the end of
the last line and those of empty lines. -/
def readBlockLines (isLiteral : Bool) (chomping : Chomping) (indent : Nat) :
    (steps : Nat) → (text : List Char) → (afterBlank : Bool) → Option Char → List Char → Cursor →
      Option (List Char × Cursor)
  | 0, _, _, _, _, _ => none
  | steps + 1, text, afterBlank, first, others, c =>
    if c.column = indent && !c.rest.isEmpty then
      let startsBlank := c.rest.head?.any isBlank
      let line := c.rest.takeWhile (!isBreak ·)
      let text := text ++ joinLines (!isLiteral && !afterBlank && !startsBlank) first others ++ line
      let c := c.advance line.length
      let (first, c) := match c.nextLine? with
        | some (b, next) => (some b, next)
        | none => (none, c)
      match readIndentation (some indent) (c.rest.length + 1) [] 0 c with
      | some (others, _, c) =>
        readBlockLines isLiteral chomping indent steps text startsBlank first others c
      | none => none
    else
      let text := if chomping = .strip then text else text ++ first.toList
      some (if chomping = .keep then text ++ others else text, c)

/-- A block behind its sign; `level` is the least indentation that it may have. -/
def readBlock (isLiteral : Bool) (level : Nat) (c : Cursor) : Option (List Char × Cursor) := do
  let (depth, chomping, c) ← readBlockHeader c
  let c := c.skipBlanks.skipComment
  if !endsLine c.rest then failure
  let c := match c.nextLine? with
    | some (_, next) => next
    | none => c
  let given := depth.map fun depth => level - 1 + depth
  let (breaks, deepest, c) ← readIndentation given (c.rest.length + 1) [] 0 c
  let indent := given.getD (max deepest (max level 1))
  readBlockLines isLiteral chomping indent (c.rest.length + 1) [] false none breaks c

end LinkParsing.Options.Yaml
