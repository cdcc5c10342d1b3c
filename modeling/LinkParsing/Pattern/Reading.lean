import LinkParsing.Pattern.AutomatonSize
import LinkParsing.Pattern.Building
import LinkParsing.Pattern.Matching
import LinkParsing.Text.Digits
import LinkParsing.Text.Whitespace

/-!
# Reading patterns

Patterns are written in the usual notation: literals, `.`, classes in brackets with
ranges, negation, nesting and set operations, `\d`, `\s`, `\w`, `\b` and their
negations, `\p` with letter classes, `^` and `$`, the repetitions `*`, `+`, `?` and
`{m,n}`, alternatives, groups, and the flags `i`, `m`, `s` and `U`.  Groups only
group, and whether a repetition is greedy makes no difference to what matches.

Look-around and back-references are not part of the notation.  A pattern that is nested
too deeply is refused, and so is one whose automata would take too much room.

Other flags are refused, and so are other classes behind `\p` than those of
`classOfName?`.  A compiler that has more of them can take the place of this one.
-/

namespace LinkParsing.Pattern

open Text

/-- What the flags of a pattern say. -/
structure Flags where
  ignoreCase : Bool
  /-- `^` and `$` stand for the ends of lines. -/
  multiLine : Bool
  /-- The dot matches line feeds too. -/
  dotMatchesAll : Bool
  /-- A question mark behind a repetition makes it greedy, and nothing there does not. -/
  swapGreed : Bool

/-- No flag is set. -/
def Flags.none : Flags := ⟨false, false, false, false⟩

/-- A set under the flags in force. -/
def Flags.fold (flags : Flags) (set : CharSet) : CharSet :=
  if flags.ignoreCase then set.ignoringCase else set

/-- A set under the flags in force, or what is outside of it. -/
def Flags.foldAndNegate (flags : Flags) (negated : Bool) (set : CharSet) : CharSet :=
  if negated then (flags.fold set).complement else flags.fold set

/-- What a single character or escape stands for. -/
inductive Atom where
  | literal (c : Char)
  | set (s : CharSet)
  | assertion (a : Assertion)

/-- The character that hexadecimal digits name. -/
def charOfHex? (digits : List Char) : Option Char := do
  let values ← digits.mapM Text.hexDigit?
  if values.isEmpty then failure
  let code := values.foldl (fun n d => 16 * n + d) 0
  if code.isValidChar then some (Char.ofNat code) else none

/-- A character given by its code: so many digits, or any number of them in braces. -/
def readHex (width : Nat) : List Char → Option (Char × List Char)
  | '{' :: text =>
    match text.dropWhile (· != '}') with
    | '}' :: rest => (charOfHex? (text.takeWhile (· != '}'))).map (·, rest)
    | _ => none
  | text =>
    let digits := text.take width
    if digits.length = width then (charOfHex? digits).map (·, text.drop width) else none

/-- The class that a name between the braces of `\p{...}` stands for.  Case, blanks and
low lines in the name make no difference. -/
def classOfName? (name : List Char) : Option CharSet :=
  let plain := (name.filter fun c => !(c == '_' || c == '-' || c == ' ')).map Char.toLower
  match String.ofList plain with
  | "l" | "letter" => some CharSet.letter
  | "lu" | "uppercaseletter" => some CharSet.capital
  | "ll" | "lowercaseletter" => some CharSet.small
  | "n" | "number" => some CharSet.number
  | "nd" | "decimalnumber" | "digit" => some CharSet.digit
  | "m" | "mark" | "combiningmark" => some CharSet.mark
  | "alphabetic" | "alpha" => some CharSet.alphabetic
  | "whitespace" | "space" => some CharSet.space
  | _ => none

/-- The class after `\p` or `\P`, folded before it is negated. -/
def readNamedClass (flags : Flags) (negated : Bool) : List Char → Option (CharSet × List Char)
  | '{' :: text =>
    match text.dropWhile (· != '}') with
    | '}' :: rest =>
      (classOfName? (text.takeWhile (· != '}'))).map fun set =>
        (flags.foldAndNegate negated set, rest)
    | _ => none
  | c :: rest => (classOfName? [c]).map fun set => (flags.foldAndNegate negated set, rest)
  | [] => none

/-- The characters of the names of word boundaries. -/
def isBoundaryNameChar (c : Char) : Bool := c.isAlpha || c == '-'

/-- What stands behind `\b`: the kind of a word boundary may be given in braces. -/
def readBoundary : List Char → Option (Assertion × List Char)
  | '{' :: text =>
    match text.takeWhile isBoundaryNameChar, text.dropWhile isBoundaryNameChar with
    | [], [] => none
    | [], _ => some (.wordBoundary, '{' :: text)
    | name, '}' :: rest =>
      match String.ofList name with
      | "start" => some (.wordStart, rest)
      | "end" => some (.wordEnd, rest)
      | "start-half" => some (.wordStartHalf, rest)
      | "end-half" => some (.wordEndHalf, rest)
      | _ => none
    | _, _ => none
  | text => some (.wordBoundary, text)

/-- What stands behind a backslash. -/
def readEscape (flags : Flags) : List Char → Option (Atom × List Char)
  | [] => none
  | c :: rest =>
    match c with
    | 'd' => some (.set CharSet.digit, rest)
    | 'D' => some (.set CharSet.digit.complement, rest)
    | 's' => some (.set CharSet.space, rest)
    | 'S' => some (.set CharSet.space.complement, rest)
    | 'w' => some (.set CharSet.word, rest)
    | 'W' => some (.set CharSet.word.complement, rest)
    | 'p' => (readNamedClass flags false rest).map fun (s, rest) => (.set s, rest)
    | 'P' => (readNamedClass flags true rest).map fun (s, rest) => (.set s, rest)
    | 'x' => (readHex 2 rest).map fun (c, rest) => (.literal c, rest)
    | 'u' => (readHex 4 rest).map fun (c, rest) => (.literal c, rest)
    | 'U' => (readHex 8 rest).map fun (c, rest) => (.literal c, rest)
    | 'a' => some (.literal '\x07', rest)
    | 'f' => some (.literal '\x0C', rest)
    | 't' => some (.literal '\t', rest)
    | 'n' => some (.literal '\n', rest)
    | 'r' => some (.literal '\r', rest)
    | 'v' => some (.literal '\x0B', rest)
    | 'A' => some (.assertion .textStart, rest)
    | 'z' => some (.assertion .textEnd, rest)
    | 'b' => (readBoundary rest).map fun (a, rest) => (.assertion a, rest)
    | 'B' => some (.assertion .notWordBoundary, rest)
    | '<' => some (.assertion .wordStart, rest)
    | '>' => some (.assertion .wordEnd, rest)
    | _ => if c.toNat < 128 && !c.isAlphanum then some (.literal c, rest) else none

/-- The operations between the parts of a class. -/
inductive SetOperation where
  | intersection
  | difference
  | symmetricDifference

/-- Join two sets by an operation. -/
def SetOperation.apply : SetOperation → CharSet → CharSet → CharSet
  | intersection, a, b => a.intersection b
  | difference, a, b => a.difference b
  | symmetricDifference, a, b => a.symmetricDifference b

/-- How deep a row of parts is nested: a row of several parts is one step deeper than its
deepest part. -/
def depthOfRow (count deepest : Nat) : Nat := if count ≤ 1 then deepest else deepest + 1

/-- A set, and how deep its written form is nested. -/
structure NestedSet where
  set : CharSet
  depth : Nat

/-- The part of a class read so far: the operands of operations already read, and the
members of the operand that is being read, with the number and the greatest depth of them. -/
structure ClassSoFar where
  done : Option (NestedSet × SetOperation)
  operand : CharSet
  count : Nat
  deepest : Nat

namespace ClassSoFar

/-- Nothing has been read. -/
def nothing : ClassSoFar := ⟨none, .empty, 0, 0⟩

/-- One more member of the operand. -/
def add (s : ClassSoFar) (member : NestedSet) : ClassSoFar :=
  ⟨s.done, s.operand.union member.set, s.count + 1, max s.deepest member.depth⟩

/-- One more member of the operand that is not nested. -/
def addFlat (s : ClassSoFar) (set : CharSet) : ClassSoFar := s.add ⟨set, 0⟩

/-- What has been read. -/
def value (flags : Flags) (s : ClassSoFar) : NestedSet :=
  let last : NestedSet := ⟨flags.fold s.operand, depthOfRow s.count s.deepest⟩
  match s.done with
  | none => last
  | some (first, operation) =>
    ⟨operation.apply first.set last.set, max first.depth last.depth + 1⟩

/-- An operation comes next. -/
def operate (flags : Flags) (s : ClassSoFar) (operation : SetOperation) : ClassSoFar :=
  { nothing with done := some (s.value flags, operation) }

/-- The class when its closing bracket has been read. -/
def close (flags : Flags) (negated : Bool) (s : ClassSoFar) : NestedSet :=
  let inner := s.value flags
  ⟨if negated then inner.set.complement else inner.set, inner.depth + 1⟩

end ClassSoFar

/-- The classes that are written `[:name:]` inside brackets. -/
def asciiClass? (name : List Char) : Option CharSet :=
  let lower := CharSet.range 'a' 'z'
  let upper := CharSet.range 'A' 'Z'
  let digit := CharSet.range '0' '9'
  let alnum := (lower.union upper).union digit
  match String.ofList name with
  | "alnum" => some alnum
  | "alpha" => some (lower.union upper)
  | "ascii" => some (CharSet.range '\x00' '\x7F')
  | "blank" => some (CharSet.ofList [' ', '\t'])
  | "cntrl" => some ((CharSet.range '\x00' '\x1F').union (CharSet.single '\x7F'))
  | "digit" => some digit
  | "graph" => some (CharSet.range '!' '~')
  | "lower" => some lower
  | "print" => some (CharSet.range ' ' '~')
  | "punct" => some ((CharSet.range '!' '~').difference alnum)
  | "space" => some ((CharSet.range '\t' '\r').union (CharSet.single ' '))
  | "upper" => some upper
  | "word" => some (alnum.union (CharSet.single '_'))
  | "xdigit" => some ((digit.union (CharSet.range 'a' 'f')).union (CharSet.range 'A' 'F'))
  | _ => none

/-- A class `[:name:]` or `[:^name:]`, the first bracket having been read. -/
def readAsciiClass (flags : Flags) : List Char → Option (CharSet × List Char)
  | ':' :: text =>
    let (negated, text) := match text with
      | '^' :: text => (true, text)
      | _ => (false, text)
    match text.dropWhile (· != ':') with
    | ':' :: ']' :: rest =>
      (asciiClass? (text.takeWhile (· != ':'))).map fun set =>
        (flags.foldAndNegate negated set, rest)
    | _ => none
  | _ => none

/-- A character or an escape inside brackets. -/
def readClassAtom (flags : Flags) : List Char → Option (Atom × List Char)
  | [] => none
  | '\\' :: rest => readEscape flags rest
  | c :: rest => some (.literal c, rest)

/-- The set of an atom; assertions have none. -/
def Atom.set? : Atom → Option CharSet
  | literal c => some (CharSet.single c)
  | set s => some s
  | assertion _ => none

/-- A member of a class: a range, a character or an escape. -/
def readClassMember (flags : Flags) (text : List Char) : Option (CharSet × List Char) := do
  let (first, rest) ← readClassAtom flags text
  match rest with
  | '-' :: behind =>
    match behind with
    | ']' :: _ | '-' :: _ => return (← first.set?, rest)
    | _ =>
      let (last, rest) ← readClassAtom flags behind
      match first, last with
      | .literal low, .literal high =>
        if low ≤ high then some (CharSet.range low high, rest) else none
      | _, _ => none
  | _ => return (← first.set?, rest)

/-- The start of a class behind its bracket: whether it is negated, and the characters
that are plain members only because they come first. -/
def readClassStart (text : List Char) : Bool × ClassSoFar × List Char :=
  let (negated, text) := match text with
    | '^' :: text => (true, text)
    | _ => (false, text)
  let dashes := text.takeWhile (· == '-')
  let text := text.dropWhile (· == '-')
  let start := dashes.foldl (fun start dash => start.addFlat (CharSet.single dash))
    ClassSoFar.nothing
  match dashes, text with
  | [], ']' :: text => (negated, start.addFlat (CharSet.single ']'), text)
  | _, _ => (negated, start, text)

/-- The rest of a class up to its closing bracket. -/
def readClass (flags : Flags) :
    Nat → Bool → ClassSoFar → List Char → Option (NestedSet × List Char)
  | 0, _, _, _ => none
  | fuel + 1, negated, soFar, text =>
    match text with
    | [] => none
    | ']' :: rest => some (soFar.close flags negated, rest)
    | '[' :: rest =>
      match readAsciiClass flags rest with
      | some (set, rest) => readClass flags fuel negated (soFar.addFlat set) rest
      | none =>
        let (innerNegated, inner, rest) := readClassStart rest
        match readClass flags fuel innerNegated inner rest with
        | some (inner, rest) => readClass flags fuel negated (soFar.add inner) rest
        | none => none
    | '&' :: '&' :: rest => readClass flags fuel negated (soFar.operate flags .intersection) rest
    | '-' :: '-' :: rest => readClass flags fuel negated (soFar.operate flags .difference) rest
    | '~' :: '~' :: rest =>
      readClass flags fuel negated (soFar.operate flags .symmetricDifference) rest
    | _ =>
      match readClassMember flags text with
      | some (set, rest) => readClass flags fuel negated (soFar.addFlat set) rest
      | none => none

/-- A decimal number below 2^32, with blanks around it. -/
def readCount (text : List Char) : Option Nat × List Char :=
  let text := text.dropWhile isSpace
  let digits := text.takeWhile Char.isDigit
  let rest := (text.dropWhile Char.isDigit).dropWhile isSpace
  let value := digits.foldl (fun n d => 10 * n + (d.toNat - 48)) 0
  (if digits.isEmpty || value ≥ UInt32.size then none else some value, rest)

/-- The bounds of a counted repetition behind its brace. -/
def readBounds (text : List Char) : Option ((Nat × Option Nat) × List Char) :=
  match readCount text with
  | (some least, '}' :: rest) => some ((least, some least), rest)
  | (some least, ',' :: '}' :: rest) => some ((least, none), rest)
  | (some least, ',' :: text) =>
    match readCount text with
    | (some most, '}' :: rest) => if least ≤ most then some ((least, some most), rest) else none
    | _ => none
  | _ => none

/-- The flags between `(?` and the colon or parenthesis behind them.  A flag may be given
once; a minus turns the flags behind it off. -/
def readFlags (flags : Flags) (seen : List Char) (on : Bool) :
    List Char → Option (Flags × List Char × List Char)
  | [] => none
  | c :: rest =>
    if c = ':' || c = ')' then
      if seen.head? = some '-' then none else some (flags, seen, c :: rest)
    else if seen.contains c then none
    else
      match c with
      | '-' => readFlags flags (c :: seen) false rest
      | 'i' => readFlags { flags with ignoreCase := on } (c :: seen) on rest
      | 'm' => readFlags { flags with multiLine := on } (c :: seen) on rest
      | 's' => readFlags { flags with dotMatchesAll := on } (c :: seen) on rest
      | 'U' => readFlags { flags with swapGreed := on } (c :: seen) on rest
      | _ => none

/-- How a group begins. -/
inductive GroupStart where
  /-- A counted group with its name, if it has one. -/
  | counted (name : Option (List Char))
  /-- A group that only groups, with the flags that hold in it. -/
  | plain (flags : Flags)
  /-- No group: flags for what follows. -/
  | setFlags (flags : Flags)

/-- Whether a text can name a group. -/
def isGroupName : List Char → Bool
  | [] => false
  | c :: rest =>
    (c == '_' || Text.alphabetic.contains c) &&
      rest.all fun d => d == '_' || d == '.' || d == '[' || d == ']' || isAlphanumeric d

/-- The start of a group behind its parenthesis. -/
def readGroupStart (flags : Flags) : List Char → Option (GroupStart × List Char)
  | '?' :: text =>
    match text with
    | '=' :: _ | '!' :: _ | '<' :: '=' :: _ | '<' :: '!' :: _ => none
    | 'P' :: '<' :: named | '<' :: named =>
      match named.dropWhile (· != '>') with
      | '>' :: rest =>
        let name := named.takeWhile (· != '>')
        if isGroupName name then some (.counted (some name), rest) else none
      | _ => none
    | _ =>
      match readFlags flags [] true text with
      | some (inner, _, ':' :: rest) => some (.plain inner, rest)
      | some (inner, _ :: _, ')' :: rest) => some (.setFlags inner, rest)
      | _ => none
  | text => some (.counted none, text)

/-- A pattern, with how deep its written form is nested and the names of its groups. -/
structure Written where
  pattern : Pattern
  depth : Nat
  names : List (List Char)

namespace Written

/-- A pattern that is not nested. -/
def flat (p : Pattern) : Written := ⟨p, 0, []⟩

/-- The greatest depth of some patterns. -/
def deepest (parts : List Written) : Nat := (parts.map (·.depth)).foldl max 0

/-- Put parts together by `build`, one step deeper if they are several. -/
def row (build : List Pattern → Pattern) (parts : List Written) : Written :=
  ⟨build (parts.map (·.pattern)), depthOfRow parts.length (deepest parts),
    parts.flatMap (·.names)⟩

/-- One step deeper. -/
def within (build : Pattern → Pattern) (w : Written) : Written :=
  { w with pattern := build w.pattern, depth := w.depth + 1 }

/-- The greatest depth that is read. -/
def depthLimit : Nat := 250

/-- Whether no group name is given twice. -/
def hasDistinctNames (w : Written) : Bool := w.names.eraseDups.length == w.names.length

end Written

/-- The part of a group read so far: the alternatives before the last bar, in reverse, and
the items behind it, in reverse.  An item that only sets flags cannot be repeated. -/
structure GroupSoFar where
  alternatives : List Written
  items : List (Option Written)

namespace GroupSoFar

/-- Nothing has been read. -/
def nothing : GroupSoFar := ⟨[], []⟩

/-- One more item. -/
def add (g : GroupSoFar) (w : Written) : GroupSoFar := { g with items := some w :: g.items }

/-- One more item that only sets flags. -/
def addFlags (g : GroupSoFar) : GroupSoFar := { g with items := none :: g.items }

/-- The items behind the last bar in a row. -/
def lastRow (g : GroupSoFar) : Written :=
  .row sequence ((g.items.map (·.getD (.flat .empty))).reverse)

/-- A bar comes next. -/
def bar (g : GroupSoFar) : GroupSoFar := ⟨g.lastRow :: g.alternatives, []⟩

/-- The pattern that has been read. -/
def value (g : GroupSoFar) : Written :=
  match g.alternatives with
  | [] => g.lastRow
  | _ => .row choice (g.lastRow :: g.alternatives).reverse

/-- Repeat the last item. -/
def repeatLast (g : GroupSoFar) (least : Nat) (most : Option Nat) (greedy : Bool) :
    Option GroupSoFar :=
  match g.items with
  | some w :: items =>
    some { g with items := some (w.within fun p => repetition p least most greedy) :: items }
  | _ => none

end GroupSoFar

/-- Whether the question mark stands behind a repetition that prefers few rounds. -/
def isLazy : List Char → Bool
  | '?' :: _ => true
  | _ => false

/-- What stands behind the question mark of a repetition. -/
def skipLazyMark : List Char → List Char
  | '?' :: rest => rest
  | text => text

/-- The pattern of an atom. -/
def Atom.toPattern (flags : Flags) : Atom → Pattern
  | literal c =>
    if flags.ignoreCase then ofSet (CharSet.ofList (caseVariants c)) else .literal [c]
  | set s => ofSet s
  | assertion a => .assertion a

/-- What the dot stands for. -/
def Flags.dot (flags : Flags) : CharSet :=
  if flags.dotMatchesAll then .all else (CharSet.single '\n').complement

/-- Read up to the end of the text or an unmatched closing parenthesis. -/
def readGroup : Nat → Flags → GroupSoFar → List Char → Option (Written × List Char)
  | 0, _, _, _ => none
  | fuel + 1, flags, soFar, text =>
    match text with
    | [] => some (soFar.value, [])
    | ')' :: _ => some (soFar.value, text)
    | '|' :: rest => readGroup fuel flags soFar.bar rest
    | '(' :: rest =>
      match readGroupStart flags rest with
      | none => none
      | some (.setFlags flags, rest) => readGroup fuel flags soFar.addFlags rest
      | some (.plain inner, rest) =>
        match readGroup fuel inner .nothing rest with
        | some (w, ')' :: rest) => readGroup fuel flags (soFar.add (w.within id)) rest
        | _ => none
      | some (.counted name, inside) =>
        match readGroup fuel flags .nothing inside with
        | some (w, ')' :: rest) =>
          let w := { w with names := name.toList ++ w.names }
          readGroup fuel flags (soFar.add (w.within (.group text.length))) rest
        | _ => none
    | '[' :: rest =>
      let (negated, start, rest) := readClassStart rest
      match readClass flags (rest.length + 1) negated start rest with
      | some (inner, rest) =>
        readGroup fuel flags (soFar.add ⟨ofSet inner.set, inner.depth, []⟩) rest
      | none => none
    | '?' :: rest => repeated fuel flags soFar 0 (some 1) rest
    | '*' :: rest => repeated fuel flags soFar 0 none rest
    | '+' :: rest => repeated fuel flags soFar 1 none rest
    | '{' :: rest =>
      match readBounds rest with
      | some ((least, most), rest) => repeated fuel flags soFar least most rest
      | none => none
    | '\\' :: rest =>
      match readEscape flags rest with
      | some (atom, rest) => readGroup fuel flags (soFar.add (.flat (atom.toPattern flags))) rest
      | none => none
    | '.' :: rest => readGroup fuel flags (soFar.add (.flat (ofSet flags.dot))) rest
    | '^' :: rest =>
      let a := if flags.multiLine then Assertion.lineStart else .textStart
      readGroup fuel flags (soFar.add (.flat (.assertion a))) rest
    | '$' :: rest =>
      let a := if flags.multiLine then Assertion.lineEnd else .textEnd
      readGroup fuel flags (soFar.add (.flat (.assertion a))) rest
    | c :: rest =>
      readGroup fuel flags (soFar.add (.flat ((Atom.literal c).toPattern flags))) rest
where
  /-- Go on behind the sign of a repetition. -/
  repeated (fuel : Nat) (flags : Flags) (soFar : GroupSoFar) (least : Nat) (most : Option Nat)
      (rest : List Char) : Option (Written × List Char) :=
    match soFar.repeatLast least most (isLazy rest == flags.swapGreed) with
    | some soFar => readGroup fuel flags soFar (skipLazyMark rest)
    | none => none

/-- Read a whole text as a pattern. -/
def ofChars? (text : List Char) : Option Pattern :=
  match readGroup (text.length + 1) .none .nothing text with
  | some (w, []) =>
    if w.depth ≤ Written.depthLimit && w.hasDistinctNames && !w.pattern.isTooLarge then
      some w.pattern
    else none
  | _ => none

/-- What is written is compiled by reading it as a pattern. -/
def compile (text : List Char) : Option (List Char → Bool) := (ofChars? text).map isMatch

end LinkParsing.Pattern
