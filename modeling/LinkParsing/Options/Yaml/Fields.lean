import LinkParsing.Options.Document
import LinkParsing.Options.Yaml.Token

/-!
# Fields of YAML documents

A document of options is a mapping of names to plain values.  A value with an anchor can be
given again by its alias, and as a name too.  A tag makes no difference, but for a block of
lines: it is a value only if its tag says of which type.
-/

namespace LinkParsing.Options.Yaml

/-- A scalar with the name of its type, if one is given. -/
structure TypedScalar where
  scalar : Scalar
  type : Option (List Char)
  deriving DecidableEq, Repr

/-- What is known when a part of a document is read. -/
structure Context where
  /-- What the handles of tags stand for. -/
  handles : List (List Char × List Char)
  /-- The numbers of anchors. -/
  anchors : List (List Char × Nat)
  /-- What has an anchor with a number: a scalar, or something else. -/
  anchored : List (Nat × Option TypedScalar)

namespace Context

/-- What handles stand for if no directive says otherwise. -/
def defaultHandles : List (List Char × List Char) :=
  [(['!'], ['!']), (['!', '!'], "tag:yaml.org,2002:".toList)]

/-- The start of a document behind its directives: one version at most, which must be known, and
no handle twice. -/
def ofDirectives (directives : List Directive) : Option Context := do
  let versions := directives.filterMap fun d =>
    match d with
    | .version major minor => some (major, minor)
    | .handle _ _ => none
  let handles := directives.filterMap fun d =>
    match d with
    | .handle name meaning => some (name, meaning)
    | .version _ _ => none
  if 1 < versions.length || !versions.all (fun v => v == (1, 1) || v == (1, 2)) then failure
  if (handles.map (·.1)).eraseDups.length ≠ handles.length then failure
  return ⟨handles ++ defaultHandles, [], []⟩

/-- The name of a type that a tag gives. -/
def typeOf? (ctx : Context) (t : Tag) : Option (List Char) :=
  if t.handle.isEmpty then some t.suffix
  else (ctx.handles.lookup t.handle).map (· ++ t.suffix)

/-- Give an anchor to a part of the document.  Its number is the number of the names of anchors
so far; an anchor that is given anew moves to the new number. -/
def give (ctx : Context) (name : Option (List Char)) (part : Option TypedScalar) : Context :=
  match name with
  | none => ctx
  | some name =>
    let number := ctx.anchors.length
    { ctx with
      anchors := (name, number) :: ctx.anchors.filter (·.1 != name)
      anchored := (number, part) :: ctx.anchored }

/-- The scalar for which an alias stands. -/
def scalarOf? (ctx : Context) (name : List Char) : Option TypedScalar := do
  let number ← ctx.anchors.lookup name
  (← ctx.anchored.lookup number)

end Context

/-- The anchor and the type before a part of a document, in any order. -/
structure Properties where
  anchor : Option (List Char)
  type : Option (List Char)

/-- Read the properties of a part of a document. -/
def readProperties (ctx : Context) : List Token → Option (Properties × List Token)
  | .anchor name :: .tag t :: rest => (ctx.typeOf? t).map fun type => (⟨some name, some type⟩, rest)
  | .tag t :: .anchor name :: rest => (ctx.typeOf? t).map fun type => (⟨some name, some type⟩, rest)
  | .anchor name :: rest => some (⟨some name, none⟩, rest)
  | .tag t :: rest => (ctx.typeOf? t).map fun type => (⟨none, some type⟩, rest)
  | rest => some (⟨none, none⟩, rest)

/-- Read a scalar with its properties, or an alias of one. -/
def readScalar (ctx : Context) :
    List Token → Option (TypedScalar × Context × List Token)
  | .alias name :: rest => (ctx.scalarOf? name).map fun s => (s, ctx, rest)
  | tokens => do
    let (properties, rest) ← readProperties ctx tokens
    match rest with
    | .scalar s :: rest =>
      let typed : TypedScalar := ⟨s, properties.type⟩
      return (typed, ctx.give properties.anchor (some typed), rest)
    | _ => failure

/-! ## Values -/

/-- The number that digits of a base stand for. -/
def number? (base : Nat) (digits : List Char) : Option Nat :=
  if digits.isEmpty then none
  else
    digits.foldlM (fun n d =>
      match Text.hexDigit? d with
      | some v => if v < base then some (base * n + v) else none
      | none => none) 0

/-- The integer that a text stands for: without a minus sign, and without leading zeros
unless a base is given. -/
def integer? (text : List Char) : Option Nat :=
  let unsigned := match text with
    | '+' :: rest => rest
    | _ => text
  match unsigned with
  | '0' :: 'x' :: digits => number? 16 digits
  | '0' :: 'o' :: digits => number? 8 digits
  | '0' :: 'b' :: digits => number? 2 digits
  | ['0'] => some 0
  | '0' :: _ => none
  | _ => number? 10 unsigned

/-- The truth value that a text stands for. -/
def truth? (text : List Char) : Option Bool :=
  match String.ofList text with
  | "true" | "True" | "TRUE" => some true
  | "false" | "False" | "FALSE" => some false
  | _ => none

/-- The value that a scalar stands for. -/
def TypedScalar.value? (s : TypedScalar) : Option DocumentValue :=
  let text := s.scalar.text
  match s.scalar.style with
  | .plain => ((truth? text).map .truth).orElse fun _ => (integer? text).map .number
  | .literal =>
    if s.type = some "tag:yaml.org,2002:int".toList then (integer? text).map .number
    else if s.type = some "tag:yaml.org,2002:bool".toList then (truth? text).map .truth
    else none
  | .other => none

/-! ## Documents -/

/-- A field: a name and a value. -/
abbrev Field := String × DocumentValue

/-- Read a field. -/
def readField (ctx : Context) : List Token → Option (Field × Context × List Token)
  | .key :: rest => do
    let (name, ctx, rest) ← readScalar ctx rest
    match rest with
    | .value :: rest =>
      let (value, ctx, rest) ← readScalar ctx rest
      return ((String.ofList name.scalar.text, ← value.value?), ctx, rest)
    | _ => failure
  | _ => none

/-- Read the fields of a mapping by indentation; `steps` bounds their number. -/
def readBlockFields : (steps : Nat) → Context → List Token → Option (List Field × List Token)
  | 0, _, _ => none
  | steps + 1, ctx, tokens =>
    match tokens with
    | .blockEnd :: rest => some ([], rest)
    | _ => do
      let (field, ctx, rest) ← readField ctx tokens
      let (fields, rest) ← readBlockFields steps ctx rest
      return (field :: fields, rest)

/-- Read the fields of a mapping in brackets.  Commas stand between them, and one may stand behind
the last. -/
def readFlowFields : (steps : Nat) → Context → List Token → Option (List Field × List Token)
  | 0, _, _ => none
  | steps + 1, ctx, tokens =>
    match tokens with
    | .flowEnd :: rest => some ([], rest)
    | _ => do
      let (field, ctx, rest) ← readField ctx tokens
      match rest with
      | .flowEnd :: rest => return ([field], rest)
      | .comma :: rest =>
        let (fields, rest) ← readFlowFields steps ctx rest
        return (field :: fields, rest)
      | _ => failure

/-- Whether a document has no content: it ends at once, or another one begins. -/
def isDocumentOver : List Token → Bool
  | .finish :: _ | .documentStart :: _ | .documentEnd :: _ | .directive _ :: _ => true
  | _ => false

/-- Read the content of a document.  An empty plain scalar, of which only properties may be
written, gives no fields. -/
def readContent (ctx : Context) (tokens : List Token) : Option (List Field × List Token) := do
  let (properties, rest) ← readProperties ctx tokens
  match rest with
  | .blockStart :: rest =>
    readBlockFields (rest.length + 1) (ctx.give properties.anchor none) rest
  | .flowStart :: rest =>
    readFlowFields (rest.length + 1) (ctx.give properties.anchor none) rest
  | .scalar s :: rest => if s = ⟨[], .plain⟩ then return ([], rest) else failure
  | .alias _ :: _ => failure
  | _ =>
    if properties.anchor.isSome || properties.type.isSome then return ([], rest) else failure

/-- The directives at the start of tokens. -/
def leadingDirectives : List Token → List Directive × List Token
  | .directive d :: rest =>
    let (directives, rest) := leadingDirectives rest
    (d :: directives, rest)
  | rest => ([], rest)

/-- Read the only document of a text as its fields.  Without any content it has none.  Directives
need a mark behind them, and behind the document only end marks may stand. -/
def readTokens (tokens : List Token) : Option (List Field) := do
  let (directives, rest) := leadingDirectives tokens
  let ctx ← Context.ofDirectives directives
  let (fields, rest) ←
    match rest with
    | .documentStart :: content =>
      if isDocumentOver content then some ([], content) else readContent ctx content
    | [.finish] => if directives.isEmpty then some ([], rest) else none
    | _ => if directives.isEmpty then readContent ctx rest else none
  if rest.dropWhile (· == .documentEnd) = [.finish] then return fields else failure

end LinkParsing.Options.Yaml
