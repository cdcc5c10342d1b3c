import LinkParsing.CommandLine.Flag
import LinkParsing.Text.Digits

/-!
# Arguments of the command line

A flag is `--name`, or a letter behind a hyphen; several letters can share one.  The
value of a flag is the next argument, or follows the name behind `=`, or follows the
letter.  `--` makes a plain argument of everything behind it.  At each place of the
command line a flag may be given once, except the one that raises the verbosity; a
general flag behind the command counts rather than one before it.
-/

namespace LinkParsing.CommandLine

/-- Why arguments are refused. -/
inductive ArgumentFault where
  | unexpected (argument : String)
  | missingValue (flag : Flag)
  | needlessValue (flag : Flag) (value : String)
  | invalidValue (flag : Flag) (value : String)
  | repeated (flag : Flag)
  | missingSentence
  deriving DecidableEq, Repr

def ArgumentFault.message : ArgumentFault → String
  | unexpected argument => s!"unexpected argument '{argument}' found"
  | missingValue flag => s!"a value is required for '--{flag.long}' but none was supplied"
  | needlessValue flag value => s!"unexpected value '{value}' for '--{flag.long}' found"
  | invalidValue flag value => s!"invalid value '{value}' for '--{flag.long}'"
  | repeated flag => s!"the argument '--{flag.long}' cannot be used multiple times"
  | missingSentence => "the sentence to parse was not provided"

/-- What the general flags at one place say. -/
structure GeneralChoices where
  dataDirectory : Option String
  language : Option String
  /-- How often the verbosity was raised. -/
  verbosity : Nat
  deriving DecidableEq, Repr

namespace GeneralChoices

/-- Nothing was said. -/
def none : GeneralChoices := ⟨.none, .none, 0⟩

/-- What was said, the inner place counting before the outer one. -/
def within (inner outer : GeneralChoices) : GeneralChoices :=
  ⟨inner.dataDirectory.or outer.dataDirectory, inner.language.or outer.language,
    if inner.verbosity = 0 then outer.verbosity else inner.verbosity⟩

end GeneralChoices

/-- What the flags of the command that parses say. -/
structure ParseChoices where
  /-- The number of the linkage to show. -/
  linkage : Option Int
  maxLinkages : Option UInt64
  timeLimit : Option UInt64
  maxNullCount : Option UInt64
  noWalls : Bool
  diagramVerbosity : Option UInt32
  /-- The path of an options document. -/
  config : Option String
  /-- The path of a PostScript document to write. -/
  postscript : Option String
  json : Bool
  deriving DecidableEq

/-- Nothing was said. -/
def ParseChoices.none : ParseChoices :=
  ⟨.none, .none, .none, .none, false, .none, .none, .none, false⟩

/-- What the program is to do. -/
inductive Command where
  | info
  | parse (sentence : String) (choices : ParseChoices)
  | languages
  deriving DecidableEq

/-- A command with the general flags. -/
structure Invocation where
  general : GeneralChoices
  command : Command
  deriving DecidableEq

/-- What the arguments ask for. -/
inductive Demand where
  | run (invocation : Invocation)
  | help
  | version
  deriving DecidableEq

/-- What has been read of the arguments. -/
structure Reading where
  place : Place
  /-- What was said before the command, if the place is behind it. -/
  outer : GeneralChoices
  /-- What was said at this place. -/
  here : GeneralChoices
  sentence : Option String
  choices : ParseChoices
  deriving DecidableEq

namespace Reading

/-- Nothing has been read. -/
def start : Reading := ⟨.top, .none, .none, none, .none⟩

/-- Go on behind a command. -/
def enter (r : Reading) (place : Place) : Reading :=
  { r with place, outer := r.here, here := .none }

/-! ## Values -/

/-- A value that was not given before, if it can be read. -/
def once {α : Type} (flag : Flag) (text : String) (before value : Option α) :
    Except ArgumentFault (Option α) :=
  if before.isSome then .error (.repeated flag)
  else
    match value with
    | some _ => .ok value
    | none => .error (.invalidValue flag text)

/-- A path, which is not empty. -/
def path? (text : String) : Option String := if text.isEmpty then none else some text

/-- An integer of 64 bits. -/
def int64? (text : String) : Option Int :=
  (Text.integer? text.toList).filter fun n =>
    Int64.minValue.toInt ≤ n && n ≤ Int64.maxValue.toInt

/-- An unsigned number of 64 bits. -/
def uint64? (text : String) : Option UInt64 :=
  ((Text.unsigned? text.toList).filter (· < UInt64.size)).map Nat.toUInt64

/-- An unsigned number of 32 bits; a zero may have any sign. -/
def uint32? (text : String) : Option UInt32 :=
  ((int64? text).filter fun n => 0 ≤ n && n.toNat < UInt32.size).map fun n => n.toNat.toUInt32

/-- Note the value of a flag. -/
def setValue (r : Reading) (flag : Flag) (text : String) : Except ArgumentFault Reading :=
  match flag with
  | .dataDirectory => do
    let dataDirectory ← once flag text r.here.dataDirectory (path? text)
    return { r with here := { r.here with dataDirectory } }
  | .language => do
    let language ← once flag text r.here.language (some text)
    return { r with here := { r.here with language } }
  | .linkage => do
    let linkage ← once flag text r.choices.linkage (int64? text)
    return { r with choices := { r.choices with linkage } }
  | .maxLinkages => do
    let maxLinkages ← once flag text r.choices.maxLinkages (uint64? text)
    return { r with choices := { r.choices with maxLinkages } }
  | .timeLimit => do
    let timeLimit ← once flag text r.choices.timeLimit (uint64? text)
    return { r with choices := { r.choices with timeLimit } }
  | .maxNullCount => do
    let maxNullCount ← once flag text r.choices.maxNullCount (uint64? text)
    return { r with choices := { r.choices with maxNullCount } }
  | .diagramVerbosity => do
    let diagramVerbosity ← once flag text r.choices.diagramVerbosity (uint32? text)
    return { r with choices := { r.choices with diagramVerbosity } }
  | .config => do
    let config ← once flag text r.choices.config (path? text)
    return { r with choices := { r.choices with config } }
  | .postscript => do
    let postscript ← once flag text r.choices.postscript (path? text)
    return { r with choices := { r.choices with postscript } }
  | .verbose | .help | .version | .noWalls | .json => .error (.needlessValue flag text)

/-! ## Single arguments -/

/-- Where reading an argument leads to. -/
inductive Step where
  | on (r : Reading)
  /-- The value of a flag has to follow. -/
  | wants (flag : Flag) (r : Reading)
  | help
  | version

/-- Note a flag without value. -/
def setFlag (r : Reading) : Flag → Except ArgumentFault Step
  | .help => .ok .help
  | .version => .ok .version
  | .verbose => .ok (.on { r with here := { r.here with verbosity := r.here.verbosity + 1 } })
  | .noWalls =>
    if r.choices.noWalls then .error (.repeated .noWalls)
    else .ok (.on { r with choices := { r.choices with noWalls := true } })
  | .json =>
    if r.choices.json then .error (.repeated .json)
    else .ok (.on { r with choices := { r.choices with json := true } })
  | flag => .ok (.wants flag r)

/-- Read the letters behind a hyphen. -/
def readLetters (r : Reading) : List Char → Except ArgumentFault Step
  | [] => .ok (.on r)
  | c :: rest =>
    match r.place.flags.find? (·.letter? == some c) with
    | none => .error (.unexpected ("-" ++ String.singleton c))
    | some flag =>
      if flag.takesValue then
        match rest with
        | [] => .ok (.wants flag r)
        | '=' :: value => (r.setValue flag (String.ofList value)).map .on
        | value => (r.setValue flag (String.ofList value)).map .on
      else
        match r.setFlag flag with
        | .ok (.on r) => readLetters r rest
        | other => other

/-- Read a name behind two hyphens, and the value behind `=` if there is one. -/
def readName (r : Reading) (text : List Char) : Except ArgumentFault Step :=
  let name := String.ofList (text.takeWhile (· != '='))
  match r.place.flags.find? (·.long == name) with
  | none => .error (.unexpected ("--" ++ name))
  | some flag =>
    match text.dropWhile (· != '=') with
    | [] => if flag.takesValue then .ok (.wants flag r) else r.setFlag flag
    | _ :: value => (r.setValue flag (String.ofList value)).map .on

/-- Read a plain argument, which can only be the sentence. -/
def readPlain (r : Reading) (argument : String) : Except ArgumentFault Reading :=
  if r.place = .parse && r.sentence.isNone then .ok { r with sentence := some argument }
  else .error (.unexpected argument)

/-- Read an argument that is no command. -/
def readArgument (r : Reading) (argument : String) : Except ArgumentFault Step :=
  match argument.toList with
  | '-' :: '-' :: text => r.readName text
  | '-' :: c :: letters => r.readLetters (c :: letters)
  | _ => (r.readPlain argument).map .on

/-- Whether an argument can be the value of the flag before it: one with a hyphen is a
flag itself, but for negative numbers where they are allowed. -/
def canBeValue (flag : Flag) (argument : String) : Bool :=
  match argument.toList with
  | '-' :: c :: digits => flag.takesNegative && (c :: digits).all Char.isDigit
  | _ => true

/-! ## All arguments -/

/-- What has been asked for when no argument is left. -/
def finish (r : Reading) : Except ArgumentFault Demand :=
  let run (command : Command) := Demand.run ⟨r.here.within r.outer, command⟩
  match r.place, r.sentence with
  | .top, _ => .ok (run .info)
  | .info, _ => .ok (run .info)
  | .languages, _ => .ok (run .languages)
  | .parse, some sentence => .ok (run (.parse sentence r.choices))
  | .parse, none => .error .missingSentence

/-- Read arguments that are all plain. -/
def readAllPlain (r : Reading) : List String → Except ArgumentFault Demand
  | [] => r.finish
  | argument :: rest =>
    match r.readPlain argument with
    | .ok r => readAllPlain r rest
    | .error fault => .error fault

/-- The place behind a command, if the argument is one. -/
def commandPlace? (r : Reading) (argument : String) : Option Place :=
  if r.place = .top then Place.ofCommand? argument else none

/-- What the command that explains the others asks for. -/
def askHelp : List String → Except ArgumentFault Demand
  | [] => .ok .help
  | [about] =>
    if about = "help" || (Place.ofCommand? about).isSome then .ok .help
    else .error (.unexpected about)
  | _ :: argument :: _ => .error (.unexpected argument)

/-- Read arguments. -/
def readAll (r : Reading) : List String → Except ArgumentFault Demand
  | [] => r.finish
  | argument :: rest =>
    if argument = "--" then r.readAllPlain rest
    else if r.place = .top && argument = "help" then askHelp rest
    else
      match r.commandPlace? argument with
      | some place => readAll (r.enter place) rest
      | none =>
        match r.readArgument argument with
        | .error fault => .error fault
        | .ok .help => .ok .help
        | .ok .version => .ok .version
        | .ok (.on r) => readAll r rest
        | .ok (.wants flag r) =>
          match rest with
          | [] => .error (.missingValue flag)
          | value :: rest =>
            if canBeValue flag value then
              match r.setValue flag value with
              | .ok r => readAll r rest
              | .error fault => .error fault
            else .error (.missingValue flag)

end Reading

/-- What the arguments ask for. -/
def readArguments (arguments : List String) : Except ArgumentFault Demand :=
  Reading.start.readAll arguments

end LinkParsing.CommandLine
