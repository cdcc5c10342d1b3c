import LinkParsing.Formula.Expansion
import LinkParsing.Formula.Substitution
import LinkParsing.Lexicon.WordPattern
import LinkParsing.Lexicon.SyntaxError
import LinkParsing.Options.Name
import LinkParsing.Session.State
import LinkParsing.Text.Utf8

/-!
# Errors

Everything that can go wrong, by cause.  From the cause follow the kind of the error,
its message, its code, what may help, and for faults in a file the place of it.
-/

namespace LinkParsing

/-- The kinds of errors that callers tell apart. -/
inductive ErrorKind where
  | configuration
  | dictionaryNotFound
  | parse
  | rangeUnderflow
  | rangeOutOfBounds
  | state
  | sessionClosed
  deriving DecidableEq, Repr

namespace ErrorKind

/-- All kinds, in the order in which they are declared. -/
def all : List ErrorKind :=
  [configuration, dictionaryNotFound, parse, rangeUnderflow, rangeOutOfBounds, state,
    sessionClosed]

/-- The name of a kind. -/
def name : ErrorKind → String
  | configuration => "ConfigurationError"
  | dictionaryNotFound => "DictionaryNotFoundError"
  | parse => "ParseError"
  | rangeUnderflow => "RangeUnderflowError"
  | rangeOutOfBounds => "RangeOutOfBoundsError"
  | state => "StateError"
  | sessionClosed => "SessionClosedError"

/-- The code of a kind, for looking it up. -/
def code : ErrorKind → String
  | configuration => "link_grammar::configuration"
  | dictionaryNotFound => "link_grammar::dictionary"
  | parse => "link_grammar::parse"
  | rangeUnderflow => "link_grammar::range_underflow"
  | rangeOutOfBounds => "link_grammar::range_out_of_bounds"
  | state => "link_grammar::state"
  | sessionClosed => "link_grammar::session_closed"

end ErrorKind

/-- The bounds that the value of an option can miss. -/
inductive OptionBound where
  | positive
  | nonNegative
  /-- At most the largest unsigned number of 32 bits. -/
  | word32
  deriving DecidableEq, Repr

def OptionBound.text : OptionBound → String
  | positive => "> 0"
  | nonNegative => ">= 0"
  | word32 => "<= u32::MAX"

/-- What is wrong with options, files or directories that were asked for. -/
inductive ConfigurationFault where
  | invalidDocument
  | unknownOption (name : String)
  | expectsInteger (name : OptionName) (value : OptionValue)
  | expectsBoolean (name : OptionName) (value : OptionValue)
  | outOfRange (name : OptionName) (bound : OptionBound) (value : Int)
  | noSearchRoot (path : String)
  | failedWalk (path reason : String)
  | unreadableFile (path reason : String)
  | unwritableFile (path reason : String)

namespace ConfigurationFault

def message : ConfigurationFault → String
  | invalidDocument => "invalid options document"
  | unknownOption name => s!"unknown option '{name}'"
  | expectsInteger name value =>
    s!"option '{name.text}' expects an integer, got {value.typeName} {value.toText}"
  | expectsBoolean name value =>
    s!"option '{name.text}' expects a boolean, got {value.typeName} {value.toText}"
  | outOfRange name bound value =>
    s!"option '{name.text}' must be {bound.text}, got {value}"
  | noSearchRoot path => s!"search root {path} does not exist or is not a directory"
  | failedWalk path reason => s!"failed to walk {path}: {reason}"
  | unreadableFile path reason => s!"cannot read {path}: {reason}"
  | unwritableFile path reason => s!"cannot write {path}: {reason}"

/-- What the caller may do about it. -/
def help? : ConfigurationFault → Option String
  | unknownOption _ =>
    some ("known options: " ++ ", ".intercalate (OptionName.all.map OptionName.text))
  | noSearchRoot _ => some "set it to a directory containing <language>/4.0.dict"
  | _ => none

end ConfigurationFault

/-- Why a dictionary could not be built. -/
inductive DictionaryFault where
  | invalidCode
  /-- There is no lexicon in the directory. -/
  | noLexicon (directory : String)
  | unreadable (path reason : String)
  | malformed (error : Lexicon.SyntaxError)
  | substitution (error : SubstitutionError)
  | expansion (error : ExpansionError)
  | noDisjuncts (word : String)
  | noLeftWall
  | malformedPatterns (error : Lexicon.WordPattern.LineError)
  /-- A word pattern has a name that the lexicon does not have. -/
  | patternWithoutEntry (name : String)

def DictionaryFault.message : DictionaryFault → String
  | invalidCode => "not a valid language code"
  | noLexicon directory => s!"no 4.0.dict in {directory}"
  | unreadable path reason => s!"cannot read {path}: {reason}"
  | malformed error => s!"malformed dictionary: {error.message}"
  | substitution error => error.message
  | expansion error => error.message
  | noDisjuncts word => s!"word '{word}' has no disjuncts"
  | noLeftWall => "LEFT-WALL is missing or has no right-pointing disjunct"
  | malformedPatterns error => s!"malformed 4.0.regex: {error.message}"
  | patternWithoutEntry name => s!"regex class {name} has no dictionary entry"

/-- A place in a file, with the text of the file and what to say about the place. -/
structure Location where
  file : String
  source : String
  span : Span
  label : String
  deriving DecidableEq, Repr

/-- Why a sentence could not be parsed. -/
inductive ParseFault where
  | noWall (language name : String)
  | unknownWord (word language : String)
  | notExtracted (index found : Nat)
  | tooManyToSample (found : Nat)
  | invalidUtf8 (error : Text.Utf8Error)
  /-- A parser other than the library's own has failed. -/
  | engine (message : String)

def ParseFault.message : ParseFault → String
  | noWall language name => s!"dictionary '{language}' has no {name}"
  | unknownWord word language => s!"word '{word}' is not in the '{language}' dictionary"
  | notExtracted index found => s!"linkage {index} of {found} could not be extracted"
  | tooManyToSample found => s!"{found} linkages are too many to sample from"
  | invalidUtf8 error => s!"sentence is not valid UTF-8: {error.message}"
  | engine message => message

/-- An error and its cause. -/
inductive Error where
  | configuration (fault : ConfigurationFault)
  | dictionary (language root : String) (fault : DictionaryFault) (location : Option Location)
  | parse (fault : ParseFault)
  | rangeUnderflow (index : Int)
  | rangeOutOfBounds (index : Int) (available : Nat)
  | state (operation : SessionOperation) (state : SessionState)
  | sessionClosed (operation : SessionOperation)

namespace Error

def kind : Error → ErrorKind
  | configuration _ => .configuration
  | dictionary .. => .dictionaryNotFound
  | parse _ => .parse
  | rangeUnderflow _ => .rangeUnderflow
  | rangeOutOfBounds .. => .rangeOutOfBounds
  | state .. => .state
  | sessionClosed _ => .sessionClosed

def message : Error → String
  | configuration fault => s!"Configuration error: {fault.message}"
  | dictionary language _ fault _ =>
    s!"Dictionary not found for language '{language}': {fault.message}"
  | parse fault => s!"Parse error: {fault.message}"
  | rangeUnderflow index => s!"Linkage index {index} is negative"
  | rangeOutOfBounds index available =>
    s!"Linkage index {index} is out of bounds ({available} linkages available)"
  | state operation current =>
    s!"Operation '{operation.name}' is not valid in state {current.name}"
  | sessionClosed operation => s!"Operation '{operation.name}' called on a released session"

def code (e : Error) : String := e.kind.code

/-- What the caller may do about an error. -/
def help? : Error → Option String
  | configuration fault => fault.help?
  | dictionary _ root _ _ =>
    some s!"dictionaries are looked up as <root>/<language>/4.0.dict under {root}"
  | parse _ => none
  | rangeUnderflow _ => some "linkage indices start at 0"
  | rangeOutOfBounds _ available =>
    if available = 0 then some "the last parse produced no linkages"
    else some s!"valid indices are 0..{available}"
  | state .. => some "parse a sentence and select a linkage first"
  | sessionClosed _ => some "create a new session; released sessions cannot be reused"

/-- The place in a file that an error is about. -/
def location? : Error → Option Location
  | dictionary _ _ _ location => location
  | _ => none

end Error

end LinkParsing
