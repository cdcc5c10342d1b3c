import LinkParsing.Engine
import LinkParsing.Layout.PostScript

/-!
# Sessions

A session has one dictionary and one set of options, and at most one set of linkages,
the one of the last sentence that was parsed.  Once it is released it has nothing
left and nothing works any more.

An operation that fails leaves its session as it was.
-/

namespace LinkParsing

/-- The numbers that a parse reports. -/
structure ParseSummary where
  numLinkages : Nat
  /-- The number of linkages that link every word. -/
  numValid : Nat
  /-- The number of linkages there are, kept or not. -/
  numFound : Nat
  nullCount : Nat
  timerExpired : Bool
  deriving DecidableEq, Repr

/-- The summary of a set of linkages. -/
def LinkageSet.summary (s : LinkageSet) : ParseSummary :=
  ⟨s.numLinkages, s.numValid, s.numFound, s.nullCount, s.timerExpired⟩

/-- The set of linkages that a parse has led to, with nothing selected. -/
def ParseOutcome.toSet (outcome : ParseOutcome) (sentence : String) : LinkageSet :=
  .make sentence outcome.linkages.toArray outcome.numFound outcome.nullCount outcome.timerExpired

/-- What a session has as long as it is not released. -/
structure LiveSession where
  engine : Engine
  /-- The code with which the session was created. -/
  language : String
  dictionary : Dictionary
  options : Options
  linkages : Option LinkageSet

namespace LiveSession

/-- A new session with the engine of this library. -/
def create (entropy : Sampling.Generator) (language : String) (dictionary : Dictionary) :
    LiveSession :=
  ⟨Engine.linkEngine entropy, language, dictionary, .default, none⟩

/-- What the session can do next. -/
def state (s : LiveSession) : SessionState :=
  match s.linkages with
  | none => .created
  | some set => if set.selected.isSome then .linkageSelected else .parsed

/-- The value of an option, by name. -/
def getOption (s : LiveSession) (name : String) : Except Error OptionValue := do
  let name ← Options.nameOf name
  return s.options.get name

/-- Set an option for later parses, by name. -/
def setOption (s : LiveSession) (name : String) (value : OptionValue) :
    Except Error Unit × LiveSession :=
  match Options.nameOf name with
  | .error e => (.error e, s)
  | .ok name =>
    match Options.assign name value s.options with
    | .error e options => (.error e, { s with options })
    | .ok () options => (.ok (), { s with options })

/-- Replace all options. -/
def setOptions (s : LiveSession) (options : Options) : Except Error Unit × LiveSession :=
  match options.validate with
  | .error e => (.error e, s)
  | .ok () => (.ok (), { s with options })

/-- Whether a sentence has nothing but white space. -/
def isBlank (sentence : String) : Bool := (Text.trim sentence.toList).isEmpty

/-- The linkages of a sentence; one that is blank has none. -/
def linkagesOf (s : LiveSession) (sentence : String) : Except Error LinkageSet :=
  if isBlank sentence then .ok (.blank sentence)
  else (s.engine.parse s.dictionary sentence s.options).map (·.toSet sentence)

/-- Parse a sentence and keep its linkages in place of those of the last one. -/
def parse (s : LiveSession) (sentence : String) : Except Error ParseSummary × LiveSession :=
  match s.linkagesOf sentence with
  | .error e => (.error e, s)
  | .ok set => (.ok set.summary, { s with linkages := some set })

/-- Parse a sentence that is given as bytes. -/
def parseBytes (s : LiveSession) (bytes : List UInt8) : Except Error ParseSummary × LiveSession :=
  match Text.Utf8.decode bytes with
  | .error e => (.error (.parse (.invalidUtf8 e)), s)
  | .ok sentence => s.parse (String.ofList sentence)

/-- The linkages of the last parse, if there was one. -/
def linkagesFor (s : LiveSession) (operation : SessionOperation) : Except Error LinkageSet :=
  match s.linkages with
  | some set => .ok set
  | none => .error (.state operation s.state)

/-- Select a linkage of the last parse by its number. -/
def selectLinkage (s : LiveSession) (index : Int) : Except Error Linkage × LiveSession :=
  match s.linkagesFor .selectLinkage with
  | .error e => (.error e, s)
  | .ok set =>
    match set.select index with
    | .error e => (.error e, s)
    | .ok (linkage, set) => (.ok linkage, { s with linkages := some set })

/-- The selected linkage. -/
def selectedLinkage (s : LiveSession) : Option Linkage :=
  s.linkages.bind LinkageSet.selectedLinkage

/-- Forget the linkages of the last parse. -/
def clear (s : LiveSession) : LiveSession := { s with linkages := none }

/-- The selected linkage, for an operation that needs one. -/
def selection (s : LiveSession) (operation : SessionOperation) : Except Error Linkage :=
  match s.selectedLinkage with
  | some linkage => .ok linkage
  | none => .error (.state operation s.state)

/-- The diagram of the selected linkage. -/
def diagram (s : LiveSession) : Except Error String :=
  (s.selection .diagram).map (·.diagram s.options)

/-- The selected linkage as a PostScript document. -/
def postscript (s : LiveSession) : Except Error String :=
  (s.selection .postscript).map (·.postscript s.options)

end LiveSession

/-- A session, released or not. -/
inductive Session where
  | live (s : LiveSession)
  | released

namespace Session

/-- What the session can do next. -/
def state : Session → SessionState
  | live s => s.state
  | released => .closed

/-- Whether the session has been released. -/
def isClosed : Session → Bool
  | live _ => false
  | released => true

/-- The session with another engine. -/
def withEngine (engine : Engine) : Session → Session
  | live s => live { s with engine }
  | released => released

end Session

end LinkParsing
