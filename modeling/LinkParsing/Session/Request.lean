import LinkParsing.Session.Basic

/-!
# Requests to a session

Everything that can be asked of a session, and what it answers.  A session that has been
released answers every request but another release with an error.
-/

namespace LinkParsing

/-- Something asked of a session. -/
inductive SessionRequest where
  | version
  | dictionary
  | dictionaryHandle
  | getOption (name : String)
  | setOption (name : String) (value : OptionValue)
  | options
  | setOptions (options : Options)
  | parse (sentence : String)
  | parseBytes (bytes : List UInt8)
  | linkageSet
  | selectLinkage (index : Int)
  | selectedLinkage
  | clear
  | diagram
  | postscript
  | release

/-- The operation that an error names, for requests that can fail. -/
def SessionRequest.operation : SessionRequest → Option SessionOperation
  | version => some .version
  | dictionary => some .dictionary
  | dictionaryHandle => some .dictionaryHandle
  | getOption _ => some .getOption
  | setOption _ _ => some .setOption
  | options => some .options
  | setOptions _ => some .setOptions
  | parse _ => some .parse
  | parseBytes _ => some .parse
  | linkageSet => some .linkageSet
  | selectLinkage _ => some .selectLinkage
  | selectedLinkage => some .selectedLinkage
  | clear => some .clear
  | diagram => some .diagram
  | postscript => some .postscript
  | release => none

/-- What a session answers when nothing goes wrong. -/
inductive SessionReply where
  | done
  | text (text : String)
  | dictionary (dictionary : Dictionary)
  | value (value : OptionValue)
  | options (options : Options)
  | summary (summary : ParseSummary)
  | linkageSet (set : LinkageSet)
  | linkage (linkage : Linkage)
  | selection (linkage : Option Linkage)

namespace LiveSession

/-- The answer of a session that changes itself, and the session afterwards. -/
def changed (reply : α → SessionReply) :
    Except Error α × LiveSession → Except Error SessionReply × Session
  | (result, s) => (result.map reply, .live s)

/-- The answer of a session that stays as it is. -/
def unchanged (s : LiveSession) (reply : α → SessionReply) (result : Except Error α) :
    Except Error SessionReply × Session :=
  (result.map reply, .live s)

/-- The answer to a request, and the session afterwards. -/
def answer (s : LiveSession) : SessionRequest → Except Error SessionReply × Session
  | .version => s.unchanged .text (.ok s.engine.version)
  | .dictionary => s.unchanged .text (.ok s.language)
  | .dictionaryHandle => s.unchanged .dictionary (.ok s.dictionary)
  | .getOption name => s.unchanged .value (s.getOption name)
  | .setOption name value => changed (fun _ => .done) (s.setOption name value)
  | .options => s.unchanged .options (.ok s.options)
  | .setOptions options => changed (fun _ => .done) (s.setOptions options)
  | .parse sentence => changed .summary (s.parse sentence)
  | .parseBytes bytes => changed .summary (s.parseBytes bytes)
  | .linkageSet => s.unchanged .linkageSet (s.linkagesFor .linkageSet)
  | .selectLinkage index => changed .linkage (s.selectLinkage index)
  | .selectedLinkage => s.unchanged .selection (.ok s.selectedLinkage)
  | .clear => (.ok .done, .live s.clear)
  | .diagram => s.unchanged .text s.diagram
  | .postscript => s.unchanged .text s.postscript
  | .release => (.ok .done, .released)

end LiveSession

namespace Session

/-- The answer to a request, and the session afterwards. -/
def answer (request : SessionRequest) : Session → Except Error SessionReply × Session
  | live s => s.answer request
  | released =>
    match request.operation with
    | some operation => (.error (.sessionClosed operation), released)
    | none => (.ok .done, released)

end Session

end LinkParsing
