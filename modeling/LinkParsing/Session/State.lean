/-!
# States and operations of a session
-/

namespace LinkParsing

/-- What a session can do next. -/
inductive SessionState where
  /-- It has a dictionary and nothing else. -/
  | created
  /-- It has linkages, none of them selected. -/
  | parsed
  /-- One of its linkages is selected. -/
  | linkageSelected
  /-- It has been released. -/
  | closed
  deriving DecidableEq, Repr

def SessionState.name : SessionState → String
  | created => "Created"
  | parsed => "Parsed"
  | linkageSelected => "LinkageSelected"
  | closed => "Closed"

/-- The operations of a session that can fail. -/
inductive SessionOperation where
  | version
  | dictionary
  | dictionaryHandle
  | getOption
  | setOption
  | options
  | setOptions
  | parse
  | linkageSet
  | selectLinkage
  | selectedLinkage
  | clear
  | diagram
  | postscript
  deriving DecidableEq, Repr

/-- The name of an operation in messages. -/
def SessionOperation.name : SessionOperation → String
  | version => "version"
  | dictionary => "dictionary"
  | dictionaryHandle => "dictionary_handle"
  | getOption => "get_option"
  | setOption => "set_option"
  | options => "options"
  | setOptions => "set_options"
  | parse => "parse"
  | linkageSet => "linkage_set"
  | selectLinkage => "select_linkage"
  | selectedLinkage => "selected_linkage"
  | clear => "clear"
  | diagram => "diagram"
  | postscript => "postscript"

end LinkParsing
