/-!
# Flags of the command line

The flags, their spellings, and at which places of the command line they may stand: the
general ones before a command and behind it, those of a command behind it only.
-/

namespace LinkParsing.CommandLine

/-- What can be set on the command line. -/
inductive Flag where
  | dataDirectory
  | language
  | verbose
  | help
  | version
  | linkage
  | maxLinkages
  | timeLimit
  | maxNullCount
  | noWalls
  | diagramVerbosity
  | config
  | postscript
  | json
  deriving DecidableEq, Repr

namespace Flag

/-- The name of a flag, which is written behind two hyphens. -/
def long : Flag → String
  | dataDirectory => "data-dir"
  | language => "language"
  | verbose => "verbose"
  | help => "help"
  | version => "version"
  | linkage => "linkage"
  | maxLinkages => "max-linkages"
  | timeLimit => "time-limit"
  | maxNullCount => "max-null-count"
  | noWalls => "no-walls"
  | diagramVerbosity => "diagram-verbosity"
  | config => "config"
  | postscript => "postscript"
  | json => "json"

/-- The letter of a flag, which is written behind one hyphen. -/
def letter? : Flag → Option Char
  | language => some 'l'
  | verbose => some 'v'
  | help => some 'h'
  | version => some 'V'
  | _ => none

/-- Whether a flag takes a value. -/
def takesValue : Flag → Bool
  | verbose | help | version | noWalls | json => false
  | _ => true

/-- Whether a number below zero can be the value of a flag when it is an argument of its
own. -/
def takesNegative : Flag → Bool
  | linkage => true
  | _ => false

end Flag

/-- The part of the command line that an argument belongs to. -/
inductive Place where
  /-- Before the command. -/
  | top
  | info
  | parse
  | languages
  deriving DecidableEq, Repr

namespace Place

/-- The place behind a command. -/
def ofCommand? : String → Option Place
  | "info" => some info
  | "parse" => some parse
  | "languages" => some languages
  | _ => none

/-- The flags that may stand at a place. -/
def flags : Place → List Flag
  | top => [.dataDirectory, .language, .verbose, .help, .version]
  | info => [.dataDirectory, .language, .verbose, .help]
  | languages => [.dataDirectory, .language, .verbose, .help]
  | parse =>
    [.dataDirectory, .language, .verbose, .help, .linkage, .maxLinkages, .timeLimit, .maxNullCount,
      .noWalls, .diagramVerbosity, .config, .postscript, .json]

end Place

end LinkParsing.CommandLine
