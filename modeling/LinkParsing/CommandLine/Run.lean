import LinkParsing.Bundled.Files
import LinkParsing.Catalog.Run
import LinkParsing.CommandLine.Arguments
import LinkParsing.Options.Json
import LinkParsing.Options.Yaml

/-!
# Commands

What the program does with its arguments and the files it sees: the text it prints, the
file it may write, and whether it succeeds.  A PostScript document is written last, so
a run that fails has written nothing.
-/

namespace LinkParsing.CommandLine

/-- What a run of the program finds. -/
structure Environment where
  files : FileTree
  /-- The directory of the bundled dictionaries. -/
  bundledRoot : String
  /-- The directory of dictionaries that is set in the environment. -/
  configuredRoot : Option String
  /-- The compiler of word patterns. -/
  compile : Lexicon.PatternCompiler
  /-- The words that the system draws at random for it. -/
  entropy : Sampling.Generator

/-- What a run of the program leads to. -/
structure Outcome where
  printed : String
  /-- The error with which it ended, if it failed. -/
  result : Except Error Unit
  /-- The file that it wrote, if it wrote one: its path and its bytes. -/
  written : Option (String × List UInt8)
  /-- The files afterwards. -/
  files : FileTree

/-- The name of the program and its version. -/
def versionText : String := "link-grammar " ++ PostScript.version

/-! ## Texts -/

/-- The summary of a parse. -/
def summaryText (s : ParseSummary) : String :=
  let found :=
    if s.numLinkages < s.numFound then
      [if s.numFound = Engine.maxPopulation then s!"found: >= {s.numFound}"
        else s!"found: {s.numFound}"]
    else []
  unlines
    ([s!"linkages: {s.numLinkages}", s!"valid: {s.numValid}"] ++ found ++
      (if 0 < s.nullCount then [s!"null words: {s.nullCount}"] else []) ++
      (if s.timerExpired then ["parse time limit reached"] else []))

/-- The summary of a parse in JSON. -/
def summaryJson (s : ParseSummary) : String :=
  let fields :=
    [("num_linkages", toString s.numLinkages), ("num_valid", toString s.numValid),
      ("num_linkages_found", toString s.numFound), ("null_count", toString s.nullCount),
      ("timer_expired", if s.timerExpired then "true" else "false")]
  let lines := fields.map fun (name, value) => "  \"" ++ name ++ "\": " ++ value
  "\x7B\n" ++ ",\n".intercalate lines ++ "\n\x7D\n"

/-- A linkage's number above its diagram. -/
def headedDiagram (index : Int) (diagram : String) : String :=
  s!"--- linkage {index} ---\n" ++ diagram

/-- The languages that were found, a line for each. -/
def languagesText (languages : List String) : String :=
  match languages with
  | [] => "  No dictionaries found.\n"
  | _ => unlines (languages.map ("  " ++ ·))

/-! ## Options -/

/-- What stands behind the last stop of a path's last name, if there is something before
the stop. -/
def extension? (path : String) : Option String :=
  let names := (FileTree.segments path).filter fun name => name != "" && name != "."
  match names.getLast? with
  | none => none
  | some ".." => none
  | some name =>
    match name.toList.reverse.dropWhile (· != '.') with
    | _ :: _ :: _ => some (String.ofList (name.toList.reverse.takeWhile (· != '.')).reverse)
    | _ => none

/-- The options of a document on file: JSON if the path says so, else YAML. -/
def readOptions (files : FileTree) (path : String) : Except Error Options :=
  match files.readText path with
  | .error fault => .error (.configuration (.unreadableFile path fault.message))
  | .ok text => if extension? path = some "json" then Options.ofJson text else Options.ofYaml text

/-- The options that a document gives, or the usual ones. -/
def baseOptions (files : FileTree) (choices : ParseChoices) : Except Error Options :=
  match choices.config with
  | some path => readOptions files path
  | none => .ok .default

/-- The options with those that flags give in place of their own. -/
def overrideOptions (choices : ParseChoices) (o : Options) : Except Error Options := do
  let o ← match choices.maxLinkages with
    | some n => o.setMaxLinkages n
    | none => .ok o
  return { o with
    parseTimeLimitSeconds := choices.timeLimit.getD o.parseTimeLimitSeconds
    maxNullCount := choices.maxNullCount.getD o.maxNullCount
    verbosity := choices.diagramVerbosity.getD o.verbosity
    displayWalls := if choices.noWalls then false else o.displayWalls }

/-- The options of a parse. -/
def effectiveOptions (files : FileTree) (choices : ParseChoices) : Except Error Options := do
  let o ← baseOptions files choices
  overrideOptions choices o

/-! ## Commands -/

/-- The number of the linkage to show. -/
def ParseChoices.index (choices : ParseChoices) : Int := choices.linkage.getD 0

/-- The catalog that a run uses. -/
def catalogOf (env : Environment) (general : GeneralChoices) : Except Error Catalog :=
  match general.dataDirectory with
  | some root => Catalog.makeChecked env.files root .shared
  | none => .ok (.default env.bundledRoot env.configuredRoot)

/-- A session over the language that was asked for. -/
def sessionOf (env : Environment) (catalog : Catalog) (general : GeneralChoices) :
    Except Error LiveSession :=
  let language := general.language.getD "en"
  (catalog.createSession env.compile env.entropy env.files language).1

/-- A run that ends without success. -/
def failed (env : Environment) (printed : String) (e : Error) : Outcome :=
  ⟨printed, .error e, none, env.files⟩

/-- A run that ends with success and leaves the files as they are. -/
def succeeded (env : Environment) (printed : String) : Outcome :=
  ⟨printed, .ok (), none, env.files⟩

/-- Print the version of the parser and the language. -/
def runInfo (env : Environment) (s : LiveSession) : Outcome :=
  succeeded env (unlines [s.engine.version, s.language])

/-- Write the selected linkage as a PostScript document, if one was asked for. -/
def writeDocument (env : Environment) (choices : ParseChoices) (printed : String)
    (s : LiveSession) : Outcome :=
  match choices.postscript with
  | none => succeeded env printed
  | some path =>
    match s.postscript with
    | .error e => failed env printed e
    | .ok document =>
      let content := Text.Utf8.encode document.toList
      match env.files.write path content with
      | .error fault =>
        failed env printed (.configuration (.unwritableFile path fault.message))
      | .ok files => ⟨printed, .ok (), some (path, content), files⟩

/-- Print the diagram of the selected linkage, unless only JSON was asked for. -/
def showLinkage (env : Environment) (choices : ParseChoices) (printed : String)
    (s : LiveSession) : Outcome :=
  if choices.json then writeDocument env choices printed s
  else
    match s.diagram with
    | .error e => failed env printed e
    | .ok diagram => writeDocument env choices (printed ++ headedDiagram choices.index diagram) s

/-- Select the linkage to show, if there is any. -/
def selectLinkage (env : Environment) (choices : ParseChoices) (summary : ParseSummary)
    (s : LiveSession) : Outcome :=
  let printed := if choices.json then summaryJson summary else summaryText summary
  if summary.numLinkages = 0 then succeeded env printed
  else
    match s.selectLinkage choices.index with
    | (.error e, _) => failed env printed e
    | (.ok _, s) => showLinkage env choices printed s

/-- Set the options and parse the sentence. -/
def parseSentence (env : Environment) (sentence : String) (choices : ParseChoices)
    (s : LiveSession) : Except Error (ParseSummary × LiveSession) :=
  match effectiveOptions env.files choices with
  | .error e => .error e
  | .ok options =>
    match s.setOptions options with
    | (.error e, _) => .error e
    | (.ok (), s) =>
      match s.parse sentence with
      | (.error e, _) => .error e
      | (.ok summary, s) => .ok (summary, s)

/-- Parse a sentence, print its summary and show one of its linkages. -/
def runParse (env : Environment) (sentence : String) (choices : ParseChoices)
    (s : LiveSession) : Outcome :=
  match parseSentence env sentence choices s with
  | .error e => failed env "" e
  | .ok (summary, s) => selectLinkage env choices summary s

/-- Print the languages that have a dictionary. -/
def runLanguages (env : Environment) (catalog : Catalog) : Outcome :=
  match catalog.languages env.files with
  | .error e => failed env "" e
  | .ok languages => succeeded env (languagesText languages)

/-- Do what was asked for. -/
def run (env : Environment) (i : Invocation) : Outcome :=
  match catalogOf env i.general with
  | .error e => failed env "" e
  | .ok catalog =>
    match i.command with
    | .languages => runLanguages env catalog
    | .info =>
      match sessionOf env catalog i.general with
      | .error e => failed env "" e
      | .ok s => runInfo env s
    | .parse sentence choices =>
      match sessionOf env catalog i.general with
      | .error e => failed env "" e
      | .ok s => runParse env sentence choices s

/-! ## Messages for those who watch -/

/-- Which messages are of interest, after the verbosity was raised so often. -/
def logFilter : Nat → String
  | 0 => "link_grammar=warn"
  | 1 => "link_grammar=info"
  | _ => "link_grammar=debug"

/-- How the program is used. -/
def usage : String :=
  unlines
    ["Parse sentences with a link grammar dictionary and draw their linkages.",
      "",
      "Usage: link-grammar [OPTIONS] [COMMAND]",
      "",
      "Commands:",
      "  info       Print the engine version and the dictionary language",
      "  parse      Parse a sentence and draw one of its linkages",
      "  languages  List the dictionaries found under the data directory",
      "",
      "Options:",
      "      --data-dir <DATA_DIR>  Directory holding <language>/4.0.dict dictionaries",
      "  -l, --language <LANGUAGE>  Dictionary language code [default: en]",
      "  -v, --verbose...           More log output on stderr",
      "  -h, --help                 Print help",
      "  -V, --version              Print version"]

end LinkParsing.CommandLine
