import LinkParsing.Dictionary
import LinkParsing.FileTree

/-!
# Dictionaries on file

A root directory has a directory for each language, named by the language's code, with
the lexicon in the file `4.0.dict` and, if there are any, word patterns in `4.0.regex`.
-/

namespace LinkParsing

/-- The name of the file that holds a lexicon. -/
def lexiconFile : String := "4.0.dict"

/-- The name of the file that holds word patterns. -/
def patternsFile : String := "4.0.regex"

/-- Whether a text can be the code of a language: it names an entry of a directory. -/
def isLanguageCode (code : String) : Bool :=
  !code.isEmpty && code.toList.all (fun c => c != '/' && c != '\\') && code != "." && code != ".."

namespace Dictionary

/-- The lexicon and the word patterns of a language, as texts. -/
def readFiles (files : FileTree) (language root : String) :
    Except Error (String × Option String) :=
  let fail (fault : DictionaryFault) := Except.error (Error.dictionary language root fault none)
  let directory := joinPath root language
  let lexiconPath := joinPath directory lexiconFile
  let patternsPath := joinPath directory patternsFile
  if !isLanguageCode language then fail .invalidCode
  else if !files.isFile lexiconPath then fail (.noLexicon directory)
  else
    match files.readText lexiconPath with
    | .error fault => fail (.unreadable lexiconPath fault.message)
    | .ok lexicon =>
      if !files.isFile patternsPath then .ok (lexicon, none)
      else
        match files.readText patternsPath with
        | .error fault => fail (.unreadable patternsPath fault.message)
        | .ok patterns => .ok (lexicon, some patterns)

/-- The dictionary of a language below a root directory. -/
def load (compile : Lexicon.PatternCompiler) (files : FileTree) (language root : String) :
    Except Error Dictionary := do
  let (lexicon, patterns) ← readFiles files language root
  build compile language root lexicon patterns

end Dictionary

/-- The languages that have a lexicon below a directory, in no particular order. -/
def languagesIn (root : FileTree) : List String :=
  match root with
  | .file _ => []
  | .directory entries =>
    (entries.filter fun e =>
      match e.2.child? lexiconFile with
      | some (.file _) => true
      | _ => false).map (·.1)

/-- The order of texts by their characters. -/
def textLe (a b : String) : Bool := !decide (b < a)

/-- The languages that have a lexicon below a root directory, in order.  A root that is
a file has none. -/
def availableLanguages (files : FileTree) (root : String) : Except Error (List String) :=
  match files.locate root with
  | .ok tree => .ok ((languagesIn tree).mergeSort textLe)
  | .error fault =>
    .error (.configuration (.failedWalk root s!"IO error for operation on {root}: {fault.message}"))

end LinkParsing
