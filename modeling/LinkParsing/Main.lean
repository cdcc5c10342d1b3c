import LinkParsing.CommandLine.Run
import LinkParsing.Pattern.Reading

/-!
# The program

Reads the files that the arguments are about, runs the command on them, and prints and
writes what comes of it.
-/

namespace LinkParsing.CommandLine

/-- The name under which the bundled dictionaries are found. -/
def bundledDirectory : String := "bundled"

/-- Put a tree where a path leads to, with the directories on the way to it. -/
def mount (new : FileTree) (path : String) (tree : FileTree) : FileTree :=
  let (place, tree) := (FileTree.segments path).foldl
    (fun (place, tree) segment =>
      if segment = "" || segment = "." then (place, tree)
      else if segment = ".." then (place.tail, tree)
      else (segment :: place, FileTree.makeDirectory (segment :: place).reverse tree))
    (([] : List String), tree)
  FileTree.insert new place.reverse tree

/-- Whether the content of a file matters: below a directory of dictionaries only that of
lexicons and word patterns does. -/
def isContentNeeded (name : String) : Bool := name = lexiconFile || name = patternsFile

/-- Read what is at a path, directories down to a depth. -/
def readTree : Nat → (path name : String) → IO (Option FileTree)
  | depth, path, name => do
    let place ← IO.FS.realPath path
    if ← place.isDir then
      match depth with
      | 0 => return some .empty
      | depth + 1 =>
        let entries ← place.readDir
        let entries ← entries.toList.mapM fun e => do
          return (e.fileName, ← readTree depth (joinPath path e.fileName) e.fileName)
        return some (.directory (entries.filterMap fun (name, tree) => tree.map ((name, ·))))
    else if ← place.pathExists then
      if isContentNeeded name then
        return some (.file (← IO.FS.readBinFile path).toList)
      else return some (.file [])
    else return none

/-- Add what is at a path to the files that the program sees. -/
def see (path : String) (depth : Nat) (files : FileTree) : IO FileTree := do
  match ← readTree depth path lexiconFile with
  | some tree => return mount tree path files
  | none => return files

/-- The directory part of a path. -/
def parentPath (path : String) : String :=
  match (FileTree.segments path).dropLast with
  | [] => "."
  | [""] => "/"
  | names => "/".intercalate names

/-- The files that a run is about. -/
def filesOf (configuredRoot : Option String) (i : Invocation) : IO FileTree := do
  let files := FileTree.insert Bundled.files [bundledDirectory] .empty
  let files ← match i.general.dataDirectory.or configuredRoot with
    | some root => see root 2 files
    | none => pure files
  match i.command with
  | .parse _ choices =>
    let files ← match choices.postscript with
      | some path => do
        let files ← if (files.locate (parentPath path)).toOption.isSome then pure files
          else see (parentPath path) 0 files
        if (files.locate path).toOption.isSome then pure files else see path 0 files
      | none => pure files
    match choices.config with
    | some path => see path 0 files
    | none => return files
  | _ => return files

/-- Report an error to whoever watches. -/
def report (e : Error) : IO Unit := do
  IO.eprintln e.code
  IO.eprintln s!"error: {e.message}"
  match e.help? with
  | some help => IO.eprintln s!"help: {help}"
  | none => return

/-- Write the file that a run has written. -/
def writeFile (outcome : Outcome) : IO UInt32 := do
  match outcome.written with
  | none => return 0
  | some (path, content) =>
    try
      IO.FS.writeBinFile path content.toByteArray
      return 0
    catch e =>
      report (.configuration (.unwritableFile path (toString e)))
      return 1

/-- Four words that the system draws at random. -/
def drawEntropy : IO Sampling.Generator := do
  let bytes ← IO.getRandomBytes 32
  let word (i : Nat) : UInt64 :=
    (bytes.extract (8 * i) (8 * i + 8)).foldl (fun word byte => word * 256 + byte.toUInt64) 0
  return ⟨word 0, word 1, word 2, word 3⟩

/-- Run the program. -/
def runProgram (arguments : List String) : IO UInt32 := do
  match readArguments arguments with
  | .error fault =>
    IO.eprintln s!"error: {fault.message}"
    return 2
  | .ok .version =>
    IO.println versionText
    return 0
  | .ok .help =>
    IO.print usage
    return 0
  | .ok (.run i) =>
    let configuredRoot := (← IO.getEnv "LINK_GRAMMAR_DATA").filter (!·.isEmpty)
    let files ← filesOf configuredRoot i
    let entropy ← drawEntropy
    let outcome := run ⟨files, bundledDirectory, configuredRoot, Pattern.compile, entropy⟩ i
    IO.print outcome.printed
    match outcome.result with
    | .ok () => writeFile outcome
    | .error e =>
      report e
      return 1

end LinkParsing.CommandLine

def main (arguments : List String) : IO UInt32 := LinkParsing.CommandLine.runProgram arguments
