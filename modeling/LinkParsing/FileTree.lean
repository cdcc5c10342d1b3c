import LinkParsing.Text.Utf8

/-!
# File trees

Files and directories as a value.  A path is a text of names between slashes and is
followed from the top of the tree, name by name, through directories; `.` and an empty
name stay where they are and `..` goes back.
-/

namespace LinkParsing

/-- A file with its bytes, or a directory with its entries. -/
inductive FileTree where
  | file (content : List UInt8)
  | directory (entries : List (String × FileTree))

/-- Why a path leads nowhere. -/
inductive PathFault where
  | missing
  | notADirectory
  | isADirectory
  deriving DecidableEq, Repr

def PathFault.message : PathFault → String
  | missing => "No such file or directory (os error 2)"
  | notADirectory => "Not a directory (os error 20)"
  | isADirectory => "Is a directory (os error 21)"

/-- Why a text cannot be read. -/
inductive ReadFault where
  | path (fault : PathFault)
  | notText
  deriving DecidableEq, Repr

def ReadFault.message : ReadFault → String
  | path fault => fault.message
  | notText => "stream did not contain valid UTF-8"

namespace FileTree

/-- A directory without entries. -/
def empty : FileTree := directory []

/-- A file that holds a text. -/
def ofText (text : String) : FileTree := file (Text.Utf8.encode text.toList)

/-! ## By names -/

/-- The entry of a directory with a name. -/
def child? (name : String) : FileTree → Option FileTree
  | file _ => none
  | directory entries => entries.lookup name

/-- What names lead to, one below the other. -/
def find? : List String → FileTree → Option FileTree
  | [], tree => some tree
  | name :: names, tree => (tree.child? name).bind (find? names)

/-- Give a directory's entry a new value, or add it. -/
def setEntry (name : String) (tree : FileTree) :
    List (String × FileTree) → List (String × FileTree)
  | [] => [(name, tree)]
  | e :: entries => if e.1 = name then (name, tree) :: entries else e :: setEntry name tree entries

/-- Put a tree where names lead to, with the directories on the way to it.  A file on
the way stays as it is. -/
def insert (new : FileTree) : List String → FileTree → FileTree
  | [], _ => new
  | _ :: _, file content => file content
  | name :: names, directory entries =>
    directory (setEntry name (insert new names ((entries.lookup name).getD empty)) entries)

/-- Remove what names lead to, with all below it. -/
def erase : List String → FileTree → FileTree
  | [], tree => tree
  | _, file content => file content
  | [name], directory entries => directory (entries.filter (·.1 != name))
  | name :: names, directory entries =>
    match entries.lookup name with
    | some tree => directory (setEntry name (erase names tree) entries)
    | none => directory entries

/-- Make a directory, with those on the way to it, unless there is something already. -/
def makeDirectory (names : List String) (tree : FileTree) : FileTree :=
  if (tree.find? names).isSome then tree else insert empty names tree

/-! ## By paths -/

/-- The names between the slashes of a path, on characters. -/
def splitSlashes : List Char → List (List Char)
  | [] => [[]]
  | c :: rest =>
    if c = '/' then [] :: splitSlashes rest
    else
      match splitSlashes rest with
      | name :: names => (c :: name) :: names
      | [] => [[c]]

/-- The names between the slashes of a path. -/
def segments (path : String) : List String := (splitSlashes path.toList).map String.ofList

/-- Follow the segments of a path from a place that is given by its names, the last
one first; the answer is the names of the place where they lead to, in order. -/
def follow (tree : FileTree) (place : List String) :
    List String → Except PathFault (List String)
  | [] => .ok place.reverse
  | segment :: segments =>
    match tree.find? place.reverse with
    | some (directory entries) =>
      if segment = "" || segment = "." then follow tree place segments
      else if segment = ".." then follow tree place.tail segments
      else if (entries.lookup segment).isSome then follow tree (segment :: place) segments
      else .error .missing
    | some (file _) => .error .notADirectory
    | none => .error .missing

/-- The names of the place that a path leads to. -/
def resolve (tree : FileTree) (path : String) : Except PathFault (List String) :=
  if path.isEmpty then .error .missing else tree.follow [] (segments path)

/-- What a path leads to. -/
def locate (tree : FileTree) (path : String) : Except PathFault FileTree := do
  let names ← tree.resolve path
  match tree.find? names with
  | some found => .ok found
  | none => .error .missing

/-- Whether a path leads to a file. -/
def isFile (tree : FileTree) (path : String) : Bool :=
  match tree.locate path with
  | .ok (file _) => true
  | _ => false

/-- Whether a path leads to a directory. -/
def isDirectory (tree : FileTree) (path : String) : Bool :=
  match tree.locate path with
  | .ok (directory _) => true
  | _ => false

/-- The text of a file. -/
def readText (tree : FileTree) (path : String) : Except ReadFault String :=
  match tree.locate path with
  | .error fault => .error (.path fault)
  | .ok (directory _) => .error (.path .isADirectory)
  | .ok (file content) =>
    match Text.Utf8.decode content with
    | .ok text => .ok (String.ofList text)
    | .error _ => .error .notText

/-- Write a file into a directory that is there, over a file or a new one. -/
def write (tree : FileTree) (path : String) (content : List UInt8) : Except PathFault FileTree :=
  let parts := segments path
  match parts.getLast? with
  | none => .error .missing
  | some name => do
    if path.isEmpty then .error .missing
    let place ← tree.follow [] parts.dropLast
    match tree.find? place with
    | some (directory entries) =>
      if name = "" || name = "." || name = ".." then .error .isADirectory
      else
        match entries.lookup name with
        | some (directory _) => .error .isADirectory
        | _ => .ok (insert (file content) (place ++ [name]) tree)
    | some (file _) => .error .notADirectory
    | none => .error .missing

end FileTree

end LinkParsing
