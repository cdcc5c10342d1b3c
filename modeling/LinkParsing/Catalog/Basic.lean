import LinkParsing.Catalog.Loading

/-!
# Catalogs of dictionaries

A catalog finds the dictionaries of languages below its search root and loads them.
A sharing catalog loads the dictionary of a language once and gives the same one ever
after, whatever happens to the root or to the files; other catalogs load anew every
time.
-/

namespace LinkParsing

/-- Whether those who ask for a language share one dictionary. -/
inductive SharePolicy where
  | shared
  | separate
  deriving DecidableEq, Repr

def SharePolicy.name : SharePolicy → String
  | shared => "Shared"
  | separate => "Private"

/-- A dictionary that a catalog has loaded. -/
structure LoadedDictionary where
  /-- The number of dictionaries loaded before it; two loaded dictionaries of a catalog
  are the same one when their numbers are equal. -/
  serial : Nat
  dictionary : Dictionary

/-- A catalog: where it looks for dictionaries, and those it shares. -/
structure Catalog where
  root : String
  policy : SharePolicy
  /-- The shared dictionaries by their languages. -/
  loaded : List (String × LoadedDictionary)
  /-- The number of dictionaries loaded so far. -/
  count : Nat

namespace Catalog

/-- A catalog that has loaded nothing yet. -/
def make (root : String) (policy : SharePolicy) : Catalog := ⟨root, policy, [], 0⟩

/-- Check that a search root is a directory.  Every directory of a tree of files can be listed: who
may read what is not part of it, so that a root cannot be refused for that. -/
def checkRoot (files : FileTree) (root : String) : Except Error Unit :=
  if files.isDirectory root then .ok () else .error (.configuration (.noSearchRoot root))

/-- A catalog with a search root that is a directory. -/
def makeChecked (files : FileTree) (root : String) (policy : SharePolicy) :
    Except Error Catalog := do
  checkRoot files root
  return make root policy

/-- The catalog that is used when nothing else is said: its root is the one that is
set in the environment, if it is set to something, else that of the bundled
dictionaries. -/
def default (bundledRoot : String) (configured : Option String) : Catalog :=
  match configured with
  | some root => make (if root.isEmpty then bundledRoot else root) .shared
  | none => make bundledRoot .shared

/-- Look for dictionaries that are not loaded yet somewhere else. -/
def setRoot (files : FileTree) (c : Catalog) (root : String) : Except Error Unit × Catalog :=
  match checkRoot files root with
  | .error e => (.error e, c)
  | .ok () => (.ok (), { c with root })

/-- The shared dictionary of a language. -/
def shared? (c : Catalog) (language : String) : Option LoadedDictionary :=
  c.loaded.lookup language

/-- Whether the dictionary of a language is shared already. -/
def isLoaded (c : Catalog) (language : String) : Bool := (c.shared? language).isSome

/-- Load the dictionary of a language from the files. -/
def loadNew (compile : Lexicon.PatternCompiler) (files : FileTree) (c : Catalog)
    (language : String) : Except Error LoadedDictionary × Catalog :=
  match Dictionary.load compile files language c.root with
  | .error e => (.error e, c)
  | .ok dictionary =>
    let new : LoadedDictionary := ⟨c.count, dictionary⟩
    let loaded :=
      match c.policy with
      | .shared => (language, new) :: c.loaded
      | .separate => c.loaded
    (.ok new, { c with loaded, count := c.count + 1 })

/-- The dictionary of a language, a shared one if there is one. -/
def load (compile : Lexicon.PatternCompiler) (files : FileTree) (c : Catalog)
    (language : String) : Except Error LoadedDictionary × Catalog :=
  match c.policy with
  | .separate => c.loadNew compile files language
  | .shared =>
    match c.shared? language with
    | some found => (.ok found, c)
    | none => c.loadNew compile files language

/-- The languages below the search root, in order. -/
def languages (files : FileTree) (c : Catalog) : Except Error (List String) :=
  availableLanguages files c.root

end Catalog

end LinkParsing
