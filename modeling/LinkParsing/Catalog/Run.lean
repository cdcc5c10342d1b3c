import LinkParsing.Catalog.Basic
import LinkParsing.Session.Basic

/-!
# Using a catalog

What happens to a catalog while the files below it may change, and sessions over its
dictionaries.
-/

namespace LinkParsing

/-- Something that is done with a catalog, or to the files. -/
inductive CatalogEvent where
  | load (language : String)
  | setRoot (root : String)
  /-- The files change, in whatever way. -/
  | change (files : FileTree)

/-- What an event leads to. -/
inductive CatalogReply where
  | loaded (dictionary : LoadedDictionary)
  | done
  | failed (error : Error)

/-- A catalog, the files that it sees and the compiler of the patterns in them. -/
structure CatalogScene where
  compile : Lexicon.PatternCompiler
  files : FileTree
  catalog : Catalog

namespace CatalogScene

/-- What comes of an event, and what is there afterwards. -/
def step (s : CatalogScene) : CatalogEvent → CatalogReply × CatalogScene
  | .load language =>
    match s.catalog.load s.compile s.files language with
    | (.ok found, catalog) => (.loaded found, { s with catalog })
    | (.error e, catalog) => (.failed e, { s with catalog })
  | .setRoot root =>
    match s.catalog.setRoot s.files root with
    | (.ok (), catalog) => (.done, { s with catalog })
    | (.error e, catalog) => (.failed e, { s with catalog })
  | .change files => (.done, { s with files })

/-- What is there after a sequence of events. -/
def run (s : CatalogScene) (events : List CatalogEvent) : CatalogScene :=
  events.foldl (fun s event => (s.step event).2) s

end CatalogScene

/-- A new session over the dictionary of a language. -/
def Catalog.createSession (compile : Lexicon.PatternCompiler) (entropy : Sampling.Generator)
    (files : FileTree) (c : Catalog) (language : String) : Except Error LiveSession × Catalog :=
  match c.load compile files language with
  | (.ok found, c) => (.ok (.create entropy language found.dictionary), c)
  | (.error e, c) => (.error e, c)

end LinkParsing
