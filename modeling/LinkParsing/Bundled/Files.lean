import LinkParsing.Bundled.English
import LinkParsing.Bundled.Russian
import LinkParsing.Catalog.Loading

/-!
# The directory of the bundled dictionaries
-/

namespace LinkParsing.Bundled

/-- The directory of a language. -/
def languageFiles (lexicon patterns : String) : FileTree :=
  .directory [(lexiconFile, .ofText lexicon), (patternsFile, .ofText patterns)]

/-- The directory of the bundled dictionaries. -/
def files : FileTree :=
  .directory
    [("en", languageFiles englishLexicon englishPatterns),
      ("ru", languageFiles russianLexicon russianPatterns)]

end LinkParsing.Bundled
