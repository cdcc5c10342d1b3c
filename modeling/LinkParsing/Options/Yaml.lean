import LinkParsing.Options.Yaml.Fields

/-!
# Options in YAML

A text with one document, which is a mapping of options by name, as lines `name: value`
of the same indentation or between curly brackets.  Values are integers and truth values.
A document without content gives no option.
-/

namespace LinkParsing.Options

/-- Read the text of a document. -/
def Yaml.readDocument (text : List Char) : Option Document := do
  return .named (← readTokens (← tokens? text))

/-- The options of a YAML document. -/
def ofYaml (text : String) : Except Error Options := ofDocument (Yaml.readDocument text.toList)

end LinkParsing.Options
