import LinkParsing.Connector
import LinkParsing.Lexicon.Reader

/-!
# Words, names and connectors in lexicon text

Each scanner splits the longest lexeme of its kind off the front of a text, or
fails.  Blanks and comments are not skipped inside a lexeme.
-/

namespace LinkParsing.Lexicon

/-- The characters of a name between angle brackets. -/
def isMacroChar (c : Char) : Bool := c != '>' && !isBlank c

/-- The characters of a word that is written without quotes. -/
def isBareChar (c : Char) : Bool :=
  !(isBlank c || c == ':' || c == ';' || c == '"' || c == '%')

/-- A name in angle brackets, brackets included. -/
def scanMacro : List Char → Option (List Char × List Char)
  | '<' :: text =>
    let body := text.takeWhile isMacroChar
    match body, text.dropWhile isMacroChar with
    | _ :: _, '>' :: rest => some ('<' :: body ++ ['>'], rest)
    | _, _ => none
  | _ => none

/-- A word in double quotes, quotes included. -/
def scanQuoted : List Char → Option (List Char × List Char)
  | '"' :: text =>
    let body := text.takeWhile (· != '"')
    match body, text.dropWhile (· != '"') with
    | _ :: _, '"' :: rest => some ('"' :: body ++ ['"'], rest)
    | _, _ => none
  | _ => none

/-- A word without quotes. -/
def scanBare (text : List Char) : Option (List Char × List Char) :=
  match text.takeWhile isBareChar with
  | [] => none
  | word => some (word, text.dropWhile isBareChar)

/-- A connector: `@` or nothing, capitals, a subscript, a sign. -/
def scanConnector (text : List Char) : Option (List Char × List Char) :=
  let (mark, text) := match text with
    | '@' :: rest => (['@'], rest)
    | _ => ([], text)
  let head := text.takeWhile Connector.isHeadChar
  let text := text.dropWhile Connector.isHeadChar
  let subscript := text.takeWhile Connector.isSubscriptChar
  match head, text.dropWhile Connector.isSubscriptChar with
  | _ :: _, sign :: rest =>
    if sign = '+' || sign = '-' then some (mark ++ head ++ subscript ++ [sign], rest) else none
  | _, _ => none

/-- The word inside a quoted lexeme. -/
def unquote (lexeme : List Char) : List Char := lexeme.tail.dropLast

end LinkParsing.Lexicon
