import LinkParsing.Options.Json

/-!
# Changes of options

Options that have been made are changed one after another: by name and value, by the
number of linkages alone, or by a document that takes their place.  The next change is
made to what the last one left, whether it was refused or not.
-/

namespace LinkParsing.Options

/-- A way to change options. -/
inductive OptionChange where
  | set (name : OptionName) (value : OptionValue)
  | setMaxLinkages (n : UInt64)
  /-- The options of a document take the place of all. -/
  | replace (text : String)

namespace OptionChange

/-- Make a change. -/
def perform : OptionChange → ChangeM Unit
  | .set name value => assign name value
  | .setMaxLinkages n => assignMaxLinkages n
  | .replace text => do
    let o ← checked (ofJson text)
    EStateM.set o

/-- The options that a change leads to, if it is not refused. -/
def result (change : OptionChange) (o : Options) : Except Error Options :=
  match change with
  | .set name value => o.set name value
  | .setMaxLinkages n => o.setMaxLinkages n
  | .replace text => ofJson text

end OptionChange

/-- The options after a list of changes, whether they were refused or not. -/
def run (o : Options) : List OptionChange → Options
  | [] => o
  | change :: changes =>
    match change.perform o with
    | .ok _ o' => o'.run changes
    | .error _ o' => o'.run changes

end LinkParsing.Options
