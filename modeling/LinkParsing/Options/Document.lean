import LinkParsing.Options.Basic

/-!
# Options documents

A document gives options by name, or in the order of their declaration; what it does
not give keeps its default.  Numbers have no sign, no option may be given twice, and
nothing else may be there.
-/

namespace LinkParsing

/-- A value in a document. -/
inductive DocumentValue where
  | number (n : Nat)
  | truth (b : Bool)
  deriving DecidableEq, Repr

namespace Options

/-- The option that a name in a document stands for. -/
def documentName? : String → Option OptionName
  | "max_linkages" => some .maxLinkages
  | "parse_time_limit_seconds" | "parse_time" => some .parseTimeLimitSeconds
  | "verbosity" => some .verbosity
  | "max_null_count" => some .maxNullCount
  | "display_walls" => some .displayWalls
  | "repeatable_rand" => some .repeatableRand
  | _ => none

/-- Store a value of a document, if it has the type and the range of the option. -/
def store? (o : Options) : OptionName → DocumentValue → Option Options
  | .maxLinkages, .number n =>
    if n < UInt64.size then some { o with maxLinkages := n.toUInt64 } else none
  | .parseTimeLimitSeconds, .number n =>
    if n < UInt64.size then some { o with parseTimeLimitSeconds := n.toUInt64 } else none
  | .verbosity, .number n =>
    if n < UInt32.size then some { o with verbosity := n.toUInt32 } else none
  | .maxNullCount, .number n =>
    if n < UInt64.size then some { o with maxNullCount := n.toUInt64 } else none
  | .displayWalls, .truth b => some { o with displayWalls := b }
  | .repeatableRand, .truth b => some { o with repeatableRand := b }
  | _, _ => none

/-- Store the values of a document, none of which may be given twice. -/
def storeAll? (o : Options) (given : List OptionName) :
    List (OptionName × DocumentValue) → Option Options
  | [] => some o
  | (name, value) :: fields =>
    if given.contains name then none
    else
      match o.store? name value with
      | some o => storeAll? o (name :: given) fields
      | none => none

/-- What a document holds. -/
inductive Document where
  | named (fields : List (String × DocumentValue))
  /-- Values in the order in which options are declared. -/
  | listed (values : List DocumentValue)
  deriving DecidableEq, Repr

/-- The options that a document gives, before they are checked. -/
def Document.options? : Document → Option Options
  | .named fields => do
    let known ← fields.mapM fun (name, value) => (documentName? name).map (·, value)
    storeAll? .default [] known
  | .listed values =>
    if values.length ≤ OptionName.all.length then
      storeAll? .default [] (OptionName.all.zip values)
    else none

/-- The options of a document that has been read, or not. -/
def ofDocument (document : Option Document) : Except Error Options :=
  match document.bind Document.options? with
  | none => .error (.configuration .invalidDocument)
  | some o => do
    o.validate
    return o

end Options

end LinkParsing
