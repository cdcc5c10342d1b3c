/-!
# Names and values of parse options
-/

namespace LinkParsing

/-- The options of a parse. -/
inductive OptionName where
  | maxLinkages
  | parseTimeLimitSeconds
  | verbosity
  | maxNullCount
  | displayWalls
  | repeatableRand
  deriving DecidableEq, Repr

namespace OptionName

/-- All options, in the order in which they are declared and written. -/
def all : List OptionName :=
  [maxLinkages, parseTimeLimitSeconds, verbosity, maxNullCount, displayWalls, repeatableRand]

/-- The name that is used in messages and documents. -/
def text : OptionName → String
  | maxLinkages => "max_linkages"
  | parseTimeLimitSeconds => "parse_time_limit_seconds"
  | verbosity => "verbosity"
  | maxNullCount => "max_null_count"
  | displayWalls => "display_walls"
  | repeatableRand => "repeatable_rand"

/-- The option that a name stands for, other names for it included. -/
def ofText? : String → Option OptionName
  | "max_linkages" | "linkage_limit" => some maxLinkages
  | "parse_time_limit_seconds" | "parse_time" | "max_parse_time" => some parseTimeLimitSeconds
  | "verbosity" => some verbosity
  | "max_null_count" => some maxNullCount
  | "display_walls" => some displayWalls
  | "repeatable_rand" => some repeatableRand
  | _ => none

end OptionName

/-- The value of an option, whose type depends on the option. -/
inductive OptionValue where
  | int (n : Int64)
  | bool (b : Bool)
  deriving DecidableEq

namespace OptionValue

/-- The name of a value's type. -/
def typeName : OptionValue → String
  | int _ => "integer"
  | bool _ => "boolean"

/-- The written form of a value. -/
def toText : OptionValue → String
  | int n => toString n.toInt
  | bool b => if b then "true" else "false"

/-- The largest number that a value can hold. -/
def maxInt : Nat := 0x7FFFFFFFFFFFFFFF

/-- An unsigned number as a value; one that is too large becomes the largest. -/
def ofUInt64 (n : UInt64) : OptionValue :=
  if n.toNat ≤ maxInt then int n.toInt64 else int Int64.maxValue

end OptionValue

end LinkParsing
