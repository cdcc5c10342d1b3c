import LinkParsing.Error

/-!
# Parse options

Options are changed one by one, by name and value, and every change is checked.  A
change that does not pass leaves the options as they are.
-/

namespace LinkParsing

/-- How sentences are parsed and linkages are shown. -/
structure Options where
  /-- How many linkages are kept. -/
  maxLinkages : UInt64
  /-- How long a parse may take; zero is no limit. -/
  parseTimeLimitSeconds : UInt64
  /-- How much a diagram shows. -/
  verbosity : UInt32
  /-- How many words may stay without links. -/
  maxNullCount : UInt64
  /-- Whether diagrams show the walls. -/
  displayWalls : Bool
  /-- Whether samples are the same every time. -/
  repeatableRand : Bool
  deriving DecidableEq

namespace Options

/-- The options that hold where nothing else is said. -/
def default : Options := ⟨100, 0, 0, 0, true, true⟩

instance : Inhabited Options := ⟨default⟩

/-- The value of an option. -/
def get (o : Options) : OptionName → OptionValue
  | .maxLinkages => .ofUInt64 o.maxLinkages
  | .parseTimeLimitSeconds => .ofUInt64 o.parseTimeLimitSeconds
  | .verbosity => .int o.verbosity.toUInt64.toInt64
  | .maxNullCount => .ofUInt64 o.maxNullCount
  | .displayWalls => .bool o.displayWalls
  | .repeatableRand => .bool o.repeatableRand

/-- The integer of a value. -/
def expectInteger (name : OptionName) : OptionValue → Except Error Int64
  | .int n => .ok n
  | value => .error (.configuration (.expectsInteger name value))

/-- The truth value of a value. -/
def expectBoolean (name : OptionName) : OptionValue → Except Error Bool
  | .bool b => .ok b
  | value => .error (.configuration (.expectsBoolean name value))

/-- The integer of a value, if it is not negative. -/
def expectNonNegative (name : OptionName) (value : OptionValue) : Except Error Int64 := do
  let n ← expectInteger name value
  if n < 0 then .error (.configuration (.outOfRange name .nonNegative n.toInt)) else return n

/-- The options with another number of linkages that are kept. -/
def setMaxLinkages (o : Options) (n : UInt64) : Except Error Options :=
  if n = 0 then .error (.configuration (.outOfRange .maxLinkages .positive 0))
  else .ok { o with maxLinkages := n }

/-- The options with one of them set, by name and value. -/
def set (o : Options) (name : OptionName) (value : OptionValue) : Except Error Options :=
  match name with
  | .maxLinkages => do
    let n ← expectInteger name value
    if n ≤ 0 then .error (.configuration (.outOfRange name .positive n.toInt))
    else o.setMaxLinkages n.toUInt64
  | .parseTimeLimitSeconds => do
    let n ← expectNonNegative name value
    return { o with parseTimeLimitSeconds := n.toUInt64 }
  | .verbosity => do
    let n ← expectNonNegative name value
    if n.toNatClampNeg < UInt32.size then return { o with verbosity := n.toUInt64.toUInt32 }
    else .error (.configuration (.outOfRange name .word32 n.toInt))
  | .maxNullCount => do
    let n ← expectNonNegative name value
    return { o with maxNullCount := n.toUInt64 }
  | .displayWalls => do
    let b ← expectBoolean name value
    return { o with displayWalls := b }
  | .repeatableRand => do
    let b ← expectBoolean name value
    return { o with repeatableRand := b }

/-! ## Changing in place -/

/-- A change of options that may be refused with an error. -/
abbrev ChangeM := EStateM Error Options

/-- Go on with a value that has passed its check. -/
def checked {α : Type} : Except Error α → ChangeM α
  | .ok a => pure a
  | .error e => throw e

/-- Change options as a function says, which may refuse it. -/
def inPlace (change : Options → Except Error Options) : ChangeM Unit := fun o =>
  match change o with
  | .ok o' => .ok () o'
  | .error e => .error e o

/-- Change how many linkages are kept. -/
def assignMaxLinkages (n : UInt64) : ChangeM Unit := do
  if n = 0 then throw (.configuration (.outOfRange .maxLinkages .positive 0))
  modify fun o => { o with maxLinkages := n }

/-- Change an option by name and value. -/
def assign (name : OptionName) (value : OptionValue) : ChangeM Unit :=
  match name with
  | .maxLinkages => do
    let n ← checked (expectInteger name value)
    if n ≤ 0 then throw (.configuration (.outOfRange name .positive n.toInt))
    assignMaxLinkages n.toUInt64
  | .parseTimeLimitSeconds => do
    let n ← checked (expectNonNegative name value)
    modify fun o => { o with parseTimeLimitSeconds := n.toUInt64 }
  | .verbosity => do
    let n ← checked (expectNonNegative name value)
    if n.toNatClampNeg < UInt32.size then
      modify fun o => { o with verbosity := n.toUInt64.toUInt32 }
    else throw (.configuration (.outOfRange name .word32 n.toInt))
  | .maxNullCount => do
    let n ← checked (expectNonNegative name value)
    modify fun o => { o with maxNullCount := n.toUInt64 }
  | .displayWalls => do
    let b ← checked (expectBoolean name value)
    modify fun o => { o with displayWalls := b }
  | .repeatableRand => do
    let b ← checked (expectBoolean name value)
    modify fun o => { o with repeatableRand := b }

/-! ## Names and checks -/

/-- Check what the types of the options leave open. -/
def validate (o : Options) : Except Error Unit :=
  if o.maxLinkages = 0 then .error (.configuration (.outOfRange .maxLinkages .positive 0))
  else .ok ()

/-- The option that a name stands for. -/
def nameOf (text : String) : Except Error OptionName :=
  match OptionName.ofText? text with
  | some name => .ok name
  | none => .error (.configuration (.unknownOption text))

end Options

end LinkParsing
