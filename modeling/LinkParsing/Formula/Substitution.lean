import LinkParsing.Formula

/-!
# Names replaced by their formulas

A name stands for the formula it is defined by, in which further names may occur.
Replacement gives up when definitions nest more than `maxMacroDepth` deep, as they do
without end when a name occurs in its own definition.
-/

namespace LinkParsing

/-- How deep definitions may nest. -/
def maxMacroDepth : Nat := 64

/-- Why the names in a formula cannot be replaced. -/
inductive SubstitutionError where
  | undefined (name : String)
  /-- The definitions nest too deep. -/
  | tooDeep
  deriving DecidableEq, Repr

def SubstitutionError.message : SubstitutionError → String
  | undefined name => s!"macro {name} is not defined"
  | tooDeep => "macro expansion is too deep (recursive macro?)"

namespace Formula

mutual

/-- Replace every name by what `replace` gives for it, from left to right. -/
def substitute {ε : Type} (replace : String → Except ε Formula) : Formula → Except ε Formula
  | .connector c => .ok (.connector c)
  | .empty => .ok .empty
  | .optional inner => do return .optional (← inner.substitute replace)
  | .cost inner => do return .cost (← inner.substitute replace)
  | .and items => do return .and (← substituteAll replace items)
  | .or items => do return .or (← substituteAll replace items)
  | .macroRef name => replace name

/-- Replace every name in each of the items. -/
def substituteAll {ε : Type} (replace : String → Except ε Formula) :
    List Formula → Except ε (List Formula)
  | [] => .ok []
  | item :: items => do
    let first ← item.substitute replace
    let others ← substituteAll replace items
    return first :: others

end

/-- Replace names until none is left, for definitions that nest at most `depth` deep. -/
def resolveWithin (definition : String → Option Formula) :
    Nat → Formula → Except SubstitutionError Formula
  | 0, f => f.substitute fun name =>
    match definition name with
    | some _ => .error .tooDeep
    | none => .error (.undefined name)
  | depth + 1, f => f.substitute fun name =>
    match definition name with
    | some body => resolveWithin definition depth body
    | none => .error (.undefined name)

/-- Replace names until none is left. -/
def resolve (definition : String → Option Formula) (f : Formula) :
    Except SubstitutionError Formula :=
  resolveWithin definition maxMacroDepth f

end Formula

end LinkParsing
