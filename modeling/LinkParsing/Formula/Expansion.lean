import LinkParsing.Formula
import LinkParsing.Disjunct

/-!
# From formulas to disjuncts

A formula stands for a list of clauses, each a sequence of connectors in written
order with a cost.  The clauses of a conjunction are all concatenations of one
clause per item, those of earlier items varying slowest.  A clause becomes a
disjunct by splitting its connectors by direction; of clauses that become the
same disjunct the first keeps its place and the lowest cost counts.

Expansion gives up as soon as some part of the formula has more than
`maxDisjuncts` clauses.  Where the cost of a clause overflows, the program stops; the
clause is then there with that cost, and so is what becomes of it.
-/

namespace LinkParsing

/-- The most clauses that any part of a formula may have. -/
def maxDisjuncts : Nat := 4096

/-- Connectors in written order and what they cost together. -/
structure Clause where
  connectors : List Connector
  cost : Cost
  deriving DecidableEq, Repr

namespace Clause

/-- The clause that uses no connector. -/
def nothing : Clause := ⟨[], 0⟩

/-- One clause after the other. -/
def append (a b : Clause) : Clause := ⟨a.connectors ++ b.connectors, a.cost + b.cost⟩

/-- The same connectors for one unit more. -/
def raise (a : Clause) : Clause := { a with cost := a.cost + 1 }

/-- The connectors that point left, in written order. -/
def left (a : Clause) : List Connector := a.connectors.filter (·.direction == .left)

/-- The connectors that point right, in reversed written order. -/
def right (a : Clause) : List Connector := (a.connectors.filter (·.direction == .right)).reverse

/-- The disjunct of a clause: its connectors split by direction. -/
def toDisjunct (a : Clause) : Disjunct := ⟨a.left, a.right, a.cost⟩

end Clause

/-- Why a formula has no expansion. -/
inductive ExpansionError where
  /-- A name was left in the formula. -/
  | unresolvedMacro (name : String)
  /-- Some part has more than `limit` clauses. -/
  | tooManyDisjuncts (limit : Nat)
  deriving DecidableEq, Repr

namespace ExpansionError

def message : ExpansionError → String
  | unresolvedMacro name => s!"macro {name} is not defined"
  | tooManyDisjuncts limit => s!"expression expands to more than {limit} disjuncts"

end ExpansionError

/-- Every clause of the first list followed by every clause of the second. -/
def Clause.products (as bs : List Clause) : List Clause :=
  as.flatMap fun a => bs.map a.append

namespace Formula

/-- Let a list of clauses through if it is not too long. -/
def withinLimit (clauses : List Clause) : Except ExpansionError (List Clause) :=
  if clauses.length > maxDisjuncts then .error (.tooManyDisjuncts maxDisjuncts) else .ok clauses

mutual

/-- The clauses of a formula. -/
def clauses : Formula → Except ExpansionError (List Clause)
  | .connector c => withinLimit [⟨[c], 0⟩]
  | .empty => withinLimit [.nothing]
  | .optional inner => do withinLimit (.nothing :: (← inner.clauses))
  | .cost inner => do withinLimit ((← inner.clauses).map Clause.raise)
  | .or items => do withinLimit (← clausesOfAny items)
  | .and items => do withinLimit (← clausesOfAll [.nothing] items)
  | .macroRef name => .error (.unresolvedMacro name)

/-- The clauses of a disjunction: those of its items one after the other. -/
def clausesOfAny : List Formula → Except ExpansionError (List Clause)
  | [] => .ok []
  | item :: items => do
    let first ← item.clauses
    let others ← clausesOfAny items
    return first ++ others

/-- The clauses of a conjunction whose items before these have the clauses `done`. -/
def clausesOfAll (done : List Clause) : List Formula → Except ExpansionError (List Clause)
  | [] => .ok done
  | item :: items => do
    let next ← item.clauses
    if done.length * next.length > maxDisjuncts then
      .error (.tooManyDisjuncts maxDisjuncts)
    else
      clausesOfAll (Clause.products done next) items

end

end Formula

namespace Disjunct

/-- The same connectors on both sides, whatever the cost. -/
def sameSides (a b : Disjunct) : Bool := a.left == b.left && a.right == b.right

/-- Add a disjunct at the end of a list, or lower the cost of the one that has the
same connectors. -/
def addTo (new : Disjunct) : List Disjunct → List Disjunct
  | [] => [new]
  | d :: rest =>
    if d.sameSides new then { d with cost := min d.cost new.cost } :: rest
    else d :: addTo new rest

/-- The different disjuncts of a list of clauses, in order of first occurrence and
at the lowest cost each. -/
def ofClauses (clauses : List Clause) : List Disjunct :=
  clauses.foldl (fun found clause => clause.toDisjunct.addTo found) []

end Disjunct

/-- The disjuncts that a formula stands for. -/
def Formula.expand (f : Formula) : Except ExpansionError (List Disjunct) :=
  f.clauses.map Disjunct.ofClauses

end LinkParsing
