import LinkParsing.Linkage
import LinkParsing.Search.Counting

/-!
# The linkage with a given number

Linkages are numbered in the order in which counting goes through them.  The number
tells, alternative by alternative, which one is meant and the numbers of its two parts,
so that each linkage is built directly.
-/

namespace LinkParsing.Search

/-- The readings chosen for words and the links between them. -/
structure Assembly where
  /-- Words, each with the number of its reading. -/
  choices : List (Nat × Nat)
  links : List LinkRef
  deriving DecidableEq, Repr

namespace Assembly

/-- No word has a reading. -/
def nothing : Assembly := ⟨[], []⟩

/-- The word of an alternative with its links, and the assemblies of its parts. -/
def join (a : Alternative) (left right : Assembly) : Assembly :=
  ⟨(a.word, a.candidate) :: left.choices ++ right.choices, a.links ++ left.links ++ right.links⟩

end Assembly

/-- Find the alternative to which a number belongs, and the numbers of its parts. -/
def pick (s : Sentence) (clock : Clock) (index : Nat) :
    List Alternative → SearchM (Option (Alternative × Nat × Nat))
  | [] => pure none
  | a :: rest => do
    let first ← count s clock a.left
    if first = 0 then pick s clock index rest
    else
      let second ← count s clock a.right
      let here := mulCounts first second
      if index < here then return some (a, index / second, index % second)
      else pick s clock (index - here) rest

/-- The linkage with a number, of a region that is at most so wide. -/
def assembleWithin (s : Sentence) (clock : Clock) : Nat → Region → Nat → SearchM Assembly
  | 0, _, _ => pure .nothing
  | width + 1, r, index =>
    if r.baseCount?.isSome then pure .nothing
    else do
      match ← pick s clock index (s.alternatives r) with
      | none => return .nothing
      | some (a, leftIndex, rightIndex) =>
        let left ← assembleWithin s clock width a.left leftIndex
        let right ← assembleWithin s clock width a.right rightIndex
        return .join a left right

/-- The linkage with a number among those of the whole sentence, if there is one. -/
def assembleRoots (s : Sentence) (clock : Clock) (index : Nat) :
    List (Nat × Region) → SearchM (Option Assembly)
  | [] => pure none
  | (candidate, root) :: roots => do
    let n ← count s clock root
    if index < n then
      let inner ← assembleWithin s clock root.width root index
      return some { inner with choices := (0, candidate) :: inner.choices }
    else assembleRoots s clock (index - n) roots

/-- The readings and links of the linkage with a number. -/
def assemble (s : Sentence) (nulls : Nat) (clock : Clock) (index : Nat) :
    SearchM (Option Assembly) :=
  assembleRoots s clock index (s.roots nulls)

/-- A word with the reading chosen for it, or without links if none was. -/
def linkageWord (word : SentenceWord) (choice : Option Nat) : LinkageWord :=
  match choice.bind (word.candidates[·]?) with
  | some c => ⟨c.display, word.isWall, false, some c.disjunct.toText, c.disjunct.cost⟩
  | none => ⟨"[" ++ word.token ++ "]", word.isWall, true, none, 0⟩

/-- A link with the texts of its connectors. -/
def link? (s : Sentence) (l : LinkRef) : Option Link := do
  let a ← s.rightConnector? l.leftWord l.leftCursor
  let b ← s.leftConnector? l.rightWord l.rightCursor
  return ⟨l.leftWord, l.rightWord, a.linkLabel b, a.toText, b.toText⟩

/-- The linkage that readings and links amount to. -/
def Assembly.toLinkage (s : Sentence) (a : Assembly) : Linkage :=
  .ofLinks (s.toList.mapIdx fun i word => linkageWord word (a.choices.lookup i))
    (a.links.filterMap (link? s))

/-- The linkage with a number, if there is one. -/
def extract (s : Sentence) (nulls : Nat) (clock : Clock) (index : Nat) :
    SearchM (Option Linkage) := do
  let a ← assemble s nulls clock index
  return a.map (Assembly.toLinkage s)

end LinkParsing.Search
