import LinkParsing.Proofs.Search.Bounds
import LinkParsing.Proofs.Search.Rendering

/-!
# A search that checks its steps

The functions of a search answer whatever they are given: a difference below zero is zero, a
connector that is not there is none, and a region that is wider than it should be has no linkages.
Here the search is written down once more, with a check in front of everything that could go wrong
(`Guarded`): every subtraction and division, every access to a word, a reading or a connector, the
bounds of every region that is come to, the widths of the parts of every alternative, and the depth
of the recursion, which must not be more than the number of words.

This file has the steps that neither remember anything nor look at the clock: in a region in bounds
each of them passes its checks and gives what the step without checks gives
(`Guarded.alternatives_eq`).
-/

namespace LinkParsing.Search

/-- What must not happen to a search. -/
inductive Fault where
  /-- A difference is below zero. -/
  | underflow
  /-- A number is divided by zero. -/
  | zeroDivisor
  /-- A word, a reading or a connector is not there. -/
  | outOfRange
  /-- A region is not in bounds. -/
  | outOfBounds
  /-- A part of an alternative is not narrower than the region. -/
  | notNarrower
  /-- The number of a linkage is not below the count of its region. -/
  | outOfCount
  /-- The recursion is deeper than there are words. -/
  | tooDeep
  deriving DecidableEq, Repr

namespace Guarded

/-- What is given if a check is passed. -/
def require (condition : Prop) [Decidable condition] (fault : Fault) : Except Fault Unit :=
  if condition then .ok () else .error fault

/-- What has to be there. -/
def access {α : Type} : Option α → Except Fault α
  | some a => .ok a
  | none => .error .outOfRange

/-- A difference, which must not be below zero. -/
def subtract (a b : Nat) : Except Fault Nat := do
  require (b ≤ a) .underflow
  return a - b

/-- Quotient and remainder, by a number that must not be zero. -/
def divide (a b : Nat) : Except Fault (Nat × Nat) := do
  require (b ≠ 0) .zeroDivisor
  return (a / b, a % b)

/-- What the items of a list give, one after the other. -/
def gather {α β : Type} (f : α → Except Fault (List β)) : List α → Except Fault (List β)
  | [] => .ok []
  | a :: rest => do
    let first ← f a
    let others ← gather f rest
    return first ++ others

/-! ## Words and connectors -/

/-- A reading of a word. -/
def candidate (s : Sentence) (word c : Nat) : Except Fault Candidate := do
  let w ← access s[word]?
  access w.candidates[c]?

/-- The connectors of a reading that point in this direction. -/
def connectors (s : Sentence) (d : Direction) (word c : Nat) : Except Fault (List Connector) := do
  let reading ← candidate s word c
  return match d with
    | .right => reading.disjunct.right
    | .left => reading.disjunct.left

/-- The connector of this direction at a cursor. -/
def connector (s : Sentence) (d : Direction) (word : Nat) (c : Cursor) :
    Except Fault Connector := do
  let cs ← connectors s d word c.candidate
  access cs[c.position]?

/-- The first connector of a reading that points in this direction. -/
def first (s : Sentence) (d : Direction) (word c : Nat) : Except Fault (Option Cursor) := do
  let cs ← connectors s d word c
  return Sentence.firstOf cs c

/-- The connector of this direction behind a cursor. -/
def next (s : Sentence) (d : Direction) (word : Nat) (c : Cursor) :
    Except Fault (Option Cursor) := do
  let cs ← connectors s d word c.candidate
  return Sentence.nextOf cs c

/-- The link between a right connector of one word and a left connector of a later one, if there are
cursors at both and they match. -/
def matching (s : Sentence) (left : Nat) (a : Option Cursor) (right : Nat) (b : Option Cursor) :
    Except Fault (Option LinkRef) :=
  match a, b with
  | some a, some b => do
    let ca ← connector s .right left a
    let cb ← connector s .left right b
    return if ca.linksTo cb then some ⟨left, a, right, b⟩ else none
  | _, _ => .ok none

/-- How the two words of a link may go on behind it. -/
def continuations (s : Sentence) (l : LinkRef) :
    Except Fault (List (Option Cursor × Option Cursor)) := do
  let ca ← connector s .right l.leftWord l.leftCursor
  let cb ← connector s .left l.rightWord l.rightCursor
  let a ← next s .right l.leftWord l.leftCursor
  let b ← next s .left l.rightWord l.rightCursor
  return [(a, b)]
    ++ (if ca.multi then [(some l.leftCursor, b)] else [])
    ++ (if cb.multi then [(a, some l.rightCursor)] else [])
    ++ (if ca.multi && cb.multi then [(some l.leftCursor, some l.rightCursor)] else [])

/-- How the two words of a link, if there is one, may go on behind it. -/
def continuationsOf (s : Sentence) : Option LinkRef →
    Except Fault (List (Option Cursor × Option Cursor))
  | some l => continuations s l
  | none => .ok []

/-! ## Regions -/

/-- The count of a region that needs no splitting. -/
def baseCount (r : Region) : Except Fault (Option Nat) := do
  let width ← subtract r.rightWord r.leftWord
  let inner ← subtract width 1
  return if r.nulls > inner then some 0
    else if inner = 0 then
      some (if r.fromLeft.isNone && r.fromRight.isNone && r.nulls == 0 then 1 else 0)
    else if r.fromLeft.isNone && r.fromRight.isNone then
      some (if r.nulls = inner then 1 else 0)
    else none

/-- The alternatives at a reading of a word that leave so many words out on the left and on the
right of it. -/
def sides (r : Region) (word c : Nat) (dl dr : Option Cursor) (leftLink rightLink : Option LinkRef)
    (lefts rights : List (Option Cursor × Option Cursor)) (leftNulls rightNulls : Nat) :
    List Alternative :=
  match leftLink with
  | none =>
    rights.map fun (a, b) => ⟨word, c, rightLink.toList, ⟨r.leftWord, word, none, dl, leftNulls⟩,
      ⟨word, r.rightWord, a, b, rightNulls⟩⟩
  | some ll =>
    lefts.flatMap fun (a, b) =>
      let left : Region := ⟨r.leftWord, word, a, b, leftNulls⟩
      (match rightLink with
        | some rl => rights.map fun (e, f) =>
          ⟨word, c, [ll, rl], left, ⟨word, r.rightWord, e, f, rightNulls⟩⟩
        | none => []) ++
      [⟨word, c, [ll], left, ⟨word, r.rightWord, dr, r.fromRight, rightNulls⟩⟩]

/-- The link that a word needs is not there: the one with the left word of the region if that has
connectors left, else the one with the right word. -/
def misses (r : Region) (leftLink rightLink : Option LinkRef) : Bool :=
  if r.fromLeft.isSome then leftLink.isNone else rightLink.isNone

/-- The ways to split a region at a word that takes a reading. -/
def splitsAt (s : Sentence) (r : Region) (word c : Nat) : Except Fault (List Alternative) := do
  let dl ← first s .left word c
  let dr ← first s .right word c
  let leftLink ← matching s r.leftWord r.fromLeft word dl
  let rightLink ← matching s word dr r.rightWord r.fromRight
  if misses r leftLink rightLink then return []
  else
    let lefts ← continuationsOf s leftLink
    let rights ← continuationsOf s rightLink
    gather (fun leftNulls => do
      let rightNulls ← subtract r.nulls leftNulls
      return sides r word c dl dr leftLink rightLink lefts rights leftNulls rightNulls)
      (List.range (r.nulls + 1))

/-- All ways to split a region. -/
def alternatives (s : Sentence) (r : Region) : Except Fault (List Alternative) := do
  let inner ← subtract r.rightWord (r.leftWord + 1)
  gather (fun word => do
    let w ← access s[word]?
    gather (splitsAt s r word) (List.range w.candidates.size))
    (List.range' (r.leftWord + 1) inner)

/-- The regions of the whole sentence. -/
def roots (s : Sentence) (nulls : Nat) : Except Fault (List (Nat × Region)) := do
  let w ← access s[0]?
  gather (fun c => do
    let cs ← connectors s .left 0 c
    if cs.isEmpty then
      let fromLeft ← first s .right 0 c
      return [(c, ⟨0, s.size, fromLeft, none, nulls⟩)]
    else return [])
    (List.range w.candidates.size)

/-! ## The checks are passed -/

variable {s : Sentence} {r : Region} {d : Direction} {u v w c nulls : Nat} {cursor : Cursor}
  {l : LinkRef}

theorem require_of {condition : Prop} [Decidable condition] (h : condition) (fault : Fault) :
    require condition fault = .ok () := if_pos h

theorem subtract_of_le {a b : Nat} (h : b ≤ a) : subtract a b = .ok (a - b) := by
  rw [subtract, require_of h]
  rfl

theorem divide_of_ne_zero {a b : Nat} (h : b ≠ 0) : divide a b = .ok (a / b, a % b) := by
  rw [divide, require_of h]
  rfl

theorem gather_eq {α β : Type} {f : α → Except Fault (List β)} {g : α → List β} {as : List α}
    (h : ∀ a ∈ as, f a = .ok (g a)) : gather f as = .ok (as.flatMap g) := by
  induction as with
  | nil => rfl
  | cons a rest ih =>
      obtain ⟨ha, hrest⟩ := List.forall_mem_cons.mp h
      rw [gather, ha, ih hrest, List.flatMap_cons]
      rfl

theorem candidate_eq {reading : Candidate} (h : s.candidate? w c = some reading) :
    candidate s w c = .ok reading := by
  obtain ⟨word, hword, hreading⟩ := Option.bind_eq_some_iff.mp h
  rw [candidate, hword]
  exact congrArg access hreading

theorem numCandidates_of_lt (h : w < s.size) : s.numCandidates w = s[w].candidates.size := by
  simp [Sentence.numCandidates, h]

theorem connectors_eq (h : c < s.numCandidates w) :
    connectors s d w c = .ok (s.connectors d w c) := by
  obtain ⟨word, reading, hword, hcandidate⟩ := exists_candidate h
  have hreading : s.candidate? w c = some reading :=
    Option.bind_eq_some_iff.mpr ⟨word, hword, hcandidate⟩
  rw [connectors, candidate_eq hreading]
  cases d with
  | right =>
      simp only [Sentence.connectors, Sentence.rightConnectors, hreading]
      rfl
  | left =>
      simp only [Sentence.connectors, Sentence.leftConnectors, hreading]
      rfl

theorem first_eq (h : c < s.numCandidates w) : first s d w c = .ok (s.first d w c) := by
  rw [first, connectors_eq h]
  rfl

/-- A connector that is there belongs to a reading that is there. -/
theorem lt_of_connector? {a : Connector} (h : s.connector? d w cursor = some a) :
    cursor.candidate < s.numCandidates w := by
  cases hreading : s.candidate? w cursor.candidate with
  | none =>
      have hempty : s.connectors d w cursor.candidate = [] := by
        cases d <;> simp [Sentence.connectors, Sentence.rightConnectors, Sentence.leftConnectors,
          hreading]
      rw [Sentence.connector?, hempty] at h
      cases h
  | some reading =>
      obtain ⟨word, hword, hreading⟩ := Option.bind_eq_some_iff.mp hreading
      obtain ⟨hlt, -⟩ := Array.getElem?_eq_some_iff.mp hreading
      rw [Sentence.numCandidates, hword]
      exact hlt

theorem connector_eq {a : Connector} (h : s.connector? d w cursor = some a) :
    connector s d w cursor = .ok a := by
  rw [connector, connectors_eq (lt_of_connector? h)]
  exact congrArg access h

theorem next_eq {a : Connector} (h : s.connector? d w cursor = some a) :
    next s d w cursor = .ok (s.next d w cursor) := by
  rw [next, connectors_eq (lt_of_connector? h)]
  rfl

/-- Cursors at connectors can be compared. -/
theorem matching_eq {a b : Option Cursor} (ha : s.Points .right u a) (hb : s.Points .left v b) :
    matching s u a v b = .ok (s.matching u a v b) := by
  cases a with
  | none => rfl
  | some a =>
      cases b with
      | none => rfl
      | some b =>
          obtain ⟨ca, hca⟩ := Option.isSome_iff_exists.mp (ha a rfl)
          obtain ⟨cb, hcb⟩ := Option.isSome_iff_exists.mp (hb b rfl)
          have hca' : s.rightConnector? u a = some ca := hca
          have hcb' : s.leftConnector? v b = some cb := hcb
          simp only [matching, connector_eq hca, connector_eq hcb, Sentence.matching, hca', hcb']
          rfl

theorem continuations_eq (h : s.Matches l) : continuations s l = .ok (s.continuations l) := by
  obtain ⟨ca, cb, hca, hcb, -⟩ := h
  have hleft : s.connector? .right l.leftWord l.leftCursor = some ca := hca
  have hright : s.connector? .left l.rightWord l.rightCursor = some cb := hcb
  have hleftMulti : s.leftEndIsMulti l = ca.multi := by rw [Sentence.leftEndIsMulti, hca]; rfl
  have hrightMulti : s.rightEndIsMulti l = cb.multi := by rw [Sentence.rightEndIsMulti, hcb]; rfl
  rw [continuations, connector_eq hleft, connector_eq hright, next_eq hleft, next_eq hright,
    Sentence.continuations, hleftMulti, hrightMulti]
  rfl

/-! ## Splitting -/

theorem baseCount_eq (h : r.leftWord < r.rightWord) : baseCount r = .ok r.baseCount? := by
  have hpos : 1 ≤ r.rightWord - r.leftWord := Nat.sub_pos_of_lt h
  rw [baseCount, subtract_of_le h.le]
  simp only [bind, Except.bind, subtract_of_le hpos]
  rfl

/-- How the two words of a link, if there is one, may go on behind it. -/
def onward (s : Sentence) (link : Option LinkRef) : List (Option Cursor × Option Cursor) :=
  (link.map s.continuations).getD []

theorem continuationsOf_matching {a b : Option Cursor} :
    continuationsOf s (s.matching u a v b) = .ok (onward s (s.matching u a v b)) := by
  cases hlink : s.matching u a v b with
  | none => rfl
  | some l =>
      obtain ⟨-, -, -, -, hmatches⟩ := matching_eq_some.mp hlink
      exact continuations_eq hmatches

/-- With both links looked for, the two cases of a split are one. -/
theorem splitsAt_eq_flatMap_sides : s.splitsAt r w c =
    let leftLink := s.matching r.leftWord r.fromLeft w (s.firstLeft w c)
    let rightLink := s.matching w (s.firstRight w c) r.rightWord r.fromRight
    if misses r leftLink rightLink then []
    else (List.range (r.nulls + 1)).flatMap fun k =>
      sides r w c (s.firstLeft w c) (s.firstRight w c) leftLink rightLink (onward s leftLink)
        (onward s rightLink) k (r.nulls - k) := by
  unfold misses Sentence.splitsAt Sentence.splitsFromRight Sentence.splitsFromLeft
  cases hfrom : r.fromLeft with
  | none =>
      -- Without a cursor there is no link to the left, and only the one to the right counts.
      cases s.matching w (s.firstRight w c) r.rightWord r.fromRight with
      | none => rfl
      | some rl => rfl
  | some cursor =>
      cases s.matching r.leftWord (some cursor) w (s.firstLeft w c) with
      | none => rfl
      | some ll =>
          cases hright : s.matching w (s.firstRight w c) r.rightWord r.fromRight with
          | none => simp [Sentence.rightSides, hright, sides, onward]
          | some rl => simp [Sentence.rightSides, hright, sides, onward, Function.comp_def]

/-- The ways to split a region at a reading of a word inside. -/
theorem splitsAt_eq (h : r.InBounds s) (hc : c < s.numCandidates w) :
    splitsAt s r w c = .ok (s.splitsAt r w c) := by
  -- Each of the four cursors that are compared is at a connector, or there is none.
  have hdl : first s .left w c = .ok (s.firstLeft w c) := first_eq hc
  have hdr : first s .right w c = .ok (s.firstRight w c) := first_eq hc
  have hleft : matching s r.leftWord r.fromLeft w (s.firstLeft w c) = .ok _ :=
    matching_eq h.fromLeft (points_first (d := .left))
  have hright : matching s w (s.firstRight w c) r.rightWord r.fromRight = .ok _ :=
    matching_eq (points_first (d := .right)) h.fromRight
  rw [splitsAt, hdl, hdr, splitsAt_eq_flatMap_sides]
  simp only [bind, Except.bind, hleft, hright, continuationsOf_matching]
  split
  next => rfl
  next hlink =>
    apply gather_eq
    intro k hk
    rw [subtract_of_le (Nat.lt_succ_iff.mp (List.mem_range.mp hk))]
    rfl

/-- All ways to split a region. -/
theorem alternatives_eq (h : r.InBounds s) : alternatives s r = .ok (s.alternatives r) := by
  rw [alternatives, subtract_of_le h.leftWord_lt]
  apply gather_eq
  intro word hword
  have hlt : word < s.size := by
    have hrange := List.mem_range'_1.mp hword
    have hle := h.rightWord_le
    omega
  rw [Array.getElem?_eq_getElem hlt, numCandidates_of_lt hlt]
  apply gather_eq
  intro c hc
  rw [← numCandidates_of_lt hlt] at hc
  exact splitsAt_eq h (List.mem_range.mp hc)

/-- The regions of a sentence that has words. -/
theorem roots_eq (hs : 0 < s.size) : roots s nulls = .ok (s.roots nulls) := by
  -- A reading that is left out gives no region, one that is kept gives one.
  have hfilter : s.roots nulls = (List.range (s.numCandidates 0)).flatMap fun c =>
      if (s.leftConnectors 0 c).isEmpty then [(c, ⟨0, s.size, s.firstRight 0 c, none, nulls⟩)]
      else [] := by
    rw [Sentence.roots, ← List.filterMap_eq_map', List.filterMap_filter,
      List.filterMap_eq_flatMap_toList]
    congr 1
    funext c
    split <;> rfl
  rw [hfilter, roots, Array.getElem?_eq_getElem hs, numCandidates_of_lt hs]
  apply gather_eq
  intro c hc
  rw [← numCandidates_of_lt hs] at hc
  have hlt := List.mem_range.mp hc
  rw [connectors_eq hlt]
  show (if (s.leftConnectors 0 c).isEmpty then _ else _ : Except Fault _) = _
  split
  next => rw [first_eq hlt]; rfl
  next => rfl

end Guarded

end LinkParsing.Search
