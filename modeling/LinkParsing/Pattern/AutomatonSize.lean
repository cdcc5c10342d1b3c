import LinkParsing.Pattern.Basic
import LinkParsing.Pattern.ByteSequence
import Std.Data.HashMap

/-!
# The size of a pattern's automaton

A pattern is searched for by an automaton that reads bytes, and another one that reads them
backwards from the end of a match.  Patterns whose automata would take too much room are
refused, so the room is worked out without building them.

Every state takes the same room; a state that branches on bytes takes more for each
branch, and so does a fork, which goes on in several states at once.  Parts are chained by
letting the last state of one go on to the first of the next; if that last state is a fork, it
gets one more branch.

A repetition has a copy of its part for each time that is counted.  In a set the byte
sequences that begin alike, or in the automaton that reads backwards end alike, share
states as far as these are still remembered: each place of a small memory holds one state,
and a new state takes the place of an older one with the same hash.
-/

namespace LinkParsing.Pattern

/-- The room that an automaton takes so far. -/
structure Room where
  states : Nat
  /-- Bytes that its branches take. -/
  branches : Nat
  deriving DecidableEq, Repr

namespace Room

/-- Nothing yet. -/
def none : Room := ⟨0, 0⟩

/-- The bytes taken by all. -/
def bytes (r : Room) : Nat := 32 * r.states + r.branches

/-- The bytes that an automaton may take. -/
def limit : Nat := 10 * (1 <<< 20)

/-- Whether it takes too much. -/
def exceeds (r : Room) : Bool := limit < r.bytes

/-- So many states without branches. -/
def plain (r : Room) (count : Nat) : Room := { r with states := r.states + count }

/-- One state that branches on bytes in so many ways. -/
def branching (r : Room) (ways : Nat) : Room := ⟨r.states + 1, r.branches + 8 * ways⟩

/-- One fork to so many states. -/
def fork (r : Room) (ways : Nat) : Room := ⟨r.states + 1, r.branches + 4 * ways⟩

/-- So many more branches of forks. -/
def moreForks (r : Room) (ways : Nat) : Room := { r with branches := r.branches + 4 * ways }

end Room

/-! ## Memories -/

/-- The hash of some numbers. -/
def hashOf (numbers : List Nat) : UInt64 :=
  numbers.foldl (fun h n => (h ^^^ n.toUInt64) * 1099511628211) 14695981039346656037

/-- A memory of states by what they do: each place holds one of them. -/
structure StateMemory where
  places : Nat
  held : Std.HashMap Nat (List Nat × Nat)

namespace StateMemory

/-- A memory with so many places that holds nothing. -/
def ofSize (places : Nat) : StateMemory := ⟨places, ∅⟩

/-- The place of a state that does what the numbers say. -/
def placeOf (m : StateMemory) (key : List Nat) : Nat := (hashOf key).toNat % m.places

/-- The number of the state that does what the numbers say, if it is remembered. -/
def find? (m : StateMemory) (key : List Nat) : Option Nat :=
  match m.held.get? (m.placeOf key) with
  | some (known, state) => if known == key then some state else none
  | none => none

/-- Remember the number of a state. -/
def remember (m : StateMemory) (key : List Nat) (state : Nat) : StateMemory :=
  { m with held := m.held.insert (m.placeOf key) (key, state) }

end StateMemory

/-! ## Sets, read forwards -/

/-- A state under construction: its finished branches in reverse, each as first byte, last byte
and next state, and the branch whose next state is under construction too. -/
structure OpenState where
  finished : List (Nat × Nat × Nat)
  last : Option ByteRange

/-- A set's automaton under construction. -/
structure SetBuilder where
  room : Room
  memory : StateMemory
  /-- The state in which all byte sequences end. -/
  target : Nat

namespace SetBuilder

/-- The state with given branches, a new one if none is remembered. -/
def close (b : SetBuilder) (branches : List (Nat × Nat × Nat)) : SetBuilder × Nat :=
  let key := branches.flatMap fun (low, high, next) => [low, high, next]
  match b.memory.find? key with
  | some state => (b, state)
  | none =>
    let state := b.room.states
    ({ b with room := b.room.branching branches.length, memory := b.memory.remember key state },
      state)

/-- The branches of a state whose last branch goes on to `next`. -/
def branchesOf (s : OpenState) (next : Nat) : List (Nat × Nat × Nat) :=
  match s.last with
  | some (low, high) => (low, high, next) :: s.finished
  | none => s.finished

/-- Close states under construction, the innermost first; the first one's number is given. -/
def closeAll (b : SetBuilder) : List OpenState → SetBuilder × Nat
  | [] => (b, b.target)
  | s :: inner =>
    let (b, next) := closeAll b inner
    b.close (branchesOf s next).reverse

/-- Add a byte sequence.  States up to where it parts from the one before stay open. -/
def add (b : SetBuilder) : List OpenState → List ByteRange → SetBuilder × List OpenState
  | s :: inner, range :: ranges =>
    if s.last == some range then
      let (b, inner) := add b inner ranges
      (b, s :: inner)
    else
      let (b, next) := closeAll b inner
      (b, ⟨branchesOf s next, some range⟩ :: ranges.map fun r => ⟨[], some r⟩)
  | states, _ => (b, states)

end SetBuilder

/-- The room after a set that is read forwards. -/
def roomOfSetForwards (room : Room) (set : CharSet) : Room :=
  let start : SetBuilder := ⟨room.plain 1, .ofSize 10000, room.states⟩
  let (b, states) := set.byteSequences.foldl (fun (b, states) ranges => b.add states ranges)
    (start, [⟨[], none⟩])
  (b.closeAll states).1.room

/-! ## Sets, read backwards -/

/-- The room and the memory after a byte sequence that is read backwards, and the state in which
reading it begins; `next` is where it ends. -/
def addBackwards (room : Room) (memory : StateMemory) (next : Nat) :
    List ByteRange → Room × StateMemory × Nat
  | [] => (room, memory, next)
  | (low, high) :: ranges =>
    let key := [next, low, high]
    match memory.find? key with
    | some state => addBackwards room memory state ranges
    | none =>
      let state := room.states
      addBackwards (room.plain 1) (memory.remember key state) state ranges

/-- The room after a set that is read backwards: a fork to all its byte sequences. -/
def roomOfSetBackwards (room : Room) (set : CharSet) : Room :=
  let target := room.states + 1
  let (room, _) := set.byteSequences.foldl
    (fun (room, memory) ranges =>
      let (room, memory, _) := addBackwards room memory target ranges
      (room.moreForks 1, memory))
    ((room.fork 0).plain 1, StateMemory.ofSize 1000)
  room

/-- The room after a set.  A set of ASCII characters needs two states. -/
def roomOfSet (backwards : Bool) (room : Room) (set : CharSet) : Room :=
  if set.isAscii then (room.plain 1).branching set.ranges.length
  else if backwards then roomOfSetBackwards room set
  else roomOfSetForwards room set

/-! ## Alternatives that are texts -/

/-- The nonempty texts up to each empty one, and those behind the last.  Empty ones at the start
count once. -/
def splitAtEmpty (texts : List (List Nat)) : List (List (List Nat)) :=
  match texts with
  | [] :: rest => [] :: split (rest.dropWhile List.isEmpty)
  | _ => split texts
where
  /-- The same where every empty one counts. -/
  split : List (List Nat) → List (List (List Nat))
    | [] => [[]]
    | [] :: rest => [] :: split rest
    | text :: rest =>
      match split rest with
      | [] => [[text]]
      | chunk :: chunks => (text :: chunk) :: chunks

/-- The texts behind each first byte. -/
def byFirst (texts : List (List Nat)) : List (Nat × List (List Nat)) :=
  texts.foldl
    (fun found text =>
      match text with
      | [] => found
      | b :: rest =>
        if found.any (·.1 == b) then
          found.map fun (c, rests) => if c == b then (c, rests ++ [rest]) else (c, rests)
        else found ++ [(b, [rest])])
    []

/-- The room after texts that share their beginnings: at every byte behind which something may
follow there is a fork, to the end for every text that ends there and to a state that branches
for the texts up to it.  `steps` bounds their length. -/
def roomOfTexts (room : Room) : (steps : Nat) → List (List Nat) → Room
  | 0, _ => room
  | steps + 1, texts =>
    if texts.all List.isEmpty then room
    else
      let chunks := (splitAtEmpty texts).map byFirst
      let branching := chunks.filter (!·.isEmpty)
      let room := branching.foldl
        (fun room branches =>
          branches.foldl (fun room (_, rests) => roomOfTexts room steps rests)
            (if branches.length = 1 then room.plain 1 else room.branching branches.length))
        room
      room.fork (branching.length + (chunks.length - 1))

/-- The bytes of a text, in the order in which they are read. -/
def bytesInOrder (backwards : Bool) (text : List Char) : List Nat :=
  let bytes := text.flatMap Text.utf8Bytes
  if backwards then bytes.reverse else bytes

/-- The text that a pattern is. -/
def text? : Pattern → Option (List Char)
  | literal text => some text
  | _ => none

/-! ## Patterns -/

/-- The room after some part of a pattern, and whether its last state is a fork. -/
structure Part where
  room : Room
  endsInFork : Bool

namespace Part

/-- Nothing yet: an automaton that takes some room ends in no fork. -/
def ofRoom (room : Room) : Part := ⟨room, false⟩

/-- Chain on a part: `next` gives the room after it. -/
def andThen (p : Part) (next : Room → Part) : Part :=
  let q := next p.room
  ⟨if p.endsInFork then q.room.moreForks 1 else q.room, q.endsInFork⟩

/-- The room after the part when its last state goes on to one that is counted already. -/
def closed (p : Part) : Room := if p.endsInFork then p.room.moreForks 1 else p.room

/-- Chain on so many copies, as long as there is room. -/
def copies (p : Part) (one : Room → Part) : Nat → Part
  | 0 => p
  | n + 1 => if p.room.exceeds then p else copies (p.andThen one) one n

/-- So many copies from a given room on. -/
def exactly (room : Room) (one : Room → Part) : Nat → Part
  | 0 => .ofRoom (room.plain 1)
  | n + 1 => copies (one room) one n

/-- Chain on so many copies that may each be left out together with those behind it. -/
def optional (p : Part) (one : Room → Part) : Nat → Part
  | 0 => p
  | n + 1 =>
    if p.room.exceeds then p
    else optional (p.andThen fun room => one (room.fork 2)) one n

end Part

/-- The room after a repetition. -/
def roomOfRepetition (consumes : Bool) (room : Room) (one : Room → Part) (least : Nat) :
    Option Nat → Part
  | some most =>
    if least = 0 ∧ most = 1 then
      let p := one (room.fork 2)
      .ofRoom (Part.closed ⟨p.room.plain 1, p.endsInFork⟩)
    else if least = most then .exactly room one least
    else
      let first := Part.exactly room one least
      let p := Part.optional ⟨first.room.plain 1, first.endsInFork⟩ one (most - least)
      .ofRoom p.closed
  | none =>
    match least with
    | 0 =>
      if consumes then ⟨(one (room.fork 1)).closed, true⟩
      else
        let p := one room
        .ofRoom (Part.closed ⟨((p.room.fork 2).fork 2).plain 1, p.endsInFork⟩)
    | 1 =>
      let p := one room
      ⟨Part.closed ⟨p.room.fork 1, p.endsInFork⟩, true⟩
    | least + 2 =>
      let p := (Part.exactly room one (least + 1)).andThen one
      ⟨Part.closed ⟨p.room.fork 1, p.endsInFork⟩, true⟩

mutual

/-- The room after a pattern.  Groups leave marks only where they are read forwards. -/
def roomAfter (backwards : Bool) (room : Room) : Pattern → Part
  | empty => .ofRoom (room.plain 1)
  | literal text => .ofRoom (room.plain (bytesInOrder backwards text).length)
  | chars set => .ofRoom (roomOfSet backwards room set)
  | assertion _ => .ofRoom (room.plain 1)
  | .repeat inner least most _ =>
    if room.exceeds then .ofRoom room
    else
      roomOfRepetition inner.consumes room (fun room => roomAfter backwards room inner) least most
  | group _ inner =>
    if backwards then roomAfter backwards room inner
    else
      let p := roomAfter backwards (room.plain 1) inner
      .ofRoom (Part.closed ⟨p.room.plain 1, p.endsInFork⟩)
  | concat items => if backwards then roomBackwards room items else roomForwards room items
  | alternatives items =>
    match items.mapM text? with
    | some texts =>
      let texts := texts.map (bytesInOrder backwards)
      .ofRoom (roomOfTexts (room.plain 1) ((texts.map List.length).foldl max 0 + 1) texts)
    | none => .ofRoom (roomOfChoice backwards room 0 items)

/-- The room after items read forwards, one after the other. -/
def roomForwards (room : Room) : List Pattern → Part
  | [] => .ofRoom (room.plain 1)
  | [p] => roomAfter false room p
  | p :: ps => (roomAfter false room p).andThen fun room => roomForwards room ps

/-- The room after items read backwards, the last one first. -/
def roomBackwards (room : Room) : List Pattern → Part
  | [] => .ofRoom (room.plain 1)
  | [p] => roomAfter true room p
  | p :: ps => (roomBackwards room ps).andThen fun room => roomAfter true room p

/-- The room after alternatives, of which `before` have been counted: a fork to all of them, and
a state in which all of them end. -/
def roomOfChoice (backwards : Bool) (room : Room) (before : Nat) : List Pattern → Room
  | [] => room
  | p :: ps =>
    let room := (roomAfter backwards room p).closed
    let room := if before = 1 then ((room.fork 1).plain 1).moreForks 1
      else if before = 0 then room else room.moreForks 1
    roomOfChoice backwards room (before + 1) ps

end

/-- The room of the automaton of a pattern: what leads to any place of a text unless the pattern
is bound to where reading begins, the marks of the whole match where it is read forwards, the
pattern, and a last state. -/
def automatonRoom (backwards : Bool) (p : Pattern) : Room :=
  let bound := if backwards then p.endsWith .textEnd else p.startsWith .textStart
  let start := if bound then Room.none.plain 1 else ((Room.none.fork 2).plain 1).branching 1
  let whole := roomAfter backwards (if backwards then start else start.plain 1) p
  if backwards then Part.closed ⟨whole.room.plain 1, whole.endsInFork⟩
  else (Part.closed ⟨whole.room.plain 1, whole.endsInFork⟩).plain 1

/-- Whether the automata of a pattern take too much room. -/
def isTooLarge (p : Pattern) : Bool :=
  (automatonRoom false p).exceeds || (automatonRoom true p).exceeds

end LinkParsing.Pattern
