import LinkParsing.Pattern.Basic

/-!
# What patterns match

In a given text a pattern tells how one may move among its places, which are the gaps
between characters, the two ends of the text included.  A move takes all places at once
at which one may be to all places at which one may be afterwards, so that a pattern
matches somewhere if its move leads from all places to any place at all.

No move leads backwards.  Making one again and again therefore comes to a point where
nothing changes any more, after at most as many times as there are places.
-/

namespace LinkParsing.Pattern

/-- Some places of a text: the positions of the ones in the binary form of a number. -/
abbrev Places := Nat

/-- A way to move among the places of a text. -/
inductive Move where
  /-- Over so many characters, from those of some places at which one is. -/
  | pass (length : Nat) (start : Places)
  | andThen (first second : Move)
  | either (first second : Move)
  /-- So many times and then at most so many times more. -/
  | again (once : Move) (least more : Nat)

namespace Move

/-- Make a step so many times, or until nothing changes. -/
def iterate (step : Places → Places) : (times : Nat) → Places → Places
  | 0, here => here
  | times + 1, here =>
    let there := step here
    if there = here then here else iterate step times there

/-- Where one may be after a move. -/
def run : Move → Places → Places
  | pass length start, here => (here &&& start) <<< length
  | andThen first second, here => second.run (first.run here)
  | either first second, here => first.run here ||| second.run here
  | again once least more, here =>
    iterate (fun here => here ||| once.run here) more (iterate once.run least here)

end Move

/-- The places that meet a condition on the character before them and the text behind. -/
def placesWhere (holds : Option Char → List Char → Bool) (before : Option Char) :
    List Char → Places
  | [] => (holds before []).toNat
  | c :: text => (holds before (c :: text)).toNat + 2 * placesWhere holds (some c) text

/-- All places of a text. -/
def allPlaces (text : List Char) : Places := (1 <<< (text.length + 1)) - 1

/-- Whether a condition holds between two characters; at an end of the text one of
them is missing. -/
def Assertion.holds (before after : Option Char) : Assertion → Bool
  | textStart => before.isNone
  | textEnd => after.isNone
  | lineStart => before.all (· == '\n')
  | lineEnd => after.all (· == '\n')
  | wordBoundary => before.any isWordChar != after.any isWordChar
  | notWordBoundary => before.any isWordChar == after.any isWordChar
  | wordStart => !before.any isWordChar && after.any isWordChar
  | wordEnd => before.any isWordChar && !after.any isWordChar
  | wordStartHalf => !before.any isWordChar
  | wordEndHalf => !after.any isWordChar

mutual

/-- How one may move in a text by what a pattern matches. -/
def move (text : List Char) : Pattern → Move
  | empty => .pass 0 (allPlaces text)
  | literal l => .pass l.length (placesWhere (fun _ rest => l.isPrefixOf rest) none text)
  | chars set => .pass 1 (placesWhere (fun _ rest => rest.head?.any set.contains) none text)
  | assertion a =>
    .pass 0 (placesWhere (fun before rest => a.holds before rest.head?) none text)
  | .repeat inner least most _ =>
    .again (inner.move text) least ((most.map (· - least)).getD (text.length + 1))
  | group _ inner => inner.move text
  | concat items => moveAll text items
  | alternatives items => moveAny text items

/-- How one may move by patterns one after the other. -/
def moveAll (text : List Char) : List Pattern → Move
  | [] => .pass 0 (allPlaces text)
  | [p] => p.move text
  | p :: ps => .andThen (p.move text) (moveAll text ps)

/-- How one may move by one of several patterns. -/
def moveAny (text : List Char) : List Pattern → Move
  | [] => .pass 0 0
  | [p] => p.move text
  | p :: ps => .either (p.move text) (moveAny text ps)

end

/-- Whether a pattern matches somewhere in a text. -/
def isMatch (p : Pattern) (text : List Char) : Bool := (p.move text).run (allPlaces text) != 0

end LinkParsing.Pattern
