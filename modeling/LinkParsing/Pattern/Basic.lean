import LinkParsing.Pattern.CharSet

/-!
# Patterns

A regular expression as it is after reading: flags are worked into the sets, and only
groups that are counted are left.

How long the matches of a pattern are, and whether they are bound to an end of the
text, is told without running it.
-/

namespace LinkParsing

/-- A condition on a place between characters. -/
inductive Pattern.Assertion where
  | textStart
  | textEnd
  | lineStart
  | lineEnd
  /-- A character of a word on exactly one side. -/
  | wordBoundary
  | notWordBoundary
  /-- A character of a word behind and none before. -/
  | wordStart
  /-- A character of a word before and none behind. -/
  | wordEnd
  /-- No character of a word before. -/
  | wordStartHalf
  /-- No character of a word behind. -/
  | wordEndHalf
  deriving DecidableEq, Repr

/-- A regular expression. -/
inductive Pattern where
  | empty
  /-- The characters of a text, one after the other. -/
  | literal (text : List Char)
  /-- One character of a set. -/
  | chars (set : Pattern.CharSet)
  /-- No character, at a place that meets a condition. -/
  | assertion (a : Pattern.Assertion)
  /-- At least `least` times and, where `most` is given, at most so many times; many times
  rather than few if it is `greedy`, which makes no difference to whether there is a match. -/
  | repeat (inner : Pattern) (least : Nat) (most : Option Nat) (greedy : Bool)
  /-- A counted group, told apart from others by the place where it begins. -/
  | group (place : Nat) (inner : Pattern)
  /-- One after the other. -/
  | concat (items : List Pattern)
  /-- One of several. -/
  | alternatives (items : List Pattern)

namespace Pattern

mutual

/-- Whether two patterns are the same. -/
def same : Pattern → Pattern → Bool
  | empty, empty => true
  | literal a, literal b => a == b
  | chars a, chars b => a.changes == b.changes
  | assertion a, assertion b => a == b
  | .repeat p least most greedy, .repeat q least' most' greedy' =>
    least == least' && most == most' && greedy == greedy' && p.same q
  | group place p, group place' q => place == place' && p.same q
  | concat ps, concat qs => sameAll ps qs
  | alternatives ps, alternatives qs => sameAll ps qs
  | _, _ => false

/-- Whether two lists hold the same patterns in the same order. -/
def sameAll : List Pattern → List Pattern → Bool
  | [], [] => true
  | p :: ps, q :: qs => p.same q && sameAll ps qs
  | _, _ => false

end

mutual

/-- The number of characters that a match has at least; nothing if some part matches nothing
at all. -/
def minLength : Pattern → Option Nat
  | empty => some 0
  | literal text => some text.length
  | chars set => if set.isEmpty then none else some 1
  | assertion _ => some 0
  | .repeat inner least _ _ => inner.minLength.map (least * ·)
  | group _ inner => inner.minLength
  | concat items => minLengthSum items
  | alternatives items => minLengthMin items

/-- The sum of the least lengths. -/
def minLengthSum : List Pattern → Option Nat
  | [] => some 0
  | p :: ps =>
    match p.minLength, minLengthSum ps with
    | some a, some b => some (a + b)
    | _, _ => none

/-- The smallest of the least lengths. -/
def minLengthMin : List Pattern → Option Nat
  | [] => none
  | [p] => p.minLength
  | p :: ps =>
    match p.minLength, minLengthMin ps with
    | some a, some b => some (min a b)
    | _, _ => none

end

mutual

/-- The number of characters that a match has at most; nothing if there is no bound, or if some
part matches nothing at all. -/
def maxLength : Pattern → Option Nat
  | empty => some 0
  | literal text => some text.length
  | chars set => if set.isEmpty then none else some 1
  | assertion _ => some 0
  | .repeat inner _ most _ =>
    match most, inner.maxLength with
    | some m, some n => some (m * n)
    | _, _ => none
  | group _ inner => inner.maxLength
  | concat items => maxLengthSum items
  | alternatives items => maxLengthMax items

/-- The sum of the greatest lengths. -/
def maxLengthSum : List Pattern → Option Nat
  | [] => some 0
  | p :: ps =>
    match p.maxLength, maxLengthSum ps with
    | some a, some b => some (a + b)
    | _, _ => none

/-- The largest of the greatest lengths. -/
def maxLengthMax : List Pattern → Option Nat
  | [] => none
  | [p] => p.maxLength
  | p :: ps =>
    match p.maxLength, maxLengthMax ps with
    | some a, some b => some (max a b)
    | _, _ => none

end

/-- Whether every match has a character. -/
def consumes (p : Pattern) : Bool := p.minLength.any (0 < ·)

/-- Whether no match has a character. -/
def isAlwaysEmpty (p : Pattern) : Bool := p.maxLength == some 0

mutual

/-- Whether every match meets a condition at its start. -/
def startsWith (a : Assertion) : Pattern → Bool
  | assertion b => a == b
  | .repeat inner least _ _ => 0 < least && inner.startsWith a
  | group _ inner => inner.startsWith a
  | concat items => someStartsWith a items
  | alternatives items => !items.isEmpty && allStartWith a items
  | _ => false

/-- Whether one of the items up to the first with characters meets it. -/
def someStartsWith (a : Assertion) : List Pattern → Bool
  | [] => false
  | p :: ps => p.startsWith a || (p.isAlwaysEmpty && someStartsWith a ps)

/-- Whether all of the items meet it. -/
def allStartWith (a : Assertion) : List Pattern → Bool
  | [] => true
  | p :: ps => p.startsWith a && allStartWith a ps

end

mutual

/-- Whether every match meets a condition at its end. -/
def endsWith (a : Assertion) : Pattern → Bool
  | assertion b => a == b
  | .repeat inner least _ _ => 0 < least && inner.endsWith a
  | group _ inner => inner.endsWith a
  | concat items => (someEndsWith a items).1
  | alternatives items => !items.isEmpty && allEndWith a items
  | _ => false

/-- Whether one of the items from the last one with characters on meets it, and whether there
is none with characters. -/
def someEndsWith (a : Assertion) : List Pattern → Bool × Bool
  | [] => (false, true)
  | p :: ps =>
    let (found, noCharacters) := someEndsWith a ps
    (found || (noCharacters && p.endsWith a), noCharacters && p.isAlwaysEmpty)

/-- Whether all of the items meet it. -/
def allEndWith (a : Assertion) : List Pattern → Bool
  | [] => true
  | p :: ps => p.endsWith a && allEndWith a ps

end

end Pattern

end LinkParsing
