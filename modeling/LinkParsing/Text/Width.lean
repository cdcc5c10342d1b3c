import LinkParsing.Text.WidthTable

/-!
# Display width

The number of columns that a text takes: two for wide characters, none for marks and
invisible characters, one for all others.  Some sequences count as a whole:

* the two characters that end a line;
* an emoji with its skin colour, with the selector that asks for it, or joined to others,
  two letters of a flag among them, takes two columns;
* a selector decides on the width of the character before it;
* letters that are drawn as one sign take the columns of that sign.

What a character contributes can depend on what follows, so the text is gone through
from its end.  A sign that is drawn into the one behind it takes back a column, so
contributions are integers.
-/

namespace LinkParsing.Text

/-- A letter that is drawn as one sign with letters before it, and what already stands between
them.  `joined` says that a joiner comes before the letter. -/
inductive Ligature where
  /-- The Arabic alef, with marks before it or not. -/
  | alef
  | hebrewLamed (joined : Bool)
  | bugineseYa (joined : Bool)
  /-- The Buginese ya behind a joiner and the vowel sign i. -/
  | bugineseIYa
  | tifinagh (joined : Bool)
  /-- A Tifinagh letter behind the consonant joiner. -/
  | tifinaghPair
  | lisuTone
  | turkicI (joined : Bool)
  /-- A Khmer letter that a coeng puts below the one before. -/
  | khmer
  deriving DecidableEq, Repr

namespace Ligature

/-- Put a joiner before the letter. -/
def join : Ligature → Ligature
  | hebrewLamed _ => hebrewLamed true
  | bugineseYa _ => bugineseYa true
  | tifinagh _ => tifinagh true
  | turkicI _ => turkicI true
  | other => other

/-- Whether joiners and invisible marks may stand before the letter; the alef has a rule
of its own. -/
def admitsInvisible (l : Ligature) : Bool := l != alef

end Ligature

/-- What follows a character, as far as it matters for the character's width. -/
inductive Following where
  | nothingSpecial
  | lineFeed
  /-- A skin colour whose columns are counted. -/
  | skinColour
  /-- A letter of a flag. -/
  | flagLetter
  /-- Several letters of flags. -/
  | flagLetters
  /-- An emoji whose columns are counted. -/
  | emoji
  /-- A joiner and an emoji. -/
  | joinedEmoji
  /-- The frame of a key, a joiner and an emoji. -/
  | joinedKey
  /-- The last letter of a flag, a joiner and an emoji. -/
  | joinedFlagLetter
  /-- Letters of flags, a joiner and an emoji; `complete` says that the letters make up pairs. -/
  | joinedFlags (complete : Bool)
  /-- The last tags of a flag with tags, a joiner and an emoji: so many digits, and so many
  letters behind them. -/
  | joinedTags (letters digits : Nat)
  /-- The Kirat Rai vowel signs that combine to others. -/
  | kiratE
  | kiratAi
  | ligature (letter : Ligature)
  deriving DecidableEq, Repr

/-- A request for one of the forms of the character before it. -/
inductive Selector where
  | asEmoji
  | asText
  /-- One of the first three forms; the second one of a quotation mark is wide. -/
  | form (wide : Bool)
  deriving DecidableEq, Repr

/-- What follows a character: first a selector, if there is one. -/
structure Behind where
  following : Following
  selector : Option Selector
  deriving DecidableEq, Repr

namespace Behind

/-- Nothing that matters. -/
def nothing : Behind := ⟨.nothingSpecial, none⟩

/-- Put a selector in front.  Only letters of a ligature, and joined emoji if the request is
for an emoji, stay in view behind it. -/
def select (b : Behind) (s : Selector) : Behind :=
  match b.following, s with
  | .ligature _, _ => { b with selector := some s }
  | .joinedEmoji, .asEmoji => { b with selector := some s }
  | .joinedKey, .asEmoji => { b with selector := some s }
  | _, _ => ⟨.nothingSpecial, some s⟩

/-- Leave out the selector, which concerns nothing. -/
def unselect (b : Behind) : Behind :=
  match b.following with
  | .ligature l => ⟨.ligature l, none⟩
  | _ => nothing

end Behind

/-- The columns of a character by itself. -/
def plainWidth (c : Char) : Nat :=
  if c.toNat ≤ 0xA0 then 1
  else if c = '\u17D8' then 3
  else if zeroWidth.contains c then 0
  else if wide.contains c then 2
  else 1

/-- Whether a character is a skin colour. -/
def isSkinColour (c : Char) : Bool := '🏻' ≤ c && c ≤ '🏿'

/-- Whether a character is a letter of a flag. -/
def isFlagLetter (c : Char) : Bool := '🇦' ≤ c && c ≤ '🇿'

/-- Whether a character is a Tifinagh letter. -/
def isTifinagh (c : Char) : Bool := ('\u2D31' ≤ c && c ≤ '\u2D65') || c = '\u2D6F'

/-- Whether a character is one of the Lisu tone letters that come first in a pair. -/
def isFirstTone (c : Char) : Bool := '\uA4F8' ≤ c && c ≤ '\uA4FB'

/-- The letter that a character is in a ligature, if it comes last there. -/
def lastOfLigature? (c : Char) : Option Ligature :=
  if c = '\u05DC' then some (.hebrewLamed false)
  else if c = '\u1A10' then some (.bugineseYa false)
  else if c = '\uA4FC' || c = '\uA4FD' then some .lisuTone
  else if c = Char.ofNat 0x10C03 then some (.turkicI false)
  else if isTifinagh c then some (.tifinagh false)
  else if subscribedLetters.contains c then some .khmer
  else if alefs.contains c then some .alef
  else none

/-- The selector that a character is. -/
def selector? (c : Char) : Option Selector :=
  if c = '\uFE0F' then some .asEmoji
  else if c = '\uFE0E' then some .asText
  else if '\uFE00' ≤ c && c ≤ '\uFE02' then some (.form (c = '\uFE01'))
  else none

/-- What a character is for the one before it, whatever follows. -/
def ownFollowing (c : Char) : Following :=
  if isSkinColour c then .skinColour
  else if isFlagLetter c then .flagLetter
  else if emojiShown.contains c then .emoji
  else if c = Char.ofNat 0x16D67 then .kiratE
  else if c = Char.ofNat 0x16D68 then .kiratAi
  else
    match lastOfLigature? c with
    | some l => .ligature l
    | none => .nothingSpecial

/-- The columns of a character whatever follows, and what it is for the one before it. -/
def alone (c : Char) : Int × Behind :=
  if c = '\n' then (1, ⟨.lineFeed, none⟩)
  else if c.toNat ≤ 0xA0 then (1, .nothing)
  else
    match selector? c with
    | some s => (0, ⟨.nothingSpecial, some s⟩)
    | none => (plainWidth c, ⟨ownFollowing c, none⟩)

/-- Whether a character is passed over between lam and alef. -/
def isTransparent (c : Char) : Bool :=
  c.toNat > 0xA0 && zeroWidth.contains c && !separating.contains c

/-- Whether a character that is shown as emoji can be asked to be shown as text, one column
wide; emoji in squares stay wide. -/
def hasNarrowForm (c : Char) : Bool :=
  selectableEmoji.contains c && emojiShown.contains c && !('🈀' ≤ c && c ≤ '🋿')

/-- Whether a character is a quotation mark with a wide form. -/
def isCurlyQuote (c : Char) : Bool := c = '‘' || c = '’' || c = '“' || c = '”'

/-- The columns that a character adds before a letter with which it may be drawn as one sign. -/
def beforeLigature (c : Char) : Ligature → Option (Int × Following)
  | .alef =>
    if lams.contains c then some (0, .nothingSpecial)
    else if isTransparent c then some (0, .ligature .alef)
    else none
  | .hebrewLamed true => if c = '\u05D0' then some (0, .nothingSpecial) else none
  | .bugineseYa true => if c = '\u1A17' then some (0, .ligature .bugineseIYa) else none
  | .bugineseIYa => if c = '\u1A15' then some (0, .nothingSpecial) else none
  | .tifinagh joined =>
    if c = '\u2D7F' then some (1, .ligature .tifinaghPair)
    else if joined && isTifinagh c then some (0, .nothingSpecial)
    else none
  | .tifinaghPair => if isTifinagh c then some (-1, .nothingSpecial) else none
  | .lisuTone => if isFirstTone c then some (0, .nothingSpecial) else none
  | .turkicI true => if c = Char.ofNat 0x10C32 then some (0, .nothingSpecial) else none
  | .khmer => if c = '\u17D2' then some (-1, .nothingSpecial) else none
  | _ => none

/-- The columns that a character adds before a joiner and an emoji. -/
def beforeJoinedEmoji (c : Char) : Option (Int × Following) :=
  if c = '\u20E3' then some (0, .joinedKey)
  else if isFlagLetter c then some (1, .joinedFlagLetter)
  else if isSkinColour c then some (0, .skinColour)
  else if c = Char.ofNat 0xE007F then some (0, .joinedTags 0 0)
  else if emojiShown.contains c then some (0, .emoji)
  else none

/-- The columns that a character adds before tags.  The tags of a flag are three to six letters,
or three digits and at most four letters behind them. -/
def beforeTags (c : Char) (letters digits : Nat) : Option (Int × Following) :=
  if c = '🏴' then
    if digits = 3 || (digits = 0 && 3 ≤ letters) then some (0, .emoji) else none
  else if Char.ofNat 0xE0061 ≤ c && c ≤ Char.ofNat 0xE007A then
    if digits = 0 && letters < 6 then some (0, .joinedTags (letters + 1) 0) else none
  else if Char.ofNat 0xE0030 ≤ c && c ≤ Char.ofNat 0xE0039 then
    if letters ≤ 4 && digits < 3 then some (0, .joinedTags letters (digits + 1)) else none
  else none

/-- The columns that a character adds before the Kirat Rai vowel sign e: the sign aa and a second
sign e combine with it. -/
def beforeKiratE (c : Char) : Option (Int × Following) :=
  if c = Char.ofNat 0x16D63 || c = Char.ofNat 0x16D69 then some (0, .nothingSpecial)
  else if c = Char.ofNat 0x16D67 then some (0, .kiratAi)
  else if c = Char.ofNat 0x16D68 then some (1, .kiratE)
  else none

/-- The columns that a character adds as a part of a sequence with what follows, and what the
two are for the character before; nothing if it is no such part. -/
def inSequence (c : Char) : Following → Option (Int × Following)
  | .ligature l => beforeLigature c l
  | .skinColour =>
    if modifierBases.contains c then some (0, .emoji) else joiner c
  | .flagLetter => if isFlagLetter c then some (1, .flagLetters) else none
  | .flagLetters => if isFlagLetter c then some (1, .flagLetters) else joiner c
  | .emoji => joiner c
  | .joinedEmoji => beforeJoinedEmoji c
  | .joinedFlagLetter => if isFlagLetter c then some (-1, .joinedFlags true) else none
  | .joinedFlags complete =>
    if isFlagLetter c then some (if complete then 3 else -1, .joinedFlags !complete) else joiner c
  | .joinedTags letters digits => beforeTags c letters digits
  | .kiratE => beforeKiratE c
  | .kiratAi => if c = Char.ofNat 0x16D63 then some (0, .nothingSpecial) else none
  | _ => none
where
  /-- A joiner before an emoji. -/
  joiner (c : Char) : Option (Int × Following) :=
    if c = '\u200D' then some (0, .joinedEmoji) else none

/-- The columns that a character adds before what follows if no selector concerns it. -/
def addUnselected (c : Char) (b : Behind) : Int × Behind :=
  match b.following with
  | .ligature l =>
    if l.admitsInvisible && c = '\u200D' then (0, ⟨.ligature l.join, none⟩)
    else if l.admitsInvisible && invisibleMarks.contains c then (0, b)
    else sequenceOrAlone
  | _ => sequenceOrAlone
where
  /-- As a part of a sequence, or else alone. -/
  sequenceOrAlone : Int × Behind :=
    match inSequence c b.following with
    | some (width, following) => (width, ⟨following, none⟩)
    | none => alone c

/-- The columns that a character above ASCII adds to what follows, and what the two are for the
one before. -/
def addBeyondAscii (c : Char) (b : Behind) : Int × Behind :=
  match selector? c with
  | some s => (0, b.select s)
  | none =>
    match b.selector with
    | some .asText =>
      if hasNarrowForm c then (1, .nothing) else addUnselected c b.unselect
    | some (.form wide) =>
      if isCurlyQuote c then (if wide then 2 else 1, .nothing) else addUnselected c b.unselect
    | _ => addUnselected c b

/-- The columns that a character adds to what follows, and what the two are for the one
before. -/
def addWidth (c : Char) (b : Behind) : Int × Behind :=
  if b.selector = some .asEmoji then
    if selectableEmoji.contains c then
      (if b.following = .joinedEmoji || b.following = .joinedKey then 0 else 2, ⟨.emoji, none⟩)
    else add c b.unselect
  else add c b
where
  /-- Where no selector asks for an emoji. -/
  add (c : Char) (b : Behind) : Int × Behind :=
    if c = '\r' && b.following = .lineFeed then (0, .nothing)
    else if c.toNat ≤ 0xA0 then alone c
    else addBeyondAscii c b

/-- The columns of a text, and what it is for a character before it. -/
def widthAndStart : List Char → Int × Behind
  | [] => (0, .nothing)
  | c :: rest =>
    let (width, behind) := widthAndStart rest
    let (added, start) := addWidth c behind
    (added + width, start)

/-- The number of columns that a text takes. -/
def displayWidth (text : List Char) : Nat := (widthAndStart text).1.toNat

end LinkParsing.Text
