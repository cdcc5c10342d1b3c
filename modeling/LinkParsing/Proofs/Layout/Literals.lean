import LinkParsing.Layout.PostScript
import Mathlib.Data.Char

/-!
# Texts in string literals

A text is written byte by byte, and every byte so that it is read back as itself
(`readEscaped_escapeByte`), whatever follows.  So an escaped text is read back as its bytes up to
the first parenthesis behind it (`readEscaped_escape`), and it consists of printable characters
(`printable_escape`).
-/

namespace LinkParsing

namespace Text

/-- The bytes of a text in UTF-8. -/
def bytes (text : String) : List UInt8 := text.toUTF8.data.toList

theorem utf8Bytes_eq (c : Char) : utf8Bytes c = (String.utf8EncodeChar c).map UInt8.toNat := by
  have hmax : c.toNat < 0x110000 := by
    have hvalid := c.valid
    simp only [UInt32.isValidChar, Nat.isValidChar] at hvalid
    show c.val.toNat < 0x110000
    omega
  have hval : c.val.toNat = c.toNat := rfl
  unfold utf8Bytes String.utf8EncodeChar
  simp only [hval]
  split_ifs <;> simp only [List.map_cons, List.map_nil, UInt8.toNat_ofNat', List.cons.injEq,
    and_true] <;> omega

/-- The bytes of the characters of a text are those of the text. -/
theorem flatMap_utf8Bytes (text : String) :
    text.toList.flatMap utf8Bytes = (bytes text).map UInt8.toNat := by
  have hbytes : bytes text = text.toList.flatMap String.utf8EncodeChar := by
    rw [bytes, String.toUTF8_eq_toByteArray, ← String.utf8Encode_toList, List.utf8Encode,
      List.data_toByteArray]
  rw [hbytes, List.map_flatMap, funext utf8Bytes_eq]

end Text

namespace PostScript

/-! ## Reading -/

/-- The value of an octal digit. -/
def octalValue? (c : Char) : Option Nat :=
  if '0' ≤ c && c ≤ '7' then some (c.toNat - 48) else none

/-- The byte that three octal digits stand for. -/
def octalByte? (a b c : Char) : Option UInt8 := do
  return UInt8.ofNat (64 * (← octalValue? a) + 8 * (← octalValue? b) + (← octalValue? c))

/-- Whether a character stands in a literal for itself only behind a backslash. -/
def isDelimiter (c : Char) : Bool := c = '(' || c = ')' || c = '\\'

/-- Read what a string literal says, as far as it goes: characters of ASCII stand for their bytes,
parentheses and the backslash only behind a backslash, and three octal digits behind a backslash
for the byte with this number.  What is left begins with a parenthesis that no backslash stands
before, or with what is no part of a literal. -/
def readEscaped : List Char → List UInt8 × List Char
  | [] => ([], [])
  | '\\' :: c :: rest =>
    if isDelimiter c then
      let (bytes, left) := readEscaped rest
      (UInt8.ofNat c.toNat :: bytes, left)
    else
      match rest with
      | d :: e :: rest =>
        match octalByte? c d e with
        | some byte =>
          let (bytes, left) := readEscaped rest
          (byte :: bytes, left)
        | none => ([], '\\' :: c :: d :: e :: rest)
      | rest => ([], '\\' :: c :: rest)
  | c :: rest =>
    if isDelimiter c || 128 ≤ c.toNat then ([], c :: rest)
    else
      let (bytes, left) := readEscaped rest
      (UInt8.ofNat c.toNat :: bytes, left)

/-- Read a literal, which ends with the first parenthesis that no backslash stands before. -/
def readLiteral? : List Char → Option (List UInt8 × List Char)
  | '(' :: text =>
    match readEscaped text with
    | (bytes, ')' :: rest) => some (bytes, rest)
    | _ => none
  | _ => none

variable {b : Nat} {byte : UInt8} {c d e : Char} {rest : List Char}

theorem readEscaped_delimiter (hc : isDelimiter c = true) :
    readEscaped ('\\' :: c :: rest) =
      (UInt8.ofNat c.toNat :: (readEscaped rest).1, (readEscaped rest).2) := by
  rcases rest with _ | ⟨d, _ | ⟨e, rest⟩⟩ <;> simp only [readEscaped, if_pos hc]

theorem readEscaped_octal (hc : isDelimiter c = false) (hbyte : octalByte? c d e = some byte) :
    readEscaped ('\\' :: c :: d :: e :: rest) =
      (byte :: (readEscaped rest).1, (readEscaped rest).2) := by
  rw [readEscaped, if_neg (Bool.eq_false_iff.mp hc)]
  simp only [hbyte]

theorem readEscaped_plain (hc : isDelimiter c = false) (hascii : c.toNat < 128) :
    readEscaped (c :: rest) =
      (UInt8.ofNat c.toNat :: (readEscaped rest).1, (readEscaped rest).2) := by
  have hbackslash : c ≠ '\\' := by
    rintro rfl
    exact absurd hc (by decide)
  rw [readEscaped]
  · simp [hc, hascii]
  · intro d rest heq
    simp_all

/-! ## Escaped bytes -/

theorem forall_octalDigit {P : Nat → Char → Prop} (h : ∀ d < 8, P d (Char.ofNat (48 + d)))
    (n : Nat) : P (n % 8) (octalDigit n) :=
  h _ (Nat.mod_lt n (by decide))

theorem isDelimiter_octalDigit (n : Nat) : isDelimiter (octalDigit n) = false :=
  forall_octalDigit (P := fun _ c => isDelimiter c = false) (by decide) n

theorem octalValue?_octalDigit (n : Nat) : octalValue? (octalDigit n) = some (n % 8) :=
  forall_octalDigit (P := fun d c => octalValue? c = some d) (by decide) n

/-- Three octal digits are enough for a byte. -/
theorem octalByte?_octalDigit (hb : b < 256) :
    octalByte? (octalDigit (b / 64)) (octalDigit (b / 8)) (octalDigit b) =
      some (UInt8.ofNat b) := by
  have hvalue : 64 * (b / 64 % 8) + 8 * (b / 8 % 8) + b % 8 = b := by omega
  simp only [octalByte?, octalValue?_octalDigit, Option.bind_eq_bind, Option.bind_some,
    Option.pure_def, hvalue]

theorem toNat_charOfNat (hb : b < 256) : (Char.ofNat b).toNat = b := by
  rw [Char.ofNat, dif_pos (Or.inl (by omega))]
  rfl

theorem isDelimiter_iff : isDelimiter c = true ↔ c.toNat = 40 ∨ c.toNat = 41 ∨ c.toNat = 92 := by
  simp only [isDelimiter, Bool.or_eq_true, decide_eq_true_eq, ← Char.toNat_inj, or_assoc]
  exact Iff.rfl

/-- Every byte is read back, whatever follows it. -/
theorem readEscaped_escapeByte (hb : b < 256) (rest : List Char) :
    readEscaped (escapeByte b ++ rest) =
      (UInt8.ofNat b :: (readEscaped rest).1, (readEscaped rest).2) := by
  have hcode : (Char.ofNat b).toNat = b := toNat_charOfNat hb
  unfold escapeByte
  split_ifs with hdelimiter hprintable
  · have hc : isDelimiter (Char.ofNat b) = true := by
      rw [isDelimiter_iff, hcode]
      simpa [or_assoc] using hdelimiter
    show readEscaped ('\\' :: Char.ofNat b :: rest) = _
    rw [readEscaped_delimiter hc, hcode]
  · have hc : isDelimiter (Char.ofNat b) = false := by
      rw [Bool.eq_false_iff, Ne, isDelimiter_iff, hcode]
      simpa [or_assoc] using hdelimiter
    have hascii : (Char.ofNat b).toNat < 128 := by
      simp only [Bool.and_eq_true, decide_eq_true_eq] at hprintable
      omega
    show readEscaped (Char.ofNat b :: rest) = _
    rw [readEscaped_plain hc hascii, hcode]
  · exact readEscaped_octal (isDelimiter_octalDigit _) (octalByte?_octalDigit hb)

/-! ## Escaped texts -/

/-- An escaped text is read back as its bytes, and reading goes on behind it. -/
theorem readEscaped_escape (text : String) (rest : List Char) :
    readEscaped ((escape text).toList ++ rest) =
      (Text.bytes text ++ (readEscaped rest).1, (readEscaped rest).2) := by
  rw [escape, String.toList_ofList, escapeChars, Text.flatMap_utf8Bytes]
  induction Text.bytes text with
  | nil => rfl
  | cons byte bytes ih =>
      rw [List.map_cons, List.flatMap_cons, List.append_assoc,
        readEscaped_escapeByte byte.toNat_lt, ih, UInt8.ofNat_toNat]
      rfl

theorem readLiteral?_escape (text : String) (rest : List Char) :
    readLiteral? ('(' :: ((escape text).toList ++ ')' :: rest)) =
      some (Text.bytes text, rest) := by
  have hend : readEscaped (')' :: rest) = ([], ')' :: rest) := by
    rw [readEscaped]
    · rfl
    · simp
  rw [readLiteral?, readEscaped_escape, hend]
  show some (Text.bytes text ++ [], rest) = _
  rw [List.append_nil]

/-- A literal may be followed by digits, and have digits behind bytes that are written as
numbers. -/
example : readLiteral? "(\\321\\2177\\) \\\\) 10".toList =
    some ([209, 143, 55, 41, 32, 92], " 10".toList) := by cbv

/-! ## Printable texts -/

/-- Characters of ASCII other than controls; ends of lines are not among them. -/
def isPrintable (c : Char) : Bool := 32 ≤ c.toNat && c.toNat ≤ 126

theorem isPrintable_octalDigit (n : Nat) : isPrintable (octalDigit n) = true :=
  forall_octalDigit (P := fun _ c => isPrintable c = true) (by decide) n

theorem all_isPrintable_escapeByte (b : Nat) : (escapeByte b).all isPrintable = true := by
  unfold escapeByte
  split_ifs with hdelimiter hprintable
  · simp only [Bool.or_eq_true, decide_eq_true_eq] at hdelimiter
    obtain (rfl | rfl) | rfl := hdelimiter <;> decide
  · have hb : b < 256 := by
      simp only [Bool.and_eq_true, decide_eq_true_eq] at hprintable
      omega
    simp only [List.all_cons, List.all_nil, Bool.and_true, isPrintable, toNat_charOfNat hb]
    exact hprintable
  · simp only [List.all_cons, List.all_nil, Bool.and_true, isPrintable_octalDigit]
    decide

/-- A text of printable characters. -/
def Printable (text : String) : Prop := text.toList.all isPrintable = true

instance : DecidablePred Printable := fun text =>
  inferInstanceAs (Decidable (text.toList.all isPrintable = true))

theorem printable_iff {text : String} :
    Printable text ↔ ∀ c ∈ text.toList, isPrintable c = true := List.all_eq_true

theorem printable_append {s t : String} : Printable (s ++ t) ↔ Printable s ∧ Printable t := by
  simp only [printable_iff, String.toList_append, List.forall_mem_append]

theorem printable_escape (text : String) : Printable (escape text) := by
  rw [Printable, escape, String.toList_ofList, escapeChars, List.all_flatMap]
  exact List.all_eq_true.mpr fun b _ => all_isPrintable_escapeByte b

theorem printable_repr (n : Nat) : Printable n.repr := by
  rw [printable_iff]
  intro c hc
  rw [Nat.toList_repr] at hc
  have hdigit : c.isDigit = true := Nat.isDigit_of_mem_toDigits (by decide) (by decide) hc
  simp only [Char.isDigit, Bool.and_eq_true, decide_eq_true_eq] at hdigit
  have hlow : 48 ≤ c.toNat := hdigit.1
  have hhigh : c.toNat ≤ 57 := hdigit.2
  simp only [isPrintable, Bool.and_eq_true, decide_eq_true_eq]
  omega

end PostScript

end LinkParsing
