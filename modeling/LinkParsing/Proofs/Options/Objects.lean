import LinkParsing.Options.Json
import LinkParsing.Proofs.Text.Cuts
import Mathlib.Data.List.Forall2

/-!
# JSON objects as texts

An object is written as its fields between curly brackets, with commas between them and blanks
around everything; names are strings, in which a character may be written in several ways
(`Spells`).  Reading is shown for texts with anything behind them: a string is read up to its
closing quote (`readString_of_spells`), a value up to what is no digit (`readValue_toChars`), and
the fields up to the closing bracket (`readItems_intercalate`).  So an object is read as the
document with its fields, in their order (`readDocument_of_object`).
-/

namespace LinkParsing

/-- The text of a value: decimal digits without leading zeros, or a word. -/
def DocumentValue.toChars : DocumentValue → List Char
  | .number n => Nat.toDigits 10 n
  | .truth true => ['t', 'r', 'u', 'e']
  | .truth false => ['f', 'a', 'l', 's', 'e']

namespace Options.Json

/-- The characters that a backslash and a letter or sign stand for. -/
def shortEscapes : List (Char × Char) :=
  [('"', '"'), ('\\', '\\'), ('/', '/'), ('b', '\x08'), ('f', '\x0C'), ('n', '\n'), ('r', '\r'),
    ('t', '\t')]

/-- A string can be written like this between its quotes: every character as itself, if it is no
quote, backslash or control character, or behind a backslash, by a short escape or its code. -/
inductive Spells : List Char → List Char → Prop where
  | done : Spells [] []
  | plain {c w name} (hquote : c ≠ '"') (hbackslash : c ≠ '\\') (hcontrol : 0x20 ≤ c.toNat)
      (hrest : Spells w name) : Spells (c :: w) (c :: name)
  | short {e c w name} (hescape : (e, c) ∈ shortEscapes) (hrest : Spells w name) :
      Spells ('\\' :: e :: w) (c :: name)
  | code {a b c d e w name} (hcode : escapedChar? a b c d = some e) (hrest : Spells w name) :
      Spells ('\\' :: 'u' :: a :: b :: c :: d :: w) (e :: name)

variable {b rest text value w name : List Char}

/-! ## Strings -/

theorem readString_plain {c : Char} (hquote : c ≠ '"') (hbackslash : c ≠ '\\')
    (hcontrol : 0x20 ≤ c.toNat) :
    readString (c :: rest) = (readString rest).map fun (chars, rest) => (c :: chars, rest) := by
  rw [readString, if_neg (Nat.not_lt.mpr hcontrol)]
  · exact hquote
  · exact fun _ _ _ _ _ h _ => hbackslash h
  · exact fun _ _ h _ => hbackslash h

theorem readString_short {e c : Char} (hescape : (e, c) ∈ shortEscapes) :
    readString ('\\' :: e :: rest) =
      (readString rest).map fun (chars, rest) => (c :: chars, rest) := by
  simp only [shortEscapes, List.mem_cons, Prod.mk.injEq, List.not_mem_nil, or_false] at hescape
  rcases hescape with h | h | h | h | h | h | h | h <;> obtain ⟨rfl, rfl⟩ := h <;>
    rw [readString] <;> cases readString rest <;> rfl

theorem readString_code {a b c d e : Char} (hcode : escapedChar? a b c d = some e) :
    readString ('\\' :: 'u' :: a :: b :: c :: d :: rest) =
      (readString rest).map fun (chars, rest) => (e :: chars, rest) := by
  rw [readString, hcode]
  cases readString rest <;> rfl

/-- However a string is written, it is read, up to the quote behind it. -/
theorem readString_of_spells (h : Spells w name) (rest : List Char) :
    readString (w ++ '"' :: rest) = some (name, rest) := by
  induction h with
  | done => rfl
  | plain hquote hbackslash hcontrol _ ih =>
      rw [List.cons_append, readString_plain hquote hbackslash hcontrol, ih]
      rfl
  | short hescape _ ih =>
      rw [List.cons_append, List.cons_append, readString_short hescape, ih]
      rfl
  | code hcode _ ih =>
      simp only [List.cons_append]
      rw [readString_code hcode, ih]
      rfl

theorem spells_self
    (h : (name.all fun c => c != '"' && c != '\\' && decide (0x20 ≤ c.toNat)) = true) :
    Spells name name := by
  induction name with
  | nil => exact .done
  | cons c name ih =>
      simp only [List.all_cons, Bool.and_eq_true, bne_iff_ne, decide_eq_true_eq] at h ih
      obtain ⟨⟨⟨hquote, hbackslash⟩, hcontrol⟩, hname⟩ := h
      exact .plain hquote hbackslash hcontrol (ih hname)

/-! ## Values -/

theorem decimal_toDigits (n : Nat) : Text.decimal (Nat.toDigits 10 n) = n := by
  have h : Nat.ofDigitChars 10 (Nat.toDigits 10 n) 0 = n := Nat.ofDigitChars_ten_toDigits
  rw [Nat.ofDigitChars_eq_foldl] at h
  exact h

theorem all_isDigit_toDigits (n : Nat) : (Nat.toDigits 10 n).all Char.isDigit = true :=
  List.all_eq_true.mpr fun _ hc => Nat.isDigit_of_mem_toDigits (by decide) (by decide) hc

/-- The digits of a number other than zero begin with another digit than zero. -/
theorem exists_toDigits_eq_cons (n : Nat) (hn : n ≠ 0) :
    ∃ c digits, Nat.toDigits 10 n = c :: digits ∧ c ≠ '0' := by
  induction n using Nat.strongRecOn with
  | ind n ih =>
      by_cases hlt : n < 10
      · refine ⟨Nat.digitChar n, [], Nat.toDigits_of_lt_base hlt, ?_⟩
        rwa [ne_eq, Nat.digitChar_eq_zero]
      · obtain ⟨c, digits, hdigits, hc⟩ := ih (n / 10) (by omega) (by omega)
        rw [Nat.toDigits_of_base_le (by decide) (Nat.le_of_not_lt hlt), hdigits]
        exact ⟨c, _, rfl, hc⟩

theorem readValue_of_digit {c : Char} {t : List Char} (hc : c.isDigit = true) (hzero : c ≠ '0') :
    readValue (c :: t) = some (.number (Text.decimal ((c :: t).takeWhile Char.isDigit)),
      (c :: t).dropWhile Char.isDigit) := by
  rw [readValue]
  · simp [hc]
  -- What begins with a digit is no word, and no zero.
  · rintro rest ⟨⟩
    exact absurd hc (by decide)
  · rintro rest ⟨⟩
    exact absurd hc (by decide)
  · rintro rest ⟨⟩
    exact hzero rfl

/-- A value is read as far as it goes, if no further digit follows it. -/
theorem readValue_toChars (v : DocumentValue) (hrest : Stops Char.isDigit rest) :
    readValue (v.toChars ++ rest) = some (v, rest) := by
  cases v with
  | truth b => cases b <;> rfl
  | number n =>
      rw [DocumentValue.toChars]
      by_cases hn : n = 0
      · subst hn
        rfl
      · have htake := takeWhile_append (all_isDigit_toDigits n) hrest
        have hdrop := dropWhile_append (all_isDigit_toDigits n) hrest
        obtain ⟨c, digits, hdigits, hc⟩ := exists_toDigits_eq_cons n hn
        have hdigit : c.isDigit = true :=
          List.all_eq_true.mp (all_isDigit_toDigits n) c (hdigits ▸ List.mem_cons_self)
        have hread := readValue_of_digit (t := digits ++ rest) hdigit hc
        rw [← List.cons_append, ← hdigits, htake, hdrop, decimal_toDigits] at hread
        exact hread

/-! ## Fields -/

theorem skipBlanks_append (hb : b.all isBlank = true) (hrest : Stops isBlank rest) :
    skipBlanks (b ++ rest) = rest :=
  dropWhile_append hb hrest

/-- A field is written as its name between quotes, a colon and the text of its value, with blanks
around each of them. -/
inductive WritesField : List Char → String × List Char → Prop where
  | intro {b₁ b₂ b₃ b₄ w value key} (h₁ : b₁.all isBlank = true) (h₂ : b₂.all isBlank = true)
      (h₃ : b₃.all isBlank = true) (h₄ : b₄.all isBlank = true) (hkey : Spells w key.toList) :
      WritesField (b₁ ++ '"' :: (w ++ '"' :: (b₂ ++ ':' :: (b₃ ++ (value ++ b₄))))) (key, value)

theorem writesField_of_spells {key : String} (hkey : Spells w key.toList) (value : List Char) :
    WritesField ('"' :: (w ++ '"' :: ':' :: value)) (key, value) := by
  have h := @WritesField.intro [] [] [] [] w value key rfl rfl rfl rfl hkey
  rwa [List.append_nil] at h

/-- Reading a field is reading its value, with the blanks that may be behind it. -/
theorem readField_of_writes {key : String} (h : WritesField text (key, value))
    (hvalue : ∀ rest, Stops isBlank (value ++ rest)) : ∃ b, b.all isBlank = true ∧
      ∀ rest, readField (text ++ rest) =
        (readValue (value ++ (b ++ rest))).map fun (v, rest) => ((key, v), rest) := by
  cases h with
  | @intro b₁ b₂ b₃ b₄ w _ _ h₁ h₂ h₃ h₄ hkey =>
      refine ⟨b₄, h₄, fun rest => ?_⟩
      have hquote (rest : List Char) : Stops isBlank ('"' :: rest) := stops_cons.mpr (by decide)
      have hcolon (rest : List Char) : Stops isBlank (':' :: rest) := stops_cons.mpr (by decide)
      simp only [List.append_assoc, List.cons_append]
      rw [readField, skipBlanks_append h₁ (hquote _)]
      simp only [readString_of_spells hkey, skipBlanks_append h₂ (hcolon _),
        skipBlanks_append h₃ (hvalue (b₄ ++ rest)), String.ofList_toList]

theorem head?_skipBlanks_of_writes {field : String × List Char} (h : WritesField text field)
    (rest : List Char) : (skipBlanks (text ++ rest)).head? = some '"' := by
  cases h with
  | intro h₁ _ _ _ _ =>
      rw [List.append_assoc, List.cons_append, skipBlanks_append h₁ (stops_cons.mpr (by decide))]
      rfl

theorem stops_isDigit_of_isBlank (hb : b.all isBlank = true) (hrest : Stops Char.isDigit rest) :
    Stops Char.isDigit (b ++ rest) := by
  cases b with
  | nil => exact hrest
  | cons c b =>
      rw [List.all_cons, Bool.and_eq_true, isBlank] at hb
      simp only [Bool.or_eq_true, beq_iff_eq] at hb
      rw [List.cons_append, stops_cons]
      rcases hb.1 with ((rfl | rfl) | rfl) | rfl <;> decide

theorem stops_isBlank_toChars (v : DocumentValue) (rest : List Char) :
    Stops isBlank (v.toChars ++ rest) := by
  cases v with
  | truth b => cases b <;> exact stops_cons.mpr (by decide)
  | number n =>
      obtain ⟨c, digits, hdigits, hc⟩ :=
        exists_cons_of_all (Nat.toDigits_ne_nil (n := n)) (all_isDigit_toDigits n)
      rw [DocumentValue.toChars, hdigits, List.cons_append, stops_cons]
      by_contra hblank
      rw [Bool.not_eq_false, isBlank] at hblank
      simp only [Bool.or_eq_true, beq_iff_eq] at hblank
      rcases hblank with ((rfl | rfl) | rfl) | rfl <;> exact absurd hc (by decide)

/-- A field is read up to the blanks behind it, if no digit follows it. -/
theorem readField_toChars {key : String} {v : DocumentValue}
    (h : WritesField text (key, v.toChars)) : ∃ b, b.all isBlank = true ∧
      ∀ rest, Stops Char.isDigit rest → readField (text ++ rest) = some ((key, v), b ++ rest) := by
  obtain ⟨b, hb, hread⟩ := readField_of_writes h (stops_isBlank_toChars v)
  refine ⟨b, hb, fun rest hrest => ?_⟩
  rw [hread, readValue_toChars v (stops_isDigit_of_isBlank hb hrest)]
  rfl

/-! ## Objects -/

/-- The fields of a document with the texts of their values. -/
def fieldTexts (fields : List (String × DocumentValue)) : List (String × List Char) :=
  fields.map fun (key, v) => (key, v.toChars)

/-- Fields with commas between them are read up to the bracket behind them. -/
theorem readItems_intercalate {texts : List (List Char)} {fields : List (String × DocumentValue)}
    (h : List.Forall₂ WritesField texts (fieldTexts fields)) (hne : texts ≠ []) {count : Nat}
    (hcount : texts.length ≤ count) (rest : List Char) :
    readItems readField '}' count ([','].intercalate texts ++ '}' :: rest) =
      some (fields, rest) := by
  induction texts generalizing fields count with
  | nil => exact absurd rfl hne
  | cons text texts ih =>
      obtain _ | count := count
      · cases hcount
      obtain _ | ⟨⟨key, v⟩, fields⟩ := fields
      · cases h
      obtain ⟨htext, htexts⟩ := List.forall₂_cons.mp h
      obtain ⟨b, hb, hread⟩ := readField_toChars htext
      have hclosing (rest : List Char) : Stops isBlank ('}' :: rest) := stops_cons.mpr (by decide)
      have hcomma (rest : List Char) : Stops isBlank (',' :: rest) := stops_cons.mpr (by decide)
      cases texts with
      | nil =>
          obtain rfl : fields = [] := by
            cases fields with
            | nil => rfl
            | cons _ _ => cases htexts
          rw [List.intercalate_singleton, readItems, hread _ (stops_cons.mpr (by decide))]
          simp only [skipBlanks_append hb (hclosing _), if_true]
      | cons next texts =>
          have hrest := ih htexts (by simp) (Nat.le_of_succ_le_succ hcount)
          rw [List.intercalate_cons_cons, List.append_assoc, List.append_assoc,
            List.singleton_append, readItems, hread _ (stops_cons.mpr (by decide))]
          simp only [skipBlanks_append hb (hcomma _), hrest, Option.map_some]
          rfl

theorem length_le_intercalate (texts : List (List Char)) :
    texts.length ≤ ([','].intercalate texts).length + 1 := by
  induction texts with
  | nil => exact Nat.zero_le _
  | cons text texts ih =>
      cases texts with
      | nil => simp
      | cons next texts =>
          rw [List.intercalate_cons_cons]
          simp only [List.length_append, List.length_cons, List.length_nil] at ih ⊢
          omega

/-- An object is written as its fields in curly brackets, with blanks around it. -/
inductive WritesObject : List Char → List (String × List Char) → Prop where
  | intro {before after texts fields} (hbefore : before.all isBlank = true)
      (hafter : after.all isBlank = true) (hfields : List.Forall₂ WritesField texts fields) :
      WritesObject (before ++ '{' :: ([','].intercalate texts ++ '}' :: after)) fields

theorem writesObject_singleton {field : List Char} {given : String × List Char}
    (hfield : WritesField field given) (htext : text = '{' :: (field ++ ['}'])) :
    WritesObject text [given] := by
  have h := @WritesObject.intro [] [] [field] _ rfl rfl (.cons hfield .nil)
  rwa [List.intercalate_singleton, List.nil_append, ← htext] at h

/-- Reading an object that has fields is reading its fields. -/
theorem exists_readDocument_eq {given : List (String × List Char)} (h : WritesObject text given)
    (hne : given ≠ []) : ∃ texts after count, List.Forall₂ WritesField texts given ∧
      texts.length ≤ count ∧ skipBlanks after = [] ∧
      readDocument text =
        (readItems readField '}' count ([','].intercalate texts ++ '}' :: after)).bind
          fun (fields, rest) =>
            if (skipBlanks rest).isEmpty then some (.named fields) else none := by
  cases h with
  | @intro before after texts _ hbefore hafter hfields =>
      have hblank : skipBlanks after = [] := by
        have := skipBlanks_append hafter (stops_nil isBlank)
        rwa [List.append_nil] at this
      refine ⟨texts, after, ([','].intercalate texts ++ '}' :: after).length + 1, hfields, ?_,
        hblank, ?_⟩
      · have hlength := length_le_intercalate texts
        rw [List.length_append]
        omega
      · -- What is behind the opening bracket begins with the name of a field.
        have hhead : (skipBlanks ([','].intercalate texts ++ '}' :: after)).head? = some '"' := by
          cases hfields with
          | nil => exact absurd rfl hne
          | @cons first _ texts _ hfirst _ =>
              cases texts with
              | nil =>
                  rw [List.intercalate_singleton]
                  exact head?_skipBlanks_of_writes hfirst _
              | cons next texts =>
                  rw [List.intercalate_cons_cons, List.append_assoc, List.append_assoc]
                  exact head?_skipBlanks_of_writes hfirst _
        rw [readDocument, skipBlanks_append hbefore (stops_cons.mpr (by decide))]
        simp only [readList, hhead, Option.some.injEq, Char.reduceEq, if_false]
        cases readItems readField '}' _ _ <;> rfl

/-- An object that has fields is read as the document with these fields. -/
theorem readDocument_of_object {fields : List (String × DocumentValue)}
    (h : WritesObject text (fieldTexts fields)) (hne : fields ≠ []) :
    readDocument text = some (.named fields) := by
  have hgiven : fieldTexts fields ≠ [] := mt List.map_eq_nil_iff.mp hne
  obtain ⟨texts, after, count, hfields, hcount, hblank, hread⟩ := exists_readDocument_eq h hgiven
  have htexts : texts ≠ [] := by
    rintro rfl
    exact hgiven (List.forall₂_nil_left_iff.mp hfields)
  rw [hread, readItems_intercalate hfields htexts hcount, Option.bind_some]
  simp only [hblank, List.isEmpty_nil, if_true]

/-- An object whose only field has a value that is none of an option is not read. -/
theorem readDocument_eq_none {key : String} (h : WritesObject text [(key, value)])
    (hvalue : ∀ rest, Stops isBlank (value ++ rest) ∧ readValue (value ++ rest) = none) :
    readDocument text = none := by
  obtain ⟨texts, after, count, hfields, -, -, hread⟩ := exists_readDocument_eq h (by simp)
  obtain ⟨field, texts, hfield, htexts, rfl⟩ := List.forall₂_cons_right_iff.mp hfields
  obtain rfl := List.forall₂_nil_right_iff.mp htexts
  obtain ⟨b, -, hfield⟩ := readField_of_writes hfield fun rest => (hvalue rest).1
  rw [hread, List.intercalate_singleton]
  cases count with
  | zero => rfl
  | succ count =>
      rw [readItems, hfield, (hvalue _).2]
      rfl

end Options.Json

end LinkParsing
