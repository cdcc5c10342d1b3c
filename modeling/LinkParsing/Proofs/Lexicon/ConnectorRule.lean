import LinkParsing.Proofs.Lexicon.Places
import Mathlib.Computability.Language

/-!
# The rule for connectors

The lexicon has a rule for connectors, which is a regular expression (`connectorTexts`).  The
scanner follows it from the front and takes as much as it can at each step; the reader of
connectors looks at both ends and then at what is between them.  Both go by the rule, a text is
read as the connector that is written so, and no text of the right shape is refused
(`parse?_iff_rule`).
-/

namespace LinkParsing.Lexicon

open Connector
open scoped Computability

/-- The texts of one character of a kind. -/
def oneOf (kind : Char → Prop) : Language Char := {t | ∃ x, kind x ∧ t = [x]}

/-- A capital of the Latin alphabet. -/
def IsCapital (x : Char) : Prop := 'A' ≤ x ∧ x ≤ 'Z'

/-- A small letter of the Latin alphabet, a digit or a star. -/
def IsRefinement (x : Char) : Prop := ('a' ≤ x ∧ x ≤ 'z') ∨ ('0' ≤ x ∧ x ≤ '9') ∨ x = '*'

/-- The texts that the rule describes: `@` or nothing, one or more capitals, any number of small
letters, digits and stars, and a sign. -/
def connectorTexts : Language Char :=
  (oneOf (· = '@') + 1) * (oneOf IsCapital * (oneOf IsCapital)∗) * (oneOf IsRefinement)∗ *
    (oneOf (· = '+') + oneOf (· = '-'))

variable {kind : Char → Prop} {x : Char} {t : List Char}

/-! ## Parts of the rule -/

theorem mem_kstar_oneOf : t ∈ (oneOf kind)∗ ↔ ∀ x ∈ t, kind x := by
  rw [Language.mem_kstar]
  constructor
  · rintro ⟨parts, rfl, hparts⟩ x hx
    obtain ⟨part, hpart, hx⟩ := List.mem_flatten.mp hx
    obtain ⟨y, hy, rfl⟩ := hparts part hpart
    exact List.mem_singleton.mp hx ▸ hy
  · intro h
    refine ⟨t.map fun x => [x], ?_, ?_⟩
    · rw [← List.flatMap_def, List.flatMap_singleton']
    · intro part hpart
      obtain ⟨x, hx, rfl⟩ := List.mem_map.mp hpart
      exact ⟨x, h x hx, rfl⟩

theorem mem_oneOf_mul_kstar :
    t ∈ oneOf kind * (oneOf kind)∗ ↔ t ≠ [] ∧ ∀ x ∈ t, kind x := by
  rw [Language.mem_mul]
  constructor
  · rintro ⟨_, ⟨x, hx, rfl⟩, rest, hrest, rfl⟩
    exact ⟨List.cons_ne_nil x rest, List.forall_mem_cons.mpr ⟨hx, mem_kstar_oneOf.mp hrest⟩⟩
  · rintro ⟨hne, h⟩
    obtain ⟨x, rest, rfl⟩ := List.exists_cons_of_ne_nil hne
    obtain ⟨hx, hrest⟩ := List.forall_mem_cons.mp h
    exact ⟨[x], ⟨x, hx, rfl⟩, rest, mem_kstar_oneOf.mpr hrest, rfl⟩

theorem isHeadChar_iff : isHeadChar x = true ↔ IsCapital x := decide_eq_true_iff

theorem isSubscriptChar_iff : isSubscriptChar x = true ↔ IsRefinement x := by
  have hchars : isSubscriptChar x =
      (decide ('a' ≤ x) && decide (x ≤ 'z') || decide ('0' ≤ x) && decide (x ≤ '9') ||
        x == '*') := rfl
  simp [IsRefinement, hchars, or_assoc]

theorem mem_mark : t ∈ oneOf (· = '@') + 1 ↔ ∃ multi : Bool, t = if multi then ['@'] else [] := by
  rw [Language.mem_add, Language.mem_one, Bool.exists_bool, or_comm]
  refine or_congr Iff.rfl ⟨?_, fun h => ⟨'@', rfl, h⟩⟩
  rintro ⟨x, rfl, h⟩
  exact h

theorem mem_sign : t ∈ oneOf (· = '+') + oneOf (· = '-') ↔
    ∃ direction : Direction, t = [direction.symbol] := by
  rw [Language.mem_add]
  constructor
  · rintro (⟨x, rfl, rfl⟩ | ⟨x, rfl, rfl⟩)
    · exact ⟨.right, rfl⟩
    · exact ⟨.left, rfl⟩
  · rintro ⟨direction, rfl⟩
    cases direction with
    | left => exact .inr ⟨'-', rfl, rfl⟩
    | right => exact .inl ⟨'+', rfl, rfl⟩

/-! ## The rule -/

/-- The rule describes the texts of well-formed connectors. -/
theorem mem_connectorTexts :
    t ∈ connectorTexts ↔ ∃ c : Connector, c.WellFormed ∧ t = c.toChars := by
  simp only [connectorTexts, Language.mem_mul]
  constructor
  · rintro ⟨_, ⟨_, ⟨mark, hmark, head, hhead, rfl⟩, subscript, hsubscript, rfl⟩, sign, hsign, rfl⟩
    obtain ⟨multi, rfl⟩ := mem_mark.mp hmark
    obtain ⟨direction, rfl⟩ := mem_sign.mp hsign
    obtain ⟨hne, hcapitals⟩ := mem_oneOf_mul_kstar.mp hhead
    have hrefinements := mem_kstar_oneOf.mp hsubscript
    refine ⟨⟨head, subscript, direction, multi⟩, ⟨hne, ?_, ?_⟩, ?_⟩
    · exact List.all_eq_true.mpr fun x hx => isHeadChar_iff.mpr (hcapitals x hx)
    · exact List.all_eq_true.mpr fun x hx => isSubscriptChar_iff.mpr (hrefinements x hx)
    · rw [toChars, nameChars, List.append_assoc _ head]
  · rintro ⟨c, ⟨hne, hcapitals, hrefinements⟩, rfl⟩
    have hhead : c.head ∈ oneOf IsCapital * (oneOf IsCapital)∗ :=
      mem_oneOf_mul_kstar.mpr
        ⟨hne, fun x hx => isHeadChar_iff.mp (List.all_eq_true.mp hcapitals x hx)⟩
    have hsubscript : c.subscript ∈ (oneOf IsRefinement)∗ :=
      mem_kstar_oneOf.mpr fun x hx =>
        isSubscriptChar_iff.mp (List.all_eq_true.mp hrefinements x hx)
    refine ⟨_, ⟨_, ⟨_, mem_mark.mpr ⟨c.multi, rfl⟩, _, hhead, rfl⟩, _, hsubscript, rfl⟩, _,
      mem_sign.mpr ⟨c.direction, rfl⟩, ?_⟩
    rw [toChars, nameChars, List.append_assoc _ c.head]

/-- The scanner splits off a text of the rule, and whatever stands behind it is left. -/
theorem scanConnector_iff_rule {rest text : List Char} :
    scanConnector text = some (t, rest) ↔ t ∈ connectorTexts ∧ text = t ++ rest := by
  rw [scanConnector_eq_some_iff, mem_connectorTexts]
  constructor
  · rintro ⟨c, hc, ht, htext⟩
    exact ⟨⟨c, hc, ht⟩, htext⟩
  · rintro ⟨⟨c, hc, ht⟩, htext⟩
    exact ⟨c, hc, ht, htext⟩

theorem parse?_eq_some_iff {s : String} {c : Connector} :
    parse? s = some c ↔ c.WellFormed ∧ s = c.toText := by
  rw [parse?, ofChars?_eq_some_iff, toText, ← String.toList_inj, String.toList_ofList]

theorem isSome_parse?_iff {s : String} :
    (parse? s).isSome = true ↔ s.toList ∈ connectorTexts := by
  rw [Option.isSome_iff_exists, mem_connectorTexts]
  exact exists_congr fun c => ofChars?_eq_some_iff

/-- A text is read as a connector just if the rule describes it, and just if the scanner takes the
whole of it.  It is the text of the connector that is read, and the text of every well-formed
connector is read as this one.  So what the scanner splits off is always read as a connector, and
no lexicon is refused for one that is not. -/
theorem parse?_iff_rule :
    (∀ s : String, ((parse? s).isSome = true ↔ s.toList ∈ connectorTexts) ∧
      ((parse? s).isSome = true ↔ scanConnector s.toList = some (s.toList, []))) ∧
    (∀ (s : String) (c : Connector), parse? s = some c → c.toText = s) ∧
    (∀ c : Connector, c.head ≠ [] → (∀ x ∈ c.head, IsCapital x) →
      (∀ x ∈ c.subscript, IsRefinement x) → parse? c.toText = some c) ∧
    (∀ text t rest, scanConnector text = some (t, rest) →
      (parse? (String.ofList t)).isSome = true) ∧
    ∀ (text : String) (e : SyntaxError), readEntries text = .error e →
      ∀ t, e.fault ≠ .invalidConnector t := by
  refine ⟨fun s => ⟨isSome_parse?_iff, ?_⟩, ?_, ?_, ?_, ?_⟩
  · rw [isSome_parse?_iff, scanConnector_iff_rule, List.append_nil, and_iff_left rfl]
  · exact fun s c h => (parse?_eq_some_iff.mp h).2.symm
  · intro c hne hcapitals hrefinements
    refine parse?_eq_some_iff.mpr ⟨⟨hne, ?_, ?_⟩, rfl⟩
    · exact List.all_eq_true.mpr fun x hx => isHeadChar_iff.mpr (hcapitals x hx)
    · exact List.all_eq_true.mpr fun x hx => isSubscriptChar_iff.mpr (hrefinements x hx)
  · intro text t rest h
    rw [isSome_parse?_iff, String.toList_ofList]
    exact (scanConnector_iff_rule.mp h).1
  · intro text e h t hfault
    obtain ⟨⟨constructs, hexpected⟩, -⟩ := readEntries_eq_error h
    rw [hfault] at hexpected
    cases hexpected

/-- `@MV*s1-`, with all that a connector can have. -/
def markedConnector : Connector := ⟨['M', 'V'], ['*', 's', '1'], .left, true⟩

/-- The connector in front of other text, and a lexicon in which the connector lacks its sign. -/
theorem parse?_iff_rule_marked :
    parse? "@MV*s1-" = some markedConnector ∧ markedConnector.toText = "@MV*s1-" ∧
      parse? markedConnector.toText = some markedConnector ∧
      scanConnector "@MV*s1-- & B+".toList = some ("@MV*s1-".toList, "- & B+".toList) ∧
      (parse? (String.ofList "@MV*s1-".toList)).isSome = true ∧
      ∃ e, readEntries "a: @MV*s1;" = .error e ∧ ∀ t, e.fault ≠ .invalidConnector t := by
  obtain ⟨-, hwritten, hread, hscan, herror⟩ := parse?_iff_rule
  have hparse : parse? "@MV*s1-" = some markedConnector := by decide
  have hsplit : scanConnector "@MV*s1-- & B+".toList =
      some ("@MV*s1-".toList, "- & B+".toList) := by decide
  have hhead : markedConnector.head.all isHeadChar = true := by decide
  have hsubscript : markedConnector.subscript.all isSubscriptChar = true := by decide
  have hcapitals : ∀ x ∈ markedConnector.head, IsCapital x := fun x hx =>
    isHeadChar_iff.mp (List.all_eq_true.mp hhead x hx)
  have hrefinements : ∀ x ∈ markedConnector.subscript, IsRefinement x := fun x hx =>
    isSubscriptChar_iff.mp (List.all_eq_true.mp hsubscript x hx)
  have hrefused : (readEntries "a: @MV*s1;").toOption.isNone = true := by decide +kernel
  refine ⟨hparse, hwritten _ _ hparse, hread _ (List.cons_ne_nil _ _) hcapitals hrefinements,
    hsplit, hscan _ _ _ hsplit, ?_⟩
  cases hentries : readEntries "a: @MV*s1;" with
  | ok entries => simp [hentries, Except.toOption] at hrefused
  | error e => exact ⟨e, rfl, herror _ _ hentries⟩

end LinkParsing.Lexicon
