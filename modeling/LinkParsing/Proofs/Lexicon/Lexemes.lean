import LinkParsing.Lexicon.Lexeme
import LinkParsing.Proofs.Connector.Spelling

/-!
# Which texts are lexemes

What a scanner splits off, and what it leaves, is told by the text alone (`…_eq_some_iff`).
Names, quoted words and connectors show their own end.  A bare word goes on as long as it
can.
-/

namespace LinkParsing.Lexicon

open Connector

variable {opening closing : Char} {inside : Char → Bool} {t u rest text : List Char}

/-- A text that begins and ends with given characters and has others, at least one, inside. -/
def Delimited (opening closing : Char) (inside : Char → Bool) (t : List Char) : Prop :=
  ∃ body, body ≠ [] ∧ body.all inside = true ∧ t = opening :: (body ++ [closing])

theorem Delimited.head? (h : Delimited opening closing inside t) (rest : List Char) :
    (t ++ rest).head? = some opening := by
  obtain ⟨body, -, -, rfl⟩ := h
  rfl

/-! ## Names and quoted words -/

/-- What names and quoted words have in common. -/
def scanDelimited (opening closing : Char) (inside : Char → Bool) :
    List Char → Option (List Char × List Char)
  | [] => none
  | c :: text =>
    if c = opening then
      match text.takeWhile inside, text.dropWhile inside with
      | b :: body, d :: rest =>
        if d = closing then some (opening :: (b :: body ++ [closing]), rest) else none
      | _, _ => none
    else none

theorem scanMacro_eq_scanDelimited (text : List Char) :
    scanMacro text = scanDelimited '<' '>' isMacroChar text := by
  cases text with
  | nil => rfl
  | cons c text =>
      by_cases hc : c = '<'
      · subst hc
        rw [scanMacro, scanDelimited, if_pos rfl]
        rcases hbody : text.takeWhile isMacroChar with _ | ⟨b, body⟩
        · rfl
        · rcases hrest : text.dropWhile isMacroChar with _ | ⟨d, rest⟩
          · rfl
          · by_cases hd : d = '>' <;> simp [hd]
      · simp [scanMacro, scanDelimited, hc]

theorem scanQuoted_eq_scanDelimited (text : List Char) :
    scanQuoted text = scanDelimited '"' '"' (· != '"') text := by
  cases text with
  | nil => rfl
  | cons c text =>
      by_cases hc : c = '"'
      · subst hc
        rw [scanQuoted, scanDelimited, if_pos rfl]
        rcases hbody : text.takeWhile (· != '"') with _ | ⟨b, body⟩
        · rfl
        · rcases hrest : text.dropWhile (· != '"') with _ | ⟨d, rest⟩
          · rfl
          · by_cases hd : d = '"' <;> simp [hd]
      · simp [scanQuoted, scanDelimited, hc]

theorem scanDelimited_eq_some_iff (hclosing : inside closing = false) :
    scanDelimited opening closing inside text = some (t, rest) ↔
      Delimited opening closing inside t ∧ text = t ++ rest := by
  constructor
  · intro h
    unfold scanDelimited at h
    split at h
    next => cases h
    next c text =>
      split at h
      next hc =>
        split at h
        next b body d rest' hbody hrest =>
          split at h
          next hd =>
            cases h
            subst hc hd
            obtain ⟨hall, -, rfl⟩ := cuts_iff.mp ⟨hbody, hrest⟩
            refine ⟨⟨b :: body, List.cons_ne_nil b body, hall, rfl⟩, ?_⟩
            simp
          next => cases h
        next => cases h
      next => cases h
  · rintro ⟨⟨body, hne, hall, rfl⟩, rfl⟩
    obtain ⟨b, body, rfl⟩ := List.exists_cons_of_ne_nil hne
    have hstop : Stops inside (closing :: rest) := stops_cons.mpr hclosing
    rw [List.cons_append, scanDelimited, if_pos rfl, List.append_assoc, List.singleton_append,
      takeWhile_append hall hstop, dropWhile_append hall hstop]
    simp

theorem scanMacro_eq_some_iff :
    scanMacro text = some (t, rest) ↔ Delimited '<' '>' isMacroChar t ∧ text = t ++ rest := by
  rw [scanMacro_eq_scanDelimited]
  exact scanDelimited_eq_some_iff (by decide)

theorem scanQuoted_eq_some_iff :
    scanQuoted text = some (t, rest) ↔ Delimited '"' '"' (· != '"') t ∧ text = t ++ rest := by
  rw [scanQuoted_eq_scanDelimited]
  exact scanDelimited_eq_some_iff (by decide)

/-- Where no name ends further on, none ends before a cut. -/
theorem scanMacro_eq_none_of_append (h : scanMacro (text ++ u) = none) :
    scanMacro text = none := by
  by_contra hne
  obtain ⟨⟨t, rest⟩, hsome⟩ := Option.ne_none_iff_exists'.mp hne
  obtain ⟨ht, rfl⟩ := scanMacro_eq_some_iff.mp hsome
  have hlonger := scanMacro_eq_some_iff.mpr ⟨ht, List.append_assoc t rest u⟩
  rw [h] at hlonger
  cases hlonger

theorem scanMacro_eq_none_of_head? (h : text.head? ≠ some '<') : scanMacro text = none := by
  by_contra hne
  obtain ⟨⟨t, rest⟩, hsome⟩ := Option.ne_none_iff_exists'.mp hne
  obtain ⟨ht, rfl⟩ := scanMacro_eq_some_iff.mp hsome
  exact h (ht.head? rest)

theorem scanQuoted_eq_none_of_head? (h : text.head? ≠ some '"') : scanQuoted text = none := by
  by_contra hne
  obtain ⟨⟨t, rest⟩, hsome⟩ := Option.ne_none_iff_exists'.mp hne
  obtain ⟨ht, rfl⟩ := scanQuoted_eq_some_iff.mp hsome
  exact h (ht.head? rest)

theorem unquote_quoted (body : List Char) : unquote ('"' :: (body ++ ['"'])) = body := by
  rw [unquote, List.tail_cons, List.dropLast_concat]

/-! ## Bare words -/

theorem scanBare_eq_some_iff : scanBare text = some (t, rest) ↔
    t ≠ [] ∧ t.all isBareChar = true ∧ Stops isBareChar rest ∧ text = t ++ rest := by
  constructor
  · intro h
    unfold scanBare at h
    split at h
    next => cases h
    next hne =>
      cases h
      exact ⟨hne, cuts_iff.mp ⟨rfl, rfl⟩⟩
  · rintro ⟨hne, hcut⟩
    obtain ⟨htake, hdrop⟩ := cuts_iff.mpr hcut
    obtain ⟨c, t, rfl⟩ := List.exists_cons_of_ne_nil hne
    rw [scanBare, htake, hdrop]

/-! ## Connectors -/

/-- A connector behind the mark in front of it. -/
def scanUnmarked (mark text : List Char) : Option (List Char × List Char) :=
  let head := text.takeWhile isHeadChar
  let text := text.dropWhile isHeadChar
  let subscript := text.takeWhile isSubscriptChar
  match head, text.dropWhile isSubscriptChar with
  | _ :: _, sign :: rest =>
    if sign = '+' || sign = '-' then some (mark ++ head ++ subscript ++ [sign], rest) else none
  | _, _ => none

theorem scanConnector_eq_scanUnmarked (text : List Char) : scanConnector text =
    scanUnmarked (if (splitMulti text).1 then ['@'] else []) (splitMulti text).2 := by
  by_cases hmark : ∃ rest, text = '@' :: rest
  · obtain ⟨rest, rfl⟩ := hmark
    rfl
  · have hne : ∀ rest, text ≠ '@' :: rest := fun rest heq => hmark ⟨rest, heq⟩
    rw [splitMulti_of_ne hne]
    unfold scanConnector
    split
    next mark behind hsplit =>
      split at hsplit
      next rest => exact absurd rfl (hne rest)
      next =>
        cases hsplit
        rfl

theorem scanUnmarked_eq_some_iff {mark : List Char} :
    scanUnmarked mark text = some (t, rest) ↔ ∃ head subscript direction,
      (head ≠ [] ∧ head.all isHeadChar = true ∧ subscript.all isSubscriptChar = true) ∧
      t = mark ++ (head ++ subscript) ++ [Direction.symbol direction] ∧
      text = head ++ subscript ++ Direction.symbol direction :: rest := by
  constructor
  · intro h
    simp only [scanUnmarked] at h
    split at h
    next c head sign rest' hcapitals hrest =>
      split at h
      next hsign =>
        cases h
        obtain ⟨hhead, -, htext⟩ := cuts_iff.mp ⟨hcapitals, rfl⟩
        obtain ⟨hsubscript, -, hdrop⟩ := cuts_iff.mp ⟨rfl, hrest⟩
        obtain ⟨direction, rfl⟩ : ∃ d, sign = Direction.symbol d := by
          rw [Bool.or_eq_true, decide_eq_true_eq, decide_eq_true_eq] at hsign
          rcases hsign with rfl | rfl
          · exact ⟨.right, rfl⟩
          · exact ⟨.left, rfl⟩
        refine ⟨c :: head, _, direction, ⟨List.cons_ne_nil c head, hhead, hsubscript⟩, ?_, ?_⟩
        · rw [← List.append_assoc mark, hcapitals]
        · rw [List.append_assoc, ← hdrop, ← htext]
      next => cases h
    next => cases h
  · rintro ⟨head, subscript, direction, ⟨hne, hhead, hsubscript⟩, rfl, rfl⟩
    obtain ⟨c, head, rfl⟩ := List.exists_cons_of_ne_nil hne
    have hsign : Stops isSubscriptChar (direction.symbol :: rest) :=
      stops_cons.mpr direction.symbol_not_subscript
    -- without a subscript it is the sign that ends the head
    have hsign' : Stops isHeadChar (direction.symbol :: rest) :=
      stops_cons.mpr (by cases direction <;> decide)
    have hstop := stops_head_of_subscript hsubscript hsign'
    have hsymbol : direction.symbol = '+' ∨ direction.symbol = '-' := by
      cases direction
      · exact .inr rfl
      · exact .inl rfl
    rw [List.append_assoc, scanUnmarked, takeWhile_append hhead hstop, dropWhile_append hhead hstop,
      takeWhile_append hsubscript hsign, dropWhile_append hsubscript hsign]
    simp [hsymbol]

theorem scanConnector_eq_some_iff : scanConnector text = some (t, rest) ↔
    ∃ c : Connector, c.WellFormed ∧ t = c.toChars ∧ text = t ++ rest := by
  rw [scanConnector_eq_scanUnmarked]
  rcases hsplit : splitMulti text with ⟨multi, behind⟩
  rw [scanUnmarked_eq_some_iff]
  constructor
  · rintro ⟨head, subscript, direction, hwell, rfl, rfl⟩
    refine ⟨⟨head, subscript, direction, multi⟩, hwell, rfl, ?_⟩
    rw [splitMulti_eq hsplit]
    simp
  · rintro ⟨c, hwell, rfl, rfl⟩
    rw [splitMulti_toChars_append hwell] at hsplit
    cases hsplit
    refine ⟨c.head, c.subscript, c.direction, hwell, rfl, ?_⟩
    rw [nameChars]

end LinkParsing.Lexicon
