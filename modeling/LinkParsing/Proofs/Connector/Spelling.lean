import LinkParsing.Connector
import LinkParsing.Proofs.Text.Cuts

/-!
# The written form of connectors

Exactly the texts of well-formed connectors are read as connectors, each as the connector
that it is the text of (`ofChars?_eq_some_iff`).
-/

namespace LinkParsing

namespace Direction

theorem ofSymbol?_eq_some_iff {x : Char} {d : Direction} :
    ofSymbol? x = some d ↔ x = d.symbol :=
  ⟨fun h => (symbol_of_ofSymbol? h).symm, fun h => h ▸ ofSymbol?_symbol d⟩

theorem symbol_not_subscript (d : Direction) : Connector.isSubscriptChar d.symbol = false := by
  cases d <;> decide

end Direction

namespace Connector

variable {c : Connector} {t : List Char}

theorem isHeadChar_of_isSubscriptChar {x : Char} (h : isSubscriptChar x = true) :
    isHeadChar x = false := by
  have hupper : isHeadChar x = decide ('A'.val ≤ x.val ∧ x.val ≤ 'Z'.val) := rfl
  have hsubscript : isSubscriptChar x =
      (decide ('a'.val ≤ x.val) && decide (x.val ≤ 'z'.val) ||
        decide ('0'.val ≤ x.val) && decide (x.val ≤ '9'.val) || x == '*') := rfl
  simp only [hsubscript, Bool.or_eq_true, Bool.and_eq_true, decide_eq_true_eq, beq_iff_eq,
    UInt32.le_iff_toNat_le] at h
  simp only [hupper, decide_eq_false_iff_not, UInt32.le_iff_toNat_le]
  have hA : 'A'.val.toNat = 65 := rfl
  have hZ : 'Z'.val.toNat = 90 := rfl
  rcases h with (⟨hlow, -⟩ | ⟨-, hhigh⟩) | rfl
  · have ha : 'a'.val.toNat = 97 := rfl
    omega
  · have h9 : '9'.val.toNat = 57 := rfl
    omega
  · decide

theorem stops_head_of_subscript {s rest : List Char} (hs : s.all isSubscriptChar = true)
    (hrest : Stops isHeadChar rest) : Stops isHeadChar (s ++ rest) := by
  cases s with
  | nil => exact hrest
  | cons x s =>
      rw [List.all_cons, Bool.and_eq_true] at hs
      exact stops_cons.mpr (isHeadChar_of_isSubscriptChar hs.1)

theorem splitMulti_of_ne (h : ∀ rest, t ≠ '@' :: rest) : splitMulti t = (false, t) := by
  unfold splitMulti
  split
  next rest => exact absurd rfl (h rest)
  next => rfl

theorem splitMulti_eq {t rest : List Char} {multi : Bool} (h : splitMulti t = (multi, rest)) :
    t = (if multi then ['@'] else []) ++ rest := by
  unfold splitMulti at h
  split at h
  next => cases h; rfl
  next => cases h; rfl

theorem splitMulti_toChars_append (h : c.WellFormed) (rest : List Char) :
    splitMulti (c.toChars ++ rest) = (c.multi, c.nameChars ++ c.direction.symbol :: rest) := by
  obtain ⟨hne, hhead, -⟩ := h
  unfold toChars nameChars
  cases c.multi with
  | true => simp [splitMulti]
  | false =>
      -- the first character of a head is a capital
      obtain ⟨x, xs, hx, hupper⟩ := exists_cons_of_all hne hhead
      have hat : x ≠ '@' := by
        rintro rfl
        exact absurd hupper (by decide)
      rw [hx]
      simp [splitMulti, hat]

/-- A text is read as a connector if it is the text of that connector. -/
theorem ofChars?_eq_some_iff : ofChars? t = some c ↔ c.WellFormed ∧ t = c.toChars := by
  constructor
  · intro h
    unfold ofChars? at h
    rcases hsplit : splitMulti t with ⟨multi, rest⟩
    simp only [hsplit] at h
    split at h
    next => cases h
    next sign hsign =>
      split at h
      next => cases h
      next direction hdirection =>
        split at h
        next => cases h
        next hhead =>
          split at h
          next hsubscript =>
            obtain ⟨body, rfl⟩ := List.getLast?_eq_some_iff.mp hsign
            rw [List.dropLast_concat] at h hhead hsubscript
            cases h
            refine ⟨⟨by simpa using hhead, List.all_takeWhile, hsubscript⟩, ?_⟩
            rw [splitMulti_eq hsplit, toChars, nameChars, List.takeWhile_append_dropWhile,
              Direction.ofSymbol?_eq_some_iff.mp hdirection, List.append_assoc]
          next => cases h
  · rintro ⟨h, rfl⟩
    have hbody := splitMulti_toChars_append h []
    rw [List.append_nil] at hbody
    obtain ⟨hne, hhead, hsubscript⟩ := h
    have hstop : Stops isHeadChar c.subscript := by
      have := stops_head_of_subscript hsubscript (stops_nil isHeadChar)
      rwa [List.append_nil] at this
    unfold ofChars?
    simp only [hbody, List.getLast?_concat, List.dropLast_concat, Direction.ofSymbol?_symbol]
    rw [nameChars, takeWhile_append hhead hstop, dropWhile_append hhead hstop,
      if_neg (by simpa using hne), if_pos hsubscript]

end Connector

end LinkParsing
