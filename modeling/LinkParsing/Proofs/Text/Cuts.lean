import LinkParsing.Text.Span
import Mathlib.Data.List.Basic

/-!
# Cutting texts

A text is cut behind its longest start of characters of one kind (`cuts_iff`), or by bytes
(`slice?_append`).
-/

namespace LinkParsing

variable {p : Char → Bool} {t u rest text : List Char}

/-- The text is over or goes on with another kind of character. -/
def Stops (p : Char → Bool) (rest : List Char) : Prop := ∀ c ∈ rest.head?, p c = false

theorem stops_nil (p : Char → Bool) : Stops p [] := nofun

theorem stops_cons {c : Char} : Stops p (c :: rest) ↔ p c = false := by simp [Stops]

theorem exists_cons_of_all (hne : t ≠ []) (ht : t.all p = true) :
    ∃ c u, t = c :: u ∧ p c = true := by
  obtain ⟨c, u, rfl⟩ := List.exists_cons_of_ne_nil hne
  exact ⟨c, u, rfl, List.all_eq_true.mp ht c List.mem_cons_self⟩

theorem stops_dropWhile (p : Char → Bool) (text : List Char) : Stops p (text.dropWhile p) := by
  intro c hc
  have hstop := List.head?_dropWhile_not p text
  rw [Option.mem_def.mp hc] at hstop
  exact hstop

/-- A text is cut in two where it stops being of one kind of characters. -/
theorem cuts_iff : text.takeWhile p = t ∧ text.dropWhile p = rest ↔
    t.all p = true ∧ Stops p rest ∧ text = t ++ rest := by
  constructor
  · rintro ⟨rfl, rfl⟩
    exact ⟨List.all_takeWhile, stops_dropWhile p text, List.takeWhile_append_dropWhile.symm⟩
  · rintro ⟨ht, hrest, rfl⟩
    rw [List.takeWhile_append_of_pos (List.all_eq_true.mp ht),
      List.dropWhile_append_of_pos (List.all_eq_true.mp ht)]
    cases rest with
    | nil => simp
    | cons c rest =>
        have hc := stops_cons.mp hrest
        simp [hc]

theorem takeWhile_append (ht : t.all p = true) (hrest : Stops p rest) :
    (t ++ rest).takeWhile p = t := (cuts_iff.mpr ⟨ht, hrest, rfl⟩).1

theorem dropWhile_append (ht : t.all p = true) (hrest : Stops p rest) :
    (t ++ rest).dropWhile p = rest := (cuts_iff.mpr ⟨ht, hrest, rfl⟩).2

/-- A character of a text that is put together of two stands in one of them. -/
theorem append_eq_append_cons {v before after : List Char} {c : Char}
    (h : u ++ v = before ++ c :: after) :
    (∃ rest, u = before ++ c :: rest) ∨ ∃ rest, before = u ++ rest ∧ v = rest ++ c :: after := by
  rcases List.append_eq_append_iff.mp h with ⟨rest, hbefore, hv⟩ | ⟨rest, hu, hrest⟩
  · exact .inr ⟨rest, hbefore, hv⟩
  · cases rest with
    | nil => exact .inr ⟨[], by simpa using hu.symm, by simpa using hrest.symm⟩
    | cons d rest =>
        obtain ⟨rfl, -⟩ := List.cons.inj hrest
        exact .inl ⟨rest, hu⟩

/-! ## Cutting by bytes -/

theorem byteLength_pos_of_ne_nil (h : t ≠ []) : 0 < byteLength t := by
  obtain ⟨c, rest, rfl⟩ := List.exists_cons_of_ne_nil h
  rw [byteLength_cons]
  exact Nat.add_pos_left c.utf8Size_pos _

private theorem dropBytes?_cons (c : Char) (rest : List Char) (n : Nat) :
    slice?.dropBytes? (c :: rest) (c.utf8Size + n) = slice?.dropBytes? rest n := by
  have hc := c.utf8Size_pos
  rw [slice?.dropBytes?, if_pos (Nat.le_add_right _ _), Nat.add_sub_cancel_left]
  omega

private theorem takeBytes?_cons (c : Char) (rest : List Char) (n : Nat) :
    slice?.takeBytes? (c :: rest) (c.utf8Size + n) =
      (slice?.takeBytes? rest n).map (c :: ·) := by
  have hc := c.utf8Size_pos
  rw [slice?.takeBytes?, if_pos (Nat.le_add_right _ _), Nat.add_sub_cancel_left]
  omega

private theorem dropBytes?_append (t rest : List Char) :
    slice?.dropBytes? (t ++ rest) (byteLength t) = some rest := by
  induction t with
  | nil => simp [slice?.dropBytes?]
  | cons c t ih => rw [List.cons_append, byteLength_cons, dropBytes?_cons, ih]

private theorem takeBytes?_append (t rest : List Char) :
    slice?.takeBytes? (t ++ rest) (byteLength t) = some t := by
  induction t with
  | nil => simp [slice?.takeBytes?]
  | cons c t ih => rw [List.cons_append, byteLength_cons, takeBytes?_cons, ih, Option.map_some]

/-- The stretch between a start and a rest of a text. -/
theorem slice?_append (t u rest : List Char) :
    slice? (t ++ u ++ rest) ⟨byteLength t, byteLength u⟩ = some u := by
  rw [slice?, List.append_assoc, dropBytes?_append]
  exact takeBytes?_append u rest

end LinkParsing
