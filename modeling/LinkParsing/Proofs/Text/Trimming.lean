import LinkParsing.Proofs.Text.Cuts
import LinkParsing.Text.Whitespace

/-!
# White space around texts

Trimming takes off all the white space on the sides of a text and nothing else.  What is left has
none on its sides, and by this and by what was taken off it is told apart (`trim_eq_iff`).
-/

namespace LinkParsing.Text

variable {text t a b : List Char}

/-- All of it is white space. -/
def Blank (text : List Char) : Prop := text.all isSpace = true

/-- There is no white space on either side. -/
def Tight (t : List Char) : Prop := Stops isSpace t ∧ Stops isSpace t.reverse

theorem blank_nil : Blank [] := rfl

theorem blank_append : Blank (a ++ b) ↔ Blank a ∧ Blank b := by
  rw [Blank, List.all_append, Bool.and_eq_true, Blank, Blank]

theorem blank_reverse : Blank a.reverse ↔ Blank a := by rw [Blank, List.all_reverse, Blank]

theorem tight_nil : Tight [] := ⟨stops_nil _, stops_nil _⟩

/-- It is enough to look at the first and at the last character. -/
theorem tight_of_ends {x y : Char} (hx : isSpace x = false) (hy : isSpace y = false)
    (hfirst : t.head? = some x) (hlast : t.getLast? = some y) : Tight t := by
  constructor
  · intro c hc
    rw [hfirst] at hc
    exact Option.some.inj hc ▸ hx
  · intro c hc
    rw [List.head?_reverse, hlast] at hc
    exact Option.some.inj hc ▸ hy

/-! ## One side -/

theorem trimStart_eq_iff :
    trimStart text = t ↔ Stops isSpace t ∧ ∃ a, Blank a ∧ text = a ++ t := by
  constructor
  · rintro rfl
    exact ⟨stops_dropWhile _ _, _, List.all_takeWhile, List.takeWhile_append_dropWhile.symm⟩
  · rintro ⟨ht, a, ha, rfl⟩
    exact dropWhile_append ha ht

theorem trimEnd_eq_iff :
    trimEnd text = t ↔ Stops isSpace t.reverse ∧ ∃ b, Blank b ∧ text = t ++ b := by
  have hreverse : trimEnd text = t ↔ trimStart text.reverse = t.reverse := by
    rw [trimEnd, trimStart, List.reverse_eq_iff]
  rw [hreverse, trimStart_eq_iff]
  refine and_congr_right fun _ => ⟨?_, ?_⟩
  · rintro ⟨a, ha, htext⟩
    exact ⟨a.reverse, blank_reverse.mpr ha, by rw [← text.reverse_reverse, htext]; simp⟩
  · rintro ⟨b, hb, rfl⟩
    exact ⟨b.reverse, blank_reverse.mpr hb, List.reverse_append⟩

theorem exists_trimEnd_append (text : List Char) :
    ∃ b, Blank b ∧ text = trimEnd text ++ b := (trimEnd_eq_iff.mp rfl).2

theorem trimStart_eq_nil_iff : trimStart text = [] ↔ Blank text := by
  rw [trimStart_eq_iff]
  constructor
  · rintro ⟨-, a, ha, rfl⟩
    rwa [List.append_nil]
  · intro h
    exact ⟨stops_nil _, text, h, (List.append_nil text).symm⟩

/-! ## Both sides -/

theorem trim_eq_iff :
    trim text = t ↔ Tight t ∧ ∃ a b, Blank a ∧ Blank b ∧ text = a ++ (t ++ b) := by
  rw [trim, trimEnd_eq_iff]
  constructor
  · rintro ⟨hend, b, hb, hstart⟩
    obtain ⟨hstop, a, ha, rfl⟩ := trimStart_eq_iff.mp hstart
    refine ⟨⟨?_, hend⟩, a, b, ha, hb, rfl⟩
    cases t with
    | nil => exact stops_nil _
    | cons c t => exact stops_cons.mpr (stops_cons.mp hstop)
  · rintro ⟨⟨hstart, hend⟩, a, b, ha, hb, rfl⟩
    cases t with
    | nil =>
        -- Nothing but white space is taken off from the start altogether.
        have hblank : Blank (a ++ ([] ++ b)) := blank_append.mpr ⟨ha, hb⟩
        exact ⟨hend, [], blank_nil, trimStart_eq_nil_iff.mpr hblank⟩
    | cons c t =>
        have hstop : Stops isSpace (c :: t ++ b) := stops_cons.mpr (stops_cons.mp hstart)
        exact ⟨hend, b, hb, trimStart_eq_iff.mpr ⟨hstop, a, ha, rfl⟩⟩

theorem trim_eq_nil_iff : trim text = [] ↔ Blank text := by
  rw [trim_eq_iff]
  constructor
  · rintro ⟨-, a, b, ha, hb, rfl⟩
    exact blank_append.mpr ⟨ha, hb⟩
  · intro h
    exact ⟨tight_nil, text, [], h, blank_nil, (List.append_nil text).symm⟩

theorem trim_append (ht : Tight t) (ha : Blank a) (hb : Blank b) : trim (a ++ (t ++ b)) = t :=
  trim_eq_iff.mpr ⟨ht, a, b, ha, hb, rfl⟩

theorem exists_trim_append (text : List Char) :
    ∃ a b, Blank a ∧ Blank b ∧ text = a ++ (trim text ++ b) := (trim_eq_iff.mp rfl).2

end LinkParsing.Text
