import LinkParsing.Proofs.Layout.Heights

/-!
# Columns of words

Words are placed one behind the other (`getElem?_placeWords`), so the columns at which links meet
them grow from word to word (`anchorOf_lt_anchorOf`) and stay within the grid
(`anchorOf_lt_stop`).  A word is also so far to the right that the label of a link that ends
there fits, with four columns to spare (`anchorOf_add_le`).
-/

namespace LinkParsing

namespace Text

/-- Whether a character may stand in the label of a link. -/
def isLabelChar (c : Char) : Bool := c.isAlphanum || c == '*'

theorem toNat_of_isLabelChar {c : Char} (h : isLabelChar c = true) :
    c.toNat = 42 ∨ 48 ≤ c.toNat ∧ c.toNat < 123 := by
  change (((decide (65 ≤ c.val ∧ c.val ≤ 90) || decide (97 ≤ c.val) && decide (c.val ≤ 122)) ||
    decide (48 ≤ c.val) && decide (c.val ≤ 57)) || c == '*') = true at h
  simp only [Bool.or_eq_true, Bool.and_eq_true, decide_eq_true_eq, beq_iff_eq,
    UInt32.le_iff_toNat_le] at h
  change (((65 ≤ c.toNat ∧ c.toNat ≤ 90) ∨ (97 ≤ c.toNat ∧ c.toNat ≤ 122)) ∨
    (48 ≤ c.toNat ∧ c.toNat ≤ 57)) ∨ c = '*' at h
  rcases h with ((h | h) | h) | rfl
  · omega
  · omega
  · omega
  · exact .inl rfl

/-- A character of a label takes a column if no selector follows, and is nothing special for the
character before it. -/
theorem addWidth_of_isLabelChar {c : Char} (h : isLabelChar c = true) :
    addWidth c .nothing = (1, .nothing) := by
  have hrange := toNat_of_isLabelChar h
  have hreturn : c ≠ '\r' := by
    rintro rfl
    simp at hrange
  have hfeed : c ≠ '\n' := by
    rintro rfl
    simp at hrange
  have hnarrow : c.toNat ≤ 0xA0 := by omega
  simp [addWidth, addWidth.add, Behind.nothing, alone, hreturn, hfeed, hnarrow]

/-- A label takes a column for each of its characters. -/
theorem displayWidth_of_isLabelChar {label : List Char} (h : ∀ c ∈ label, isLabelChar c = true) :
    displayWidth label = label.length := by
  have hstart : widthAndStart label = ((label.length : Int), Behind.nothing) := by
    induction label with
    | nil => rfl
    | cons c rest ih =>
        have hrest := ih fun d hd => h d (List.mem_cons_of_mem c hd)
        rw [widthAndStart, hrest]
        simp only [addWidth_of_isLabelChar (h c List.mem_cons_self), List.length_cons,
          Int.natCast_add, Int.natCast_one, Int.add_comm]
  rw [displayWidth, hstart]
  exact Int.toNat_natCast _

end Text

namespace Layout

variable {links : List PlacedLink} {placed : List PlacedWord} {texts : List String}
  {w : PlacedWord} {i j : Nat}

/-! ## One word after the other -/

theorem prefix_placeWords (links : List PlacedLink) (placed : List PlacedWord)
    (texts : List String) : placed <+: placeWords links placed texts := by
  induction texts generalizing placed with
  | nil => exact List.prefix_refl _
  | cons text texts ih => exact (List.prefix_append _ _).trans (ih _)

theorem length_placeWords (links : List PlacedLink) (placed : List PlacedWord)
    (texts : List String) :
    (placeWords links placed texts).length = placed.length + texts.length := by
  induction texts generalizing placed with
  | nil => rfl
  | cons text texts ih =>
      rw [placeWords, ih]
      simp only [List.length_append, List.length_cons, List.length_nil]
      omega

/-- Every word is placed behind those before it. -/
theorem getElem?_placeWords (hw : (placeWords links placed texts)[i]? = some w)
    (hi : placed.length ≤ i) :
    ∃ text, w = placeNext links ((placeWords links placed texts).take i) text := by
  induction texts generalizing placed with
  | nil =>
      rw [placeWords, List.getElem?_eq_none hi] at hw
      cases hw
  | cons text texts ih =>
      rw [placeWords] at hw ⊢
      rcases hi.eq_or_lt with rfl | hlt
      · obtain ⟨rest, hrest⟩ :=
          prefix_placeWords links (placed ++ [placeNext links placed text]) texts
        rw [← hrest, List.append_assoc] at hw ⊢
        rw [List.getElem?_append_right (le_refl _), Nat.sub_self] at hw
        rw [List.take_left]
        exact ⟨text, (Option.some.inj hw).symm⟩
      · refine ih hw ?_
        simp only [List.length_append, List.length_singleton]
        omega

/-! ## Columns -/

theorem anchorOf_eq {words : List PlacedWord} (hw : words[i]? = some w) :
    anchorOf words i = w.anchor := by
  rw [anchorOf, hw]

theorem anchorOf_take {words : List PlacedWord} (h : i < j) :
    anchorOf (words.take j) i = anchorOf words i := by
  rw [anchorOf, anchorOf, List.getElem?_take_of_lt h]

theorem nextFree_le_start (placed : List PlacedWord) (text : String) :
    nextFree placed ≤ (placeNext links placed text).start :=
  le_foldl_max_iff.mpr (.inl (le_refl _))

theorem startBehind_le_start {l : PlacedLink} (text : String) (hl : l ∈ links)
    (hright : l.right = placed.length) :
    startBehind placed (columns text) l ≤ (placeNext links placed text).start := by
  refine le_foldl_max_iff.mpr (.inr ⟨_, List.mem_map_of_mem ?_, le_refl _⟩)
  exact List.mem_filter.mpr ⟨hl, beq_iff_eq.mpr hright⟩

theorem anchor_placeNext_lt_stop (placed : List PlacedWord) (text : String) :
    (placeNext links placed text).anchor < (placeNext links placed text).stop := by
  have hwidth : 1 ≤ (placeNext links placed text).width := le_max_right _ 1
  simp only [PlacedWord.anchor, PlacedWord.stop]
  omega

/-- The next word can start behind the blank that follows a word. -/
theorem nextFree_take {words : List PlacedWord} (hw : words[i]? = some w) :
    nextFree (words.take (i + 1)) = w.stop + 1 := by
  have hlast : (words.take (i + 1)).getLast? = some w := by
    rw [List.take_add_one, hw]
    exact List.getLast?_concat
  rw [nextFree, hlast]

/-- Links meet a word in one of its columns. -/
theorem anchor_lt_stop (hw : (placeWords links [] texts)[i]? = some w) : w.anchor < w.stop := by
  obtain ⟨text, rfl⟩ := getElem?_placeWords hw (Nat.zero_le i)
  exact anchor_placeNext_lt_stop _ text

/-- A word starts behind the one before it and a blank. -/
theorem stop_lt_start {v : PlacedWord} (hw : (placeWords links [] texts)[i]? = some w)
    (hv : (placeWords links [] texts)[i + 1]? = some v) : w.stop < v.start := by
  obtain ⟨text, rfl⟩ := getElem?_placeWords hv (Nat.zero_le (i + 1))
  calc w.stop < nextFree ((placeWords links [] texts).take (i + 1)) := by
        rw [nextFree_take hw]
        exact Nat.lt_succ_self _
    _ ≤ _ := nextFree_le_start _ text

theorem anchorOf_lt_succ (h : i + 1 < (placeWords links [] texts).length) :
    anchorOf (placeWords links [] texts) i < anchorOf (placeWords links [] texts) (i + 1) := by
  have hi := List.getElem?_eq_getElem (Nat.lt_of_succ_lt h)
  have hnext := List.getElem?_eq_getElem h
  rw [anchorOf_eq hi, anchorOf_eq hnext]
  calc _ < _ := anchor_lt_stop hi
    _ < _ := stop_lt_start hi hnext
    _ ≤ _ := Nat.le_add_right _ _

/-- Links meet later words further to the right. -/
theorem anchorOf_lt_anchorOf (hij : i < j) (hj : j < (placeWords links [] texts).length) :
    anchorOf (placeWords links [] texts) i < anchorOf (placeWords links [] texts) j := by
  induction hij with
  | refl => exact anchorOf_lt_succ hj
  | step hij ih => exact (ih (Nat.lt_of_succ_lt hj)).trans (anchorOf_lt_succ hj)

/-- Links meet words within the grid. -/
theorem anchorOf_lt_stop (hi : i < (placeWords links [] texts).length)
    (hlast : (placeWords links [] texts).getLast? = some w) :
    anchorOf (placeWords links [] texts) i < w.stop := by
  rw [List.getLast?_eq_getElem?] at hlast
  refine lt_of_le_of_lt ?_ (anchor_lt_stop hlast)
  rw [← anchorOf_eq hlast]
  rcases (Nat.le_sub_one_of_lt hi).eq_or_lt with heq | hlt
  · rw [heq]
  · exact (anchorOf_lt_anchorOf hlt (by omega)).le

/-- Between the ends of a link its label fits, with four columns to spare. -/
theorem anchorOf_add_le {l : PlacedLink} (hl : l ∈ links) (hends : l.left < l.right)
    (hright : l.right < (placeWords links [] texts).length) :
    anchorOf (placeWords links [] texts) l.left + Text.displayWidth l.label.toList + labelPadding ≤
      anchorOf (placeWords links [] texts) l.right := by
  have hw := List.getElem?_eq_getElem hright
  obtain ⟨text, htext⟩ := getElem?_placeWords hw (Nat.zero_le l.right)
  have hlength : l.right = ((placeWords links [] texts).take l.right).length := by
    rw [List.length_take]
    omega
  have hstart := startBehind_le_start text hl hlength
  rw [startBehind, anchorOf_take hends] at hstart
  rw [anchorOf_eq hw, htext]
  have hanchor : (placeNext links ((placeWords links [] texts).take l.right) text).anchor =
      (placeNext links ((placeWords links [] texts).take l.right) text).start +
        (columns text - 1) / 2 := rfl
  omega

end Layout

end LinkParsing
