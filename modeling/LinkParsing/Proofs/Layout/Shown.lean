import LinkParsing.Proofs.Layout.Columns

/-!
# What a layout shows

Walls can be left out, but the words that are shown keep their order (`shownPlace_lt`).  So the
links that are shown are planar if all links are, and they are between words that are shown.
With what is known about heights and columns this is all that a diagram needs
(`wellPlaced_make`).
-/

namespace LinkParsing

/-- The links of the linkage go from left to right and do not cross, and their labels consist of
letters, digits and stars. -/
structure Linkage.Drawable (linkage : Linkage) : Prop where
  ordered : ∀ l ∈ linkage.links, l.left < l.right
  beside : ∀ k ∈ linkage.links, ∀ l ∈ linkage.links,
    ¬(k.left < l.left ∧ l.left < k.right ∧ k.right < l.right)
  labels : ∀ l ∈ linkage.links, ∀ c ∈ l.label.toList, Text.isLabelChar c = true

namespace Layout

variable {displayWalls : Bool} {words : List LinkageWord} {linkage : Linkage} {i j a b : Nat}

/-! ## Words and links that are shown -/

theorem shownPlace_eq_some_iff : shownPlace displayWalls words i = some a ↔
    ∃ w, words[i]? = some w ∧ isShown displayWalls w = true ∧
      (words.take i).countP (isShown displayWalls) = a := by
  unfold shownPlace
  cases words[i]? with
  | none => simp
  | some w => cases isShown displayWalls w <;> simp

/-- A word that is shown counts among those up to it. -/
theorem shownPlace_lt_countP (hi : shownPlace displayWalls words i = some a) :
    a < (words.take (i + 1)).countP (isShown displayWalls) := by
  obtain ⟨w, hw, hshown, rfl⟩ := shownPlace_eq_some_iff.mp hi
  rw [List.take_add_one, hw, List.countP_append]
  simp [hshown]

/-- Of two words that are shown, the one further left has the place further left. -/
theorem shownPlace_lt (hi : shownPlace displayWalls words i = some a)
    (hj : shownPlace displayWalls words j = some b) (hij : i < j) : a < b := by
  obtain ⟨-, -, -, rfl⟩ := shownPlace_eq_some_iff.mp hj
  have hprefix : words.take (i + 1) <+: words.take j := List.take_prefix_take_left hij
  exact (shownPlace_lt_countP hi).trans_le hprefix.sublist.countP_le

theorem lt_of_shownPlace_lt (hi : shownPlace displayWalls words i = some a)
    (hj : shownPlace displayWalls words j = some b) (hab : a < b) : i < j := by
  rcases lt_trichotomy i j with h | rfl | h
  · exact h
  · rw [hi] at hj
    cases hj
    exact absurd hab (lt_irrefl _)
  · exact absurd hab (shownPlace_lt hj hi h).le.not_gt

theorem shownPlace_lt_length (hi : shownPlace displayWalls linkage.words i = some a) :
    a < (shownTexts displayWalls linkage).length := by
  have hprefix : linkage.words.take (i + 1) <+: linkage.words := List.take_prefix _ _
  rw [shownTexts, List.length_map, ← List.countP_eq_length_filter]
  exact (shownPlace_lt_countP hi).trans_le hprefix.sublist.countP_le

theorem mem_shownArcs {arc : Arc} : arc ∈ shownArcs displayWalls linkage ↔
    ∃ l ∈ linkage.links, shownPlace displayWalls linkage.words l.left = some arc.left ∧
      shownPlace displayWalls linkage.words l.right = some arc.right ∧ l.label = arc.label := by
  rw [shownArcs, List.mem_filterMap]
  refine exists_congr fun l => and_congr_right fun _ => ?_
  cases shownPlace displayWalls linkage.words l.left with
  | none => simp
  | some left =>
      cases shownPlace displayWalls linkage.words l.right with
      | none => simp
      | some right =>
          obtain ⟨arcLeft, arcRight, arcLabel⟩ := arc
          simp

/-- The links that are shown go from left to right if all links do. -/
theorem ordered_shownArcs (displayWalls : Bool) (h : ∀ l ∈ linkage.links, l.left < l.right) :
    ∀ a ∈ shownArcs displayWalls linkage, a.left < a.right := by
  intro arc harc
  obtain ⟨l, hl, hleft, hright, -⟩ := mem_shownArcs.mp harc
  exact shownPlace_lt hleft hright (h l hl)

/-- The links that are shown do not cross if no links do. -/
theorem not_crosses_shownArcs (h : ∀ k ∈ linkage.links, ∀ l ∈ linkage.links,
    ¬(k.left < l.left ∧ l.left < k.right ∧ k.right < l.right)) :
    ∀ a ∈ shownArcs displayWalls linkage, ∀ b ∈ shownArcs displayWalls linkage,
      ¬a.Crosses b := by
  rintro arc harc other hother ⟨hstart, hinside, hstop⟩
  obtain ⟨k, hk, hkleft, hkright, -⟩ := mem_shownArcs.mp harc
  obtain ⟨l, hl, hlleft, hlright, -⟩ := mem_shownArcs.mp hother
  exact h k hk l hl ⟨lt_of_shownPlace_lt hkleft hlleft hstart,
    lt_of_shownPlace_lt hlleft hkright hinside, lt_of_shownPlace_lt hkright hlright hstop⟩

/-- The links that are shown are planar if all links are. -/
theorem planar_shownArcs (h : linkage.Drawable) : Planar (shownArcs displayWalls linkage) :=
  ⟨ordered_shownArcs displayWalls h.ordered, not_crosses_shownArcs h.beside⟩

/-! ## The whole layout -/

/-- What a diagram needs of a layout: links go from left to right, none ends strictly inside one
that is as high or higher, those of one height stand side by side, columns grow from word to word,
and labels fit between the ends of their links. -/
structure WellPlaced (layout : Layout) : Prop where
  ordered : ∀ p ∈ layout.links, p.left < p.right ∧ p.right < layout.words.length
  height_pos : ∀ p ∈ layout.links, 0 < p.height
  below : ∀ p ∈ layout.links, ∀ q ∈ layout.links, ∀ w, w = p.left ∨ w = p.right →
    q.left < w → w < q.right → p.height < q.height
  beside : ∀ p ∈ layout.links, ∀ q ∈ layout.links, p.height = q.height →
    p = q ∨ p.right ≤ q.left ∨ q.right ≤ p.left
  anchor_lt : ∀ i j, i < j → j < layout.words.length → layout.anchor i < layout.anchor j
  anchor_lt_width : ∀ i < layout.words.length, layout.anchor i < layout.width
  labels : ∀ p ∈ layout.links, ∀ c ∈ p.label.toList, Text.isLabelChar c = true
  room : ∀ p ∈ layout.links,
    layout.anchor p.left + p.label.toList.length + labelPadding ≤ layout.anchor p.right

theorem length_words_make : (make linkage displayWalls).words.length =
    (shownTexts displayWalls linkage).length := by
  simp only [make, length_placeWords, List.length_nil, Nat.zero_add]

/-- The links of a layout are those of the linkage that are shown. -/
theorem map_toArc_make_perm (linkage : Linkage) (displayWalls : Bool) :
    ((make linkage displayWalls).links.map (·.toArc)).Perm (shownArcs displayWalls linkage) :=
  placeLinks_perm _

/-- Links go from left to right between words of the layout. -/
theorem ends_of_mem_make (h : ∀ l ∈ linkage.links, l.left < l.right) {p : PlacedLink}
    (hp : p ∈ (make linkage displayWalls).links) :
    p.left < p.right ∧ p.right < (make linkage displayWalls).words.length := by
  have hmem := mem_of_mem_placeLinks hp
  obtain ⟨l, -, -, hright, -⟩ := mem_shownArcs.mp hmem
  rw [length_words_make]
  exact ⟨ordered_shownArcs displayWalls h _ hmem, shownPlace_lt_length hright⟩

theorem label_of_mem_make (h : linkage.Drawable) {p : PlacedLink}
    (hp : p ∈ (make linkage displayWalls).links) :
    ∀ c ∈ p.label.toList, Text.isLabelChar c = true := by
  obtain ⟨l, hl, -, -, hlabel⟩ := mem_shownArcs.mp (mem_of_mem_placeLinks hp)
  rw [← hlabel]
  exact h.labels l hl

/-- Links meet words within the grid. -/
theorem anchor_lt_width_make (hi : i < (make linkage displayWalls).words.length) :
    (make linkage displayWalls).anchor i < (make linkage displayWalls).width := by
  have hne : (make linkage displayWalls).words ≠ [] := List.ne_nil_of_length_pos (by omega)
  have hlast := List.getLast?_eq_some_getLast hne
  rw [width, hlast]
  exact anchorOf_lt_stop hi hlast

theorem wellPlaced_make (h : linkage.Drawable) (displayWalls : Bool) :
    (make linkage displayWalls).WellPlaced where
  ordered := fun p => ends_of_mem_make h.ordered
  height_pos := fun p => height_pos
  below := fun p hp q hq w => height_lt_of_inside (planar_shownArcs h) hp hq
  beside := fun p hp q hq => beside_of_height_eq (planar_shownArcs h) hp hq
  anchor_lt := fun i j => anchorOf_lt_anchorOf
  anchor_lt_width := fun i => anchor_lt_width_make
  labels := fun p => label_of_mem_make h
  room := by
    intro p hp
    obtain ⟨hlt, hright⟩ := ends_of_mem_make h.ordered hp
    rw [← Text.displayWidth_of_isLabelChar (label_of_mem_make h hp)]
    exact anchorOf_add_le hp hlt hright

end Layout

end LinkParsing
