import LinkParsing.Proofs.Layout.Painting

/-!
# Diagrams show the link graph

The rows of a diagram are made of the columns described so far, less the blanks at their ends
(`getElem?_row`).  Between the ends of a link its row has the label of the link between dashes
(`between_row`), and no other part of it looks the same (`eq_of_prefix_drop_dashed`).  Hence
a diagram shows the links of its layout and nothing else (`showsLinks_of_drawable`).
-/

namespace LinkParsing

theorem toList_unlines (lines : List String) :
    (unlines lines).toList = lines.flatMap fun line => line.toList ++ ['\n'] := by
  rw [unlines, String.toList_join, List.flatMap_map]
  simp only [String.toList_append, show "\n".toList = ['\n'] from rfl]

namespace Diagram

variable {layout : Layout} {linkage : Linkage} {label : List Char} {height column i k m n : Nat}
  {c : Char} {p : PlacedLink}

/-! ## A label between dashes -/

/-- A label with dashes before and behind it. -/
def dashed (m : Nat) (label : List Char) (n : Nat) : List Char :=
  List.replicate m '-' ++ label ++ List.replicate n '-'

theorem length_dashed : (dashed m label n).length = m + label.length + n := by
  simp only [dashed, List.length_append, List.length_replicate]

theorem getElem?_dashed (hi : i < m + label.length + n) :
    (dashed m label n)[i]? = some (if m ≤ i then label[i - m]?.getD '-' else '-') := by
  rw [dashed, List.append_assoc, List.getElem?_append, List.length_replicate]
  by_cases hm : i < m
  · rw [if_pos hm, if_neg hm.not_ge, List.getElem?_replicate_of_lt hm]
  · rw [if_neg hm, if_pos (not_lt.mp hm), List.getElem?_append]
    by_cases hlabel : i - m < label.length
    · rw [if_pos hlabel, List.getElem?_eq_getElem hlabel, Option.getD_some]
    · have hn : i - m - label.length < n := by omega
      rw [if_neg hlabel, List.getElem?_replicate_of_lt hn,
        List.getElem?_eq_none (not_lt.mp hlabel), Option.getD_none]

/-- All but the label is dashes. -/
theorem bounds_of_getElem?_dashed (hc : (dashed m label n)[i]? = some c) (hdash : c ≠ '-') :
    m ≤ i ∧ i < m + label.length := by
  obtain ⟨hi, -⟩ := List.getElem?_eq_some_iff.mp hc
  rw [length_dashed] at hi
  rw [getElem?_dashed hi, Option.some.injEq] at hc
  by_contra hout
  refine hdash (hc.symm.trans ?_)
  split
  next hm => rw [List.getElem?_eq_none (by omega), Option.getD_none]
  next => rfl

/-- A label without dashes stands at one place only. -/
theorem eq_of_prefix_drop_dashed (hne : label ≠ []) (hdash : '-' ∉ label)
    (h : label <+: (dashed m label n).drop k) : k = m := by
  obtain ⟨rest, hrest⟩ := h
  -- No character of the label can stand where a dash is, the first and the last one included.
  have hbounds (i : Nat) (hi : i < label.length) : m ≤ k + i ∧ k + i < m + label.length := by
    have hat : (dashed m label n)[k + i]? = some label[i] := by
      rw [← List.getElem?_drop, ← hrest, List.getElem?_append_left hi,
        List.getElem?_eq_getElem hi]
    exact bounds_of_getElem?_dashed hat fun heq => hdash (heq ▸ List.getElem_mem hi)
  have hpos : 0 < label.length := List.length_pos_iff.mpr hne
  have hfirst := hbounds 0 hpos
  have hlast := hbounds (label.length - 1) (by omega)
  omega

/-- An arc with room for its label shows it between dashes. -/
theorem getElem?_dashed_eq_arcInside {start stop : Nat}
    (hroom : start + 1 + label.length ≤ stop) (hi : i < stop - start - 1)
    (hm : m = (stop - start - 1 - label.length) / 2)
    (hn : n = stop - start - 1 - label.length - m) :
    (dashed m label n)[i]? = some (arcInside label start stop (start + 1 + i)) := by
  have hfits : label.length ≤ stop - start - 1 := by omega
  have hfirst : start + 1 + m ≤ start + 1 + i ↔ m ≤ i := Nat.add_le_add_iff_left
  have hplace : start + 1 + i - (start + 1 + m) = i - m := Nat.add_sub_add_left _ _ _
  rw [getElem?_dashed (by omega), arcInside]
  simp only [← hm, hplace, hfirst, hfits, decide_true, Bool.true_and, decide_eq_true_eq]

/-! ## Rows -/

/-- A row shows in its columns what there is to show. -/
theorem getElem?_row (hc : Text.isSpace c = false) :
    (row layout height)[column]? = some c ↔
      column ≤ layout.width ∧ cell layout height column = c := by
  rw [row, Text.getElem?_trimEnd_iff hc, List.getElem?_map, ← Nat.lt_succ_iff]
  rcases Nat.lt_or_ge column (layout.width + 1) with hlt | hge
  · rw [List.getElem?_range hlt, Option.map_some, Option.some.injEq]
    exact (and_iff_right hlt).symm
  · rw [List.getElem?_eq_none (by rwa [List.length_range])]
    exact ⟨nofun, fun h => absurd h.1 hge.not_gt⟩

theorem newline_notMem_row (h : layout.WellPlaced) (height : Nat) : '\n' ∉ row layout height := by
  intro hmem
  have hcells : '\n' ∈ (List.range (layout.width + 1)).map (cell layout height) := by
    rw [← List.mem_reverse]
    exact (List.dropWhile_sublist _).subset (List.mem_reverse.mp hmem)
  obtain ⟨column, -, hcell⟩ := List.mem_map.mp hcells
  exact not_cellShows_newline (hcell ▸ cellShows h height column)

theorem anchor_le_width (h : layout.WellPlaced) (hp : p ∈ layout.links)
    (hcolumn : IsEnd layout column p) : column ≤ layout.width := by
  obtain ⟨hlt, hright⟩ := h.ordered p hp
  rcases hcolumn with rfl | rfl
  · exact (h.anchor_lt_width _ (hlt.trans hright)).le
  · exact (h.anchor_lt_width _ hright).le

/-- What a row shows strictly between two columns. -/
def between (row : List Char) (start stop : Nat) : List Char := (row.take stop).drop (start + 1)

/-- Between the ends of a link its row shows its label, with at least one dash on each side. -/
theorem between_row (h : layout.WellPlaced) (hp : p ∈ layout.links) :
    ∃ m n, 0 < m ∧ 0 < n ∧
      between (row layout p.height) (layout.anchor p.left) (layout.anchor p.right) =
        dashed m p.label.toList n := by
  -- At least three columns between the ends are free besides the label, so each side has a dash.
  have hroom : layout.anchor p.left + p.label.toList.length + 4 ≤ layout.anchor p.right :=
    h.room p hp
  obtain ⟨m, hm⟩ : ∃ m,
      m = (layout.anchor p.right - layout.anchor p.left - 1 - p.label.toList.length) / 2 := ⟨_, rfl⟩
  obtain ⟨n, hn⟩ : ∃ n,
      n = layout.anchor p.right - layout.anchor p.left - 1 - p.label.toList.length - m := ⟨_, rfl⟩
  refine ⟨m, n, by omega, by omega, List.ext_getElem? fun i => ?_⟩
  rw [between, List.getElem?_drop]
  by_cases hi : i < layout.anchor p.right - layout.anchor p.left - 1
  · have hcell : cell layout p.height (layout.anchor p.left + 1 + i) =
        arcInside p.label.toList (layout.anchor p.left) (layout.anchor p.right)
          (layout.anchor p.left + 1 + i) := cell_of_inside h hp (by omega) (by omega)
    have hwidth := anchor_le_width h hp (.inr rfl)
    rw [List.getElem?_take_of_lt (by omega),
      getElem?_dashed_eq_arcInside (by omega) hi hm hn, getElem?_row (isSpace_arcInside h hp _ _ _)]
    exact ⟨by omega, hcell⟩
  · have htake : ((row layout p.height).take (layout.anchor p.right)).length ≤
        layout.anchor p.right := List.length_take_le _ _
    rw [List.getElem?_eq_none (by omega), List.getElem?_eq_none (by rw [length_dashed]; omega)]

/-- In every row up to the height of a link its ends show. -/
theorem row_of_end (h : layout.WellPlaced) (hp : p ∈ layout.links) (hle : height ≤ p.height)
    (hcolumn : IsEnd layout column p) :
    (row layout height)[column]? = some '+' ∨
      height < p.height ∧ (row layout height)[column]? = some '|' := by
  have hwidth := anchor_le_width h hp hcolumn
  rcases cell_of_end h hp hle hcolumn with hplus | ⟨hlt, hbar⟩
  · exact .inl ((getElem?_row (by decide)).mpr ⟨hwidth, hplus⟩)
  · exact .inr ⟨hlt, (getElem?_row (by decide)).mpr ⟨hwidth, hbar⟩⟩

/-! ## The whole diagram -/

theorem mem_heights (h : layout.WellPlaced) (hp : p ∈ layout.links) (hle : height ≤ p.height) :
    height ∈ heights layout := by
  have hmax : p.height ≤ layout.maxHeight := Layout.height_le_maxHeight hp
  have hpos := h.height_pos p hp
  rw [heights, if_neg (by omega), List.mem_reverse, List.mem_range]
  omega

theorem toList_diagram (linkage : Linkage) (options : Options) :
    ∃ below, (linkage.diagram options).toList =
      (heights (Layout.make linkage options.displayWalls)).flatMap
          (fun height => row (Layout.make linkage options.displayWalls) height ++ ['\n']) ++
        below := by
  rw [Linkage.diagram, toList_unlines, lines, drawing]
  simp only [List.append_assoc, List.flatMap_append, List.flatMap_map, String.toList_ofList]
  exact ⟨_, rfl⟩

/-- A text shows the links of a layout and nothing else above its words. -/
structure ShowsLinks (layout : Layout) (text : List Char) : Prop where
  /-- The text starts with a line for each height, from the top. -/
  lines : ∃ below,
    text = (heights layout).flatMap (fun height => row layout height ++ ['\n']) ++ below
  one_line : ∀ height, '\n' ∉ row layout height
  has_rows : ∀ p ∈ layout.links, 0 < p.height ∧ ∀ height ≤ p.height, height ∈ heights layout
  /-- The two ends of a link show in its row. -/
  ends : ∀ p ∈ layout.links, layout.anchor p.left < layout.anchor p.right ∧
    (row layout p.height)[layout.anchor p.left]? = some '+' ∧
    (row layout p.height)[layout.anchor p.right]? = some '+'
  /-- Between them the label shows once, and else dashes. -/
  inside : ∀ p ∈ layout.links, ∃ m n, 0 < m ∧ 0 < n ∧
    between (row layout p.height) (layout.anchor p.left) (layout.anchor p.right) =
      dashed m p.label.toList n ∧
    ∀ k, p.label.toList ≠ [] → p.label.toList <+:
      (between (row layout p.height) (layout.anchor p.left) (layout.anchor p.right)).drop k → k = m
  /-- Below its row a link has stems, which may be ends of arcs as well. -/
  stems : ∀ p ∈ layout.links, ∀ height < p.height, ∀ column, IsEnd layout column p →
    (row layout height)[column]? = some '+' ∨ (row layout height)[column]? = some '|'
  plus : ∀ height column, (row layout height)[column]? = some '+' →
    ∃ p ∈ layout.links, p.height = height ∧ IsEnd layout column p
  bar : ∀ height column, (row layout height)[column]? = some '|' →
    ∃ p ∈ layout.links, height < p.height ∧ IsEnd layout column p

theorem showsLinks_of_wellPlaced (h : layout.WellPlaced) {text : List Char}
    (hlines : ∃ below,
      text = (heights layout).flatMap (fun height => row layout height ++ ['\n']) ++ below) :
    ShowsLinks layout text where
  lines := hlines
  one_line := newline_notMem_row h
  has_rows := fun p hp => ⟨h.height_pos p hp, fun height => mem_heights h hp⟩
  ends := by
    intro p hp
    have hend {column : Nat} (hcolumn : IsEnd layout column p) :
        (row layout p.height)[column]? = some '+' := by
      rcases row_of_end h hp (le_refl _) hcolumn with hplus | ⟨hlt, -⟩
      · exact hplus
      · exact absurd hlt (lt_irrefl _)
    exact ⟨anchor_lt_of_mem h hp, hend (.inl rfl), hend (.inr rfl)⟩
  inside := by
    intro p hp
    obtain ⟨m, n, hm, hn, hbetween⟩ := between_row h hp
    refine ⟨m, n, hm, hn, hbetween, fun k hne hprefix => ?_⟩
    rw [hbetween] at hprefix
    exact eq_of_prefix_drop_dashed hne (fun hdash => absurd (h.labels p hp _ hdash) (by decide))
      hprefix
  stems := by
    intro p hp height hlt column hcolumn
    rcases row_of_end h hp hlt.le hcolumn with hplus | ⟨-, hbar⟩
    · exact .inl hplus
    · exact .inr hbar
  plus := by
    intro height column hplus
    obtain ⟨-, hcell⟩ := (getElem?_row (by decide)).mp hplus
    exact exists_end_of_plus (hcell ▸ cellShows h height column)
  bar := by
    intro height column hbar
    obtain ⟨-, hcell⟩ := (getElem?_row (by decide)).mp hbar
    exact exists_end_of_bar (hcell ▸ cellShows h height column)

/-- If no links of a linkage cross, its diagram shows those between words that are shown, and no
others. -/
theorem showsLinks_of_drawable (h : linkage.Drawable) (options : Options) :
    ((Layout.make linkage options.displayWalls).links.map (·.toArc)).Perm
        (Layout.shownArcs options.displayWalls linkage) ∧
      ShowsLinks (Layout.make linkage options.displayWalls) (linkage.diagram options).toList := by
  have hplaced := Layout.wellPlaced_make h options.displayWalls
  exact ⟨Layout.map_toArc_make_perm _ _, showsLinks_of_wellPlaced hplaced (toList_diagram _ _)⟩

/-- A wall and three words, with a link from the wall over the others to the last one. -/
def walled : Linkage :=
  ⟨[⟨"LEFT-WALL", true, false, none, 0⟩, ⟨"я", false, false, none, 0⟩,
      ⟨"иду.v", false, false, none, 0⟩, ⟨".", false, false, none, 0⟩],
    [⟨0, 1, "Wd", "Wd", "Wd"⟩, ⟨0, 3, "Xp", "Xp", "Xp"⟩, ⟨1, 2, "S", "S", "S"⟩]⟩

theorem showsLinks_walled : walled.Drawable ∧
    ((Layout.make walled true).links.map (·.toArc)).Perm (Layout.shownArcs true walled) ∧
      ShowsLinks (Layout.make walled true) (walled.diagram .default).toList := by
  have hlabels : ∀ l ∈ walled.links, l.label.toList.all Text.isLabelChar = true := by decide
  have hdrawable : walled.Drawable :=
    ⟨by decide, by decide, fun l hl => List.all_eq_true.mp (hlabels l hl)⟩
  exact ⟨hdrawable, showsLinks_of_drawable hdrawable .default⟩

end Diagram

end LinkParsing
