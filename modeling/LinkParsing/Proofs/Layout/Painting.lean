import LinkParsing.Layout.Diagram
import LinkParsing.Proofs.Layout.Shown
import Mathlib.Data.List.DropRight

/-!
# What a diagram shows

A column of a row shows the last of the arcs drawn over it (`foldl_drawArc`).  Where a link ends, no
arc that is as low or lower goes past, so there is an end of an arc or a stem (`cell_of_end`), and
between the ends of a link there is no other arc of its height (`cell_of_inside`).  Hence a
diagram shows just the links of its layout (`showsLinks_of_drawable`).
-/

namespace LinkParsing

namespace Text

/-- Taking away the white space behind a text leaves all other characters where they are. -/
theorem getElem?_trimEnd_iff {text : List Char} {i : Nat} {c : Char} (hc : isSpace c = false) :
    (trimEnd text)[i]? = some c ↔ text[i]? = some c := by
  have hsplit : trimEnd text ++ text.rtakeWhile isSpace = text := List.rdropWhile_append_rtakeWhile
  constructor
  · intro h
    obtain ⟨hlt, -⟩ := List.getElem?_eq_some_iff.mp h
    rwa [← hsplit, List.getElem?_append_left hlt]
  · intro h
    rcases lt_or_ge i (trimEnd text).length with hlt | hge
    · rwa [← hsplit, List.getElem?_append_left hlt] at h
    · rw [← hsplit, List.getElem?_append_right hge] at h
      have hspace : isSpace c = true := List.mem_rtakeWhile_imp (List.mem_of_getElem? h)
      rw [hc] at hspace
      cases hspace

theorem isSpace_of_isLabelChar {c : Char} (h : isLabelChar c = true) : isSpace c = false := by
  have hrange := toNat_of_isLabelChar h
  simp only [isSpace, Bool.or_eq_false_iff, Bool.and_eq_false_iff, decide_eq_false_iff_not,
    beq_eq_false_iff_ne]
  omega

end Text

namespace Diagram

variable {layout : Layout} {height column w : Nat} {p q : PlacedLink} {links : List PlacedLink}

/-! ## Drawing over one another -/

/-- Whether the arc of a link goes over a column, its ends included. -/
def Covers (layout : Layout) (column : Nat) (link : PlacedLink) : Prop :=
  layout.anchor link.left ≤ column ∧ column ≤ layout.anchor link.right

/-- Whether a link ends in a column. -/
def IsEnd (layout : Layout) (column : Nat) (link : PlacedLink) : Prop :=
  column = layout.anchor link.left ∨ column = layout.anchor link.right

instance : Decidable (IsEnd layout column p) := inferInstanceAs (Decidable (_ ∨ _))

theorem endsIn_iff : endsIn layout column p = true ↔ IsEnd layout column p := by
  rw [endsIn, IsEnd, Bool.or_eq_true, beq_iff_eq, beq_iff_eq, eq_comm,
    eq_comm (a := layout.anchor p.right)]

/-- What the arc of a link shows in a column that it goes over. -/
def stroke (layout : Layout) (column : Nat) (link : PlacedLink) : Char :=
  if IsEnd layout column link then '+'
  else arcInside link.label.toList (layout.anchor link.left) (layout.anchor link.right) column

theorem drawArc_of_covers (before : Char) (h : Covers layout column p) :
    drawArc layout column before p = stroke layout column p := by
  obtain ⟨hstart, hstop⟩ := h
  unfold drawArc stroke IsEnd
  by_cases hend : column = layout.anchor p.left ∨ column = layout.anchor p.right
  · simp [hend]
  · have hinside : layout.anchor p.left < column ∧ column < layout.anchor p.right := by omega
    simp [hend, hinside]

theorem drawArc_of_not_covers (before : Char) (hlt : layout.anchor p.left < layout.anchor p.right)
    (h : ¬Covers layout column p) : drawArc layout column before p = before := by
  unfold Covers at h
  have hend : ¬(column = layout.anchor p.left ∨ column = layout.anchor p.right) := by omega
  have hinside : ¬(layout.anchor p.left < column ∧ column < layout.anchor p.right) := by omega
  simp [drawArc, hend, hinside]

/-- The last of the arcs that go over a column shows there. -/
theorem foldl_drawArc (hlt : ∀ p ∈ links, layout.anchor p.left < layout.anchor p.right)
    (before : Char) :
    ((∀ p ∈ links, ¬Covers layout column p) ∧
        links.foldl (drawArc layout column) before = before) ∨
      ∃ p ∈ links, Covers layout column p ∧
        links.foldl (drawArc layout column) before = stroke layout column p := by
  induction links generalizing before with
  | nil => exact .inl ⟨fun _ hp => absurd hp List.not_mem_nil, rfl⟩
  | cons p links ih =>
      -- The first arc shows only where none of the others goes over the column.
      have hrest := ih (fun q hq => hlt q (List.mem_cons_of_mem p hq))
      rw [List.foldl_cons]
      rcases hrest (drawArc layout column before p) with ⟨hnone, heq⟩ | ⟨q, hq, hcovers, heq⟩
      · by_cases hcovers : Covers layout column p
        · right
          refine ⟨p, List.mem_cons_self, hcovers, ?_⟩
          rw [heq, drawArc_of_covers before hcovers]
        · left
          refine ⟨fun q hq => ?_, ?_⟩
          · rcases List.mem_cons.mp hq with rfl | hq
            · exact hcovers
            · exact hnone q hq
          · rw [heq, drawArc_of_not_covers before (hlt p List.mem_cons_self) hcovers]
      · exact .inr ⟨q, List.mem_cons_of_mem p hq, hcovers, heq⟩

/-! ## Columns of a row -/

/-- What the arcs of a height show in a column, a blank where there is none. -/
def arcsAt (layout : Layout) (height column : Nat) : Char :=
  (layout.links.filter (·.height == height)).foldl (drawArc layout column) ' '

theorem cell_eq (layout : Layout) (height column : Nat) : cell layout height column =
    if arcsAt layout height column = ' ' ∧
        ∃ p ∈ layout.links, height < p.height ∧ IsEnd layout column p then '|'
    else arcsAt layout height column := by
  have hany : (layout.links.filter (height < ·.height)).any (endsIn layout column) = true ↔
      ∃ p ∈ layout.links, height < p.height ∧ IsEnd layout column p := by
    simp only [List.any_eq_true, List.mem_filter, decide_eq_true_eq, and_assoc, endsIn_iff]
  simp only [cell, ← hany, Bool.and_eq_true, decide_eq_true_eq]
  rfl

theorem arcInside_mem (label : List Char) (start stop column : Nat) :
    arcInside label start stop column = '-' ∨ arcInside label start stop column ∈ label := by
  unfold arcInside
  simp only
  split
  next =>
    cases hchar : label[column - (start + 1 + (stop - start - 1 - label.length) / 2)]? with
    | none => exact .inl rfl
    | some c => exact .inr (List.mem_of_getElem? hchar)
  next => exact .inl rfl

/-- Between its ends an arc shows dashes and the characters of its label only. -/
theorem arcInside_dash_or_label (h : layout.WellPlaced) (hp : p ∈ layout.links)
    (start stop column : Nat) : arcInside p.label.toList start stop column = '-' ∨
      Text.isLabelChar (arcInside p.label.toList start stop column) = true :=
  (arcInside_mem p.label.toList start stop column).imp_right (h.labels p hp _)

theorem isSpace_arcInside (h : layout.WellPlaced) (hp : p ∈ layout.links)
    (start stop column : Nat) :
    Text.isSpace (arcInside p.label.toList start stop column) = false := by
  rcases arcInside_dash_or_label h hp start stop column with hdash | hlabel
  · rw [hdash]
    decide
  · exact Text.isSpace_of_isLabelChar hlabel

theorem anchor_lt_of_mem (h : layout.WellPlaced) (hp : p ∈ layout.links) :
    layout.anchor p.left < layout.anchor p.right := by
  obtain ⟨hlt, hright⟩ := h.ordered p hp
  exact h.anchor_lt _ _ hlt hright

/-- A column of a row shows one of the arcs of its height, if there is one. -/
theorem arcsAt_cases (h : layout.WellPlaced) (height column : Nat) :
    ((∀ p ∈ layout.links, p.height = height → ¬Covers layout column p) ∧
        arcsAt layout height column = ' ') ∨
      ∃ p ∈ layout.links, p.height = height ∧ Covers layout column p ∧
        arcsAt layout height column = stroke layout column p := by
  have hlt : ∀ p ∈ layout.links.filter (·.height == height),
      layout.anchor p.left < layout.anchor p.right := fun p hp =>
    anchor_lt_of_mem h (List.mem_of_mem_filter hp)
  rcases foldl_drawArc hlt ' ' with ⟨hnone, heq⟩ | ⟨p, hp, hcovers, heq⟩
  · refine .inl ⟨fun p hp hheight => hnone p (List.mem_filter.mpr ⟨hp, ?_⟩), heq⟩
    exact beq_iff_eq.mpr hheight
  · obtain ⟨hmem, hheight⟩ := List.mem_filter.mp hp
    exact .inr ⟨p, hmem, beq_iff_eq.mp hheight, hcovers, heq⟩

/-! ## Ends and stems -/

theorem anchor_le (h : layout.WellPlaced) {i j : Nat} (hij : i ≤ j)
    (hj : j < layout.words.length) : layout.anchor i ≤ layout.anchor j := by
  rcases hij.eq_or_lt with rfl | hlt
  · exact le_refl _
  · exact (h.anchor_lt i j hlt hj).le

/-- Words are in the order of the columns at which links meet them. -/
theorem le_of_anchor_le (h : layout.WellPlaced) {i j : Nat} (hi : i < layout.words.length)
    (hle : layout.anchor i ≤ layout.anchor j) : i ≤ j := by
  by_contra! hlt
  exact absurd (h.anchor_lt j i hlt hi) hle.not_gt

/-- An arc that goes over the end of a link as high or higher ends there as well. -/
theorem isEnd_of_covers (h : layout.WellPlaced) (hp : p ∈ layout.links) (hq : q ∈ layout.links)
    (hle : q.height ≤ p.height) (hcolumn : IsEnd layout column p)
    (hcovers : Covers layout column q) : IsEnd layout column q := by
  obtain ⟨hplt, hpright⟩ := h.ordered p hp
  obtain ⟨hqlt, hqright⟩ := h.ordered q hq
  obtain ⟨w, hw, rfl⟩ : ∃ w, (w = p.left ∨ w = p.right) ∧ column = layout.anchor w := by
    rcases hcolumn with rfl | rfl
    · exact ⟨p.left, .inl rfl, rfl⟩
    · exact ⟨p.right, .inr rfl, rfl⟩
  have hwlt : w < layout.words.length := by omega
  have hleft : q.left ≤ w := le_of_anchor_le h (by omega) hcovers.1
  have hright : w ≤ q.right := le_of_anchor_le h hwlt hcovers.2
  -- A word strictly inside `q` is an end only of links that are lower than `q`.
  by_cases hend : w = q.left ∨ w = q.right
  · rcases hend with rfl | rfl
    · exact .inl rfl
    · exact .inr rfl
  · have hlt := h.below p hp q hq w hw (by omega) (by omega)
    omega

/-- In every row up to the height of a link its ends show: as ends of an arc, in the row of the
link itself and where an arc of the row ends there as well, and else as stems. -/
theorem cell_of_end (h : layout.WellPlaced) (hp : p ∈ layout.links) (hle : height ≤ p.height)
    (hcolumn : IsEnd layout column p) :
    cell layout height column = '+' ∨ height < p.height ∧ cell layout height column = '|' := by
  rw [cell_eq]
  rcases arcsAt_cases h height column with ⟨hnone, hblank⟩ | ⟨q, hq, rfl, hcovers, hstroke⟩
  · right
    have hlt : height < p.height := by
      refine hle.lt_of_ne fun heq => hnone p hp heq.symm ?_
      have hends := anchor_lt_of_mem h hp
      rcases hcolumn with rfl | rfl
      · exact ⟨le_refl _, hends.le⟩
      · exact ⟨hends.le, le_refl _⟩
    exact ⟨hlt, if_pos ⟨hblank, p, hp, hlt, hcolumn⟩⟩
  · left
    have hplus : arcsAt layout q.height column = '+' := by
      rw [hstroke, stroke, if_pos (isEnd_of_covers h hp hq hle hcolumn hcovers)]
    rw [hplus, if_neg fun hblank => absurd hblank.1 (by decide)]

/-! ## Between the ends -/

/-- Between the ends of a link no other arc of its height goes past. -/
theorem eq_of_covers_inside (h : layout.WellPlaced) (hp : p ∈ layout.links) (hq : q ∈ layout.links)
    (hheight : q.height = p.height) (hleft : layout.anchor p.left < column)
    (hright : column < layout.anchor p.right) (hcovers : Covers layout column q) : q = p := by
  obtain ⟨hstart, hstop⟩ := hcovers
  obtain ⟨hplt, hpright⟩ := h.ordered p hp
  obtain ⟨hqlt, hqright⟩ := h.ordered q hq
  rcases h.beside q hq p hp hheight with heq | hbefore | hbehind
  · exact heq
  · have hle := anchor_le h hbefore (hplt.trans hpright)
    omega
  · have hle := anchor_le h hbehind (hqlt.trans hqright)
    omega

/-- Between the ends of a link its row shows its arc and nothing else. -/
theorem cell_of_inside (h : layout.WellPlaced) (hp : p ∈ layout.links)
    (hleft : layout.anchor p.left < column) (hright : column < layout.anchor p.right) :
    cell layout p.height column =
      arcInside p.label.toList (layout.anchor p.left) (layout.anchor p.right) column := by
  rw [cell_eq]
  rcases arcsAt_cases h p.height column with ⟨hnone, -⟩ | ⟨q, hq, hheight, hcovers, hstroke⟩
  · exact absurd ⟨hleft.le, hright.le⟩ (hnone p hp rfl)
  · obtain rfl := eq_of_covers_inside h hp hq hheight hleft hright hcovers
    have hend : ¬IsEnd layout column q := by
      rintro (rfl | rfl)
      · exact absurd hleft (lt_irrefl _)
      · exact absurd hright (lt_irrefl _)
    rw [stroke, if_neg hend] at hstroke
    have hblank : arcsAt layout q.height column ≠ ' ' := by
      intro heq
      have hspace := isSpace_arcInside h hq (layout.anchor q.left) (layout.anchor q.right) column
      rw [← hstroke, heq] at hspace
      exact absurd hspace (by decide)
    rw [if_neg fun hstem => hblank hstem.1, hstroke]

/-! ## What a column can show -/

/-- What a column of the row for a height can show, and why. -/
inductive CellShows (layout : Layout) (height column : Nat) : Char → Prop where
  | stem {p : PlacedLink} (hp : p ∈ layout.links) (hlt : height < p.height)
      (hend : IsEnd layout column p) : CellShows layout height column '|'
  | arcEnd {p : PlacedLink} (hp : p ∈ layout.links) (hheight : p.height = height)
      (hend : IsEnd layout column p) : CellShows layout height column '+'
  | inside {c : Char} (hc : c = '-' ∨ Text.isLabelChar c = true) : CellShows layout height column c
  | blank : CellShows layout height column ' '

theorem cellShows (h : layout.WellPlaced) (height column : Nat) :
    CellShows layout height column (cell layout height column) := by
  rw [cell_eq]
  split
  next hstem =>
    obtain ⟨-, p, hp, hlt, hend⟩ := hstem
    exact .stem hp hlt hend
  next =>
    rcases arcsAt_cases h height column with ⟨-, hblank⟩ | ⟨p, hp, hheight, -, hstroke⟩
    · rw [hblank]
      exact .blank
    · rw [hstroke, stroke]
      split
      next hend => exact .arcEnd hp hheight hend
      next => exact .inside (arcInside_dash_or_label h hp _ _ _)

theorem exists_end_of_plus (h : CellShows layout height column '+') :
    ∃ p ∈ layout.links, p.height = height ∧ IsEnd layout column p := by
  cases h with
  | arcEnd hp hheight hend => exact ⟨_, hp, hheight, hend⟩
  | inside hc => exact absurd hc (by decide)

theorem exists_end_of_bar (h : CellShows layout height column '|') :
    ∃ p ∈ layout.links, height < p.height ∧ IsEnd layout column p := by
  cases h with
  | stem hp hlt hend => exact ⟨_, hp, hlt, hend⟩
  | inside hc => exact absurd hc (by decide)

theorem not_cellShows_newline : ¬CellShows layout height column '\n' := by
  intro h
  cases h with
  | inside hc => exact absurd hc (by decide)

end Diagram

end LinkParsing
