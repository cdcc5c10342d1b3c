import LinkParsing.Proofs.Layout.Shown
import Mathlib.Data.List.Permutation

/-!
# Placement of words

Words stand as far to the left as a blank between them and the labels of the links that are shown
allow: what a word has to keep clear of are words before it and the anchors of words before it, so
from word to word no placement with enough room starts further left (`start_le_of_spaced`).  As
links then go from left to right in columns too, what a diagram looks up in its rows is there
(`placement_tightest`).
-/

namespace LinkParsing

/-- The text of a word and the number of columns that it takes, wherever it is placed. -/
def PlacedWord.form (w : PlacedWord) : String × Nat := (w.text, w.width)

namespace Layout

variable {links : List PlacedLink} {placed words : List PlacedWord} {texts : List String}
  {arcs : List Arc} {v w : PlacedWord} {i : Nat}

/-- There is enough room: a blank column between words, and between the ends of every link the
columns of its label and four more. -/
structure Spaced (arcs : List Arc) (words : List PlacedWord) : Prop where
  blank : ∀ (i : Nat) (w v : PlacedWord), words[i]? = some w → words[i + 1]? = some v →
    w.stop < v.start
  room : ∀ a ∈ arcs, anchorOf words a.left + Text.displayWidth a.label.toList + labelPadding ≤
    anchorOf words a.right

/-! ## Enough room -/

theorem map_form_placeWords (links : List PlacedLink) (placed : List PlacedWord)
    (texts : List String) : (placeWords links placed texts).map PlacedWord.form =
      placed.map PlacedWord.form ++ texts.map fun text => (text, columns text) := by
  induction texts generalizing placed with
  | nil => rw [placeWords, List.map_nil, List.append_nil]
  | cons text texts ih =>
      rw [placeWords, ih, List.map_append, List.map_singleton, List.map_cons, List.append_assoc]
      rfl

/-- A layout has the texts that are shown. -/
theorem map_text_make (linkage : Linkage) (displayWalls : Bool) :
    (make linkage displayWalls).words.map (·.text) = shownTexts displayWalls linkage :=
  calc (make linkage displayWalls).words.map (·.text)
      = ((make linkage displayWalls).words.map PlacedWord.form).map Prod.fst := by
        rw [List.map_map]
        rfl
    _ = ((shownTexts displayWalls linkage).map fun text => (text, columns text)).map Prod.fst :=
        congrArg (List.map Prod.fst) (map_form_placeWords _ [] _)
    _ = shownTexts displayWalls linkage := by
        rw [List.map_map]
        exact List.map_id _

/-- Words are placed with enough room. -/
theorem spaced_placeWords (hends : ∀ l ∈ links, l.left < l.right ∧
    l.right < (placeWords links [] texts).length) :
    Spaced (links.map (·.toArc)) (placeWords links [] texts) where
  blank := fun i w v => stop_lt_start
  room := by
    intro a ha
    obtain ⟨l, hl, rfl⟩ := List.mem_map.mp ha
    obtain ⟨hlt, hright⟩ := hends l hl
    exact anchorOf_add_le hl hlt hright

/-! ## Not more room than needed -/

/-- Words of the same forms stand at the same places. -/
theorem exists_of_forms (hforms : words.map PlacedWord.form = placed.map PlacedWord.form)
    (hw : words[i]? = some w) : ∃ v, placed[i]? = some v ∧ w.width = v.width := by
  have hi : (placed.map PlacedWord.form)[i]? = some w.form := by
    rw [← hforms, List.getElem?_map, hw, Option.map_some]
  rw [List.getElem?_map, Option.map_eq_some_iff] at hi
  obtain ⟨v, hv, hform⟩ := hi
  exact ⟨v, hv, congrArg Prod.snd hform.symm⟩

/-- The blank behind a word that is no further right is no further right. -/
theorem nextFree_le (hwidth : w.width = v.width) (hstart : w.start ≤ v.start) {n : Nat}
    (hblank : v.stop < n) : w.stop + 1 ≤ n := by
  simp only [PlacedWord.stop] at hblank ⊢
  omega

/-- Behind an anchor that is no further right a label needs no further columns. -/
theorem room_le {label offset start stop : Nat} (hwidth : w.width = v.width)
    (hstart : w.start ≤ v.start) (hroom : v.anchor + label ≤ stop) (hstop : stop = start + offset) :
    w.anchor + label - offset ≤ start := by
  simp only [PlacedWord.anchor, hwidth] at hroom ⊢
  omega

/-- No placement of the same words with enough room starts a word further left. -/
theorem start_le_of_spaced (hends : ∀ l ∈ links, l.left < l.right)
    (hforms : (placeWords links [] texts).map PlacedWord.form = words.map PlacedWord.form)
    (hspaced : Spaced (links.map (·.toArc)) words)
    (hw : (placeWords links [] texts)[i]? = some w) (hv : words[i]? = some v) :
    w.start ≤ v.start := by
  induction i using Nat.strong_induction_on generalizing w v with
  | _ i ih =>
      have hearlier {k : Nat} (hk : k < i) : ∃ w v, (placeWords links [] texts)[k]? = some w ∧
          words[k]? = some v ∧ w.width = v.width ∧ w.start ≤ v.start := by
        obtain ⟨hi, -⟩ := List.getElem?_eq_some_iff.mp hw
        have hw := List.getElem?_eq_getElem (hk.trans hi)
        obtain ⟨v, hv, hwidth⟩ := exists_of_forms hforms hw
        exact ⟨_, v, hw, hv, hwidth, ih k hk hw hv⟩
      have hlength : ((placeWords links [] texts).take i).length = i := by
        obtain ⟨hi, -⟩ := List.getElem?_eq_some_iff.mp hw
        rw [List.length_take]
        omega
      have hwidth : w.width = v.width := by
        obtain ⟨v', hv', hwidth⟩ := exists_of_forms hforms hw
        rw [hv] at hv'
        cases hv'
        exact hwidth
      obtain ⟨text, rfl⟩ := getElem?_placeWords hw (Nat.zero_le i)
      refine foldl_max_le_iff.mpr ⟨?_, ?_⟩
      · -- The word before it does not stop further right.
        cases i with
        | zero => exact Nat.zero_le _
        | succ k =>
            obtain ⟨before, other, hbefore, hother, hsame, hle⟩ := hearlier (Nat.lt_succ_self k)
            rw [nextFree_take hbefore]
            exact nextFree_le hsame hle (hspaced.blank k other v hother hv)
      · -- Nor is the other end of a link further right.
        intro start hstart
        obtain ⟨l, hl, rfl⟩ := List.mem_map.mp hstart
        obtain ⟨hl, hright⟩ := List.mem_filter.mp hl
        rw [beq_iff_eq, hlength] at hright
        have hlt : l.left < i := hright ▸ hends l hl
        obtain ⟨before, other, hbefore, hother, hsame, hle⟩ := hearlier hlt
        have hroom := hspaced.room l.toArc (List.mem_map_of_mem hl)
        rw [hright, anchorOf_eq hother, anchorOf_eq hv, Nat.add_assoc] at hroom
        rw [startBehind, anchorOf_take hlt, anchorOf_eq hbefore, Nat.add_assoc]
        refine room_le hsame hle hroom ?_
        rw [PlacedWord.anchor, ← hwidth]
        rfl

/-! ## The whole layout -/

/-- Every text has a word that takes its columns, with the columns as far to the left as enough
room for words and arcs allows. -/
structure TightlyPlaced (texts : List String) (arcs : List Arc) (words : List PlacedWord) :
    Prop where
  forms : words.map PlacedWord.form = texts.map fun text => (text, columns text)
  /-- Links meet a word in one of its columns. -/
  anchored : ∀ w ∈ words, w.start ≤ w.anchor ∧ w.anchor < w.stop
  spaced : Spaced arcs words
  least : ∀ others : List PlacedWord, words.map PlacedWord.form = others.map PlacedWord.form →
    Spaced arcs others → ∀ (i : Nat) (w v : PlacedWord), words[i]? = some w →
      others[i]? = some v → w.start ≤ v.start

/-- What a diagram of a layout looks up is there, and what it subtracts is not too much: its rows
have the columns up to the width of the layout, that one included. -/
structure WithinRows (layout : Layout) : Prop where
  ends : ∀ p ∈ layout.links, p.left < p.right ∧ p.right < layout.words.length
  increasing : ∀ i j, i < j → j < layout.words.length → layout.anchor i < layout.anchor j
  column : ∀ i < layout.words.length, layout.anchor i < layout.width + 1
  /-- There is a column between the ends of a link. -/
  between : ∀ p ∈ layout.links, layout.anchor p.left + 1 ≤ layout.anchor p.right
  /-- A label that is written in the middle between the ends of its link ends before the link. -/
  label : ∀ p ∈ layout.links,
    p.label.toList.length ≤ layout.anchor p.right - layout.anchor p.left - 1 →
      layout.anchor p.left + 1 +
        (layout.anchor p.right - layout.anchor p.left - 1 - p.label.toList.length) / 2 +
          p.label.toList.length ≤ layout.anchor p.right

variable {linkage : Linkage} {displayWalls : Bool}

theorem withinRows_make (hordered : ∀ l ∈ linkage.links, l.left < l.right) (displayWalls : Bool) :
    WithinRows (make linkage displayWalls) := by
  have hends (p : PlacedLink) (hp : p ∈ (make linkage displayWalls).links) :=
    ends_of_mem_make hordered hp
  have hbetween (p : PlacedLink) (hp : p ∈ (make linkage displayWalls).links) :
      (make linkage displayWalls).anchor p.left < (make linkage displayWalls).anchor p.right :=
    anchorOf_lt_anchorOf (hends p hp).1 (hends p hp).2
  constructor
  case ends => exact hends
  case increasing => exact fun i j => anchorOf_lt_anchorOf
  case column => exact fun i hi => Nat.lt_succ_of_lt (anchor_lt_width_make hi)
  case between => exact hbetween
  case label =>
    intro p hp hfits
    have hlt := hbetween p hp
    omega

/-- Whatever linkage is laid out, with its walls or without, its words stand as far to the left as
their links allow, and a diagram draws the links within its rows. -/
theorem placement_tightest (linkage : Linkage) (displayWalls : Bool)
    (hordered : ∀ l ∈ linkage.links, l.left < l.right) :
    TightlyPlaced (shownTexts displayWalls linkage) (shownArcs displayWalls linkage)
        (make linkage displayWalls).words ∧
      WithinRows (make linkage displayWalls) := by
  refine ⟨?_, withinRows_make hordered displayWalls⟩
  have hperm := map_toArc_make_perm linkage displayWalls
  have hends (l : PlacedLink) (hl : l ∈ (make linkage displayWalls).links) :=
    ends_of_mem_make hordered hl
  constructor
  case forms => exact map_form_placeWords _ [] _
  case anchored =>
    intro w hw
    obtain ⟨i, hw⟩ := List.mem_iff_getElem?.mp hw
    exact ⟨Nat.le_add_right _ _, anchor_lt_stop hw⟩
  case spaced =>
    have hspaced := spaced_placeWords hends
    exact ⟨hspaced.blank, fun a ha => hspaced.room a (hperm.mem_iff.mpr ha)⟩
  case least =>
    intro others hforms hspaced i w v hw hv
    refine start_le_of_spaced (fun l hl => (hends l hl).1) hforms ?_ hw hv
    exact ⟨hspaced.blank, fun a ha => hspaced.room a (hperm.mem_iff.mp ha)⟩

/-- Three words, the first one of wide characters, and labels that push the others away. -/
def spread : Linkage :=
  ⟨[⟨"日本", false, false, none, 0⟩, ⟨"b", false, false, none, 0⟩, ⟨"c", false, false, none, 0⟩],
    [⟨0, 1, "LONG", "LONG+", "LONG-"⟩, ⟨0, 2, "S", "S+", "S-"⟩]⟩

theorem placement_tightest_spread : (∀ l ∈ spread.links, l.left < l.right) ∧
    (make spread true).words = [⟨"日本", 0, 4⟩, ⟨"b", 9, 1⟩, ⟨"c", 11, 1⟩] ∧
    TightlyPlaced (shownTexts true spread) (shownArcs true spread) (make spread true).words ∧
    WithinRows (make spread true) := by
  have hordered : ∀ l ∈ spread.links, l.left < l.right := by decide
  have hlinks : placeLinks (shownArcs true spread) =
      [⟨⟨0, 1, "LONG"⟩, 1⟩, ⟨⟨0, 2, "S"⟩, 2⟩] := by cbv
  refine ⟨hordered, ?_, placement_tightest spread true hordered⟩
  rw [make, hlinks]
  decide +kernel

end Layout

end LinkParsing
