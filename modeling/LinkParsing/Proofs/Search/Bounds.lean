import LinkParsing.Proofs.Search.Rooting

/-!
# The bounds of a region

A region lies between two words of the sentence, or between a word and the end of the sentence, and
each of its two cursors is at a connector of its word.  This holds of the regions of the whole
sentence (`inBounds_of_mem_roots`), and it holds of both parts of an alternative if it holds of the
region (`Region.InBounds.parts`), also where a connector that may link again keeps its cursor in
place.
-/

namespace LinkParsing

namespace Sentence

open Search

/-- The connector of this direction at a cursor. -/
def connector? (s : Sentence) (d : Direction) (word : Nat) (c : Cursor) : Option Connector :=
  (s.connectors d word c.candidate)[c.position]?

/-- The cursor, if there is one, is at a connector of this direction of the word. -/
def Points (s : Sentence) (d : Direction) (word : Nat) (demand : Option Cursor) : Prop :=
  ∀ c ∈ demand, (s.connector? d word c).isSome = true

instance (s : Sentence) (d : Direction) (word : Nat) (demand : Option Cursor) :
    Decidable (s.Points d word demand) :=
  match demand with
  | none => .isTrue nofun
  | some c => decidable_of_iff ((s.connector? d word c).isSome = true) (by simp [Points])

end Sentence

namespace Search

/-- A region lies within the sentence, and its cursors are at connectors of its words.  At the end
of the sentence there is no cursor. -/
structure Region.InBounds (s : Sentence) (r : Region) : Prop where
  leftWord_lt : r.leftWord < r.rightWord
  rightWord_le : r.rightWord ≤ s.size
  fromLeft : s.Points .right r.leftWord r.fromLeft
  fromRight : s.Points .left r.rightWord r.fromRight
  at_end : r.rightWord = s.size → r.fromRight = none

instance (s : Sentence) (r : Region) : Decidable (r.InBounds s) :=
  decidable_of_iff (r.leftWord < r.rightWord ∧ r.rightWord ≤ s.size ∧
      s.Points .right r.leftWord r.fromLeft ∧ s.Points .left r.rightWord r.fromRight ∧
      (r.rightWord = s.size → r.fromRight = none))
    ⟨fun ⟨h₁, h₂, h₃, h₄, h₅⟩ => ⟨h₁, h₂, h₃, h₄, h₅⟩,
      fun h => ⟨h.leftWord_lt, h.rightWord_le, h.fromLeft, h.fromRight, h.at_end⟩⟩

variable {s : Sentence} {r : Region} {a : Alternative} {d : Direction} {u v w c nulls : Nat}
  {cursor : Cursor} {demand : Option Cursor} {l : LinkRef}

/-! ## Cursors -/

theorem isSome_connector?_iff : (s.connector? d w cursor).isSome = true ↔
    cursor.position < (s.connectors d w cursor.candidate).length := by
  rw [Sentence.connector?, isSome_getElem?]

/-- Behind the last word there are no connectors. -/
theorem eq_none_of_points (h : s.Points d w demand) (hw : s.size ≤ w) : demand = none := by
  cases demand with
  | none => rfl
  | some cursor =>
      have hempty : s.connectors d w cursor.candidate = [] := by
        cases d <;> simp [Sentence.connectors, Sentence.rightConnectors, Sentence.leftConnectors,
          Sentence.candidate?, hw]
      have hlt := isSome_connector?_iff.mp (h cursor rfl)
      rw [hempty] at hlt
      exact absurd hlt (Nat.not_lt_zero _)

theorem points_first : s.Points d w (s.first d w c) := by
  intro cursor hcursor
  unfold Sentence.first Sentence.firstOf at hcursor
  split at hcursor
  next => cases hcursor
  next hne =>
    cases hcursor
    exact isSome_connector?_iff.mpr (List.length_pos_iff.mpr (mt List.isEmpty_iff.mpr hne))

theorem points_next : s.Points d w (s.next d w cursor) := by
  intro c hc
  unfold Sentence.next Sentence.nextOf at hc
  split at hc
  next hlt =>
    cases hc
    exact isSome_connector?_iff.mpr hlt
  next => cases hc

/-- Both connectors of a link are there. -/
theorem isSome_connector?_of_matches (h : s.Matches l) (d : Direction) :
    (s.connector? d (l.word d) (l.cursor d)).isSome = true := by
  obtain ⟨a, b, ha, hb, -⟩ := h
  cases d with
  | right => exact Option.isSome_of_eq_some ha
  | left => exact Option.isSome_of_eq_some hb

/-- A word that goes on behind a link goes on at one of its connectors. -/
theorem Continues.points (h : Continues s d l demand) (hmatches : s.Matches l) :
    s.Points d (l.word d) demand := by
  rcases h with rfl | ⟨-, rfl⟩
  · exact points_next
  · intro cursor hcursor
    cases hcursor
    exact isSome_connector?_of_matches hmatches d

/-- Two words whose cursors are at connectors still have them at connectors when they have met. -/
theorem Meets.points {link : Option LinkRef} {a b e f : Option Cursor}
    (h : Meets s u a v b link e f) (hleft : s.Points .right u a) (hright : s.Points .left v b) :
    s.Points .right u e ∧ s.Points .left v f := by
  cases h with
  | apart => exact ⟨hleft, hright⟩
  | linked hlink hl hr =>
      obtain ⟨-, -, rfl, rfl, hmatches⟩ := matching_eq_some.mp hlink
      exact ⟨hl.points hmatches, hr.points hmatches⟩

/-! ## Regions -/

theorem inBounds_of_points (hlt : r.leftWord < r.rightWord) (hle : r.rightWord ≤ s.size)
    (hleft : s.Points .right r.leftWord r.fromLeft)
    (hright : s.Points .left r.rightWord r.fromRight) : r.InBounds s :=
  ⟨hlt, hle, hleft, hright, fun hend => eq_none_of_points hright hend.ge⟩

theorem Region.InBounds.width_pos (h : r.InBounds s) : 0 < r.width :=
  Nat.sub_pos_of_lt h.leftWord_lt

theorem Region.InBounds.width_le (h : r.InBounds s) : r.width ≤ s.size :=
  (Nat.sub_le _ _).trans h.rightWord_le

/-- The regions of the whole sentence are in bounds. -/
theorem inBounds_of_mem_roots (hs : 0 < s.size) {root : Nat × Region} (h : root ∈ s.roots nulls) :
    root.2.InBounds s := by
  unfold Sentence.roots at h
  obtain ⟨c, -, rfl⟩ := List.mem_map.mp h
  exact inBounds_of_points hs le_rfl points_first nofun

/-- Both parts of an alternative are in bounds. -/
theorem Region.InBounds.parts (h : r.InBounds s) (ha : a ∈ s.alternatives r) :
    a.left.InBounds s ∧ a.right.InBounds s := by
  obtain ⟨left, right, hsplit⟩ := mem_alternatives.mp ha
  have hlow := hsplit.leftWord_lt
  have hhigh := hsplit.lt_rightWord
  have hle := h.rightWord_le
  obtain ⟨hl, hl'⟩ := hsplit.left_meets.points h.fromLeft points_first
  obtain ⟨hr, hr'⟩ := hsplit.right_meets.points points_first h.fromRight
  constructor
  · apply inBounds_of_points
    · rw [hsplit.left_leftWord, hsplit.left_rightWord]
      exact hlow
    · rw [hsplit.left_rightWord]
      omega
    · rw [hsplit.left_leftWord]
      exact hl
    · rw [hsplit.left_rightWord]
      exact hl'
  · apply inBounds_of_points
    · rw [hsplit.right_leftWord, hsplit.right_rightWord]
      exact hhigh
    · rw [hsplit.right_rightWord]
      exact hle
    · rw [hsplit.right_leftWord]
      exact hr
    · rw [hsplit.right_rightWord]
      exact hr'

end Search

end LinkParsing
