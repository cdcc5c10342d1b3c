import LinkParsing.Disjunct
import LinkParsing.Proofs.Connector.Spelling
import Mathlib.Data.List.Basic

/-!
# The written form of disjuncts

A well-formed disjunct lists well-formed connectors, each on the side that it points to.  It can be
read from its text: the connectors are what stands between blanks, and their directions tell the
two sides apart (`Disjunct.eq_of_toText_eq`).
-/

namespace LinkParsing

namespace Connector

variable {c : Connector}

theorem ofChars?_toChars (h : c.WellFormed) : ofChars? c.toChars = some c :=
  ofChars?_eq_some_iff.mpr ⟨h, rfl⟩

theorem blank_notMem_toChars (h : c.WellFormed) : ' ' ∉ c.toChars := by
  obtain ⟨-, hhead, hsubscript⟩ := h
  intro hmem
  rw [toChars, nameChars, List.mem_append, List.mem_append, List.mem_append,
    List.mem_singleton] at hmem
  rcases hmem with (hmulti | hhead' | hsubscript') | hsymbol
  · cases hm : c.multi <;> simp [hm] at hmulti
  · exact absurd (List.all_eq_true.mp hhead ' ' hhead') (by decide)
  · exact absurd (List.all_eq_true.mp hsubscript ' ' hsubscript') (by decide)
  · cases hd : c.direction <;> rw [hd] at hsymbol <;> exact absurd hsymbol (by decide)

end Connector

namespace Disjunct

/-- The connectors can be written, and they stand on the side that they point to. -/
def WellFormed (d : Disjunct) : Prop :=
  (∀ c ∈ d.left, c.WellFormed ∧ c.direction = .left) ∧
    ∀ c ∈ d.right, c.WellFormed ∧ c.direction = .right

instance (d : Disjunct) : Decidable d.WellFormed := by
  unfold WellFormed
  infer_instance

variable {d d' : Disjunct}

theorem WellFormed.of_mem (h : d.WellFormed) {c : Connector} (hc : c ∈ d.inSentenceOrder) :
    c.WellFormed := by
  rw [inSentenceOrder, List.mem_append, List.mem_reverse] at hc
  rcases hc with hleft | hright
  · exact (h.1 c hleft).1
  · exact (h.2 c hright).1

/-- The directions of the connectors tell the two sides apart. -/
theorem WellFormed.sides_eq (h : d.WellFormed) :
    d.inSentenceOrder.filter (·.direction == .left) = d.left ∧
      (d.inSentenceOrder.filter (·.direction == .right)).reverse = d.right := by
  have hleft : d.left.filter (·.direction == .left) = d.left :=
    List.filter_eq_self.mpr fun c hc => by rw [(h.1 c hc).2]; rfl
  have hleft' : d.left.filter (·.direction == .right) = [] :=
    List.filter_eq_nil_iff.mpr fun c hc => by rw [(h.1 c hc).2]; decide
  have hright : d.right.filter (·.direction == .right) = d.right :=
    List.filter_eq_self.mpr fun c hc => by rw [(h.2 c hc).2]; rfl
  have hright' : d.right.filter (·.direction == .left) = [] :=
    List.filter_eq_nil_iff.mpr fun c hc => by rw [(h.2 c hc).2]; decide
  rw [inSentenceOrder, List.filter_append, List.filter_append, List.filter_reverse,
    List.filter_reverse, hleft, hleft', hright, hright']
  simp

/-- Where there are connectors, their texts are what stands between the blanks of the text. -/
theorem WellFormed.splitOn_toText (h : d.WellFormed) (hne : d.inSentenceOrder ≠ []) :
    d.toText.toList.splitOn ' ' = d.inSentenceOrder.map Connector.toChars := by
  have hchars : (d.inSentenceOrder.map Connector.toText).map String.toList =
      d.inSentenceOrder.map Connector.toChars := by
    rw [List.map_map]
    exact List.map_congr_left fun c _ => String.toList_ofList
  unfold toText
  split
  next hempty => exact absurd hempty hne
  next =>
    rw [String.toList_intercalate, hchars]
    apply List.splitOn_intercalate
    · intro text htext
      obtain ⟨c, hc, rfl⟩ := List.mem_map.mp htext
      exact Connector.blank_notMem_toChars (h.of_mem hc)
    · exact mt List.map_eq_nil_iff.mp hne

/-- The connectors are what can be read as such between the blanks of the text. -/
theorem WellFormed.filterMap_ofChars? (h : d.WellFormed) :
    (d.toText.toList.splitOn ' ').filterMap Connector.ofChars? = d.inSentenceOrder := by
  by_cases hne : d.inSentenceOrder = []
  · rw [toText, hne]
    decide
  · rw [h.splitOn_toText hne, List.filterMap_map]
    calc d.inSentenceOrder.filterMap (Connector.ofChars? ∘ Connector.toChars)
        = d.inSentenceOrder.filterMap some :=
          List.filterMap_congr fun c hc => Connector.ofChars?_toChars (h.of_mem hc)
      _ = d.inSentenceOrder := List.filterMap_some

/-- Well-formed disjuncts with the same text have the same connectors. -/
theorem eq_of_toText_eq (h : d.WellFormed) (h' : d'.WellFormed) (htext : d.toText = d'.toText) :
    d.left = d'.left ∧ d.right = d'.right := by
  have horder : d.inSentenceOrder = d'.inSentenceOrder := by
    rw [← h.filterMap_ofChars?, ← h'.filterMap_ofChars?, htext]
  rw [← h.sides_eq.1, ← h.sides_eq.2, ← h'.sides_eq.1, ← h'.sides_eq.2, horder]
  exact ⟨rfl, rfl⟩

end Disjunct

end LinkParsing
