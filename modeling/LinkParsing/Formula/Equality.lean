import LinkParsing.Formula

/-!
# Formulas can be compared

So what has been read from a text can be compared with what was expected.
-/

namespace LinkParsing.Formula

mutual

/-- Whether two formulas are the same. -/
def same : Formula → Formula → Bool
  | .connector c, .connector c' => c == c'
  | .and items, .and items' => sameAll items items'
  | .or items, .or items' => sameAll items items'
  | .optional inner, .optional inner' => inner.same inner'
  | .cost inner, .cost inner' => inner.same inner'
  | .empty, .empty => true
  | .macroRef name, .macroRef name' => name == name'
  | _, _ => false

/-- Whether two lists of items are the same. -/
def sameAll : List Formula → List Formula → Bool
  | [], [] => true
  | item :: items, item' :: items' => item.same item' && sameAll items items'
  | _, _ => false

end

private theorem sameAll_iff {items items' : List Formula}
    (h : ∀ f ∈ items, ∀ g, f.same g = true ↔ f = g) :
    sameAll items items' = true ↔ items = items' := by
  induction items generalizing items' with
  | nil => cases items' <;> simp [sameAll]
  | cons item items ih =>
      obtain ⟨hitem, hitems⟩ := List.forall_mem_cons.mp h
      cases items' with
      | nil => simp [sameAll]
      | cons item' items' => simp [sameAll, hitem, ih hitems]

theorem same_iff {f g : Formula} : f.same g = true ↔ f = g := by
  induction f generalizing g with
  | connector c => cases g <;> simp [same]
  | empty => cases g <;> simp [same]
  | optional inner ih => cases g <;> simp [same, ih]
  | cost inner ih => cases g <;> simp [same, ih]
  | and items ih => cases g <;> simp [same, sameAll_iff fun f hf g => ih f hf]
  | or items ih => cases g <;> simp [same, sameAll_iff fun f hf g => ih f hf]
  | macroRef name => cases g <;> simp [same]

instance : DecidableEq Formula := fun f g => decidable_of_iff (f.same g = true) same_iff

end LinkParsing.Formula
