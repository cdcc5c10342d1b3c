import LinkParsing.Connector

/-!
# Formulas over connectors

The lexicon describes how a word connects by a formula: connectors joined by
`&` and `or`, with braces around what may be left out and brackets around what
costs one unit more.  A name in angle brackets stands for another formula of the
lexicon.
-/

namespace LinkParsing

/-- How a word may connect. -/
inductive Formula where
  | connector (c : Connector)
  /-- All of the items, in sentence order. -/
  | and (items : List Formula)
  /-- Any one of the items. -/
  | or (items : List Formula)
  /-- The inner formula or nothing. -/
  | optional (inner : Formula)
  /-- The inner formula, one unit dearer. -/
  | cost (inner : Formula)
  /-- Nothing at all, written `()`. -/
  | empty
  /-- The formula defined under a name such as `<noun>`. -/
  | macroRef (name : String)
  deriving Repr, Inhabited

namespace Formula

mutual

/-- No name of another formula occurs. -/
def macroFree : Formula → Bool
  | .connector _ => true
  | .and items => macroFreeAll items
  | .or items => macroFreeAll items
  | .optional inner => inner.macroFree
  | .cost inner => inner.macroFree
  | .empty => true
  | .macroRef _ => false

/-- No name of another formula occurs in any of the items. -/
def macroFreeAll : List Formula → Bool
  | [] => true
  | item :: items => item.macroFree && macroFreeAll items

end

theorem macroFreeAll_iff {items : List Formula} :
    macroFreeAll items = true ↔ ∀ f ∈ items, f.macroFree = true := by
  induction items with
  | nil => simp [macroFreeAll]
  | cons item items ih => simp [macroFreeAll, ih]

/-- What holds of a formula if it holds of all its parts holds of every formula.  The recursor of
the type speaks of lists of formulas too, which no proof needs. -/
@[elab_as_elim, induction_eliminator]
theorem partsInduction {motive : Formula → Prop} (connector : ∀ c, motive (.connector c))
    (and : ∀ items, (∀ f ∈ items, motive f) → motive (.and items))
    (or : ∀ items, (∀ f ∈ items, motive f) → motive (.or items))
    (optional : ∀ inner, motive inner → motive (.optional inner))
    (cost : ∀ inner, motive inner → motive (.cost inner)) (empty : motive .empty)
    (macroRef : ∀ name, motive (.macroRef name)) (f : Formula) : motive f :=
  @Formula.rec motive (fun items => ∀ f ∈ items, motive f) connector and or optional cost empty
    macroRef nofun (fun _ _ hitem hitems => List.forall_mem_cons.mpr ⟨hitem, hitems⟩) f

end Formula

end LinkParsing
