import LinkParsing.Proofs.Lexicon.Slices

/-!
# The shape of the formulas of a lexicon

Items are joined only where there are several of them, one item standing for itself.  So every
conjunction and every disjunction that has been read has at least two items
(`joinsSeveral_of_readEntries`).
-/

namespace LinkParsing

/-- Every conjunction and every disjunction in a formula joins at least two items. -/
inductive Formula.JoinsSeveral : Formula → Prop where
  | connector (c : Connector) : JoinsSeveral (.connector c)
  | empty : JoinsSeveral .empty
  | macroRef (name : String) : JoinsSeveral (.macroRef name)
  | optional {inner : Formula} (h : JoinsSeveral inner) : JoinsSeveral (.optional inner)
  | cost {inner : Formula} (h : JoinsSeveral inner) : JoinsSeveral (.cost inner)
  | and {items : List Formula} (htwo : 2 ≤ items.length)
      (hitems : ∀ f ∈ items, JoinsSeveral f) : JoinsSeveral (.and items)
  | or {items : List Formula} (htwo : 2 ≤ items.length)
      (hitems : ∀ f ∈ items, JoinsSeveral f) : JoinsSeveral (.or items)

namespace Lexicon

/-- The formulas of a phrase, which are still to be joined where there may be several. -/
def Phrase.items : Phrase → List Formula
  | .unit f => [f]
  | .conjunction units => units
  | .disjunction conjunctions => conjunctions

variable {items : List Formula} {p : Phrase} {t : List Char} {e : Entry} {es : List Entry}

theorem joinsSeveral_joinItems {join : List Formula → Formula} (hne : items ≠ [])
    (hitems : ∀ f ∈ items, f.JoinsSeveral)
    (hjoin : 2 ≤ items.length → (join items).JoinsSeveral) :
    (joinItems join items).JoinsSeveral := by
  match items with
  | [] => exact absurd rfl hne
  | [item] => exact hitems item List.mem_cons_self
  | _ :: _ :: others => exact hjoin (Nat.le_add_left 2 others.length)

theorem Spelled.items_ne_nil (h : Spelled p t) : p.items ≠ [] := by
  cases h with
  | connector | empty | bracketed | macroRef | lastUnit | furtherUnits | lastConjunction
  | furtherConjunctions => exact List.cons_ne_nil _ _

/-- Every item of a phrase joins several items wherever it joins some. -/
theorem Spelled.joinsSeveral (h : Spelled p t) : ∀ f ∈ p.items, f.JoinsSeveral := by
  induction h with
  | connector hc => exact List.forall_mem_singleton.mpr (.connector _)
  | empty hg => exact List.forall_mem_singleton.mpr .empty
  | macroRef ht => exact List.forall_mem_singleton.mpr (.macroRef _)
  | bracketed k hg h hg' ih =>
      have hinner := joinsSeveral_joinItems h.items_ne_nil ih fun htwo => .or htwo ih
      refine List.forall_mem_singleton.mpr ?_
      cases k with
      | group => exact hinner
      | optional => exact .optional hinner
      | cost => exact .cost hinner
  | lastUnit h ih => exact ih
  | furtherUnits h hg hg' hrest ih ihrest =>
      exact List.forall_mem_cons.mpr ⟨List.forall_mem_singleton.mp ih, ihrest⟩
  | lastConjunction h ih =>
      exact List.forall_mem_singleton.mpr
        (joinsSeveral_joinItems h.items_ne_nil ih fun htwo => .and htwo ih)
  | furtherConjunctions h hg hg' hrest ih ihrest =>
      exact List.forall_mem_cons.mpr
        ⟨joinsSeveral_joinItems h.items_ne_nil ih fun htwo => .and htwo ih, ihrest⟩

theorem FormulaText.joinsSeveral {f : Formula} (h : FormulaText f t) : f.JoinsSeveral := by
  obtain ⟨conjunctions, rfl, hspelled⟩ := h
  have hitems := hspelled.joinsSeveral
  exact joinsSeveral_joinItems hspelled.items_ne_nil hitems fun htwo => .or htwo hitems

/-- The formulas of a lexicon join several items wherever they join some. -/
theorem joinsSeveral_of_readEntries {text : String} (h : readEntries text = .ok es) (he : e ∈ es) :
    e.formula.JoinsSeveral := by
  have hentries : EntriesText 0 es text.toList := entriesOfChars_eq_ok_iff.mp h
  obtain ⟨before, t, after, -, hentry⟩ := hentries.exists_place he
  cases hentry with
  | mk hwords hg hg' hformula hg'' => exact hformula.joinsSeveral

end Lexicon

end LinkParsing
