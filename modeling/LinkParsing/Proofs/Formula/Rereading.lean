import LinkParsing.Proofs.Connector.Listing
import LinkParsing.Proofs.Formula.Meaning
import Mathlib.Data.List.Nodup

/-!
# Disjuncts read from their texts

The text of a disjunct lists its connectors in sentence order, from farthest left to farthest
right, while a disjunct has the right ones the other way round.  Expansion reverses them too: the
conjunction of the connectors in the order of the text expands to the disjunct that was written,
whatever the order in which the formula had them (`expand_ofDisjunctText`).
-/

namespace LinkParsing

namespace Formula

mutual

/-- The connectors in a formula. -/
def connectors : Formula → List Connector
  | .connector c => [c]
  | .and items => connectorsOfAll items
  | .or items => connectorsOfAll items
  | .optional inner => inner.connectors
  | .cost inner => inner.connectors
  | .empty => []
  | .macroRef _ => []

/-- The connectors in any of the items. -/
def connectorsOfAll : List Formula → List Connector
  | [] => []
  | item :: items => item.connectors ++ connectorsOfAll items

end

/-- All of these connectors, one after the other. -/
def allOf : List Connector → Formula
  | [] => .empty
  | cs => .and (cs.map .connector)

/-- The formula that the text of a disjunct stands for: nothing if it is `()`, else all of the
connectors between its blanks. -/
def ofDisjunctText? (text : String) : Option Formula :=
  if text = "()" then some .empty
  else
    (((text.toList.splitOn ' ').map String.ofList).mapM Connector.parse?).map fun cs =>
      .and (cs.map .connector)

end Formula

namespace Disjunct

variable {d : Disjunct}

theorem mapM_parse? {cs : List Connector} (h : ∀ c ∈ cs, c.WellFormed) :
    ((cs.map Connector.toChars).map String.ofList).mapM Connector.parse? = some cs := by
  induction cs with
  | nil => rfl
  | cons c cs ih =>
      obtain ⟨hc, hcs⟩ := List.forall_mem_cons.mp h
      have hread : Connector.parse? (String.ofList c.toChars) = some c := by
        rw [Connector.parse?, String.toList_ofList]
        exact Connector.ofChars?_toChars hc
      rw [List.map_cons, List.map_cons, List.mapM_cons, hread, ih hcs]
      rfl

/-- Only a disjunct without connectors is written `()`. -/
theorem WellFormed.toText_ne (h : d.WellFormed) (hne : d.inSentenceOrder ≠ []) :
    d.toText ≠ "()" := by
  intro htext
  have hread := h.filterMap_ofChars?
  rw [htext] at hread
  exact hne (hread.symm.trans (by decide))

/-- The text of a disjunct stands for all of its connectors in sentence order. -/
theorem WellFormed.ofDisjunctText? (h : d.WellFormed) :
    Formula.ofDisjunctText? d.toText = some (.allOf d.inSentenceOrder) := by
  cases horder : d.inSentenceOrder with
  | nil =>
      have htext : d.toText = "()" := by rw [toText, horder]
      rw [Formula.ofDisjunctText?, if_pos htext]
      rfl
  | cons c cs =>
      have hne : d.inSentenceOrder ≠ [] := horder ▸ List.cons_ne_nil c cs
      rw [Formula.ofDisjunctText?, if_neg (h.toText_ne hne), h.splitOn_toText hne,
        mapM_parse? fun c hc => h.of_mem hc, horder]
      rfl

end Disjunct

namespace Formula

variable {f : Formula} {items : List Formula} {ds : List Disjunct}

/-! ## Expanding connectors in a row -/

/-- Connectors behind one clause become one clause. -/
theorem clausesOfAll_connectors (done cs : List Connector) :
    clausesOfAll [⟨done, 0⟩] (cs.map .connector) = .ok [⟨done ++ cs, 0⟩] := by
  induction cs generalizing done with
  | nil =>
      rw [List.append_nil]
      rfl
  | cons c cs ih =>
      calc clausesOfAll [⟨done, 0⟩] ((c :: cs).map .connector)
          = clausesOfAll [⟨done ++ [c], 0⟩] (cs.map .connector) := rfl
        _ = .ok [⟨done ++ [c] ++ cs, 0⟩] := ih (done ++ [c])
        _ = .ok [⟨done ++ c :: cs, 0⟩] := by rw [List.append_assoc, List.singleton_append]

/-- Connectors in a row expand to one disjunct, which sorts them by their directions. -/
theorem expand_allOf (cs : List Connector) :
    (allOf cs).expand = .ok [(⟨cs, 0⟩ : Clause).toDisjunct] := by
  have hclauses : (allOf cs).clauses = .ok [⟨cs, 0⟩] := by
    cases cs with
    | nil => rfl
    | cons c cs =>
        exact congrArg (· >>= withinLimit) (clausesOfAll_connectors [] (c :: cs))
  rw [expand, hclauses]
  rfl

/-! ## Where connectors come from -/

/-- The connectors of a clause that a formula means are connectors of the formula. -/
def ClausesWithin (f : Formula) : Prop :=
  ∀ a ∈ f.exactClauses, a.connectors ⊆ f.connectors

private theorem mem_exactClausesOfAny {a : ExactClause} (hitems : ∀ f ∈ items, f.ClausesWithin)
    (ha : a ∈ exactClausesOfAny items) : a.connectors ⊆ connectorsOfAll items := by
  induction items with
  | nil => exact absurd ha List.not_mem_nil
  | cons item items ih =>
      obtain ⟨hitem, hitems⟩ := List.forall_mem_cons.mp hitems
      rw [exactClausesOfAny] at ha
      rw [connectorsOfAll]
      rcases List.mem_append.mp ha with ha | ha
      · exact List.subset_append_of_subset_left _ (hitem a ha)
      · exact List.subset_append_of_subset_right _ (ih hitems ha)

private theorem mem_exactClausesOfAll {a : ExactClause} (hitems : ∀ f ∈ items, f.ClausesWithin)
    (ha : a ∈ exactClausesOfAll items) : a.connectors ⊆ connectorsOfAll items := by
  induction items generalizing a with
  | nil =>
      obtain rfl := List.mem_singleton.mp ha
      exact List.nil_subset _
  | cons item items ih =>
      obtain ⟨hitem, hitems⟩ := List.forall_mem_cons.mp hitems
      rw [exactClausesOfAll] at ha
      obtain ⟨b, hb, c, hc, rfl⟩ := ExactClause.mem_products_iff.mp ha
      rw [connectorsOfAll]
      exact List.append_subset.mpr ⟨List.subset_append_of_subset_left _ (hitem b hb),
        List.subset_append_of_subset_right _ (ih hitems hc)⟩

theorem clausesWithin (f : Formula) : f.ClausesWithin := by
  induction f with
  | connector c =>
      intro a ha
      obtain rfl := List.mem_singleton.mp ha
      exact List.Subset.refl _
  | empty =>
      intro a ha
      obtain rfl := List.mem_singleton.mp ha
      exact List.nil_subset _
  | optional inner ih =>
      intro a ha
      rcases List.mem_cons.mp ha with rfl | ha
      · exact List.nil_subset _
      · exact ih a ha
  | cost inner ih =>
      intro a ha
      obtain ⟨b, hb, rfl⟩ := List.mem_map.mp ha
      exact ih b hb
  | or items ih => exact fun a ha => mem_exactClausesOfAny ih ha
  | and items ih => exact fun a ha => mem_exactClausesOfAll ih ha
  | macroRef name => exact fun a ha => absurd ha List.not_mem_nil

/-- The disjuncts of a formula over connectors that can be written can be written. -/
theorem wellFormed_of_expand (hf : ∀ c ∈ f.connectors, c.WellFormed) (h : f.expand = .ok ds)
    {d : Disjunct} (hd : d ∈ ds) : d.WellFormed := by
  have hmem := ((collects_of_expand h).mem_iff d.sides).mp (List.mem_map_of_mem hd)
  rw [List.map_map] at hmem
  obtain ⟨a, ha, heq⟩ := List.mem_map.mp hmem
  have hwell {c : Connector} (hc : c ∈ a.connectors) : c.WellFormed :=
    hf c (clausesWithin f a ha hc)
  have hleft : a.connectors.filter (·.direction == .left) = d.left := congrArg Prod.fst heq
  have hright : (a.connectors.filter (·.direction == .right)).reverse = d.right :=
    congrArg Prod.snd heq
  constructor
  · intro c hc
    rw [← hleft, List.mem_filter] at hc
    exact ⟨hwell hc.1, eq_of_beq hc.2⟩
  · intro c hc
    rw [← hright, List.mem_reverse, List.mem_filter] at hc
    exact ⟨hwell hc.1, eq_of_beq hc.2⟩

/-! ## The text of a disjunct -/

/-- The text of a disjunct, of a formula over connectors that can be written, stands for a formula
that expands to this disjunct alone, at no cost.  So no two disjuncts of a formula have the same
text. -/
theorem expand_ofDisjunctText (hf : ∀ c ∈ f.connectors, c.WellFormed) (h : f.expand = .ok ds) :
    (∀ d ∈ ds, ∃ g, ofDisjunctText? d.toText = some g ∧
      g.expand = .ok [⟨d.left, d.right, 0⟩]) ∧
    (ds.map Disjunct.toText).Nodup := by
  have hwell {d : Disjunct} (hd : d ∈ ds) : d.WellFormed := wellFormed_of_expand hf h hd
  constructor
  · intro d hd
    obtain ⟨hleft, hright⟩ := (hwell hd).sides_eq
    refine ⟨_, (hwell hd).ofDisjunctText?, ?_⟩
    rw [expand_allOf, Clause.toDisjunct, Clause.left, Clause.right, hleft, hright]
  · -- the text tells the two sides, and the disjuncts of an expansion differ in those
    have hnodup := (collects_of_expand h).nodup
    refine (List.Nodup.of_map Disjunct.sides hnodup).map_on fun d hd d' hd' htext => ?_
    obtain ⟨hleft, hright⟩ := Disjunct.eq_of_toText_eq (hwell hd) (hwell hd') htext
    exact List.inj_on_of_nodup_map hnodup hd hd' (Prod.ext hleft hright)

/-- Connectors of both directions mixed: `B+ & @A- & {C*+} & D-`. -/
def mixedFormula : Formula :=
  .and [.connector ⟨['B'], [], .right, false⟩, .connector ⟨['A'], [], .left, true⟩,
    .optional (.connector ⟨['C'], ['*'], .right, false⟩), .connector ⟨['D'], [], .left, false⟩]

/-- The second disjunct, `@A- D- B+ C*+`, which sorts the connectors by direction. -/
def mixedDisjunct : Disjunct :=
  ⟨[⟨['A'], [], .left, true⟩, ⟨['D'], [], .left, false⟩],
    [⟨['C'], ['*'], .right, false⟩, ⟨['B'], [], .right, false⟩], 0⟩

theorem expand_ofDisjunctText_mixed :
    (∀ c ∈ mixedFormula.connectors, c.WellFormed) ∧
    mixedFormula.expand = .ok
      [⟨mixedDisjunct.left, [⟨['B'], [], .right, false⟩], 0⟩, mixedDisjunct] ∧
    mixedDisjunct.toText = "@A- D- B+ C*+" ∧
    ∃ g, ofDisjunctText? "@A- D- B+ C*+" = some g ∧ g.expand = .ok [mixedDisjunct] := by
  have hwell : ∀ c ∈ mixedFormula.connectors, c.WellFormed := by decide
  have hexpand : mixedFormula.expand = .ok
      [⟨mixedDisjunct.left, [⟨['B'], [], .right, false⟩], 0⟩, mixedDisjunct] := rfl
  have htext : mixedDisjunct.toText = "@A- D- B+ C*+" := by decide
  obtain ⟨hread, -⟩ := expand_ofDisjunctText hwell hexpand
  refine ⟨hwell, hexpand, htext, ?_⟩
  rw [← htext]
  exact hread mixedDisjunct (List.mem_cons_of_mem _ List.mem_cons_self)

end Formula

end LinkParsing
