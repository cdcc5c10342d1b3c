import LinkParsing.Proofs.Formula.Meaning
import LinkParsing.Proofs.Lexicon.Shape

/-!
# The limit on disjuncts is exact

Expansion compares the number of clauses with the limit at every part of a formula, and within a
conjunction behind every item.  Where every disjunction has an item, every part means a clause,
so no part means more clauses than the whole, and all these checks come to a single one of the
clauses that the formula means (`OrsFilled.checksOnce`).

How many clauses these are can be told without expanding (`clauseCount`).  So this number alone
decides whether a formula expands (`expand_limit`).
-/

namespace LinkParsing.Formula

open ExactClause (products toClause)

/-- Every disjunction in a formula has an item. -/
inductive OrsFilled : Formula → Prop where
  | connector (c : Connector) : OrsFilled (.connector c)
  | empty : OrsFilled .empty
  | macroRef (name : String) : OrsFilled (.macroRef name)
  | optional {inner : Formula} (h : OrsFilled inner) : OrsFilled (.optional inner)
  | cost {inner : Formula} (h : OrsFilled inner) : OrsFilled (.cost inner)
  | and {items : List Formula} (hitems : ∀ f ∈ items, OrsFilled f) : OrsFilled (.and items)
  | or {items : List Formula} (hne : items ≠ []) (hitems : ∀ f ∈ items, OrsFilled f) :
      OrsFilled (.or items)

mutual

/-- How many clauses a formula means. -/
def clauseCount : Formula → Nat
  | .connector _ => 1
  | .empty => 1
  | .optional inner => 1 + inner.clauseCount
  | .cost inner => inner.clauseCount
  | .or items => clauseSum items
  | .and items => clauseProduct items
  | .macroRef _ => 0

def clauseSum : List Formula → Nat
  | [] => 0
  | item :: items => item.clauseCount + clauseSum items

def clauseProduct : List Formula → Nat
  | [] => 1
  | item :: items => item.clauseCount * clauseProduct items

end

variable {f : Formula} {items : List Formula} {cs : List Clause}

/-! ## The number of clauses -/

@[simp] theorem length_products (as bs : List ExactClause) :
    (products as bs).length = as.length * bs.length := by
  simp [products]

/-- A formula means as many clauses as are counted. -/
theorem length_exactClauses (f : Formula) : f.exactClauses.length = f.clauseCount := by
  induction f with
  | connector c | empty | macroRef name => rfl
  | optional inner ih => rw [exactClauses, List.length_cons, ih, clauseCount, Nat.add_comm]
  | cost inner ih => rw [exactClauses, List.length_map, ih, clauseCount]
  | or items ih =>
      rw [exactClauses, clauseCount]
      induction items with
      | nil => rfl
      | cons item items ihitems =>
          obtain ⟨hitem, hitems⟩ := List.forall_mem_cons.mp ih
          rw [exactClausesOfAny, List.length_append, hitem, ihitems hitems, clauseSum]
  | and items ih =>
      rw [exactClauses, clauseCount]
      induction items with
      | nil => rfl
      | cons item items ihitems =>
          obtain ⟨hitem, hitems⟩ := List.forall_mem_cons.mp ih
          rw [exactClausesOfAll, length_products, hitem, ihitems hitems, clauseProduct]

theorem clauseProduct_pos (hitems : ∀ f ∈ items, 0 < f.clauseCount) : 0 < clauseProduct items := by
  induction items with
  | nil => exact Nat.one_pos
  | cons item items ih =>
      obtain ⟨hitem, hitems⟩ := List.forall_mem_cons.mp hitems
      exact Nat.mul_pos hitem (ih hitems)

/-- Without names and with items in every disjunction a formula means a clause. -/
theorem OrsFilled.clauseCount_pos (h : f.OrsFilled) (hfree : f.macroFree = true) :
    0 < f.clauseCount := by
  induction h with
  | connector c | empty => exact Nat.one_pos
  | macroRef name => cases hfree
  | optional h ih => exact Nat.lt_of_lt_of_le Nat.one_pos (Nat.le_add_right 1 _)
  | cost h ih => exact ih hfree
  | and hitems ih =>
      exact clauseProduct_pos fun f hf => ih f hf (macroFreeAll_iff.mp hfree f hf)
  | @or items hne hitems ih =>
      obtain ⟨item, items, rfl⟩ := List.exists_cons_of_ne_nil hne
      have hitem := ih item List.mem_cons_self (macroFreeAll_iff.mp hfree item List.mem_cons_self)
      exact Nat.lt_of_lt_of_le hitem (Nat.le_add_right _ _)

/-! ## One check instead of many -/

theorem withinLimit_of_le (h : cs.length ≤ maxDisjuncts) : withinLimit cs = .ok cs :=
  withinLimit_eq_ok_iff.mpr ⟨h, rfl⟩

theorem withinLimit_of_lt (h : maxDisjuncts < cs.length) :
    withinLimit cs = .error (.tooManyDisjuncts maxDisjuncts) := if_pos h

/-- A check is not needed before a step that ends with a check of no fewer clauses. -/
theorem withinLimit_bind {step : List Clause → Except ExpansionError (List Clause)}
    {cs' : List Clause} (hstep : step cs = withinLimit cs') (hle : cs.length ≤ cs'.length) :
    withinLimit cs >>= step = withinLimit cs' := by
  rcases Nat.lt_or_ge maxDisjuncts cs.length with hlong | hshort
  · rw [withinLimit_of_lt hlong, withinLimit_of_lt (Nat.lt_of_lt_of_le hlong hle)]
    rfl
  · rw [withinLimit_of_le hshort]
    exact hstep

/-- The check behind an item of a conjunction is one of the clauses put together there. -/
theorem clausesOfAll_cons (done : List Clause) (item : Formula) (items : List Formula) :
    clausesOfAll done (item :: items) =
      item.clauses >>= fun next =>
        withinLimit (Clause.products done next) >>= fun done => clausesOfAll done items := by
  have hlength (next : List Clause) :
      (Clause.products done next).length = done.length * next.length := by
    simp [Clause.products]
  rw [clausesOfAll]
  congr
  funext next
  rw [withinLimit, hlength]
  split
  next => rfl
  next => rfl

/-- Expanding comes to one check of the clauses that a formula means. -/
def ChecksOnce (f : Formula) : Prop := f.clauses = withinLimit (f.exactClauses.map toClause)

/-- The step takes in what the items before these have given. -/
private theorem clausesOfAny_bind (step : List Clause → List Clause)
    (hitems : ∀ f ∈ items, f.ChecksOnce) (hstep : ∀ cs, cs.length ≤ (step cs).length) :
    (clausesOfAny items >>= fun cs => withinLimit (step cs)) =
      withinLimit (step ((exactClausesOfAny items).map toClause)) := by
  induction items generalizing step with
  | nil => rfl
  | cons item items ih =>
      obtain ⟨hitem, hitems⟩ := List.forall_mem_cons.mp hitems
      rw [clausesOfAny, hitem, exactClausesOfAny, List.map_append]
      simp only [bind_assoc, pure_bind]
      -- For the items behind this one, putting its clauses in front is part of the step.
      refine withinLimit_bind (ih (fun others => step (_ ++ others)) hitems ?_) ?_
      · intro cs
        refine Nat.le_trans ?_ (hstep _)
        rw [List.length_append]
        exact Nat.le_add_left _ _
      · refine Nat.le_trans ?_ (hstep _)
        rw [List.length_append]
        exact Nat.le_add_right _ _

/-- If every item means a clause, what is put together behind an item is no more than what is
put together in the end. -/
private theorem clausesOfAll_bind {done : List ExactClause} (hdone : 0 < done.length)
    (hitems : ∀ f ∈ items, f.ChecksOnce) (hpos : ∀ f ∈ items, 0 < f.clauseCount) :
    clausesOfAll (done.map toClause) items >>= withinLimit =
      withinLimit ((products done (exactClausesOfAll items)).map toClause) := by
  induction items generalizing done with
  | nil =>
      rw [exactClausesOfAll, ExactClause.products_nothing]
      rfl
  | cons item items ih =>
      obtain ⟨hitem, hitems⟩ := List.forall_mem_cons.mp hitems
      obtain ⟨hitempos, hpos⟩ := List.forall_mem_cons.mp hpos
      rw [← length_exactClauses] at hitempos
      have hrestpos : 0 < (exactClausesOfAll items).length := by
        have hlength := length_exactClauses (.and items)
        rw [exactClauses, clauseCount] at hlength
        exact hlength ▸ clauseProduct_pos hpos
      rw [clausesOfAll_cons, hitem, exactClausesOfAll, ← ExactClause.products_assoc]
      simp only [bind_assoc]
      refine withinLimit_bind ?_ ?_
      · -- The check behind the item, which the items to come cannot make less.
        rw [← ExactClause.map_toClause_products]
        refine withinLimit_bind (ih ?_ hitems hpos) ?_
        · rw [length_products]
          exact Nat.mul_pos hdone hitempos
        · rw [List.length_map, List.length_map, length_products _ (exactClausesOfAll items)]
          exact Nat.le_mul_of_pos_right _ hrestpos
      · -- The check within the item itself.
        rw [List.length_map, List.length_map, ExactClause.products_assoc, length_products,
          length_products]
        calc item.exactClauses.length
            ≤ item.exactClauses.length * (exactClausesOfAll items).length :=
              Nat.le_mul_of_pos_right _ hrestpos
          _ ≤ done.length * (item.exactClauses.length * (exactClausesOfAll items).length) :=
              Nat.le_mul_of_pos_left _ hdone

/-- The checks at the parts of a formula come to a single one of all its clauses. -/
theorem OrsFilled.checksOnce (h : f.OrsFilled) (hfree : f.macroFree = true) : f.ChecksOnce := by
  induction h with
  | connector c | empty => rfl
  | macroRef name => cases hfree
  | @optional inner h ih =>
      rw [ChecksOnce, clauses, ih hfree]
      exact withinLimit_bind rfl (Nat.le_succ _)
  | @cost inner h ih =>
      have hraise : inner.cost.exactClauses.map toClause =
          (inner.exactClauses.map toClause).map Clause.raise := by simp [exactClauses]
      rw [ChecksOnce, clauses, ih hfree, hraise]
      exact withinLimit_bind rfl (Nat.le_of_eq (List.length_map _).symm)
  | @and items hitems ih =>
      have hfrees := macroFreeAll_iff.mp hfree
      have hpos : ∀ f ∈ items, 0 < f.clauseCount := fun f hf =>
        (hitems f hf).clauseCount_pos (hfrees f hf)
      have hnothing : 0 < [ExactClause.nothing].length := Nat.one_pos
      have hbind := clausesOfAll_bind hnothing (fun f hf => ih f hf (hfrees f hf)) hpos
      rw [ExactClause.nothing_products] at hbind
      exact hbind
  | @or items hne hitems ih =>
      have hfrees := macroFreeAll_iff.mp hfree
      exact clausesOfAny_bind id (fun f hf => ih f hf (hfrees f hf)) fun _ => Nat.le_refl _

/-- A formula expands as long as it means no more clauses than are allowed. -/
theorem OrsFilled.expand_eq (h : f.OrsFilled) (hfree : f.macroFree = true) :
    f.expand = if maxDisjuncts < f.clauseCount then .error (.tooManyDisjuncts maxDisjuncts)
      else .ok (Disjunct.ofClauses (f.exactClauses.map toClause)) := by
  rw [expand, h.checksOnce hfree, withinLimit, List.length_map, length_exactClauses]
  split
  next => rfl
  next => rfl

/-- A formula that expands has a disjunct. -/
theorem OrsFilled.ne_nil_of_expand (h : f.OrsFilled) {ds : List Disjunct}
    (hds : f.expand = .ok ds) : ds ≠ [] := by
  obtain ⟨cs, hclauses, rfl⟩ := map_eq_ok_iff.mp hds
  obtain ⟨hfree, rfl⟩ := expands_of_clauses hclauses
  have hpos := h.clauseCount_pos hfree
  rw [← length_exactClauses] at hpos
  refine List.ne_nil_of_length_pos ((Disjunct.collects_ofClauses _).length_pos ?_)
  exact List.map_eq_nil_iff.not.mpr (List.ne_nil_of_length_pos hpos)

theorem JoinsSeveral.orsFilled (h : f.JoinsSeveral) : f.OrsFilled := by
  induction h with
  | connector c => exact .connector c
  | empty => exact .empty
  | macroRef name => exact .macroRef name
  | optional h ih => exact .optional ih
  | cost h ih => exact .cost ih
  | and htwo hitems ih => exact .and ih
  | or htwo hitems ih =>
      exact .or (List.ne_nil_of_length_pos (Nat.lt_of_lt_of_le Nat.two_pos htwo)) ih

/-! ## The limit -/

/-- A formula without names, in which every disjunction has an item, expands just if it means no
more clauses than are allowed, and has too many disjuncts otherwise.  Where it expands, it has a
disjunct and no more of them than are allowed.  Disjunctions without items do not occur in the
formulas of a lexicon. -/
theorem expand_limit :
    (∀ f : Formula, f.macroFree = true → f.OrsFilled →
      ((∃ ds, f.expand = .ok ds) ↔ f.clauseCount ≤ maxDisjuncts) ∧
      (¬f.clauseCount ≤ maxDisjuncts → f.expand = .error (.tooManyDisjuncts maxDisjuncts)) ∧
      ∀ ds, f.expand = .ok ds → 1 ≤ ds.length ∧ ds.length ≤ maxDisjuncts) ∧
    ∀ text entries, Lexicon.readEntries text = .ok entries →
      ∀ e ∈ entries, e.formula.OrsFilled := by
  refine ⟨fun f hfree hfilled => ?_, fun text entries h e he =>
    (Lexicon.joinsSeveral_of_readEntries h he).orsFilled⟩
  rw [hfilled.expand_eq hfree]
  by_cases hle : f.clauseCount ≤ maxDisjuncts
  · rw [if_neg (Nat.not_lt.mpr hle)]
    refine ⟨⟨fun _ => hle, fun _ => ⟨_, rfl⟩⟩, fun hlong => absurd hle hlong, ?_⟩
    rintro ds ⟨⟩
    have hcollects := Disjunct.collects_ofClauses (f.exactClauses.map toClause)
    have hlength : (f.exactClauses.map toClause).length = f.clauseCount := by
      rw [List.length_map, length_exactClauses]
    have hpos := hfilled.clauseCount_pos hfree
    rw [← hlength] at hpos hle
    exact ⟨hcollects.length_pos (List.ne_nil_of_length_pos hpos),
      Nat.le_trans hcollects.length_le hle⟩
  · rw [if_pos (Nat.not_le.mp hle)]
    exact ⟨⟨nofun, fun h => absurd h hle⟩, fun _ => rfl, nofun⟩

/-- Twelve connectors that may be left out. -/
def twelveOptions : Formula :=
  .and (List.replicate 12 (.optional (.connector ⟨['A'], [], .right, false⟩)))

/-- Twelve options reach the limit, and one clause more is too many. -/
theorem expand_limit_twelveOptions :
    (∃ ds, twelveOptions.expand = .ok ds ∧ 1 ≤ ds.length ∧ ds.length ≤ maxDisjuncts) ∧
    (Formula.or [twelveOptions, .empty]).expand = .error (.tooManyDisjuncts maxDisjuncts) := by
  have hfilled : twelveOptions.OrsFilled := by
    refine .and fun f hf => ?_
    rw [List.eq_of_mem_replicate hf]
    exact .optional (.connector _)
  have hmore : (Formula.or [twelveOptions, .empty]).OrsFilled :=
    .or (List.cons_ne_nil _ _) (by simpa using ⟨hfilled, .empty⟩)
  obtain ⟨hexpands, -, hlength⟩ := expand_limit.1 twelveOptions (by decide) hfilled
  obtain ⟨ds, hds⟩ := hexpands.mpr (by decide)
  obtain ⟨-, htoomany, -⟩ := expand_limit.1 (.or [twelveOptions, .empty]) (by decide) hmore
  exact ⟨⟨ds, hds, hlength ds hds⟩, htoomany (by decide)⟩

end LinkParsing.Formula
