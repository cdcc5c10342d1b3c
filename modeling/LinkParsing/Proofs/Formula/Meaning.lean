import LinkParsing.Proofs.Formula.Collecting
import LinkParsing.Proofs.Result
import Mathlib.Order.Bounds.Defs

/-!
# What formulas mean

A formula means a list of clauses with exact costs, however many there are (`exactClauses`).
Where expansion does not give up, it works with just these clauses and has their costs as far as 32
bits hold them (`expands_of_clauses`).  Its disjuncts are therefore those of the clauses that the
formula means, in order of first occurrence, and a disjunct whose clauses all cost less than 2^32
has the least of these costs (`expand_meaning`).
-/

namespace LinkParsing

/-- Connectors in written order and their exact cost. -/
structure ExactClause where
  connectors : List Connector
  cost : Nat

namespace ExactClause

/-- The clause that uses no connector. -/
def nothing : ExactClause := ⟨[], 0⟩

/-- One clause after the other. -/
def append (a b : ExactClause) : ExactClause :=
  ⟨a.connectors ++ b.connectors, a.cost + b.cost⟩

/-- The same connectors for one unit more. -/
def raise (a : ExactClause) : ExactClause := { a with cost := a.cost + 1 }

/-- Every clause of the first list followed by every clause of the second, those of the first
varying more slowly. -/
def products (as bs : List ExactClause) : List ExactClause :=
  as.flatMap fun a => bs.map a.append

/-- The connectors that point left, in written order, and those that point right, in reversed
written order. -/
def sides (a : ExactClause) : List Connector × List Connector :=
  (a.connectors.filter (·.direction == .left),
    (a.connectors.filter (·.direction == .right)).reverse)

/-- The clause with its cost as far as 32 bits hold it. -/
def toClause (a : ExactClause) : Clause := ⟨a.connectors, .ofNat a.cost⟩

variable {as bs cs : List ExactClause}

@[simp] theorem toClause_append (a b : ExactClause) :
    (a.append b).toClause = a.toClause.append b.toClause := by
  simp [append, toClause, Clause.append, Cost.ofNat_add]

@[simp] theorem toClause_raise (a : ExactClause) : a.raise.toClause = a.toClause.raise := by
  rw [raise, toClause, Cost.ofNat_add]
  rfl

theorem mem_products_iff {c : ExactClause} :
    c ∈ products as bs ↔ ∃ a ∈ as, ∃ b ∈ bs, a.append b = c := by
  simp [products]

theorem map_toClause_products (as bs : List ExactClause) :
    (products as bs).map toClause = Clause.products (as.map toClause) (bs.map toClause) := by
  simp [products, Clause.products, List.map_flatMap, List.flatMap_map, Function.comp_def]

/-- Going behind one clause after the other is going behind both. -/
theorem append_comp_append (a b : ExactClause) : a.append ∘ b.append = (a.append b).append := by
  funext c
  simp [append, Nat.add_assoc]

theorem products_assoc (as bs cs : List ExactClause) :
    products (products as bs) cs = products as (products bs cs) := by
  simp only [products, List.flatMap_assoc, List.flatMap_map, List.map_flatMap, List.map_map,
    append_comp_append]

@[simp] theorem products_nothing (as : List ExactClause) : products as [nothing] = as := by
  simp [products, append, nothing]

@[simp] theorem nothing_products (as : List ExactClause) : products [nothing] as = as := by
  have hid : nothing.append = id := by
    funext a
    simp [append, nothing]
  simp [products, hid]

end ExactClause

namespace Formula

open ExactClause (products toClause)

mutual

/-- The clauses that a formula means.  A name that has not been replaced means none. -/
def exactClauses : Formula → List ExactClause
  | .connector c => [⟨[c], 0⟩]
  | .empty => [.nothing]
  | .optional inner => .nothing :: inner.exactClauses
  | .cost inner => inner.exactClauses.map .raise
  | .or items => exactClausesOfAny items
  | .and items => exactClausesOfAll items
  | .macroRef _ => []

/-- The clauses of any one of the items, one item after the other. -/
def exactClausesOfAny : List Formula → List ExactClause
  | [] => []
  | item :: items => item.exactClauses ++ exactClausesOfAny items

/-- The concatenations of one clause of each item, those of earlier items varying more slowly. -/
def exactClausesOfAll : List Formula → List ExactClause
  | [] => [.nothing]
  | item :: items => products item.exactClauses (exactClausesOfAll items)

end

/-! ## Expansion that does not give up -/

variable {f : Formula} {items : List Formula} {cs : List Clause}

theorem withinLimit_eq_ok_iff {cs' : List Clause} :
    withinLimit cs = .ok cs' ↔ cs.length ≤ maxDisjuncts ∧ cs = cs' := by
  unfold withinLimit
  split
  next hlong => simp [Nat.not_le.mpr hlong]
  next hshort => simp [Nat.not_lt.mp hshort]

/-- What comes of expanding a formula: no name occurs in it, and its clauses are those it means,
with their costs as far as these are held. -/
def Expands (f : Formula) (cs : List Clause) : Prop :=
  f.macroFree = true ∧ cs = f.exactClauses.map toClause

private theorem clausesOfAny_inv
    (hitems : ∀ f ∈ items, ∀ cs, f.clauses = .ok cs → f.Expands cs)
    (h : clausesOfAny items = .ok cs) :
    macroFreeAll items = true ∧ cs = (exactClausesOfAny items).map toClause := by
  induction items generalizing cs with
  | nil => exact ⟨rfl, (Except.ok.inj h).symm⟩
  | cons item items ih =>
      obtain ⟨hitem, hitems⟩ := List.forall_mem_cons.mp hitems
      rw [clausesOfAny] at h
      obtain ⟨first, hfirst, h⟩ := bind_eq_ok_iff.mp h
      obtain ⟨others, hothers, h⟩ := bind_eq_ok_iff.mp h
      obtain ⟨hfree, rfl⟩ := hitem first hfirst
      obtain ⟨hfrees, rfl⟩ := ih hitems hothers
      refine ⟨by rw [macroFreeAll, hfree, hfrees, Bool.and_self], ?_⟩
      rw [exactClausesOfAny, List.map_append]
      exact (Except.ok.inj h).symm

private theorem clausesOfAll_inv (done : List ExactClause)
    (hitems : ∀ f ∈ items, ∀ cs, f.clauses = .ok cs → f.Expands cs)
    (h : clausesOfAll (done.map toClause) items = .ok cs) :
    macroFreeAll items = true ∧ cs = (products done (exactClausesOfAll items)).map toClause := by
  induction items generalizing done with
  | nil =>
      refine ⟨rfl, ?_⟩
      rw [exactClausesOfAll, ExactClause.products_nothing]
      exact (Except.ok.inj h).symm
  | cons item items ih =>
      obtain ⟨hitem, hitems⟩ := List.forall_mem_cons.mp hitems
      rw [clausesOfAll] at h
      obtain ⟨next, hnext, h⟩ := bind_eq_ok_iff.mp h
      obtain ⟨hfree, rfl⟩ := hitem next hnext
      split at h
      next => exact nomatch h
      next =>
        -- The items behind this one start from all that has been put together.
        rw [← ExactClause.map_toClause_products] at h
        obtain ⟨hfrees, rfl⟩ := ih _ hitems h
        refine ⟨by rw [macroFreeAll, hfree, hfrees, Bool.and_self], ?_⟩
        rw [exactClausesOfAll, ExactClause.products_assoc]

/-- Where expansion does not give up, it works with the clauses that the formula means. -/
theorem expands_of_clauses (h : f.clauses = .ok cs) : f.Expands cs := by
  induction f generalizing cs with
  | connector c =>
      obtain ⟨-, rfl⟩ := withinLimit_eq_ok_iff.mp h
      exact ⟨rfl, rfl⟩
  | empty =>
      obtain ⟨-, rfl⟩ := withinLimit_eq_ok_iff.mp h
      exact ⟨rfl, rfl⟩
  | optional inner ih =>
      rw [clauses] at h
      obtain ⟨parts, hparts, h⟩ := bind_eq_ok_iff.mp h
      obtain ⟨hfree, rfl⟩ := ih hparts
      obtain ⟨-, rfl⟩ := withinLimit_eq_ok_iff.mp h
      exact ⟨hfree, rfl⟩
  | cost inner ih =>
      rw [clauses] at h
      obtain ⟨parts, hparts, h⟩ := bind_eq_ok_iff.mp h
      obtain ⟨hfree, rfl⟩ := ih hparts
      obtain ⟨-, rfl⟩ := withinLimit_eq_ok_iff.mp h
      exact ⟨hfree, by simp [exactClauses]⟩
  | or items ih =>
      rw [clauses] at h
      obtain ⟨parts, hparts, h⟩ := bind_eq_ok_iff.mp h
      obtain ⟨-, rfl⟩ := withinLimit_eq_ok_iff.mp h
      exact clausesOfAny_inv (fun f hf cs => ih f hf) hparts
  | and items ih =>
      rw [clauses] at h
      obtain ⟨parts, hparts, h⟩ := bind_eq_ok_iff.mp h
      obtain ⟨-, rfl⟩ := withinLimit_eq_ok_iff.mp h
      obtain ⟨hfree, rfl⟩ := clausesOfAll_inv [.nothing] (fun f hf cs => ih f hf) hparts
      exact ⟨hfree, by rw [ExactClause.nothing_products, exactClauses]⟩
  | macroRef name => exact nomatch h

/-- The disjuncts of a formula are collected from the clauses that it means. -/
theorem collects_of_expand {ds : List Disjunct} (h : f.expand = .ok ds) :
    Disjunct.Collects (f.exactClauses.map toClause) ds := by
  obtain ⟨cs, hclauses, rfl⟩ := map_eq_ok_iff.mp h
  obtain ⟨-, rfl⟩ := expands_of_clauses hclauses
  exact Disjunct.collects_ofClauses _

/-- A formula that expands has no names in it.  Its disjuncts differ in their connectors, which
are those of the clauses that the formula means, in order of first occurrence, and each
disjunct costs as little as any clause that becomes it, if these cost less than 2^32. -/
theorem expand_meaning {ds : List Disjunct} (h : f.expand = .ok ds) :
    f.macroFree = true ∧
    (ds.map Disjunct.sides).Nodup ∧
    (∀ p, p ∈ ds.map Disjunct.sides ↔ p ∈ f.exactClauses.map ExactClause.sides) ∧
    ((ds.map Disjunct.sides).Pairwise fun p q =>
      (f.exactClauses.map ExactClause.sides).idxOf p <
        (f.exactClauses.map ExactClause.sides).idxOf q) ∧
    ∀ d ∈ ds, (∀ c ∈ f.exactClauses, c.sides = d.sides → c.cost < UInt32.size) →
      IsLeast {n | ∃ c ∈ f.exactClauses, c.sides = d.sides ∧ c.cost = n} d.cost.toNat := by
  obtain ⟨cs, hclauses, rfl⟩ := map_eq_ok_iff.mp h
  obtain ⟨hfree, rfl⟩ := expands_of_clauses hclauses
  have hcollects := Disjunct.collects_ofClauses (f.exactClauses.map toClause)
  have hsides : (f.exactClauses.map toClause).map Clause.sides =
      f.exactClauses.map ExactClause.sides := List.map_map
  refine ⟨hfree, hcollects.nodup, hsides ▸ hcollects.mem_iff, hsides ▸ hcollects.ordered, ?_⟩
  intro d hd hsmall
  have hcost {c : ExactClause} (hc : c ∈ f.exactClauses) (hsame : c.sides = d.sides) :
      c.toClause.cost.toNat = c.cost := Cost.toNat_ofNat (hsmall c hc hsame)
  constructor
  · obtain ⟨_, hmem, hsame, heq⟩ := hcollects.attained d hd
    obtain ⟨c, hc, rfl⟩ := List.mem_map.mp hmem
    exact ⟨c, hc, hsame, by rw [← heq, hcost hc hsame]⟩
  · rintro _ ⟨c, hc, hsame, rfl⟩
    rw [← hcost hc hsame]
    exact Cost.toNat_le_of_le (hcollects.least d hd c.toClause (List.mem_map_of_mem hc) hsame)

/-- The two directions mixed, and the same connectors once with a bracket and once without:
`[A- & (B+ or C+)] or B+ & A- or [[A-]]`. -/
def bracketedFormula : Formula :=
  let a : Formula := .connector ⟨['A'], [], .left, false⟩
  let b : Formula := .connector ⟨['B'], [], .right, false⟩
  let c : Formula := .connector ⟨['C'], [], .right, false⟩
  .or [.cost (.and [a, .or [b, c]]), .and [b, a], .cost (.cost a)]

/-- The later clause without bracket lowers the cost of the first disjunct. -/
theorem expand_meaning_bracketed :
    bracketedFormula.expand = .ok
      [⟨[⟨['A'], [], .left, false⟩], [⟨['B'], [], .right, false⟩], 0⟩,
        ⟨[⟨['A'], [], .left, false⟩], [⟨['C'], [], .right, false⟩], 1⟩,
        ⟨[⟨['A'], [], .left, false⟩], [], 2⟩] ∧
    IsLeast {n | ∃ c ∈ bracketedFormula.exactClauses, c.sides =
      ([⟨['A'], [], .left, false⟩], [⟨['B'], [], .right, false⟩]) ∧ c.cost = n} 0 := by
  have hexpand : bracketedFormula.expand = .ok
      [⟨[⟨['A'], [], .left, false⟩], [⟨['B'], [], .right, false⟩], 0⟩,
        ⟨[⟨['A'], [], .left, false⟩], [⟨['C'], [], .right, false⟩], 1⟩,
        ⟨[⟨['A'], [], .left, false⟩], [], 2⟩] := rfl
  have hsmall : ∀ c ∈ bracketedFormula.exactClauses, c.cost < UInt32.size := by decide
  obtain ⟨-, -, -, -, hleast⟩ := expand_meaning hexpand
  exact ⟨hexpand, hleast _ List.mem_cons_self fun c hc _ => hsmall c hc⟩

end Formula

end LinkParsing
