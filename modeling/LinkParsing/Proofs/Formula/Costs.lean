import LinkParsing.Formula.Substitution
import LinkParsing.Proofs.Formula.Limit
import Mathlib.Algebra.Ring.Nat
import Mathlib.Order.Bounds.Basic

/-!
# Costs of clauses in 32 bits

What the dearest clause of a formula costs can be told without expanding (`dearest`): items that
stand together add up, and of alternatives the dearest one counts.  Expansion keeps a cost as what
it is, or it overflows.  So the costs of all clauses are kept just if the dearest one costs less
than 2^32 (`storesCosts_iff`).

The cost of a disjunct is kept just if those of all clauses that become it are, and it is then the
least of them (`keeps_cost_iff`).

Names double costs: as many definitions as there are bits make a clause that costs 2^32
(`exactClauses_tower`, `resolveWithin_tower`).
-/

namespace LinkParsing

namespace Formula

open ExactClause (mem_products_iff toClause)

mutual

/-- What the dearest clause of a formula costs. -/
def dearest : Formula → Nat
  | .connector _ => 0
  | .empty => 0
  | .optional inner => inner.dearest
  | .cost inner => inner.dearest + 1
  | .or items => dearestOfAny items
  | .and items => dearestOfAll items
  | .macroRef _ => 0

/-- What the dearest clause of any one of the items costs. -/
def dearestOfAny : List Formula → Nat
  | [] => 0
  | item :: items => max item.dearest (dearestOfAny items)

/-- What the dearest clauses of all items cost together. -/
def dearestOfAll : List Formula → Nat
  | [] => 0
  | item :: items => item.dearest + dearestOfAll items

end

variable {f : Formula} {items : List Formula} {c : ExactClause} {ds : List Disjunct} {d : Disjunct}

/-! ## The dearest clause -/

/-- No clause of a formula costs more than its dearest one. -/
theorem cost_le_dearest (hc : c ∈ f.exactClauses) : c.cost ≤ f.dearest := by
  induction f generalizing c with
  | connector _ | empty =>
      obtain rfl := List.mem_singleton.mp hc
      exact Nat.le_refl _
  | macroRef name => cases hc
  | optional inner ih =>
      rcases List.mem_cons.mp hc with rfl | hc
      · exact Nat.zero_le _
      · exact ih hc
  | cost inner ih =>
      obtain ⟨a, ha, rfl⟩ := List.mem_map.mp hc
      exact Nat.succ_le_succ (ih ha)
  | or items ih =>
      rw [exactClauses] at hc
      rw [dearest]
      induction items with
      | nil => cases hc
      | cons item items ihitems =>
          obtain ⟨hitem, hitems⟩ := List.forall_mem_cons.mp ih
          rcases List.mem_append.mp hc with hc | hc
          · exact Nat.le_trans (hitem hc) (Nat.le_max_left _ _)
          · exact Nat.le_trans (ihitems hitems hc) (Nat.le_max_right _ _)
  | and items ih =>
      rw [exactClauses] at hc
      rw [dearest]
      induction items generalizing c with
      | nil =>
          obtain rfl := List.mem_singleton.mp hc
          exact Nat.le_refl _
      | cons item items ihitems =>
          obtain ⟨hitem, hitems⟩ := List.forall_mem_cons.mp ih
          obtain ⟨a, ha, b, hb, rfl⟩ := mem_products_iff.mp hc
          exact Nat.add_le_add (hitem ha) (ihitems hitems hb)

private theorem exists_dearestOfAny (hne : items ≠ [])
    (hitems : ∀ f ∈ items, ∃ c ∈ f.exactClauses, c.cost = f.dearest) :
    ∃ c ∈ exactClausesOfAny items, c.cost = dearestOfAny items := by
  induction items with
  | nil => exact absurd rfl hne
  | cons item items ih =>
      obtain ⟨⟨a, ha, hcost⟩, hitems⟩ := List.forall_mem_cons.mp hitems
      rw [exactClausesOfAny, dearestOfAny]
      rcases Nat.le_total (dearestOfAny items) item.dearest with hle | hle
      · exact ⟨a, List.mem_append_left _ ha, by rw [hcost, Nat.max_eq_left hle]⟩
      · cases items with
        | nil => exact ⟨a, List.mem_append_left _ ha, by rw [hcost]; exact (Nat.max_zero _).symm⟩
        | cons other items =>
            obtain ⟨b, hb, hcost⟩ := ih (List.cons_ne_nil _ _) hitems
            exact ⟨b, List.mem_append_right _ hb, by rw [hcost, Nat.max_eq_right hle]⟩

private theorem exists_dearestOfAll
    (hitems : ∀ f ∈ items, ∃ c ∈ f.exactClauses, c.cost = f.dearest) :
    ∃ c ∈ exactClausesOfAll items, c.cost = dearestOfAll items := by
  induction items with
  | nil => exact ⟨.nothing, List.mem_singleton_self _, rfl⟩
  | cons item items ih =>
      obtain ⟨⟨a, ha, hcost⟩, hitems⟩ := List.forall_mem_cons.mp hitems
      obtain ⟨b, hb, hcosts⟩ := ih hitems
      refine ⟨a.append b, mem_products_iff.mpr ⟨a, ha, b, hb, rfl⟩, ?_⟩
      rw [dearestOfAll, ← hcost, ← hcosts]
      rfl

/-- Some clause of a formula costs as much. -/
theorem OrsFilled.exists_dearest (h : f.OrsFilled) (hfree : f.macroFree = true) :
    ∃ c ∈ f.exactClauses, c.cost = f.dearest := by
  induction h with
  | connector c => exact ⟨_, List.mem_singleton_self _, rfl⟩
  | empty => exact ⟨_, List.mem_singleton_self _, rfl⟩
  | macroRef name => cases hfree
  | optional h ih =>
      obtain ⟨c, hc, hcost⟩ := ih hfree
      exact ⟨c, List.mem_cons_of_mem _ hc, hcost⟩
  | cost h ih =>
      obtain ⟨c, hc, hcost⟩ := ih hfree
      exact ⟨c.raise, List.mem_map_of_mem hc, congrArg Nat.succ hcost⟩
  | and hitems ih => exact exists_dearestOfAll fun f hf => ih f hf (macroFreeAll_iff.mp hfree f hf)
  | or hne hitems ih =>
      exact exists_dearestOfAny hne fun f hf => ih f hf (macroFreeAll_iff.mp hfree f hf)

/-! ## Costs that are kept -/

/-- Expansion keeps the costs of all clauses of a formula. -/
def StoresCosts (f : Formula) : Prop := ∀ c ∈ f.exactClauses, c.toClause.cost.Keeps c.cost

theorem storesCosts_of_lt (h : f.dearest < 2 ^ 32) : f.StoresCosts := fun _ hc =>
  Cost.keeps_ofNat_iff.mpr ⟨rfl, Nat.lt_of_le_of_lt (cost_le_dearest hc) h⟩

/-- The costs of all clauses are kept just if the greatest of them is. -/
theorem OrsFilled.storesCosts_iff (h : f.OrsFilled) (hfree : f.macroFree = true) :
    f.StoresCosts ↔ f.dearest < 2 ^ 32 := by
  refine ⟨fun hstores => ?_, storesCosts_of_lt⟩
  obtain ⟨c, hc, hcost⟩ := h.exists_dearest hfree
  rw [← hcost]
  exact (Cost.keeps_ofNat_iff.mp (hstores c hc)).2

/-- The exact cost of a disjunct: that of the cheapest clause that becomes it. -/
def ExactCost (f : Formula) (d : Disjunct) (n : Nat) : Prop :=
  IsLeast {n | ∃ c ∈ f.exactClauses, c.sides = d.sides ∧ c.cost = n} n

/-- The cost of a disjunct is that of some clause, as far as it is kept. -/
theorem exists_clause_of_expand (h : f.expand = .ok ds) (hd : d ∈ ds) :
    ∃ c ∈ f.exactClauses, c.sides = d.sides ∧ .ofNat c.cost = d.cost := by
  obtain ⟨_, hmem, hsame, hcost⟩ := (collects_of_expand h).attained d hd
  obtain ⟨c, hc, rfl⟩ := List.mem_map.mp hmem
  exact ⟨c, hc, hsame, hcost⟩

/-- The cost of a disjunct is kept just if all clauses that become it have theirs kept, and it is
then the least of them. -/
theorem keeps_cost_iff (h : f.expand = .ok ds) (hd : d ∈ ds) {n : Nat} :
    d.cost.Keeps n ↔ f.ExactCost d n ∧
      ∀ c ∈ f.exactClauses, c.sides = d.sides → c.cost < 2 ^ 32 := by
  obtain ⟨-, -, -, -, hleast⟩ := expand_meaning h
  constructor
  · intro hkeeps
    obtain ⟨hheld, rfl⟩ := Cost.keeps_iff.mp hkeeps
    have hsmall : ∀ c ∈ f.exactClauses, c.sides = d.sides → c.cost < 2 ^ 32 := by
      intro c hc hsame
      by_contra hlarge
      have hle := (collects_of_expand h).least d hd c.toClause (List.mem_map_of_mem hc) hsame
      rw [toClause, Cost.ofNat_eq_overflow_iff.mpr (Nat.not_lt.mp hlarge)] at hle
      exact hheld (Cost.eq_overflow_of_le hle)
    exact ⟨hleast d hd hsmall, hsmall⟩
  · rintro ⟨hexact, hsmall⟩
    obtain ⟨c, hc, hsame, hcost⟩ := exists_clause_of_expand h hd
    obtain rfl := IsLeast.unique (hleast d hd hsmall) hexact
    rw [Cost.keeps_iff, ← hcost, ne_eq, Cost.ofNat_eq_overflow_iff, Nat.not_le]
    exact ⟨hsmall c hc hsame, rfl⟩

/-! ## Costs doubled by names -/

/-- A bracket around nothing, doubled so many times. -/
def tower : Nat → Formula
  | 0 => .cost .empty
  | n + 1 => .and [tower n, tower n]

theorem orsFilled_tower (n : Nat) : (tower n).OrsFilled := by
  induction n with
  | zero => exact .cost .empty
  | succ n ih => exact .and (by simpa using ih)

theorem macroFree_tower (n : Nat) : (tower n).macroFree = true := by
  induction n with
  | zero => rfl
  | succ n ih => simp [tower, macroFree, macroFreeAll, ih]

/-- Its only clause costs 2^n. -/
theorem exactClauses_tower (n : Nat) : (tower n).exactClauses = [⟨[], 2 ^ n⟩] := by
  induction n with
  | zero => rfl
  | succ n ih =>
      have hdouble : 2 ^ n + 2 ^ n = 2 ^ (n + 1) := by rw [Nat.pow_succ, Nat.mul_two]
      rw [tower, exactClauses, exactClausesOfAll, exactClausesOfAll, exactClausesOfAll,
        ExactClause.products_nothing, ih]
      simp [ExactClause.products, ExactClause.append, hdouble]

theorem dearest_tower (n : Nat) : (tower n).dearest = 2 ^ n := by
  induction n with
  | zero => rfl
  | succ n ih => simp [tower, dearest, dearestOfAll, ih, Nat.pow_succ, Nat.mul_two]

/-- Names that each stand for the one before twice come to a doubled bracket. -/
theorem resolveWithin_tower {definition : String → Option Formula} {name : Nat → String}
    {n : Nat} (hfirst : definition (name 0) = some (.cost .empty))
    (hnext : ∀ k < n, definition (name (k + 1)) =
      some (.and [.macroRef (name k), .macroRef (name k)]))
    {depth : Nat} (hdepth : n < depth) :
    resolveWithin definition depth (.macroRef (name n)) = .ok (tower n) := by
  induction n generalizing depth with
  | zero =>
      obtain ⟨depth, rfl⟩ : ∃ d, depth = d + 1 := ⟨depth - 1, by omega⟩
      rw [resolveWithin, substitute, hfirst]
      cases depth <;> rfl
  | succ n ih =>
      obtain ⟨depth, rfl⟩ : ∃ d, depth = d + 2 := ⟨depth - 2, by omega⟩
      have hbefore : resolveWithin definition (depth + 1) (.macroRef (name n)) = .ok (tower n) :=
        ih (fun k hk => hnext k (by omega)) (by omega)
      rw [resolveWithin, substitute] at hbefore
      rw [resolveWithin, substitute, hnext n (Nat.lt_succ_self n)]
      simp only [resolveWithin, substitute, substituteAll, hbefore]
      rfl

end Formula

end LinkParsing
