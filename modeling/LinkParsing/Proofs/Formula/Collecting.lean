import LinkParsing.Formula.Expansion
import LinkParsing.Proofs.Cost
import Mathlib.Data.List.Induction
import Mathlib.Data.List.Perm.Subperm

/-!
# Clauses collected to disjuncts

Clauses are collected one after the other.  A clause whose connectors have not occurred becomes
a new disjunct at the end; any other one can only lower the cost of the disjunct there is.  So
the disjuncts of a list of clauses are those of its clauses by their connectors, in order of
first occurrence, each at the lowest cost of the clauses that become it (`collects_ofClauses`).
-/

namespace LinkParsing

/-- The connectors of a disjunct, those to its left and those to its right. -/
def Disjunct.sides (d : Disjunct) : List Connector × List Connector := (d.left, d.right)

/-- The connectors of the disjunct that a clause becomes. -/
def Clause.sides (c : Clause) : List Connector × List Connector := c.toDisjunct.sides

namespace Disjunct

variable {d new : Disjunct} {ds : List Disjunct} {cs : List Clause}

theorem sameSides_iff (a b : Disjunct) : a.sameSides b = true ↔ a.sides = b.sides := by
  simp [sameSides, sides]

/-! ## Adding one disjunct -/

theorem addTo_of_not_mem (h : new.sides ∉ ds.map sides) : new.addTo ds = ds ++ [new] := by
  induction ds with
  | nil => rfl
  | cons d ds ih =>
      rw [List.map_cons, List.mem_cons, not_or] at h
      have hother : ¬d.sameSides new = true := fun hsame =>
        h.1 ((sameSides_iff d new).mp hsame).symm
      rw [addTo, if_neg hother, ih h.2, List.cons_append]

theorem map_sides_addTo_of_mem (h : new.sides ∈ ds.map sides) :
    (new.addTo ds).map sides = ds.map sides := by
  induction ds with
  | nil => exact nomatch h
  | cons d ds ih =>
      rw [addTo]
      split
      next => rfl
      next hother =>
        have hne : new.sides ≠ d.sides := fun heq => hother ((sameSides_iff d new).mpr heq.symm)
        rw [List.map_cons, List.map_cons, ih ((List.mem_cons.mp h).resolve_left hne)]

/-- Where its connectors have occurred, a disjunct lowers the cost of the one that has them and
leaves the others alone. -/
theorem of_mem_addTo (hnodup : (ds.map sides).Nodup) (h : new.sides ∈ ds.map sides)
    (hd : d ∈ new.addTo ds) : (d ∈ ds ∧ d.sides ≠ new.sides) ∨
      ∃ old ∈ ds, old.sides = new.sides ∧ d = { old with cost := min old.cost new.cost } := by
  induction ds with
  | nil => exact nomatch h
  | cons old ds ih =>
      obtain ⟨hold, hnodup⟩ := List.nodup_cons.mp hnodup
      rw [addTo] at hd
      split at hd
      next hsame =>
        have hsides := (sameSides_iff old new).mp hsame
        rcases List.mem_cons.mp hd with rfl | hd
        · exact .inr ⟨old, List.mem_cons_self, hsides, rfl⟩
        · refine .inl ⟨List.mem_cons_of_mem old hd, fun heq => hold ?_⟩
          rw [hsides, ← heq]
          exact List.mem_map_of_mem hd
      next hother =>
        have hne : old.sides ≠ new.sides := fun heq => hother ((sameSides_iff old new).mpr heq)
        rcases List.mem_cons.mp hd with rfl | hd
        · exact .inl ⟨List.mem_cons_self, hne⟩
        · rcases ih hnodup ((List.mem_cons.mp h).resolve_left hne.symm) hd with
            ⟨hmem, hsides⟩ | ⟨old', hmem, hsides, rfl⟩
          · exact .inl ⟨List.mem_cons_of_mem old hmem, hsides⟩
          · exact .inr ⟨old', List.mem_cons_of_mem old hmem, hsides, rfl⟩

/-! ## Collecting all of them -/

/-- These are the different disjuncts of the clauses, in order of first occurrence and at the
lowest cost each. -/
structure Collects (cs : List Clause) (ds : List Disjunct) : Prop where
  mem_iff : ∀ p, p ∈ ds.map sides ↔ p ∈ cs.map Clause.sides
  ordered : (ds.map sides).Pairwise fun p q =>
    (cs.map Clause.sides).idxOf p < (cs.map Clause.sides).idxOf q
  attained : ∀ d ∈ ds, ∃ c ∈ cs, c.sides = d.sides ∧ c.cost = d.cost
  least : ∀ d ∈ ds, ∀ c ∈ cs, c.sides = d.sides → d.cost ≤ c.cost

theorem Collects.nodup (h : Collects cs ds) : (ds.map sides).Nodup := by
  refine List.Pairwise.imp ?_ h.ordered
  rintro p _ hlt rfl
  exact Nat.lt_irrefl _ hlt

/-- There are as many disjuncts as clauses at most. -/
theorem Collects.length_le (h : Collects cs ds) : ds.length ≤ cs.length := by
  have hsub : ds.map sides ⊆ cs.map Clause.sides := fun p hp => (h.mem_iff p).mp hp
  simpa using (List.subperm_of_subset h.nodup hsub).length_le

/-- Where there is a clause, there is a disjunct. -/
theorem Collects.length_pos (h : Collects cs ds) (hcs : cs ≠ []) : 0 < ds.length := by
  obtain ⟨c, hc⟩ := List.exists_mem_of_ne_nil cs hcs
  have hmem := (h.mem_iff c.sides).mpr (List.mem_map_of_mem hc)
  simpa using List.length_pos_of_mem hmem

/-- Further clauses do not change which of the connectors occurred first. -/
theorem Collects.ordered_append (h : Collects cs ds) (c : Clause) :
    (ds.map sides).Pairwise fun p q =>
      ((cs ++ [c]).map Clause.sides).idxOf p < ((cs ++ [c]).map Clause.sides).idxOf q := by
  refine h.ordered.imp_of_mem fun {p q} hp hq hlt => ?_
  rw [List.map_append, List.idxOf_append_of_mem ((h.mem_iff p).mp hp),
    List.idxOf_append_of_mem ((h.mem_iff q).mp hq)]
  exact hlt

/-- One clause more whose connectors have not occurred. -/
theorem Collects.add_new (h : Collects cs ds) {c : Clause} (hnew : c.sides ∉ ds.map sides) :
    Collects (cs ++ [c]) (c.toDisjunct.addTo ds) := by
  rw [addTo_of_not_mem hnew]
  constructor
  case mem_iff =>
    intro p
    rw [List.map_append, List.map_append, List.mem_append, List.mem_append, h.mem_iff]
    rfl
  case ordered =>
    have happend : (ds ++ [c.toDisjunct]).map sides = ds.map sides ++ [c.sides] := List.map_append
    rw [happend, List.pairwise_append]
    refine ⟨h.ordered_append c, List.pairwise_singleton _ _, fun p hp q hq => ?_⟩
    obtain rfl : q = c.sides := List.mem_singleton.mp hq
    have hmem := (h.mem_iff p).mp hp
    have hfresh : c.sides ∉ cs.map Clause.sides := fun hc => hnew ((h.mem_iff _).mpr hc)
    rw [List.map_append, List.idxOf_append_of_mem hmem, List.idxOf_append_of_notMem hfresh]
    exact Nat.lt_of_lt_of_le (List.idxOf_lt_length_of_mem hmem) (Nat.le_add_right _ _)
  case attained =>
    intro d hd
    rcases List.mem_append.mp hd with hd | hd
    · obtain ⟨b, hb, hsides⟩ := h.attained d hd
      exact ⟨b, List.mem_append_left _ hb, hsides⟩
    · obtain rfl : d = c.toDisjunct := List.mem_singleton.mp hd
      exact ⟨c, List.mem_append_right _ List.mem_cons_self, rfl, rfl⟩
  case least =>
    intro d hd b hb hsides
    rcases List.mem_append.mp hd with hd' | hd' <;> rcases List.mem_append.mp hb with hb' | hb'
    · exact h.least d hd' b hb' hsides
    · obtain rfl : b = c := List.mem_singleton.mp hb'
      rw [hsides] at hnew
      exact absurd (List.mem_map_of_mem hd') hnew
    · obtain rfl : d = c.toDisjunct := List.mem_singleton.mp hd'
      have hmem : b.sides ∈ cs.map Clause.sides := List.mem_map_of_mem hb'
      rw [hsides, ← h.mem_iff] at hmem
      exact absurd hmem hnew
    · obtain rfl : d = c.toDisjunct := List.mem_singleton.mp hd'
      obtain rfl : b = c := List.mem_singleton.mp hb'
      exact Cost.le_refl _

/-- One clause more whose connectors have occurred. -/
theorem Collects.add_again (h : Collects cs ds) {c : Clause} (hagain : c.sides ∈ ds.map sides) :
    Collects (cs ++ [c]) (c.toDisjunct.addTo ds) := by
  have hcases {d : Disjunct} (hd : d ∈ c.toDisjunct.addTo ds) :=
    of_mem_addTo h.nodup hagain hd
  constructor
  case mem_iff =>
    intro p
    rw [map_sides_addTo_of_mem hagain, List.map_append, List.mem_append, h.mem_iff]
    refine ⟨.inl, fun hp => hp.elim id fun hp => ?_⟩
    obtain rfl : p = c.sides := List.mem_singleton.mp hp
    exact (h.mem_iff _).mp hagain
  case ordered =>
    rw [map_sides_addTo_of_mem hagain]
    exact h.ordered_append c
  case attained =>
    intro d hd
    rcases hcases hd with ⟨hd, -⟩ | ⟨old, hold, hsides, rfl⟩
    · obtain ⟨b, hb, hsides⟩ := h.attained d hd
      exact ⟨b, List.mem_append_left _ hb, hsides⟩
    · rcases Cost.min_eq_or old.cost c.toDisjunct.cost with hmin | hmin
      · obtain ⟨b, hb, hsides', hcost⟩ := h.attained old hold
        exact ⟨b, List.mem_append_left _ hb, hsides', hcost.trans hmin.symm⟩
      · exact ⟨c, List.mem_append_right _ List.mem_cons_self, hsides.symm, hmin.symm⟩
  case least =>
    intro d hd b hb hsides
    rcases hcases hd with ⟨hd, hne⟩ | ⟨old, hold, hold', rfl⟩ <;>
      rcases List.mem_append.mp hb with hb | hb
    · exact h.least d hd b hb hsides
    · obtain rfl : b = c := List.mem_singleton.mp hb
      exact absurd hsides.symm hne
    · exact Cost.le_trans (Cost.min_le_left _ _) (h.least old hold b hb hsides)
    · obtain rfl : b = c := List.mem_singleton.mp hb
      exact Cost.min_le_right _ _

/-- Collecting gives the different disjuncts of the clauses, in order of first occurrence and at
the lowest cost each. -/
theorem collects_ofClauses (cs : List Clause) : Collects cs (ofClauses cs) := by
  induction cs using List.reverseRecOn with
  | nil => exact ⟨fun _ => Iff.rfl, .nil, nofun, nofun⟩
  | append_singleton cs c ih =>
      rw [ofClauses, List.foldl_concat]
      by_cases hagain : c.sides ∈ (ofClauses cs).map sides
      · exact ih.add_again hagain
      · exact ih.add_new hagain

end Disjunct

end LinkParsing
