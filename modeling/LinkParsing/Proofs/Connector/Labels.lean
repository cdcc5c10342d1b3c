import LinkParsing.Connector

/-!
# The label of a link

Two subscripts are compatible if at every position they are equal, or one of them has a star or
nothing there.  This is no transitive relation: a star is compatible with everything.  Where two
connectors link, though, the subscript of their label is the exact combination of theirs: it is
compatible with just the subscripts that both of them are compatible with (`linkLabel_combines`).
-/

namespace LinkParsing.Connector

/-- What two subscripts have at one position goes together: one of them has nothing there, or a
star, or they have the same. -/
def CompatibleAt (x y : Option Char) : Prop :=
  x = none ∨ y = none ∨ x = some '*' ∨ y = some '*' ∨ x = y

/-- Two subscripts go together at every position. -/
def Compatible (s t : List Char) : Prop := ∀ i : Nat, CompatibleAt s[i]? t[i]?

/-- What a label has at a position: stars and missing positions are filled from the other side. -/
def combinedAt : Option Char → Option Char → Option Char
  | none, y => y
  | x, none => x
  | some x, some y => if x = '*' then some y else some x

variable {s t u : List Char} {x y z : Option Char}

/-! ## One position -/

theorem combinedAt_none_right (x : Option Char) : combinedAt x none = x := by
  cases x <;> rfl

/-- At a position where two subscripts go together it makes no difference which one comes first. -/
theorem CompatibleAt.combinedAt_comm (h : CompatibleAt x y) : combinedAt x y = combinedAt y x := by
  cases x with
  | none => exact (combinedAt_none_right y).symm
  | some x =>
      cases y with
      | none => rfl
      | some y =>
          simp only [CompatibleAt, reduceCtorEq, Option.some.injEq, false_or] at h
          rcases h with rfl | rfl | rfl
          · by_cases hy : y = '*' <;> simp [combinedAt, hy]
          · by_cases hx : x = '*' <;> simp [combinedAt, hx]
          · rfl

/-- What is combined of two positions goes together with just what both of them go together
with. -/
theorem CompatibleAt.combinedAt_iff (h : CompatibleAt x y) :
    CompatibleAt (combinedAt x y) z ↔ CompatibleAt x z ∧ CompatibleAt y z := by
  cases x with
  | none => simp [combinedAt, CompatibleAt]
  | some x =>
      cases y with
      | none => simp [combinedAt, CompatibleAt]
      | some y =>
          simp only [CompatibleAt, reduceCtorEq, Option.some.injEq, false_or] at h
          by_cases hx : x = '*'
          · -- A star gives way, and it goes together with everything.
            simp [combinedAt, CompatibleAt, hx]
          · rcases h with rfl | rfl | rfl
            · exact absurd rfl hx
            · simp [combinedAt, CompatibleAt, hx]
            · simp [combinedAt, hx]

/-! ## Whole subscripts -/

theorem compatible_cons {x y : Char} : Compatible (x :: s) (y :: t) ↔
    (x = '*' ∨ y = '*' ∨ x = y) ∧ Compatible s t := by
  constructor
  · intro h
    refine ⟨?_, fun i => h (i + 1)⟩
    simpa [CompatibleAt] using h 0
  · rintro ⟨hhead, htail⟩ (_ | i)
    · simpa [CompatibleAt] using hhead
    · exact htail i

theorem subscriptsAgree_iff : subscriptsAgree s t = true ↔ Compatible s t := by
  induction s generalizing t with
  | nil => exact ⟨fun _ _ => .inl rfl, fun _ => rfl⟩
  | cons x s ih =>
      cases t with
      | nil => exact ⟨fun _ _ => .inr (.inl rfl), fun _ => rfl⟩
      | cons y t =>
          rw [subscriptsAgree, Bool.and_eq_true, ih, compatible_cons]
          simp [positionsAgree, or_assoc]

theorem getElem?_mergeSubscripts (s t : List Char) (i : Nat) :
    (mergeSubscripts s t)[i]? = combinedAt s[i]? t[i]? := by
  induction s generalizing t i with
  | nil => simp [mergeSubscripts, combinedAt]
  | cons x s ih =>
      cases t with
      | nil => simp [mergeSubscripts, combinedAt_none_right]
      | cons y t =>
          cases i with
          | zero => by_cases hx : x = '*' <;> simp [mergeSubscripts, combinedAt, hx]
          | succ i => simpa [mergeSubscripts] using ih t i

theorem Compatible.mergeSubscripts_comm (h : Compatible s t) :
    mergeSubscripts s t = mergeSubscripts t s := by
  apply List.ext_getElem?
  intro i
  rw [getElem?_mergeSubscripts, getElem?_mergeSubscripts, (h i).combinedAt_comm]

theorem Compatible.mergeSubscripts_iff (h : Compatible s t) :
    Compatible (mergeSubscripts s t) u ↔ Compatible s u ∧ Compatible t u := by
  simp only [Compatible, getElem?_mergeSubscripts, (h _).combinedAt_iff, forall_and]

/-! ## Connectors -/

variable {a b c l : Connector}

theorem linksTo_iff : a.linksTo b = true ↔
    a.direction = .right ∧ b.direction = .left ∧ a.head = b.head ∧
      Compatible a.subscript b.subscript := by
  simp [linksTo, subscriptsAgree_iff, and_assoc]

theorem subscript_eq_of_name_eq_linkLabel (hhead : l.head = a.head)
    (hname : l.name = a.linkLabel b) :
    l.subscript = mergeSubscripts a.subscript b.subscript := by
  have hchars : l.nameChars = a.linkLabelChars b := String.ofList_inj.mp hname
  rw [nameChars, linkLabelChars, hhead] at hchars
  exact List.append_cancel_left hchars

/-- The label of a link is the same from either side.  A connector with the label as its name links
to just those connectors of this head whose subscripts are compatible with those of both ends. -/
theorem linkLabel_combines (h : a.linksTo b = true) :
    a.linkLabel b = b.linkLabel a ∧
      ∀ l c : Connector, l.direction = .right → l.head = a.head → l.name = a.linkLabel b →
        c.direction = .left → c.head = a.head →
          (l.linksTo c = true ↔
            Compatible a.subscript c.subscript ∧ Compatible b.subscript c.subscript) := by
  obtain ⟨-, -, hhead, hcompatible⟩ := linksTo_iff.mp h
  constructor
  · rw [linkLabel, linkLabel, linkLabelChars, linkLabelChars, hhead,
      hcompatible.mergeSubscripts_comm]
  · intro l c hright hl hname hleft hc
    rw [linksTo_iff, subscript_eq_of_name_eq_linkLabel hl hname, hcompatible.mergeSubscripts_iff]
    exact ⟨fun hlinks => hlinks.2.2.2, fun hboth => ⟨hright, hleft, hl.trans hc.symm, hboth⟩⟩

/-- The label of `S*x+` and `Ss-` is `Ssx`.  So `@Ssx+` links to `Ss*y-`, which both are compatible
with, and not to `@Sp-`, which only the first one is compatible with. -/
theorem linkLabel_combines_starred :
    let a : Connector := ⟨['S'], ['*', 'x'], .right, false⟩
    let b : Connector := ⟨['S'], ['s'], .left, false⟩
    let l : Connector := ⟨['S'], ['s', 'x'], .right, true⟩
    let c : Connector := ⟨['S'], ['s', '*', 'y'], .left, false⟩
    let d : Connector := ⟨['S'], ['p'], .left, true⟩
    a.linksTo b = true ∧ a.linkLabel b = b.linkLabel a ∧
      (l.linksTo c = true ∧ Compatible a.subscript c.subscript ∧
        Compatible b.subscript c.subscript) ∧
      (l.linksTo d = false ∧ Compatible a.subscript d.subscript ∧
        ¬Compatible b.subscript d.subscript) := by
  intro a b l c d
  have h : a.linksTo b = true := by decide
  obtain ⟨hlabel, hcombines⟩ := linkLabel_combines h
  have hname : l.name = a.linkLabel b := by decide
  have hc : l.linksTo c = true := by decide
  have hd : l.linksTo d = false := by decide
  have had : Compatible a.subscript d.subscript := subscriptsAgree_iff.mp (by decide)
  refine ⟨h, hlabel, ⟨hc, (hcombines l c rfl rfl hname rfl rfl).mp hc⟩, hd, had, fun hbd => ?_⟩
  have hlinks := (hcombines l d rfl rfl hname rfl rfl).mpr ⟨had, hbd⟩
  exact absurd (hlinks.symm.trans hd) (by decide)

end LinkParsing.Connector
