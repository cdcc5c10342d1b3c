import LinkParsing.Proofs.Search.Guarded
import LinkParsing.Proofs.Search.Memory

/-!
# A search never goes wrong

The search that checks its steps counts and extracts what the search without checks counts and
extracts, with the same progress, whatever it remembers and whenever its clock rings
(`Guarded.checks_passed`): no check is ever failed.  Each region that is come to is in bounds, as it
is reached from those of the whole sentence (`Reached`), and the parts of an alternative are
narrower, so that the depth of the recursion is never more than the number of words, also where
connectors that may link again keep their cursors in place.
-/

namespace LinkParsing.Search

variable {s : Sentence} {clock : Clock} {r : Region} {nulls index : Nat} {α β : Type}

/-- The regions that a search may come to. -/
inductive Reached (s : Sentence) (nulls : Nat) : Region → Prop where
  | root {root : Nat × Region} (h : root ∈ s.roots nulls) : Reached s nulls root.2
  | left {r : Region} {a : Alternative} (h : Reached s nulls r) (ha : a ∈ s.alternatives r) :
      Reached s nulls a.left
  | right {r : Region} {a : Alternative} (h : Reached s nulls r) (ha : a ∈ s.alternatives r) :
      Reached s nulls a.right

theorem Reached.inBounds (hs : 0 < s.size) (h : Reached s nulls r) : r.InBounds s := by
  induction h with
  | root h => exact inBounds_of_mem_roots hs h
  | left _ ha ih => exact (ih.parts ha).1
  | right _ ha ih => exact (ih.parts ha).2

/-! ## What a step may return -/

/-- Whatever a step returns has this property. -/
def Returns (m : SearchM α) (P : α → Prop) : Prop := ∀ p a q, m p = .ok a q → P a

theorem returns_any (m : SearchM α) : Returns m fun _ => True := fun _ _ _ _ => trivial

theorem returns_pure {P : α → Prop} {a : α} (h : P a) : Returns (pure a) P := by
  intro p b q hb
  cases hb
  exact h

theorem Returns.bind {m : SearchM α} {f : α → SearchM β} {P : α → Prop} {Q : β → Prop}
    (hm : Returns m P) (hf : ∀ a, P a → Returns (f a) Q) : Returns (m >>= f) Q := by
  intro p b q hb
  change EStateM.bind m f p = _ at hb
  unfold EStateM.bind at hb
  cases hmp : m p with
  | ok a p' =>
      rw [hmp] at hb
      exact hf a (hm p a p' hmp) p' b q hb
  | error e p' =>
      rw [hmp] at hb
      cases hb

/-- Every choice of a reading is one of its word, and every link matches. -/
structure Assembly.Valid (s : Sentence) (a : Assembly) : Prop where
  choices : ∀ choice ∈ a.choices, choice.2 < s.numCandidates choice.1
  links : ∀ l ∈ a.links, s.Matches l

theorem Assembly.valid_nothing : Assembly.nothing.Valid s := ⟨nofun, nofun⟩

/-- Two words that meet make no link but one that matches. -/
theorem Meets.matches {u v : Nat} {a b e f : Option Cursor} {link : Option LinkRef}
    (h : Meets s u a v b link e f) : ∀ l ∈ link.toList, s.Matches l := by
  cases h with
  | apart => exact nofun
  | linked hlink _ _ =>
      obtain ⟨-, -, -, -, hmatches⟩ := matching_eq_some.mp hlink
      exact List.forall_mem_singleton.mpr hmatches

theorem Assembly.Valid.join {a : Alternative} {left right : Assembly} (ha : a ∈ s.alternatives r)
    (hleft : left.Valid s) (hright : right.Valid s) : (Assembly.join a left right).Valid s := by
  obtain ⟨_, _, hsplit⟩ := mem_alternatives.mp ha
  constructor
  · simp only [Assembly.join, List.cons_append, List.forall_mem_cons, List.forall_mem_append]
    exact ⟨hsplit.candidate_lt, hleft.choices, hright.choices⟩
  · simp only [Assembly.join, hsplit.links_eq, List.forall_mem_append]
    exact ⟨⟨⟨hsplit.left_meets.matches, hsplit.right_meets.matches⟩, hleft.links⟩, hright.links⟩

/-- The alternative to which a number belongs is one of those looked at. -/
theorem returns_pick (alts : List Alternative) :
    Returns (pick s clock index alts) fun found => ∀ picked ∈ found, picked.1 ∈ alts := by
  induction alts generalizing index with
  | nil => exact returns_pure nofun
  | cons a rest ih =>
      have hrest : ∀ i, Returns (pick s clock i rest) fun found =>
          ∀ picked ∈ found, picked.1 ∈ a :: rest := fun i =>
        fun p found q h picked hpicked => List.mem_cons_of_mem a (ih p found q h picked hpicked)
      unfold pick
      refine (returns_any _).bind fun first _ => ?_
      split
      next => exact hrest index
      next =>
        refine (returns_any _).bind fun second _ => ?_
        simp only
        split
        next =>
          apply returns_pure
          rintro picked ⟨⟩
          exact List.mem_cons_self
        next => exact hrest _

theorem returns_assembleWithin (width : Nat) (r : Region) (index : Nat) :
    Returns (assembleWithin s clock width r index) (Assembly.Valid s) := by
  induction width generalizing r index with
  | zero => exact returns_pure Assembly.valid_nothing
  | succ width ih =>
      unfold assembleWithin
      split
      next => exact returns_pure Assembly.valid_nothing
      next =>
        refine (returns_pick _).bind fun found hfound => ?_
        cases found with
        | none => exact returns_pure Assembly.valid_nothing
        | some picked =>
            refine (ih _ _).bind fun left hleft => (ih _ _).bind fun right hright => ?_
            exact returns_pure (.join (hfound picked rfl) hleft hright)

theorem returns_assembleRoots {roots : List (Nat × Region)}
    (hroots : ∀ root ∈ roots, root.1 < s.numCandidates 0) :
    Returns (assembleRoots s clock index roots) fun found => ∀ a ∈ found, a.Valid s := by
  induction roots generalizing index with
  | nil => exact returns_pure nofun
  | cons root rest ih =>
      obtain ⟨hroot, hrest⟩ := List.forall_mem_cons.mp hroots
      unfold assembleRoots
      refine (returns_any _).bind fun n _ => ?_
      split
      next =>
        refine (returns_assembleWithin _ _ _).bind fun inner hinner => returns_pure ?_
        rintro a ⟨⟩
        exact ⟨List.forall_mem_cons.mpr ⟨hroot, hinner.choices⟩, hinner.links⟩
      next => exact ih hrest

theorem returns_assemble :
    Returns (assemble s nulls clock index) fun found => ∀ a ∈ found, a.Valid s :=
  returns_assembleRoots fun _ hroot => (mem_roots.mp hroot).1

/-! ## The search with checks -/

/-- Why a search with checks ends before its time. -/
inductive Halt where
  /-- The time is up. -/
  | expired
  /-- A check is failed. -/
  | fault (fault : Fault)

/-- A step of a search with checks. -/
abbrev GuardedM := EStateM Halt Progress

namespace Guarded

/-- A step without checks, taken as it is. -/
def lift (m : SearchM α) : GuardedM α := fun p =>
  match m p with
  | .ok a q => .ok a q
  | .error .expired q => .error .expired q

/-- The outcome of a check. -/
def check : Except Fault α → GuardedM α
  | .ok a => pure a
  | .error fault => throw (.fault fault)

/-- The alternatives of a region, whose parts must be narrower. -/
def split (s : Sentence) (r : Region) : Except Fault (List Alternative) := do
  let alts ← alternatives s r
  require (∀ a ∈ alts, a.left.width < r.width ∧ a.right.width < r.width) .notNarrower
  return alts

/-- Add up the counts of alternatives, given how to count a region. -/
def sumAlternatives (count : Region → GuardedM Nat) (total : Nat) :
    List Alternative → GuardedM Nat
  | [] => pure total
  | a :: rest => do
    let first ← count a.left
    if first = 0 then sumAlternatives count total rest
    else
      let second ← count a.right
      sumAlternatives count (addCounts total (mulCounts first second)) rest

/-- The number of linkages of a region, found with recursion that is at most so deep. -/
def countWithin (s : Sentence) (clock : Clock) : Nat → Region → GuardedM Nat
  | depth, r => do
    check (require (r.InBounds s) .outOfBounds)
    match ← check (baseCount r) with
    | some n => pure n
    | none =>
      let p ← get
      match p.memo[r]? with
      | some n => pure n
      | none =>
        match depth with
        | 0 => check (.error .tooDeep)
        | depth + 1 =>
          lift (tick clock)
          let alts ← check (split s r)
          let total ← sumAlternatives (countWithin s clock depth) 0 alts
          lift (remember r total)
          return total

/-- The number of linkages of a region, found with recursion that is at most as deep as there are
words. -/
def count (s : Sentence) (clock : Clock) (r : Region) : GuardedM Nat :=
  countWithin s clock s.size r

/-- Add up the counts of the regions of the whole sentence. -/
def sumRoots (s : Sentence) (clock : Clock) (total : Nat) : List (Nat × Region) → GuardedM Nat
  | [] => pure total
  | (_, root) :: roots => do
    let n ← count s clock root
    sumRoots s clock (addCounts total n) roots

/-- The number of linkages of a sentence in which exactly so many words have no links. -/
def countLinkages (s : Sentence) (nulls : Nat) (clock : Clock) : GuardedM Nat := do
  let roots ← check (roots s nulls)
  sumRoots s clock 0 roots

/-- The numbers of the two parts of a linkage, which must be below their counts. -/
def partNumbers (index first second : Nat) : Except Fault (Nat × Nat) := do
  let numbers ← divide index second
  require (numbers.1 < first ∧ numbers.2 < second) .outOfCount
  return numbers

/-- Find the alternative to which a number belongs, and the numbers of its parts. -/
def pick (s : Sentence) (clock : Clock) (index : Nat) :
    List Alternative → GuardedM (Option (Alternative × Nat × Nat))
  | [] => pure none
  | a :: rest => do
    let first ← count s clock a.left
    if first = 0 then pick s clock index rest
    else
      let second ← count s clock a.right
      let here := mulCounts first second
      if index < here then
        let numbers ← check (partNumbers index first second)
        return some (a, numbers)
      else
        let remaining ← check (subtract index here)
        pick s clock remaining rest

/-- The linkage with a number of a region, found with recursion that is at most so deep. -/
def assembleWithin (s : Sentence) (clock : Clock) : Nat → Region → Nat → GuardedM Assembly
  | depth, r, index => do
    check (require (r.InBounds s) .outOfBounds)
    match ← check (baseCount r) with
    | some _ => pure .nothing
    | none =>
      match depth with
      | 0 => check (.error .tooDeep)
      | depth + 1 =>
        let alts ← check (split s r)
        match ← pick s clock index alts with
        | none => return .nothing
        | some (a, leftIndex, rightIndex) =>
          check (require (a.word < s.size) .outOfRange)
          let left ← assembleWithin s clock depth a.left leftIndex
          let right ← assembleWithin s clock depth a.right rightIndex
          return .join a left right

/-- The linkage with a number among those of the whole sentence, if there is one. -/
def assembleRoots (s : Sentence) (clock : Clock) (index : Nat) :
    List (Nat × Region) → GuardedM (Option Assembly)
  | [] => pure none
  | (candidate, root) :: roots => do
    let n ← count s clock root
    if index < n then
      check (require (0 < s.size) .outOfRange)
      let inner ← assembleWithin s clock s.size root index
      return some { inner with choices := (0, candidate) :: inner.choices }
    else
      let remaining ← check (subtract index n)
      assembleRoots s clock remaining roots

/-- A word with the reading chosen for it, or without links if none was. -/
def linkageWord (word : SentenceWord) : Option Nat → Except Fault LinkageWord
  | some c => do
    let reading ← access word.candidates[c]?
    let disjunct := reading.disjunct
    return ⟨reading.display, word.isWall, false, some disjunct.toText, disjunct.cost⟩
  | none => .ok ⟨"[" ++ word.token ++ "]", word.isWall, true, none, 0⟩

/-- A link with the texts of its connectors. -/
def link (s : Sentence) (l : LinkRef) : Except Fault Link := do
  let a ← connector s .right l.leftWord l.leftCursor
  let b ← connector s .left l.rightWord l.rightCursor
  return ⟨l.leftWord, l.rightWord, a.linkLabel b, a.toText, b.toText⟩

/-- The linkage that readings and links amount to. -/
def toLinkage (s : Sentence) (a : Assembly) : Except Fault Linkage := do
  let words ← gather (fun (word, i) => return [← linkageWord word (a.choices.lookup i)])
    s.toList.zipIdx
  let links ← gather (fun l => return [← link s l]) a.links
  return .ofLinks words links

/-- The linkage with a number, if there is one. -/
def extract (s : Sentence) (nulls : Nat) (clock : Clock) (index : Nat) :
    GuardedM (Option Linkage) := do
  let roots ← check (roots s nulls)
  match ← assembleRoots s clock index roots with
  | none => return none
  | some a =>
    let linkage ← check (toLinkage s a)
    return some linkage

/-! ## The checks are passed -/

/-- A step without checks fails no check. -/
theorem lift_ne_fault (m : SearchM α) (p q : Progress) (fault : Fault) :
    lift m p ≠ .error (.fault fault) q := by
  unfold lift
  cases m p with
  | ok a q => nofun
  | error e q => nofun

/-- After a step without checks, what follows need only be right for what the step may return. -/
theorem lift_bind {m : SearchM α} {f : α → SearchM β} {g : α → GuardedM β} {P : α → Prop}
    (hm : Returns m P) (hg : ∀ a, P a → g a = lift (f a)) : lift m >>= g = lift (m >>= f) := by
  funext p
  change EStateM.bind (lift m) g p = lift (EStateM.bind m f) p
  unfold EStateM.bind
  simp only [lift]
  cases hmp : m p with
  | ok a q => exact congrFun (hg a (hm p a q hmp)) q
  | error e q => rfl

theorem check_ok_bind (a : α) (f : α → GuardedM β) : check (.ok a) >>= f = f a := rfl

theorem split_eq (h : r.InBounds s) : split s r = .ok (s.alternatives r) := by
  rw [split, alternatives_eq h]
  simp only [bind, Except.bind, require_of (fun a ha => alternatives_narrower ha)]
  rfl

theorem sumAlternatives_eq {guarded : Region → GuardedM Nat} {count : Region → SearchM Nat}
    {alts : List Alternative} {total : Nat}
    (h : ∀ a ∈ alts, guarded a.left = lift (count a.left) ∧
      guarded a.right = lift (count a.right)) :
    sumAlternatives guarded total alts = lift (Search.sumAlternatives count total alts) := by
  induction alts generalizing total with
  | nil => rfl
  | cons a rest ih =>
      obtain ⟨⟨hleft, hright⟩, hrest⟩ := List.forall_mem_cons.mp h
      rw [sumAlternatives, Search.sumAlternatives, hleft]
      refine lift_bind (returns_any _) fun first _ => ?_
      split
      next => exact ih hrest
      next =>
        rw [hright]
        exact lift_bind (returns_any _) fun second _ => ih hrest

/-- The recursion is never deeper than a region is wide. -/
theorem countWithin_eq {depth width : Nat} (h : r.InBounds s) (hdepth : r.width ≤ depth)
    (hwidth : r.width ≤ width) :
    countWithin s clock depth r = lift (Search.countWithin s clock width r) := by
  induction depth generalizing r width with
  | zero => exact absurd h.width_pos (by omega)
  | succ depth ih =>
      cases width with
      | zero => exact absurd h.width_pos (by omega)
      | succ width =>
          unfold countWithin Search.countWithin
          rw [require_of h, check_ok_bind, baseCount_eq h.leftWord_lt, check_ok_bind]
          cases r.baseCount? with
          | some n => rfl
          | none =>
              refine lift_bind (m := get) (returns_any _) fun p _ => ?_
              cases p.memo[r]? with
              | some n => rfl
              | none =>
                  -- Both parts are in bounds, and narrower by at least one word.
                  have hparts : ∀ a ∈ s.alternatives r,
                      countWithin s clock depth a.left =
                        lift (Search.countWithin s clock width a.left) ∧
                      countWithin s clock depth a.right =
                        lift (Search.countWithin s clock width a.right) := by
                    intro a ha
                    obtain ⟨hleft, hright⟩ := h.parts ha
                    obtain ⟨hleft', hright'⟩ := alternatives_narrower ha
                    exact ⟨ih hleft (by omega) (by omega), ih hright (by omega) (by omega)⟩
                  refine lift_bind (returns_any _) fun _ _ => ?_
                  rw [split_eq h, check_ok_bind, sumAlternatives_eq hparts]
                  refine lift_bind (returns_any _) fun total _ => ?_
                  exact lift_bind (returns_any _) fun _ _ => rfl

theorem count_eq (h : r.InBounds s) : count s clock r = lift (Search.count s clock r) :=
  countWithin_eq h h.width_le le_rfl

theorem sumRoots_eq {roots : List (Nat × Region)} {total : Nat}
    (h : ∀ root ∈ roots, root.2.InBounds s) :
    sumRoots s clock total roots = lift (Search.sumRoots s clock total roots) := by
  induction roots generalizing total with
  | nil => rfl
  | cons root rest ih =>
      obtain ⟨hroot, hrest⟩ := List.forall_mem_cons.mp h
      rw [sumRoots, Search.sumRoots, count_eq hroot]
      exact lift_bind (returns_any _) fun n _ => ih hrest

theorem countLinkages_eq (hs : 0 < s.size) :
    countLinkages s nulls clock = lift (Search.countLinkages s nulls clock) := by
  rw [countLinkages, roots_eq hs, check_ok_bind]
  exact sumRoots_eq fun root hroot => inBounds_of_mem_roots hs hroot

/-- A number below the count of an alternative gives each part a number below its count. -/
theorem partNumbers_eq {first second : Nat} (h : index < mulCounts first second) :
    partNumbers index first second = .ok (index / second, index % second) := by
  -- The product that stops growing is at most the true one.
  have hlt : index < first * second := h.trans_le (Nat.min_le_right _ _)
  have hpos : 0 < second := Nat.pos_of_ne_zero fun hzero => by simp [hzero] at hlt
  have hnumbers : index / second < first ∧ index % second < second :=
    ⟨Nat.div_lt_of_lt_mul (Nat.mul_comm first second ▸ hlt), Nat.mod_lt _ hpos⟩
  rw [partNumbers, divide_of_ne_zero hpos.ne']
  simp only [bind, Except.bind, require_of hnumbers]
  rfl

theorem pick_eq {alts : List Alternative}
    (h : ∀ a ∈ alts, a.left.InBounds s ∧ a.right.InBounds s) :
    pick s clock index alts = lift (Search.pick s clock index alts) := by
  induction alts generalizing index with
  | nil => rfl
  | cons a rest ih =>
      obtain ⟨⟨hleft, hright⟩, hrest⟩ := List.forall_mem_cons.mp h
      rw [pick, Search.pick, count_eq hleft]
      refine lift_bind (returns_any _) fun first _ => ?_
      split
      next => exact ih hrest
      next =>
        rw [count_eq hright]
        refine lift_bind (returns_any _) fun second _ => ?_
        simp only
        split
        next hhere =>
          rw [partNumbers_eq hhere]
          rfl
        next hhere =>
          rw [subtract_of_le (Nat.le_of_not_lt hhere), check_ok_bind]
          exact ih hrest

theorem assembleWithin_eq {depth width : Nat} (h : r.InBounds s) (hdepth : r.width ≤ depth)
    (hwidth : r.width ≤ width) :
    assembleWithin s clock depth r index = lift (Search.assembleWithin s clock width r index) := by
  induction depth generalizing r width index with
  | zero => exact absurd h.width_pos (by omega)
  | succ depth ih =>
      cases width with
      | zero => exact absurd h.width_pos (by omega)
      | succ width =>
          unfold assembleWithin Search.assembleWithin
          rw [require_of h, check_ok_bind, baseCount_eq h.leftWord_lt, check_ok_bind]
          cases r.baseCount? with
          | some n => rfl
          | none =>
              simp only [Option.isSome_none, Bool.false_eq_true, if_false]
              rw [split_eq h, check_ok_bind, pick_eq fun a ha => h.parts ha]
              refine lift_bind (returns_pick _) fun found hfound => ?_
              cases found with
              | none => rfl
              | some picked =>
                  -- What is picked is an alternative of the region, so its parts are narrower too.
                  obtain ⟨a, leftIndex, rightIndex⟩ := picked
                  have ha : a ∈ s.alternatives r := hfound _ rfl
                  obtain ⟨hleft, hright⟩ := h.parts ha
                  obtain ⟨hleft', hright'⟩ := alternatives_narrower ha
                  have hword : a.word < s.size := by
                    obtain ⟨_, _, hsplit⟩ := mem_alternatives.mp ha
                    exact hsplit.lt_rightWord.trans_le h.rightWord_le
                  have hfirst : assembleWithin s clock depth a.left leftIndex =
                      lift (Search.assembleWithin s clock width a.left leftIndex) :=
                    ih hleft (by omega) (by omega)
                  have hsecond : assembleWithin s clock depth a.right rightIndex =
                      lift (Search.assembleWithin s clock width a.right rightIndex) :=
                    ih hright (by omega) (by omega)
                  simp only [require_of hword, check_ok_bind, hfirst, hsecond]
                  refine lift_bind (returns_any _) fun left _ => ?_
                  exact lift_bind (returns_any _) fun right _ => rfl

theorem assembleRoots_eq (hs : 0 < s.size) {roots : List (Nat × Region)}
    (h : ∀ root ∈ roots, root.2.InBounds s) :
    assembleRoots s clock index roots = lift (Search.assembleRoots s clock index roots) := by
  induction roots generalizing index with
  | nil => rfl
  | cons root rest ih =>
      obtain ⟨hroot, hrest⟩ := List.forall_mem_cons.mp h
      rw [assembleRoots, Search.assembleRoots, count_eq hroot]
      refine lift_bind (returns_any _) fun n _ => ?_
      split
      next =>
        rw [require_of hs, check_ok_bind, assembleWithin_eq hroot hroot.width_le le_rfl]
        exact lift_bind (returns_any _) fun inner _ => rfl
      next hge =>
        rw [subtract_of_le (Nat.le_of_not_lt hge), check_ok_bind]
        exact ih hrest

theorem linkageWord_eq {word : SentenceWord} {choice : Option Nat}
    (h : ∀ c ∈ choice, c < word.candidates.size) :
    linkageWord word choice = .ok (Search.linkageWord word choice) := by
  cases choice with
  | none => rfl
  | some c =>
      obtain ⟨reading, hreading⟩ : ∃ reading, word.candidates[c]? = some reading :=
        ⟨_, Array.getElem?_eq_getElem (h c rfl)⟩
      simp only [linkageWord, Search.linkageWord, Option.bind_some, hreading]
      rfl

theorem link_eq {l : LinkRef} (h : s.Matches l) :
    ∃ k, link s l = .ok k ∧ link? s l = some k := by
  obtain ⟨a, b, ha, hb, -⟩ := h
  have hleft : s.connector? .right l.leftWord l.leftCursor = some a := ha
  have hright : s.connector? .left l.rightWord l.rightCursor = some b := hb
  rw [link, connector_eq hleft, connector_eq hright, link?, ha, hb]
  exact ⟨_, rfl, rfl⟩

/-- The linkage of valid readings and links. -/
theorem toLinkage_eq {a : Assembly} (h : a.Valid s) : toLinkage s a = .ok (a.toLinkage s) := by
  have hwords : gather (fun (word, i) => return [← linkageWord word (a.choices.lookup i)])
      s.toList.zipIdx = .ok (s.toList.zipIdx.flatMap fun (word, i) =>
        [Search.linkageWord word (a.choices.lookup i)]) := by
    apply gather_eq
    rintro ⟨word, i⟩ hword
    have hget : s[i]? = some word := by
      simpa using List.mem_zipIdx_iff_getElem?.mp hword
    have hchoice : ∀ c ∈ a.choices.lookup i, c < word.candidates.size := by
      intro c hc
      obtain ⟨before, after, heq, -⟩ := List.lookup_eq_some_iff.mp hc
      have hlt : c < s.numCandidates i := h.choices (i, c) (by rw [heq]; simp)
      rwa [Sentence.numCandidates, hget] at hlt
    simp only [linkageWord_eq hchoice]
    rfl
  have hlinks : gather (fun l => return [← link s l]) a.links =
      .ok (a.links.flatMap fun l => (link? s l).toList) := by
    apply gather_eq
    intro l hl
    obtain ⟨k, hk, hk'⟩ := link_eq (h.links l hl)
    simp only [hk, hk']
    rfl
  rw [toLinkage, hwords, hlinks, Assembly.toLinkage, List.mapIdx_eq_zipIdx_map,
    List.filterMap_eq_flatMap_toList, List.map_eq_flatMap]
  rfl

theorem extract_eq (hs : 0 < s.size) :
    extract s nulls clock index = lift (Search.extract s nulls clock index) := by
  rw [extract, roots_eq hs, check_ok_bind,
    assembleRoots_eq hs fun root hroot => inBounds_of_mem_roots hs hroot]
  refine lift_bind returns_assemble fun found hfound => ?_
  cases found with
  | none => rfl
  | some a =>
      simp only [toLinkage_eq (hfound a rfl)]
      rfl

end Guarded

/-- In a sentence that has words, each region that a search may come to is in bounds, with both
parts of each of its alternatives narrower.  A search that checks this, its arithmetic, every access
and the depth of its recursion fails no check: it counts and extracts, from any progress on and with
any clock, what the search without checks does. -/
theorem never_at_fault (s : Sentence) (hs : 0 < s.size) (nulls : Nat) :
    (∀ r, Reached s nulls r → r.InBounds s ∧
      ∀ a ∈ s.alternatives r, a.left.width < r.width ∧ a.right.width < r.width) ∧
    ∀ clock,
      Guarded.countLinkages s nulls clock = Guarded.lift (countLinkages s nulls clock) ∧
      (∀ index, Guarded.extract s nulls clock index = Guarded.lift (extract s nulls clock index)) ∧
      ∀ p fault q, Guarded.countLinkages s nulls clock p ≠ .error (.fault fault) q ∧
        ∀ index, Guarded.extract s nulls clock index p ≠ .error (.fault fault) q := by
  have hcount : ∀ clock, Guarded.countLinkages s nulls clock =
      Guarded.lift (countLinkages s nulls clock) := fun _ => Guarded.countLinkages_eq hs
  have hextract : ∀ clock index, Guarded.extract s nulls clock index =
      Guarded.lift (extract s nulls clock index) := fun _ _ => Guarded.extract_eq hs
  refine ⟨fun r hr => ⟨hr.inBounds hs, fun a => alternatives_narrower⟩, fun clock =>
    ⟨hcount clock, hextract clock, fun p fault q => ⟨?_, fun index => ?_⟩⟩⟩
  · rw [hcount]
    exact Guarded.lift_ne_fault _ p q fault
  · rw [hextract]
    exact Guarded.lift_ne_fault _ p q fault

/-- A sentence in which all connectors may link again, so that no cursor ever has to go on. -/
def stayingSentence : Sentence :=
  let right : Connector := ⟨['X'], [], .right, true⟩
  let left : Connector := ⟨['X'], [], .left, true⟩
  #[⟨"LEFT-WALL", .wall, #[⟨"LEFT-WALL", ⟨[], [right], 0⟩⟩]⟩,
    ⟨"a", .lexicon, #[⟨"a", ⟨[left], [right], 0⟩⟩]⟩,
    ⟨"a", .lexicon, #[⟨"a", ⟨[left], [], 0⟩⟩]⟩]

/-- The search with checks counts the linkage of a chain, and the one in which a connector links
twice. -/
theorem never_at_fault_staying : 0 < stayingSentence.size ∧
    ∃ q, Guarded.countLinkages stayingSentence 0 .never .start = .ok 2 q := by
  have hsize : 0 < stayingSentence.size := by decide
  -- The memory cannot be evaluated, but the count does not depend on it.
  have hplain : plainLinkages stayingSentence 0 = 2 := by decide +kernel
  obtain ⟨q, hq⟩ := (hplain ▸ gives_countLinkages 0 :
    Gives stayingSentence .never (countLinkages stayingSentence 0 .never) 2).never truthful_start
  obtain ⟨hguarded, -⟩ := (never_at_fault stayingSentence hsize 0).2 .never
  refine ⟨hsize, q, ?_⟩
  rw [hguarded, Guarded.lift, hq]

end LinkParsing.Search
