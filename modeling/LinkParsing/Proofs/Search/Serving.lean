import LinkParsing.Proofs.Search.Wiring

/-!
# Links that serve the connectors of one side of a word

`Serves` says that links use the connectors of a word in one direction from a cursor on:
each of them, only those that may be used again more than once, and earlier ones for
words farther away.

* `Serves.demand_unique` — the links tell the cursor from which on they serve.
* `ServesFrom.cursor_eq` — the farthest link uses the connector at the cursor.
* `serves_insert_iff` — with the farthest link taken away, the others serve what the word
  goes on with: its next connector or, if that may be used again, the same one.
-/

namespace LinkParsing.Search

variable {s : Sentence} {d : Direction} {w : Nat}

/-- The links use the connectors of a word from this cursor on. -/
structure ServesFrom (s : Sentence) (d : Direction) (w : Nat) (c : Cursor)
    (links : Finset LinkRef) : Prop where
  valid : c.position < (s.connectors d w c.candidate).length
  within : ∀ l ∈ links, (l.cursor d).candidate = c.candidate ∧
    c.position ≤ (l.cursor d).position ∧
    (l.cursor d).position < (s.connectors d w c.candidate).length
  used : ∀ p, c.position ≤ p → p < (s.connectors d w c.candidate).length →
    ∃ l ∈ links, l.cursor d = ⟨c.candidate, p⟩
  once : ∀ l ∈ links, ∀ m ∈ links, l.cursor d = m.cursor d → l ≠ m →
    s.endIsMulti d l = true
  farther : ∀ l ∈ links, ∀ m ∈ links, (l.cursor d).position < (m.cursor d).position →
    m.length < l.length

/-- The links use the connectors of a word from this cursor on, or none of them if there
is no cursor. -/
def Serves (s : Sentence) (d : Direction) (w : Nat) : Option Cursor → Finset LinkRef → Prop
  | none, links => links = ∅
  | some c, links => ServesFrom s d w c links

@[simp]
theorem serves_none {links : Finset LinkRef} : Serves s d w none links ↔ links = ∅ :=
  Iff.rfl

/-- The connector at the cursor itself is used. -/
theorem ServesFrom.exists_cursor_eq {c : Cursor} {links : Finset LinkRef}
    (h : ServesFrom s d w c links) : ∃ l ∈ links, l.cursor d = c :=
  h.used c.position le_rfl h.valid

theorem ServesFrom.nonempty {c : Cursor} {links : Finset LinkRef}
    (h : ServesFrom s d w c links) : links.Nonempty := by
  obtain ⟨l, hl, -⟩ := h.exists_cursor_eq
  exact ⟨l, hl⟩

/-- Links serve from some cursor as soon as there are any. -/
theorem Serves.isSome_of_mem {demand : Option Cursor} {links : Finset LinkRef}
    (h : Serves s d w demand links) {l : LinkRef} (hl : l ∈ links) : demand.isSome := by
  cases demand with
  | none =>
      rw [serves_none.mp h] at hl
      simp at hl
  | some c => rfl

private theorem ServesFrom.position_le {c c' : Cursor} {links : Finset LinkRef}
    (h : ServesFrom s d w c links) (h' : ServesFrom s d w c' links) :
    c.candidate = c'.candidate ∧ c'.position ≤ c.position := by
  obtain ⟨l, hl, hc⟩ := h.exists_cursor_eq
  obtain ⟨hcandidate, hposition, -⟩ := h'.within l hl
  rw [hc] at hcandidate hposition
  exact ⟨hcandidate, hposition⟩

/-- The links tell the cursor from which on they serve. -/
theorem Serves.demand_unique {a b : Option Cursor} {links : Finset LinkRef}
    (ha : Serves s d w a links) (hb : Serves s d w b links) : a = b := by
  cases a with
  | none =>
      cases b with
      | none => rfl
      | some c =>
          obtain ⟨l, hl⟩ := ServesFrom.nonempty hb
          have := ha.isSome_of_mem hl
          simp at this
  | some c =>
      cases b with
      | none =>
          obtain ⟨l, hl⟩ := ServesFrom.nonempty ha
          have := hb.isSome_of_mem hl
          simp at this
      | some c' =>
          obtain ⟨hcandidate, hle⟩ := ServesFrom.position_le ha hb
          obtain ⟨-, hge⟩ := ServesFrom.position_le hb ha
          cases c
          cases c'
          simp only at hcandidate hle hge
          rw [hcandidate, le_antisymm hge hle]

/-- The farthest link uses the connector at the cursor. -/
theorem ServesFrom.cursor_eq {c : Cursor} {links : Finset LinkRef}
    (h : ServesFrom s d w c links) {l : LinkRef} (hl : l ∈ links)
    (hfar : ∀ m ∈ links, m.length ≤ l.length) : l.cursor d = c := by
  obtain ⟨m, hm, hc⟩ := h.exists_cursor_eq
  obtain ⟨hcandidate, hposition, -⟩ := h.within l hl
  have hle : (l.cursor d).position ≤ c.position := by
    by_contra hlt
    have hnear : l.length < m.length := h.farther m hm l hl (by rw [hc]; omega)
    have := hfar m hm
    omega
  have heq : (l.cursor d).position = c.position := le_antisymm hle hposition
  cases hcur : l.cursor d
  cases c
  rw [hcur] at hcandidate heq
  simp only at hcandidate heq
  rw [hcandidate, heq]

/-- Links with the same end use connectors that are both multiple or both not. -/
theorem endIsMulti_congr {l m : LinkRef} (hword : l.word d = m.word d)
    (hcursor : l.cursor d = m.cursor d) : s.endIsMulti d l = s.endIsMulti d m := by
  cases d with
  | left =>
      simp only [LinkRef.word_left, LinkRef.cursor_left] at hword hcursor
      simp [Sentence.endIsMulti, Sentence.rightEndIsMulti, hword, hcursor]
  | right =>
      simp only [LinkRef.word_right, LinkRef.cursor_right] at hword hcursor
      simp [Sentence.endIsMulti, Sentence.leftEndIsMulti, hword, hcursor]

/-- What a word may go on with behind a link: its next connector or, if it may be used
again, the same one. -/
def Continues (s : Sentence) (d : Direction) (l : LinkRef) (demand : Option Cursor) : Prop :=
  demand = s.next d (l.word d) (l.cursor d) ∨
    (s.endIsMulti d l = true ∧ demand = some (l.cursor d))

/-- The two words of a link go on independently of each other. -/
theorem mem_continuations {l : LinkRef} {a b : Option Cursor} :
    (a, b) ∈ s.continuations l ↔ Continues s .right l a ∧ Continues s .left l b := by
  have hright : s.nextRight l.leftWord l.leftCursor = s.next .right (l.word .right)
    (l.cursor .right) := rfl
  have hleft : s.nextLeft l.rightWord l.rightCursor = s.next .left (l.word .left)
    (l.cursor .left) := rfl
  have hmr : s.leftEndIsMulti l = s.endIsMulti .right l := rfl
  have hml : s.rightEndIsMulti l = s.endIsMulti .left l := rfl
  simp only [Sentence.continuations, Continues, hright, hleft, hmr, hml]
  cases s.endIsMulti .right l <;> cases s.endIsMulti .left l <;> simp <;> tauto

/-- A word that stays at its connector goes on differently from one that moves. -/
theorem next_ne_self (c : Cursor) : s.next d w c ≠ some c := by
  intro h
  simp only [Sentence.next, Sentence.nextOf] at h
  split at h
  · have := congrArg Cursor.position (Option.some.inj h)
    simp at this
  · simp at h

section Insert

variable {l : LinkRef} {rest : Finset LinkRef}

/-- Taking the farthest link away from links that serve. -/
private theorem ServesFrom.rest_of_insert (hl : l ∉ rest)
    (h : ServesFrom s d (l.word d) (l.cursor d) (insert l rest)) :
    ∃ demand, Continues s d l demand ∧ Serves s d (l.word d) demand rest := by
  have hmem : ∀ m ∈ rest, m ∈ insert l rest := fun m hm => Finset.mem_insert_of_mem hm
  by_cases hagain : ∃ m ∈ rest, m.cursor d = l.cursor d
  · obtain ⟨m, hm, hc⟩ := hagain
    have hne : l ≠ m := fun heq => hl (heq ▸ hm)
    have hmulti := h.once l (Finset.mem_insert_self l rest) m (hmem m hm) hc.symm hne
    refine ⟨some (l.cursor d), .inr ⟨hmulti, rfl⟩, ?_⟩
    refine ⟨h.valid, fun k hk => h.within k (hmem k hk), ?_,
      fun k hk n hn => h.once k (hmem k hk) n (hmem n hn),
      fun k hk n hn => h.farther k (hmem k hk) n (hmem n hn)⟩
    intro p hp hlt
    obtain ⟨k, hk, hkc⟩ := h.used p hp hlt
    rcases Finset.mem_insert.mp hk with rfl | hk
    · exact ⟨m, hm, hc.trans hkc⟩
    · exact ⟨k, hk, hkc⟩
  · -- No other link uses the same connector, so the others begin behind it.
    have hbehind : ∀ m ∈ rest, (l.cursor d).position + 1 ≤ (m.cursor d).position := by
      intro m hm
      obtain ⟨hcandidate, hle, -⟩ := h.within m (hmem m hm)
      rcases Nat.lt_or_ge (l.cursor d).position (m.cursor d).position with hlt | hge
      · exact hlt
      · refine absurd ⟨m, hm, ?_⟩ hagain
        cases hmc : m.cursor d
        cases hlc : l.cursor d
        rw [hmc, hlc] at hcandidate hle hge
        simp only at hcandidate hle hge
        rw [hcandidate, le_antisymm hge hle]
    refine ⟨s.next d (l.word d) (l.cursor d), .inl rfl, ?_⟩
    simp only [Sentence.next, Sentence.nextOf]
    split
    next hlt =>
      refine ⟨hlt, fun k hk => ?_, ?_, fun k hk n hn => h.once k (hmem k hk) n (hmem n hn),
        fun k hk n hn => h.farther k (hmem k hk) n (hmem n hn)⟩
      · obtain ⟨hcandidate, -, hlen⟩ := h.within k (hmem k hk)
        exact ⟨hcandidate, hbehind k hk, hlen⟩
      · intro p hp hlen
        simp only at hp hlen
        obtain ⟨k, hk, hkc⟩ := h.used p (by omega) hlen
        rcases Finset.mem_insert.mp hk with rfl | hk
        · have := congrArg Cursor.position hkc
          simp only at this
          omega
        · exact ⟨k, hk, hkc⟩
    next hge =>
      refine serves_none.mpr (Finset.eq_empty_of_forall_notMem fun k hk => ?_)
      obtain ⟨-, -, hlen⟩ := h.within k (hmem k hk)
      have := hbehind k hk
      omega

/-- Links that serve what a word goes on with behind a link use the connectors behind that of
the link, and the same one only if it may be used again. -/
private theorem Continues.serves_behind {demand : Option Cursor}
    (hcontinues : Continues s d l demand) (h : Serves s d (l.word d) demand rest) :
    (∀ m ∈ rest, (m.cursor d).candidate = (l.cursor d).candidate ∧
      (l.cursor d).position ≤ (m.cursor d).position ∧
      (m.cursor d).position < (s.connectors d (l.word d) (l.cursor d).candidate).length) ∧
    (∀ p, (l.cursor d).position < p →
      p < (s.connectors d (l.word d) (l.cursor d).candidate).length →
      ∃ m ∈ rest, m.cursor d = ⟨(l.cursor d).candidate, p⟩) ∧
    ∀ m ∈ rest, m.cursor d = l.cursor d → s.endIsMulti d l = true := by
  rcases hcontinues with rfl | ⟨hmulti, rfl⟩
  · simp only [Sentence.next, Sentence.nextOf] at h
    split at h
    next hlt =>
      -- The word moves on, so no other link uses the connector of this one.
      have hbehind : ∀ m ∈ rest, (l.cursor d).position + 1 ≤ (m.cursor d).position :=
        fun m hm => (h.within m hm).2.1
      refine ⟨fun m hm => ⟨(h.within m hm).1, ?_, (h.within m hm).2.2⟩, h.used, ?_⟩
      · exact Nat.le_of_succ_le (hbehind m hm)
      · intro m hm hc
        have := hbehind m hm
        rw [hc] at this
        omega
    next hge =>
      -- The connector of the link is the last one.
      obtain rfl := serves_none.mp h
      refine ⟨by simp, fun p hp hlen => ?_, by simp⟩
      omega
  · exact ⟨h.within, fun p hp hlen => h.used p (le_of_lt hp) hlen, fun _ _ _ => hmulti⟩

/-- Adding a link farther than all others to links that serve. -/
private theorem ServesFrom.insert_of_rest
    (hvalid : (l.cursor d).position < (s.connectors d (l.word d) (l.cursor d).candidate).length)
    (hrest : ∀ m ∈ rest, m.word d = l.word d ∧ m.length < l.length)
    {demand : Option Cursor} (hcontinues : Continues s d l demand)
    (h : Serves s d (l.word d) demand rest) :
    ServesFrom s d (l.word d) (l.cursor d) (insert l rest) := by
  obtain ⟨hwithin, hused, honce⟩ := hcontinues.serves_behind h
  have hserves : ∀ m ∈ rest, ∃ c, ServesFrom s d (l.word d) c rest := by
    intro m hm
    obtain ⟨c, rfl⟩ := Option.isSome_iff_exists.mp (h.isSome_of_mem hm)
    exact ⟨c, h⟩
  refine ⟨hvalid, ?_, ?_, ?_, ?_⟩
  · intro m hm
    rcases Finset.mem_insert.mp hm with rfl | hm
    · exact ⟨rfl, le_rfl, hvalid⟩
    · exact hwithin m hm
  · intro p hp hlen
    rcases Nat.eq_or_lt_of_le hp with rfl | hlt
    · exact ⟨l, Finset.mem_insert_self l rest, rfl⟩
    · obtain ⟨m, hm, hc⟩ := hused p hlt hlen
      exact ⟨m, Finset.mem_insert_of_mem hm, hc⟩
  · intro m hm n hn hc hne
    rcases Finset.mem_insert.mp hm with rfl | hmRest
    · rcases Finset.mem_insert.mp hn with rfl | hnRest
      · exact absurd rfl hne
      · exact honce n hnRest hc.symm
    · rcases Finset.mem_insert.mp hn with rfl | hnRest
      · rw [endIsMulti_congr (hrest m hmRest).1 hc]
        exact honce m hmRest hc
      · obtain ⟨c, hc'⟩ := hserves m hmRest
        exact hc'.once m hmRest n hnRest hc hne
  · intro m hm n hn hlt
    rcases Finset.mem_insert.mp hm with rfl | hmRest
    · rcases Finset.mem_insert.mp hn with rfl | hnRest
      · omega
      · exact (hrest n hnRest).2
    · rcases Finset.mem_insert.mp hn with rfl | hnRest
      · have := (hwithin m hmRest).2.1
        omega
      · obtain ⟨c, hc'⟩ := hserves m hmRest
        exact hc'.farther m hmRest n hnRest hlt

/-- With the farthest link taken away, the others serve what the word goes on with. -/
theorem serves_insert_iff (hl : l ∉ rest)
    (hvalid : (l.cursor d).position < (s.connectors d (l.word d) (l.cursor d).candidate).length)
    (hrest : ∀ m ∈ rest, m.word d = l.word d ∧ m.length < l.length) :
    Serves s d (l.word d) (some (l.cursor d)) (insert l rest) ↔
      ∃ demand, Continues s d l demand ∧ Serves s d (l.word d) demand rest := by
  constructor
  · exact ServesFrom.rest_of_insert hl
  · rintro ⟨demand, hcontinues, h⟩
    exact ServesFrom.insert_of_rest hvalid hrest hcontinues h

end Insert

end LinkParsing.Search
