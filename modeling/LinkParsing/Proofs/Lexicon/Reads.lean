import LinkParsing.Lexicon.Reader

/-!
# What readers match, apart from the record of failures

`Reads p a v b` says that `p` matches from place `a`, gives `v` and ends at place `b`,
whatever has failed before, and `Fails p a` that it does not match there.  Each way of
putting readers together has a lemma of either kind.

`Matched p a v b` says that `p` has been seen to do so once.  A match of readers put together
is taken apart by the `…_inv` lemmas into matches of the parts.
-/

namespace LinkParsing.Lexicon

open Reader

variable {α β : Type} {p q : Reader α} {f : α → Reader β} {a b c : Place} {u : α} {v : β}

/-- The place behind a text that is followed by a rest. -/
def Consumed (a : Place) (t : List Char) (b : Place) : Prop :=
  a.rest = t ++ b.rest ∧ b.offset = a.offset + byteLength t

def Reads (p : Reader α) (a : Place) (v : α) (b : Place) : Prop :=
  ∀ furthest, ∃ furthest', p a furthest = (.matched v b, furthest')

/-- Wherever the text stands before this rest, it is read as the value. -/
def ReadsAs (p : Reader α) (t : List Char) (v : α) (rest : List Char) : Prop :=
  ∀ o, Reads p ⟨t ++ rest, o⟩ v ⟨rest, o + byteLength t⟩

def Fails (p : Reader α) (a : Place) : Prop :=
  ∀ furthest, ∃ furthest', p a furthest = (.unmatched, furthest')

def Matched (p : Reader α) (a : Place) (v : α) (b : Place) : Prop :=
  ∃ furthest furthest', p a furthest = (.matched v b, furthest')

/-! ## Texts behind texts -/

theorem Consumed.nil (a : Place) : Consumed a [] a := ⟨rfl, rfl⟩

theorem Consumed.trans {t u : List Char} (h : Consumed a t b) (h' : Consumed b u c) :
    Consumed a (t ++ u) c := by
  refine ⟨by rw [h.1, h'.1, List.append_assoc], ?_⟩
  rw [h'.2, h.2, byteLength_append, Nat.add_assoc]

/-! ## Matching -/

theorem bind_apply (p : Reader α) (f : α → Reader β) (a : Place) (furthest : Furthest) :
    (p >>= f) a furthest = match p a furthest with
      | (.matched u b, furthest) => f u b furthest
      | (.unmatched, furthest) => (.unmatched, furthest)
      | (.refused e, furthest) => (.refused e, furthest) := rfl

theorem repeatWithin_succ_apply (p : Reader α) (n : Nat) (a : Place) (furthest : Furthest) :
    repeatWithin p (n + 1) a furthest = match p a furthest with
      | (.matched u b, furthest) =>
        match repeatWithin p n b furthest with
        | (.matched us c, furthest) => (.matched (u :: us) c, furthest)
        | (.unmatched, furthest) => (.unmatched, furthest)
        | (.refused e, furthest) => (.refused e, furthest)
      | (.unmatched, furthest) => (.matched [] a, furthest)
      | (.refused e, furthest) => (.refused e, furthest) := rfl

theorem reads_pure (u : α) (a : Place) : Reads (pure u) a u a := fun furthest => ⟨furthest, rfl⟩

theorem Reads.bind (h : Reads p a u b) (h' : Reads (f u) b v c) : Reads (p >>= f) a v c := by
  intro furthest
  obtain ⟨between, hp⟩ := h furthest
  obtain ⟨last, hf⟩ := h' between
  refine ⟨last, ?_⟩
  rw [bind_apply, hp]
  exact hf

theorem Reads.orElse_left (h : Reads p a u b) : Reads (orElse p q) a u b := by
  intro furthest
  obtain ⟨last, hp⟩ := h furthest
  exact ⟨last, by rw [orElse, hp]⟩

theorem Reads.orElse_right (hq : Reads q a u b) (hp : Fails p a) : Reads (orElse p q) a u b := by
  intro furthest
  obtain ⟨between, hp⟩ := hp furthest
  obtain ⟨last, hq⟩ := hq between
  exact ⟨last, by rw [orElse, hp, ← hq]⟩

theorem Reads.named (h : Reads p a u b) (construct : Construct) :
    Reads (named construct p) a u b := by
  intro furthest
  obtain ⟨last, hp⟩ := h furthest
  exact ⟨last, by simp only [Reader.named, hp]⟩

theorem reads_here (a : Place) : Reads here a a a := fun furthest => ⟨furthest, rfl⟩

theorem reads_endOfText (o : Nat) : Reads endOfText ⟨[], o⟩ () ⟨[], o⟩ :=
  fun furthest => ⟨furthest, rfl⟩

/-! ## Matching wherever a text stands -/

theorem ReadsAs.bind {t t' rest : List Char} (h : ReadsAs p t u (t' ++ rest))
    (h' : ReadsAs (f u) t' v rest) : ReadsAs (p >>= f) (t ++ t') v rest := by
  intro o
  rw [List.append_assoc, byteLength_append, ← Nat.add_assoc]
  exact (h o).bind (h' (o + byteLength t))

theorem ReadsAs.next {p : Reader Unit} {q : Reader α} {t t' rest : List Char}
    (h : ReadsAs p t () (t' ++ rest)) (h' : ReadsAs q t' u rest) :
    ReadsAs (do p; q) (t ++ t') u rest := h.bind h'

theorem ReadsAs.bind_pure {t rest : List Char} (h : ReadsAs p t u rest) (k : α → β) :
    ReadsAs (p >>= fun u => pure (k u)) t (k u) rest :=
  fun o => (h o).bind (reads_pure (k u) _)

theorem ReadsAs.named {t rest : List Char} (h : ReadsAs p t u rest) (construct : Construct) :
    ReadsAs (named construct p) t u rest := fun o => (h o).named construct

theorem ReadsAs.orElse_left {t rest : List Char} (h : ReadsAs p t u rest) :
    ReadsAs (orElse p q) t u rest := fun o => (h o).orElse_left

theorem ReadsAs.orElse_right {t rest : List Char} (hp : ∀ o, Fails p ⟨t ++ rest, o⟩)
    (hq : ReadsAs q t u rest) : ReadsAs (orElse p q) t u rest :=
  fun o => (hq o).orElse_right (hp o)

theorem readsAs_lexeme {scan : List Char → Option (List Char × List Char)} {t rest : List Char}
    (h : scan (t ++ rest) = some (t, rest)) : ReadsAs (lexeme scan) t t rest := by
  intro o furthest
  exact ⟨furthest, by simp only [lexeme, h, Place.advance]⟩

theorem readsAs_symbol (x : Char) (rest : List Char) : ReadsAs (symbol x) [x] () rest := by
  intro o furthest
  exact ⟨furthest, by simp [symbol, Place.advance]⟩

theorem readsAs_symbols (xs rest : List Char) : ReadsAs (symbols xs) xs () rest := by
  induction xs with
  | nil => exact fun o => reads_pure () _
  | cons x xs ih => exact (readsAs_symbol x (xs ++ rest)).bind ih

/-! ## Not matching -/

theorem Fails.bind_left (h : Fails p a) : Fails (p >>= f) a := by
  intro furthest
  obtain ⟨last, hp⟩ := h furthest
  refine ⟨last, ?_⟩
  rw [bind_apply, hp]

theorem Fails.bind_right (h : Reads p a u b) (h' : Fails (f u) b) : Fails (p >>= f) a := by
  intro furthest
  obtain ⟨between, hp⟩ := h furthest
  obtain ⟨last, hf⟩ := h' between
  refine ⟨last, ?_⟩
  rw [bind_apply, hp]
  exact hf

theorem Fails.orElse (hp : Fails p a) (hq : Fails q a) : Fails (orElse p q) a := by
  intro furthest
  obtain ⟨between, hp⟩ := hp furthest
  obtain ⟨last, hq⟩ := hq between
  exact ⟨last, by rw [Reader.orElse, hp, ← hq]⟩

theorem Fails.named (h : Fails p a) (construct : Construct) : Fails (named construct p) a := by
  intro furthest
  obtain ⟨last, hp⟩ := h furthest
  refine ⟨last.note construct a.offset (furthest.countAt a.offset), ?_⟩
  simp only [Reader.named, hp]

theorem fails_lexeme {scan : List Char → Option (List Char × List Char)}
    (h : scan a.rest = none) : Fails (lexeme scan) a :=
  fun furthest => ⟨furthest, by rw [lexeme, h]⟩

theorem fails_symbol {x : Char} (h : a.rest.head? ≠ some x) : Fails (symbol x) a := by
  intro furthest
  refine ⟨furthest, ?_⟩
  unfold symbol
  split
  next d rest hd =>
    rw [if_neg]
    rintro rfl
    simp [hd] at h
  next => rfl

/-! ## Repetition -/

/-- A reader matches so often in a row, each time taking a character, and then no more. -/
inductive Repeats (p : Reader α) : Place → List α → Place → Prop where
  | stop {a : Place} (h : Fails p a) : Repeats p a [] a
  | again {a b c : Place} {u : α} {us : List α} (h : Reads p a u b)
      (hshorter : b.rest.length < a.rest.length) (hrest : Repeats p b us c) :
      Repeats p a (u :: us) c

/-- Every match takes a character, so there are enough attempts. -/
theorem Repeats.reads_repeatWithin {us : List α} (h : Repeats p a us b) {n : Nat}
    (hn : a.rest.length < n) : Reads (repeatWithin p n) a us b := by
  induction h generalizing n with
  | stop h =>
      obtain ⟨n, rfl⟩ : ∃ k, n = k + 1 := ⟨n - 1, by omega⟩
      intro furthest
      obtain ⟨last, hp⟩ := h furthest
      exact ⟨last, by rw [repeatWithin_succ_apply, hp]⟩
  | @again a b c u us h hshorter _ ih =>
      -- the match has taken a character, so one attempt less is still enough
      obtain ⟨n, rfl⟩ : ∃ k, n = k + 1 := ⟨n - 1, by omega⟩
      have hleft : b.rest.length < n := by omega
      intro furthest
      obtain ⟨between, hp⟩ := h furthest
      obtain ⟨last, hrest⟩ := ih hleft between
      exact ⟨last, by simp only [repeatWithin_succ_apply, hp, hrest]⟩

theorem Repeats.reads_repeated {us : List α} (h : Repeats p a us b) : Reads (repeated p) a us b :=
  fun furthest => h.reads_repeatWithin (Nat.lt_succ_self _) furthest

/-! ## Taking matches apart -/

theorem Reads.eq_of_matched {w : α} (h : Reads p a u b) (h' : Matched p a w c) :
    w = u ∧ c = b := by
  obtain ⟨furthest, furthest', h'⟩ := h'
  obtain ⟨last, h⟩ := h furthest
  rw [h] at h'
  cases h'
  exact ⟨rfl, rfl⟩

theorem Fails.not_matched (h : Fails p a) : ¬Matched p a u b := by
  rintro ⟨furthest, furthest', h'⟩
  obtain ⟨last, h⟩ := h furthest
  rw [h] at h'
  cases h'

theorem pure_inv {w : α} (h : Matched (pure u) a w b) : w = u ∧ b = a := by
  obtain ⟨furthest, furthest', h⟩ := h
  cases h
  exact ⟨rfl, rfl⟩

theorem bind_inv (h : Matched (p >>= f) a v c) : ∃ u b, Matched p a u b ∧ Matched (f u) b v c := by
  obtain ⟨furthest, furthest', h⟩ := h
  rw [bind_apply] at h
  rcases hp : p a furthest with ⟨step, between⟩
  rw [hp] at h
  cases step with
  | matched u b => exact ⟨u, b, ⟨_, _, hp⟩, ⟨_, _, h⟩⟩
  | unmatched => cases h
  | refused e => cases h

theorem orElse_inv (h : Matched (orElse p q) a u b) : Matched p a u b ∨ Matched q a u b := by
  obtain ⟨furthest, furthest', h⟩ := h
  unfold orElse at h
  rcases hp : p a furthest with ⟨step, between⟩
  rw [hp] at h
  cases step with
  | matched w b' => exact .inl ⟨furthest, furthest', hp.trans h⟩
  -- the second reader starts with the record of failures that the first one has left
  | unmatched => exact .inr ⟨between, furthest', h⟩
  | refused e => cases h

theorem named_inv {construct : Construct} (h : Matched (named construct p) a u b) :
    Matched p a u b := by
  obtain ⟨furthest, furthest', h⟩ := h
  unfold named at h
  rcases hp : p a furthest with ⟨step, between⟩
  simp only [hp] at h
  cases step with
  | matched w b' => exact ⟨furthest, furthest', hp.trans h⟩
  | unmatched => cases h
  | refused e => cases h

theorem lexeme_inv {scan : List Char → Option (List Char × List Char)} {t : List Char}
    (h : Matched (lexeme scan) a t b) : ∃ rest, scan a.rest = some (t, rest) ∧
      b = a.advance t rest := by
  obtain ⟨furthest, furthest', h⟩ := h
  unfold lexeme at h
  split at h
  next taken rest hscan =>
    cases h
    exact ⟨rest, hscan, rfl⟩
  next => cases h

theorem here_inv {w : Place} (h : Matched here a w b) : w = a ∧ b = a := by
  obtain ⟨furthest, furthest', h⟩ := h
  cases h
  exact ⟨rfl, rfl⟩

theorem symbol_inv {x : Char} (h : Matched (symbol x) a () b) : Consumed a [x] b := by
  obtain ⟨furthest, furthest', h⟩ := h
  unfold symbol at h
  split at h
  next d rest hd =>
    split at h
    next heq =>
      cases h
      exact ⟨by rw [hd, heq]; rfl, rfl⟩
    next => cases h
  next => cases h

theorem symbols_inv {xs : List Char} (h : Matched (symbols xs) a () b) : Consumed a xs b := by
  induction xs generalizing a with
  | nil =>
      obtain ⟨-, rfl⟩ := pure_inv h
      exact .nil b
  | cons x xs ih =>
      obtain ⟨_, _, hx, hxs⟩ := bind_inv h
      exact (symbol_inv hx).trans (ih hxs)

theorem endOfText_inv (h : Matched endOfText a () b) : a.rest = [] ∧ b = a := by
  obtain ⟨furthest, furthest', h⟩ := h
  unfold endOfText at h
  split at h
  next hempty =>
    cases h
    exact ⟨List.isEmpty_iff.mp hempty, rfl⟩
  next => cases h

/-- A reader has been seen to match so often in a row. -/
inductive MatchedAll (p : Reader α) : Place → List α → Place → Prop where
  | nil (a : Place) : MatchedAll p a [] a
  | cons {a b c : Place} {u : α} {us : List α} (h : Matched p a u b) (hrest : MatchedAll p b us c) :
      MatchedAll p a (u :: us) c

private theorem repeatWithin_inv {n : Nat} {us : List α} (h : Matched (repeatWithin p n) a us b) :
    MatchedAll p a us b := by
  induction n generalizing a us with
  | zero =>
      obtain ⟨rfl, rfl⟩ := pure_inv h
      exact .nil b
  | succ n ih =>
      obtain ⟨furthest, furthest', h⟩ := h
      rw [repeatWithin_succ_apply] at h
      rcases hp : p a furthest with ⟨step, between⟩
      rw [hp] at h
      cases step with
      | unmatched =>
          cases h
          exact .nil _
      | refused e => cases h
      | matched u next =>
          simp only at h
          rcases hrest : repeatWithin p n next between with ⟨step, last⟩
          rw [hrest] at h
          cases step with
          | unmatched => cases h
          | refused e => cases h
          | matched others stop =>
              cases h
              exact .cons ⟨_, _, hp⟩ (ih ⟨_, _, hrest⟩)

theorem repeated_inv {us : List α} (h : Matched (repeated p) a us b) : MatchedAll p a us b := by
  obtain ⟨furthest, furthest', h⟩ := h
  exact repeatWithin_inv ⟨furthest, furthest', h⟩

end LinkParsing.Lexicon
