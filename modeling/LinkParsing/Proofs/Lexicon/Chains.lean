import LinkParsing.Lexicon.Entry
import LinkParsing.Proofs.Lexicon.Ignored

/-!
# Items with joints between them

`Chained` follows a chain from item to item as it will be read, `ChainMatched` as it has been
read.  The two differ in what they know of the end: nothing but a failure of the joint or of
one more item keeps a chain from going on.
-/

namespace LinkParsing.Lexicon

open Reader

variable {α : Type} {item : Reader α} {joint : Reader Unit} {a b c : Place} {u : α} {us : List α}

/-- A joint is read here with what is ignored on both sides. -/
def Between (joint : Reader Unit) (a b : Place) : Prop :=
  b.rest.length ≤ a.rest.length ∧
    ∃ c d, Reads skip a () c ∧ Reads joint c () d ∧ Reads skip d () b

theorem Between.reads (h : Between joint a b) (hitem : Reads item b u c) :
    Reads (do skip; joint; skip; item) a u c := by
  obtain ⟨-, d, e, hbefore, hjoint, hbehind⟩ := h
  exact hbefore.bind (hjoint.bind (hbehind.bind hitem))

/-- One or more items, each taking a character, and no further one behind the last. -/
inductive Chained (item : Reader α) (joint : Reader Unit) : Place → List α → Place → Prop where
  | last {a b : Place} {u : α} (h : Reads item a u b) (hshorter : b.rest.length < a.rest.length)
      (hstop : Fails (do skip; joint; skip; item) b) : Chained item joint a [u] b
  | further {a b c d : Place} {u : α} {us : List α} (h : Reads item a u b)
      (hshorter : b.rest.length < a.rest.length) (hbetween : Between joint b c)
      (hrest : Chained item joint c us d) : Chained item joint a (u :: us) d

theorem Chained.repeats (h : Chained item joint a us b) : ∃ u others c, us = u :: others ∧
    Reads item a u c ∧ c.rest.length < a.rest.length ∧
      Repeats (do skip; joint; skip; item) c others b := by
  induction h with
  | @last a b u h hshorter hstop => exact ⟨u, [], b, rfl, h, hshorter, .stop hstop⟩
  | @further a b c d u us h hshorter hbetween _ ih =>
      obtain ⟨v, others, e, rfl, hv, hshorter', hothers⟩ := ih
      -- the joint may take nothing, the item behind it takes a character
      have hnext : e.rest.length < b.rest.length := Nat.lt_of_lt_of_le hshorter' hbetween.1
      exact ⟨u, v :: others, b, rfl, h, hshorter, .again (hbetween.reads hv) hnext hothers⟩

theorem Chained.reads (h : Chained item joint a us b) : Reads (chain item joint) a us b := by
  obtain ⟨u, others, c, rfl, hu, -, hothers⟩ := h.repeats
  exact hu.bind (hothers.reads_repeated.bind (reads_pure _ b))

/-- One or more items have been seen with joints between them. -/
inductive ChainMatched (item : Reader α) (joint : Reader Unit) :
    Place → List α → Place → Prop where
  | last {a b : Place} {u : α} (h : Matched item a u b) : ChainMatched item joint a [u] b
  | further {a b c d e f : Place} {u : α} {us : List α} (h : Matched item a u b)
      (hbefore : Matched skip b () c) (hjoint : Matched joint c () d)
      (hbehind : Matched skip d () e) (hrest : ChainMatched item joint e us f) :
      ChainMatched item joint a (u :: us) f

private theorem MatchedAll.chainMatched (hall : MatchedAll (do skip; joint; skip; item) b us c)
    (hu : Matched item a u b) : ChainMatched item joint a (u :: us) c := by
  -- the first item of the repetition becomes the first one of the rest of the chain
  induction hall generalizing a u with
  | nil => exact .last hu
  | cons hnext _ ih =>
      obtain ⟨_, _, hbefore, hnext⟩ := bind_inv hnext
      obtain ⟨_, _, hjoint, hnext⟩ := bind_inv hnext
      obtain ⟨_, _, hbehind, hnext⟩ := bind_inv hnext
      exact .further hu hbefore hjoint hbehind (ih hnext)

theorem chain_inv (h : Matched (chain item joint) a us b) : ChainMatched item joint a us b := by
  obtain ⟨u, c, hu, h⟩ := bind_inv h
  obtain ⟨others, d, hothers, h⟩ := bind_inv h
  obtain ⟨rfl, rfl⟩ := pure_inv h
  exact (repeated_inv hothers).chainMatched hu

/-- Something behind it shows that what was gone over is not the end of the text. -/
theorem skip_inv_of_consumed {t : List Char} (h : Matched skip a () b) (hnext : Consumed b t c)
    (ht : t ≠ []) : ∃ g, Consumed a g b ∧ Ignored g := by
  obtain ⟨g, hg, -, -, hignored⟩ := skip_inv h
  refine ⟨g, hg, hignored ?_⟩
  rw [hnext.1]
  exact List.append_ne_nil_of_left_ne_nil ht _

/-! ## Chains in texts -/

variable {g j g' t t' rest : List Char}

/-- The text goes on, perhaps after something ignored, with one of these characters. -/
def Behind (stops : List Char) (rest : List Char) : Prop :=
  ∃ g x u, Ignored g ∧ isSolid x = true ∧ x ∈ stops ∧ rest = g ++ x :: u

theorem Behind.mono {stops stops' : List Char} (h : Behind stops rest) (hsub : stops ⊆ stops') :
    Behind stops' rest := by
  obtain ⟨g, x, u, hg, hsolid, hx, rfl⟩ := h
  exact ⟨g, x, u, hg, hsolid, hsub hx, rfl⟩

theorem Behind.fails {stops : List Char} (h : Behind stops rest)
    (hjoint : ∀ x ∈ stops, ∀ u o, Fails joint ⟨x :: u, o⟩) (o : Nat) :
    Fails (do skip; joint; skip; item) ⟨rest, o⟩ := by
  obtain ⟨g, x, u, hg, hsolid, hx, rfl⟩ := h
  exact .bind_right (readsAs_skip hg (solid_cons hsolid u) o) (hjoint x hx u _).bind_left

theorem between_of_readsAs (hg : Ignored g) (hj : Solid (j ++ (g' ++ rest)))
    (hjoint : ReadsAs joint j () (g' ++ rest)) (hg' : Ignored g') (hrest : Solid rest) (o : Nat) :
    Between joint ⟨g ++ (j ++ (g' ++ rest)), o⟩
      ⟨rest, o + byteLength g + byteLength j + byteLength g'⟩ := by
  refine ⟨?_, _, _, readsAs_skip hg hj o, hjoint _, readsAs_skip hg' hrest _⟩
  simp only [List.length_append]
  omega

/-- Wherever the text stands before this rest, it is read as a chain of these items. -/
def ChainedAs (item : Reader α) (joint : Reader Unit) (t : List Char) (us : List α)
    (rest : List Char) : Prop :=
  ∀ o, Chained item joint ⟨t ++ rest, o⟩ us ⟨rest, o + byteLength t⟩

theorem ChainedAs.reads (h : ChainedAs item joint t us rest) :
    ReadsAs (chain item joint) t us rest := fun o => (h o).reads

theorem ChainedAs.last (h : ReadsAs item t u rest) (ht : 0 < t.length)
    (hstop : ∀ o, Fails (do skip; joint; skip; item) ⟨rest, o⟩) :
    ChainedAs item joint t [u] rest := by
  have hshorter : rest.length < (t ++ rest).length := by
    rw [List.length_append]
    omega
  exact fun o => .last (h o) hshorter (hstop _)

theorem ChainedAs.further (h : ReadsAs item t u (g ++ (j ++ (g' ++ (t' ++ rest)))))
    (ht : 0 < t.length) (hg : Ignored g) (hj : Solid (j ++ (g' ++ (t' ++ rest))))
    (hjoint : ReadsAs joint j () (g' ++ (t' ++ rest))) (hg' : Ignored g')
    (ht' : Solid (t' ++ rest)) (hrest : ChainedAs item joint t' us rest) :
    ChainedAs item joint (t ++ (g ++ (j ++ (g' ++ t')))) (u :: us) rest := by
  intro o
  have hshorter : (g ++ (j ++ (g' ++ (t' ++ rest)))).length <
      (t ++ (g ++ (j ++ (g' ++ (t' ++ rest))))).length := by
    simp only [List.length_append]
    omega
  have hbetween : Between joint ⟨g ++ (j ++ (g' ++ (t' ++ rest))), o + byteLength t⟩
      ⟨t' ++ rest, o + byteLength t + byteLength g + byteLength j + byteLength g'⟩ :=
    between_of_readsAs hg hj hjoint hg' ht' _
  have hlength : o + byteLength (t ++ (g ++ (j ++ (g' ++ t')))) =
      o + byteLength t + byteLength g + byteLength j + byteLength g' + byteLength t' := by
    simp only [byteLength_append]
    omega
  simp only [List.append_assoc]
  rw [hlength]
  exact .further (h o) hshorter hbetween (hrest _)

theorem between_inv {w : List Char} {d e : Place} (hbefore : Matched skip a () b)
    (hjoint : Consumed b j c) (hj : j ≠ []) (hbehind : Matched skip c () d)
    (hnext : Consumed d w e) (hw : w ≠ []) :
    ∃ g g', Ignored g ∧ Ignored g' ∧ Consumed a (g ++ (j ++ (g' ++ w))) e := by
  obtain ⟨g, hg, hignored⟩ := skip_inv_of_consumed hbefore hjoint hj
  obtain ⟨g', hg', hignored'⟩ := skip_inv_of_consumed hbehind hnext hw
  exact ⟨g, g', hignored, hignored', hg.trans (hjoint.trans (hg'.trans hnext))⟩

end LinkParsing.Lexicon
