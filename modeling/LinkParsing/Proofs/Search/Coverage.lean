import LinkParsing.Proofs.Search.Memory

/-!
# A finished count covers extraction

Extraction looks up the counts of the parts of alternatives, of those on the right only
where the left part has linkages.  Counting has visited the same parts before it remembered
the region, so a remembered region has all its looked-up parts to hand (`Sealed`), and this
stays so whatever a search is asked for, also where the clock cuts it short.

Once the count of a sentence has been finished, its whole regions are to hand.  From there on
every question is answered from what is remembered: nothing is added to it, no region is begun
to split, and so the clock is not looked at (`count_of_settled`, `extract_of_rootsSettled`).
-/

namespace LinkParsing.Search

variable {s : Sentence} {clock : Clock} {nulls : Nat} {p q : Progress} {r : Region} {α β : Type}

/-! ## Progress that has the parts of regions to hand -/

/-- The count of a region is to hand: it needs no splitting, or it is remembered. -/
def Settled (r : Region) (p : Progress) : Prop := r.baseCount?.isSome ∨ r ∈ p.memo

/-- The parts of these alternatives are to hand, those on the right where the left part has
linkages. -/
def Covers (s : Sentence) (alts : List Alternative) (p : Progress) : Prop :=
  ∀ a ∈ alts, Settled a.left p ∧ (plainCount s a.left ≠ 0 → Settled a.right p)

/-- The regions of the whole sentence are to hand. -/
def RootsSettled (s : Sentence) (nulls : Nat) (p : Progress) : Prop :=
  ∀ root ∈ s.roots nulls, Settled root.2 p

/-- What is remembered is true, and a remembered region has the parts of its alternatives to
hand. -/
structure Sealed (s : Sentence) (p : Progress) : Prop where
  truthful : Truthful s p
  covered : ∀ r ∈ p.memo, Covers s (s.alternatives r) p

/-- Nothing that is remembered is forgotten. -/
def Grows (p q : Progress) : Prop := ∀ r ∈ p.memo, r ∈ q.memo

/-- What stays true while progress grows. -/
def Lasting (Q : Progress → Prop) : Prop := ∀ p q, Grows p q → Q p → Q q

theorem sealed_start : Sealed s .start :=
  ⟨truthful_start, fun r hr => by simp [Progress.start] at hr⟩

theorem Settled.lasting (r : Region) : Lasting (Settled r) :=
  fun _ _ hgrows h => h.imp id (hgrows r)

theorem Covers.lasting (alts : List Alternative) : Lasting (Covers s alts) :=
  fun p q hgrows h a ha =>
    ⟨Settled.lasting a.left p q hgrows (h a ha).1,
      fun hne => Settled.lasting a.right p q hgrows ((h a ha).2 hne)⟩

theorem Covers.cons {a : Alternative} {rest : List Alternative} (hleft : Settled a.left p)
    (hright : plainCount s a.left ≠ 0 → Settled a.right p) (hrest : Covers s rest p) :
    Covers s (a :: rest) p := by
  intro b hb
  rcases List.mem_cons.mp hb with rfl | hb
  · exact ⟨hleft, hright⟩
  · exact hrest b hb

/-! ## Steps that keep progress sealed -/

/-- From here a step gives this value and leaves grown sealed progress of which this holds; cut
short, it leaves sealed progress all the same. -/
def SecuresAt (s : Sentence) (p : Progress) (m : SearchM α) (v : α) (Q : Progress → Prop) :
    Prop :=
  match m p with
  | .ok a q => a = v ∧ Sealed s q ∧ Grows p q ∧ Q q
  | .error _ q => Sealed s q

/-- The step does so from all sealed progress. -/
def Secures (s : Sentence) (m : SearchM α) (v : α) (Q : Progress → Prop) : Prop :=
  ∀ p, Sealed s p → SecuresAt s p m v Q

theorem SecuresAt.of_ok {m : SearchM α} {v : α} {Q : Progress → Prop} (hm : m p = .ok v q)
    (hq : Sealed s q) (hgrows : Grows p q) (hQ : Q q) : SecuresAt s p m v Q := by
  unfold SecuresAt
  rw [hm]
  exact ⟨rfl, hq, hgrows, hQ⟩

/-- How a step ends that secures a value. -/
theorem Secures.cases {m : SearchM α} {v : α} {Q : Progress → Prop} (h : Secures s m v Q)
    (hp : Sealed s p) : (∃ q, m p = .ok v q ∧ Sealed s q ∧ Grows p q ∧ Q q) ∨
      ∃ e q, m p = .error e q ∧ Sealed s q := by
  have hm := h p hp
  unfold SecuresAt at hm
  cases hmp : m p with
  | ok a q =>
      rw [hmp] at hm
      obtain ⟨rfl, hq⟩ := hm
      exact .inl ⟨q, rfl, hq⟩
  | error e q =>
      rw [hmp] at hm
      exact .inr ⟨e, q, rfl, hm⟩

theorem SecuresAt.of_error {m : SearchM α} {v : α} {Q : Progress → Prop} {e : TimerExpired}
    (hm : m p = .error e q) (hq : Sealed s q) : SecuresAt s p m v Q := by
  unfold SecuresAt
  rw [hm]
  exact hq

theorem secures_pure (v : α) {Q : Progress → Prop} (hQ : ∀ p, Q p) : Secures s (pure v) v Q :=
  fun p hp => .of_ok rfl hp (fun _ h => h) (hQ p)

/-- Looking at the progress. -/
theorem secures_get_bind {f : Progress → SearchM α} {v : α} {Q : Progress → Prop}
    (hf : ∀ p, Sealed s p → SecuresAt s p (f p) v Q) : Secures s (get >>= f) v Q :=
  fun p hp => hf p hp

theorem Secures.imp {m : SearchM α} {v : α} {P Q : Progress → Prop} (h : Secures s m v P)
    (hPQ : ∀ p, P p → Q p) : Secures s m v Q := by
  intro p hp
  rcases h.cases hp with ⟨q, hm, hq, hgrows, hP⟩ | ⟨e, q, hm, hq⟩
  · exact .of_ok hm hq hgrows (hPQ q hP)
  · exact .of_error hm hq

/-- The end of two steps of which the first ends well. -/
theorem bind_of_ok {m : SearchM α} {f : α → SearchM β} {a : α} (hm : m p = .ok a q) :
    (m >>= f) p = f a q := by
  change EStateM.bind m f p = f a q
  simp [EStateM.bind, hm]

/-- The end of two steps of which the first is cut short. -/
theorem bind_of_error {m : SearchM α} {f : α → SearchM β} {e : TimerExpired}
    (hm : m p = .error e q) : (m >>= f) p = .error e q := by
  change EStateM.bind m f p = .error e q
  simp [EStateM.bind, hm]

/-- What the first step has secured lasts through the second. -/
theorem Secures.bind {m : SearchM α} {f : α → SearchM β} {v : α} {w : β} {P Q : Progress → Prop}
    (hm : Secures s m v P) (hP : Lasting P) (hf : Secures s (f v) w Q) :
    Secures s (m >>= f) w fun p => P p ∧ Q p := by
  intro p hp
  rcases hm.cases hp with ⟨q, hmp, hq, hgrows, hPq⟩ | ⟨e, q, hmp, hq⟩
  · rcases hf.cases hq with ⟨t, hfq, ht, hgrows', hQt⟩ | ⟨e, t, hfq, ht⟩
    · exact .of_ok ((bind_of_ok hmp).trans hfq) ht (fun r hr => hgrows' r (hgrows r hr))
        ⟨hP q t hgrows' hPq, hQt⟩
    · exact .of_error ((bind_of_ok hmp).trans hfq) ht
  · exact .of_error (bind_of_error hmp) hq

theorem secures_tick : Secures s (tick clock) () fun _ => True := by
  intro p hp
  by_cases hring : ((p.calls + 1) % clockStride = 0 && clock ((p.calls + 1) / clockStride)) = true
  · refine .of_error (e := .expired) (q := { p with calls := p.calls + 1 }) ?_
      ⟨hp.truthful, hp.covered⟩
    simp only [tick, hring, if_true]
  · refine .of_ok (q := { p with calls := p.calls + 1 }) ?_ ⟨hp.truthful, hp.covered⟩
      (fun _ h => h) trivial
    simp only [tick, hring]
    rfl

/-- Remembering the count of a region whose alternatives are covered keeps progress sealed. -/
theorem Sealed.insert (hp : Sealed s p) (hcovers : Covers s (s.alternatives r) p) :
    Sealed s { p with memo := p.memo.insert r (plainCount s r) } := by
  have hgrows : Grows p { p with memo := p.memo.insert r (plainCount s r) } :=
    fun t ht => Std.HashMap.mem_insert.mpr (.inr ht)
  have hremember : Gives s .never (remember r (plainCount s r)) () := gives_remember
  refine ⟨(hremember p hp.truthful).2, fun t ht => ?_⟩
  refine Covers.lasting _ p _ hgrows ?_
  rcases Std.HashMap.mem_insert.mp ht with heq | ht
  · rw [← eq_of_beq heq]
    exact hcovers
  · exact hp.covered t ht

/-- A count that has gone through all alternatives of a region may be remembered for it. -/
theorem secures_remember {m : SearchM Nat}
    (hm : Secures s m (plainCount s r) (Covers s (s.alternatives r))) :
    Secures s (do let n ← m; remember r n; return n) (plainCount s r) (Settled r) := by
  intro p hp
  rcases hm.cases hp with ⟨q, hmp, hq, hgrows, hcovers⟩ | ⟨e, q, hmp, hq⟩
  · refine .of_ok ((bind_of_ok hmp).trans rfl) (hq.insert hcovers) (fun t ht => ?_)
      (.inr Std.HashMap.mem_insert_self)
    exact Std.HashMap.mem_insert.mpr (.inr (hgrows t ht))
  · exact .of_error (bind_of_error hmp) hq

/-! ## Counting -/

private theorem secures_sumAlternatives {count : Region → SearchM Nat} {alts : List Alternative}
    (hcount : ∀ a ∈ alts, Secures s (count a.left) (plainCount s a.left) (Settled a.left) ∧
      Secures s (count a.right) (plainCount s a.right) (Settled a.right)) (total : Nat) :
    Secures s (sumAlternatives count total alts) (sumPlain (plainCount s) total alts)
      (Covers s alts) := by
  induction alts generalizing total with
  | nil => exact secures_pure total fun p a ha => nomatch ha
  | cons a rest ih =>
      have hrest := ih fun b hb => hcount b (List.mem_cons_of_mem a hb)
      obtain ⟨hleft, hright⟩ := hcount a List.mem_cons_self
      refine Secures.imp (P := fun p => Settled a.left p ∧
        (plainCount s a.left ≠ 0 → Settled a.right p) ∧ Covers s rest p) ?_
        fun p h => Covers.cons h.1 h.2.1 h.2.2
      refine hleft.bind (Settled.lasting a.left) ?_
      rw [sumPlain]
      split
      next hzero =>
        -- The right part is passed over, and nothing is said of it.
        exact (hrest total).imp fun p h => ⟨fun hne => absurd hzero hne, h⟩
      next =>
        exact (hright.bind (Settled.lasting a.right) (hrest _)).imp fun p h =>
          ⟨fun _ => h.1, h.2⟩

theorem secures_countWithin {width : Nat} (h : r.width ≤ width) :
    Secures s (countWithin s clock width r) (plainCount s r) (Settled r) := by
  induction width generalizing r with
  | zero =>
      cases hbase : r.baseCount? with
      | some n =>
          unfold countWithin
          simp only [hbase, plainCount_of_baseCount hbase]
          exact secures_pure n fun p => .inl (by rw [hbase]; rfl)
      | none =>
          have := width_pos_of_baseCount hbase
          omega
  | succ width ih =>
      unfold countWithin
      cases hbase : r.baseCount? with
      | some n =>
          simp only [plainCount_of_baseCount hbase]
          exact secures_pure n fun p => .inl (by rw [hbase]; rfl)
      | none =>
          refine secures_get_bind fun p hp => ?_
          cases hmemo : p.memo[r]? with
          | some n =>
              refine .of_ok (q := p) ?_ hp (fun _ h => h) ?_
              · simp only [hp.truthful r n hmemo]
                rfl
              · exact .inr (Std.HashMap.mem_iff_isSome_getElem?.mpr (by rw [hmemo]; rfl))
          | none =>
              -- Both parts of every alternative are narrower.
              have hsum : Secures s
                  (sumAlternatives (countWithin s clock width) 0 (s.alternatives r))
                  (plainCount s r) (Covers s (s.alternatives r)) := by
                rw [plainCount_of_split hbase]
                refine secures_sumAlternatives (fun a ha => ?_) 0
                obtain ⟨hleft, hright⟩ := alternatives_narrower ha
                exact ⟨ih (by omega), ih (by omega)⟩
              have htick : Secures s (tick clock) () _ := secures_tick
              exact (htick.bind (fun _ _ _ _ => trivial) (secures_remember hsum)).imp
                (fun p h => h.2) p hp

theorem secures_count (r : Region) :
    Secures s (count s clock r) (plainCount s r) (Settled r) :=
  secures_countWithin le_rfl

theorem secures_countLinkages (nulls : Nat) : Secures s (countLinkages s nulls clock)
    (plainLinkages s nulls) (RootsSettled s nulls) := by
  unfold countLinkages plainLinkages RootsSettled
  generalize s.roots nulls = roots
  generalize 0 = total
  induction roots generalizing total with
  | nil => exact secures_pure total fun p root hroot => nomatch hroot
  | cons root rest ih =>
      have hroot : Secures s (count s clock root.2) _ _ := secures_count root.2
      refine (hroot.bind (Settled.lasting root.2) (ih _)).imp fun p h t ht => ?_
      rcases List.mem_cons.mp ht with rfl | ht
      · exact h.1
      · exact h.2 t ht

/-! ## Extraction keeps progress sealed -/

/-- From sealed progress a step leaves sealed progress, however it ends. -/
def Keeps (s : Sentence) (m : SearchM α) : Prop :=
  ∀ p, Sealed s p → (∃ a q, m p = .ok a q ∧ Sealed s q) ∨ ∃ e q, m p = .error e q ∧ Sealed s q

theorem Secures.keeps {m : SearchM α} {v : α} {Q : Progress → Prop} (h : Secures s m v Q) :
    Keeps s m := by
  intro p hp
  rcases h.cases hp with ⟨q, hmp, hq, -⟩ | ⟨e, q, hmp, hq⟩
  · exact .inl ⟨v, q, hmp, hq⟩
  · exact .inr ⟨e, q, hmp, hq⟩

theorem keeps_pure (a : α) : Keeps s (pure a) := fun p hp => .inl ⟨a, p, rfl, hp⟩

theorem Keeps.bind {m : SearchM α} {f : α → SearchM β} (hm : Keeps s m)
    (hf : ∀ a, Keeps s (f a)) : Keeps s (m >>= f) := by
  intro p hp
  rcases hm p hp with ⟨a, q, hmp, hq⟩ | ⟨e, q, hmp, hq⟩
  · rw [bind_of_ok hmp]
    exact hf a q hq
  · rw [bind_of_error hmp]
    exact .inr ⟨e, q, rfl, hq⟩

theorem keeps_count (r : Region) : Keeps s (count s clock r) := (secures_count r).keeps

private theorem keeps_pick (index : Nat) (alts : List Alternative) :
    Keeps s (pick s clock index alts) := by
  induction alts generalizing index with
  | nil => exact keeps_pure none
  | cons a rest ih =>
      refine (keeps_count a.left).bind fun first => ?_
      split
      next => exact ih index
      next =>
        refine (keeps_count a.right).bind fun second => ?_
        dsimp only
        split
        next => exact keeps_pure _
        next => exact ih _

private theorem keeps_assembleWithin (width : Nat) (r : Region) (index : Nat) :
    Keeps s (assembleWithin s clock width r index) := by
  induction width generalizing r index with
  | zero => exact keeps_pure Assembly.nothing
  | succ width ih =>
      unfold assembleWithin
      split
      next => exact keeps_pure Assembly.nothing
      next =>
        refine (keeps_pick index (s.alternatives r)).bind fun picked => ?_
        cases picked with
        | none => exact keeps_pure Assembly.nothing
        | some picked =>
            obtain ⟨a, i, j⟩ := picked
            exact (ih a.left i).bind fun _ => (ih a.right j).bind fun _ => keeps_pure _

theorem keeps_extract (nulls index : Nat) : Keeps s (extract s nulls clock index) := by
  refine Keeps.bind ?_ fun a => keeps_pure _
  unfold assemble
  generalize s.roots nulls = roots
  induction roots generalizing index with
  | nil => exact keeps_pure none
  | cons root rest ih =>
      obtain ⟨c, region⟩ := root
      refine (keeps_count region).bind fun n => ?_
      split
      next => exact (keeps_assembleWithin _ region index).bind fun _ => keeps_pure _
      next => exact ih _

theorem Keeps.ofResult {m : SearchM α} (h : Keeps s m) (f : α → Answer) (hp : Sealed s p) :
    Sealed s (Answer.ofResult f (m p)).2 := by
  rcases h p hp with ⟨a, q, hmp, hq⟩ | ⟨e, q, hmp, hq⟩
  · rw [hmp]
    exact hq
  · rw [hmp]
    exact hq

/-- One question keeps progress sealed. -/
theorem Sealed.serve (hp : Sealed s p) (nulls : Nat) (clock : Clock) (query : Query) :
    Sealed s (serve s nulls clock p query).2 := by
  cases query with
  | count => exact (secures_countLinkages nulls).keeps.ofResult .count hp
  | linkage index => exact (keeps_extract nulls index).ofResult .linkage hp

/-- The count of a settled region is to hand. -/
theorem count_of_settled (hp : Sealed s p) (hr : Settled r p) :
    count s clock r p = .ok (plainCount s r) p := by
  unfold count countWithin
  cases hbase : r.baseCount? with
  | some n =>
      rw [plainCount_of_baseCount hbase]
      rfl
  | none =>
      obtain ⟨n, hn⟩ : ∃ n, p.memo[r]? = some n := by
        rcases hr with hr | hr
        · simp [hbase] at hr
        · exact ⟨_, Std.HashMap.getElem?_eq_some_getElem hr⟩
      have hget : (get : SearchM Progress) p = .ok p p := rfl
      refine (bind_of_ok hget).trans ?_
      simp only [hn, hp.truthful r n hn]
      rfl

private theorem pick_of_covers (hp : Sealed s p) {alts : List Alternative}
    (halts : Covers s alts p) (index : Nat) :
    pick s clock index alts p = .ok (plainPick s index alts) p := by
  induction alts generalizing index with
  | nil => rfl
  | cons a rest ih =>
      have hrest := ih fun b hb => halts b (List.mem_cons_of_mem a hb)
      obtain ⟨hleft, hright⟩ := halts a List.mem_cons_self
      refine (bind_of_ok (count_of_settled hp hleft)).trans ?_
      rw [plainPick]
      split
      next => exact hrest index
      next hne =>
        refine (bind_of_ok (count_of_settled hp (hright hne))).trans ?_
        split
        next => rfl
        next => exact hrest _

/-- An alternative that is picked has linkages of its left part. -/
theorem ne_zero_of_plainPick {alts : List Alternative} {index i j : Nat} {a : Alternative}
    (h : plainPick s index alts = some (a, i, j)) : a ∈ alts ∧ plainCount s a.left ≠ 0 := by
  induction alts generalizing index with
  | nil => simp [plainPick] at h
  | cons b rest ih =>
      rw [plainPick] at h
      split at h
      next =>
        exact ⟨List.mem_cons_of_mem b (ih h).1, (ih h).2⟩
      next hne =>
        split at h
        next =>
          obtain ⟨rfl, -⟩ := Prod.mk.inj (Option.some.inj h)
          exact ⟨List.mem_cons_self, hne⟩
        next => exact ⟨List.mem_cons_of_mem b (ih h).1, (ih h).2⟩

private theorem assembleWithin_of_settled (hp : Sealed s p) (width : Nat) {r : Region}
    (hr : Settled r p) (index : Nat) :
    assembleWithin s clock width r index p = .ok (plainAssembleWithin s width r index) p := by
  induction width generalizing r index with
  | zero => rfl
  | succ width ih =>
      unfold assembleWithin plainAssembleWithin
      split
      next => rfl
      next hbase =>
        have hcovers : Covers s (s.alternatives r) p := hp.covered r (hr.resolve_left hbase)
        refine (bind_of_ok (pick_of_covers hp hcovers index)).trans ?_
        cases hpick : plainPick s index (s.alternatives r) with
        | none => rfl
        | some picked =>
            obtain ⟨a, i, j⟩ := picked
            -- Only an alternative with both parts to hand is picked.
            obtain ⟨ha, hne⟩ := ne_zero_of_plainPick hpick
            obtain ⟨hleft, hright⟩ := hcovers a ha
            refine (bind_of_ok (ih hleft i)).trans ?_
            exact (bind_of_ok (ih (hright hne) j)).trans rfl

/-- With the whole regions to hand, every linkage is found from what is remembered. -/
theorem extract_of_rootsSettled (hp : Sealed s p) (hroots : RootsSettled s nulls p)
    (index : Nat) : extract s nulls clock index p = .ok (plainExtract s nulls index) p := by
  refine (bind_of_ok (a := plainAssemble s nulls index) ?_).trans rfl
  unfold assemble plainAssemble
  unfold RootsSettled at hroots
  generalize s.roots nulls = roots at hroots
  induction roots generalizing index with
  | nil => rfl
  | cons root rest ih =>
      obtain ⟨c, region⟩ := root
      have hregion : Settled region p := hroots _ List.mem_cons_self
      have hrest := fun i => ih i fun t ht => hroots t (List.mem_cons_of_mem _ ht)
      refine (bind_of_ok (count_of_settled hp hregion)).trans ?_
      rw [plainAssembleRoots]
      split
      next => exact (bind_of_ok (assembleWithin_of_settled hp _ hregion index)).trans rfl
      next => exact hrest _

/-- A count that is finished has the whole regions to hand. -/
theorem rootsSettled_of_countLinkages {n : Nat} (hp : Sealed s p)
    (h : countLinkages s nulls clock p = .ok n q) :
    n = plainLinkages s nulls ∧ Sealed s q ∧ RootsSettled s nulls q := by
  have hcount : Secures s (countLinkages s nulls clock) _ _ := secures_countLinkages nulls
  rcases hcount.cases hp with ⟨t, ht, hsealed, -, hroots⟩ | ⟨e, t, ht, -⟩
  · rw [h] at ht
    obtain ⟨rfl, rfl⟩ := EStateM.Result.ok.inj ht
    exact ⟨rfl, hsealed, hroots⟩
  · rw [h] at ht
    nomatch ht

end LinkParsing.Search
