import LinkParsing.Proofs.Search.Plain

/-!
# Memory and clock never change an answer

A search is asked for the count or for linkages any number of times, and each time its
clock may ring at any look.  What it has remembered is always the plain count of the
region (`Truthful`), also after a question that the clock cut short.  So it answers each
question as a search without memory and clock would, unless the clock rings
(`serve_eq_plainAnswer`).
-/

namespace LinkParsing.Search

variable {s : Sentence} {clock : Clock} {r : Region} {α β : Type}

/-! ## Steps that give a value -/

/-- Every count that is remembered is the count of its region. -/
def Truthful (s : Sentence) (p : Progress) : Prop :=
  ∀ r n, p.memo[r]? = some n → n = plainCount s r

/-- From truthful progress, a step gives this value unless the clock rings, and leaves
truthful progress in either case. -/
def Gives (s : Sentence) (clock : Clock) (m : SearchM α) (v : α) : Prop :=
  ∀ p, Truthful s p →
    match m p with
    | .ok a q => a = v ∧ Truthful s q
    | .error _ q => (∃ look, clock look = true) ∧ Truthful s q

theorem truthful_start : Truthful s .start := by
  intro r n h
  simp [Progress.start] at h

theorem gives_pure (v : α) : Gives s clock (pure v) v := fun _ hp => ⟨rfl, hp⟩

theorem Gives.bind {m : SearchM α} {f : α → SearchM β} {v : α} {w : β} (hm : Gives s clock m v)
    (hf : Gives s clock (f v) w) : Gives s clock (m >>= f) w := by
  intro p hp
  have h := hm p hp
  change match EStateM.bind m f p with
    | .ok a q => a = w ∧ Truthful s q
    | .error _ q => (∃ look, clock look = true) ∧ Truthful s q
  unfold EStateM.bind
  cases hmp : m p with
  | ok a q =>
      rw [hmp] at h
      obtain ⟨rfl, hq⟩ := h
      exact hf q hq
  | error e q =>
      rw [hmp] at h
      exact h

/-- Looking at the progress, which is truthful. -/
theorem gives_get_bind {f : Progress → SearchM α} {v : α}
    (hf : ∀ p, Truthful s p → Gives s clock (f p) v) : Gives s clock (get >>= f) v :=
  fun p hp => hf p hp p hp

theorem gives_tick : Gives s clock (tick clock) () := by
  intro p hp
  by_cases hring : ((p.calls + 1) % clockStride = 0 && clock ((p.calls + 1) / clockStride)) = true
  · have hlook : clock ((p.calls + 1) / clockStride) = true := by
      simp only [Bool.and_eq_true] at hring
      exact hring.2
    simp only [tick, hring, if_true]
    exact ⟨⟨_, hlook⟩, hp⟩
  · simp only [tick, hring]
    exact ⟨trivial, hp⟩

theorem gives_remember : Gives s clock (remember r (plainCount s r)) () := by
  refine fun p hp => ⟨rfl, fun r' n h => ?_⟩
  rw [Std.HashMap.getElem?_insert] at h
  split at h
  next heq =>
    rw [← eq_of_beq heq]
    exact (Option.some.inj h).symm
  next => exact hp r' n h

/-! ## Counting -/

theorem plainCount_of_baseCount {n : Nat} (hbase : r.baseCount? = some n) :
    plainCount s r = n := by
  unfold plainCount plainWithin
  simp [hbase]

theorem plainCount_of_split (hbase : r.baseCount? = none) :
    plainCount s r = sumPlain (plainCount s) 0 (s.alternatives r) := by
  have hsum := sumPlain_eq (plainCount s) (assemblies s) (plainCount_eq s) (s.alternatives r) 0
  rw [plainCount_eq, assemblies_of_split hbase]
  simpa [assembliesOf] using hsum.symm

private theorem gives_sumAlternatives {count : Region → SearchM Nat} {alts : List Alternative}
    (hcount : ∀ a ∈ alts, Gives s clock (count a.left) (plainCount s a.left) ∧
      Gives s clock (count a.right) (plainCount s a.right)) (total : Nat) :
    Gives s clock (sumAlternatives count total alts) (sumPlain (plainCount s) total alts) := by
  induction alts generalizing total with
  | nil => exact gives_pure total
  | cons a rest ih =>
      have hrest := ih fun b hb => hcount b (List.mem_cons_of_mem a hb)
      obtain ⟨hleft, hright⟩ := hcount a List.mem_cons_self
      refine hleft.bind ?_
      rw [sumPlain]
      split
      next => exact hrest total
      next => exact hright.bind (hrest _)

theorem gives_countWithin {width : Nat} (h : r.width ≤ width) :
    Gives s clock (countWithin s clock width r) (plainCount s r) := by
  induction width generalizing r with
  | zero =>
      cases hbase : r.baseCount? with
      | some n =>
          unfold countWithin
          simp only [hbase, plainCount_of_baseCount hbase]
          exact gives_pure n
      | none =>
          have := width_pos_of_baseCount hbase
          omega
  | succ width ih =>
      unfold countWithin
      cases hbase : r.baseCount? with
      | some n =>
          simp only [plainCount_of_baseCount hbase]
          exact gives_pure n
      | none =>
          refine gives_get_bind fun p hp => ?_
          cases hmemo : p.memo[r]? with
          | some n =>
              -- What is remembered is the plain count.
              simp only [hp r n hmemo]
              exact gives_pure _
          | none =>
              -- Both parts are narrower, so they give plain counts, and what is remembered in
              -- the end is the plain count too.
              refine gives_tick.bind ?_
              refine Gives.bind (v := plainCount s r) ?_ (gives_remember.bind (gives_pure _))
              rw [plainCount_of_split hbase]
              refine gives_sumAlternatives (fun a ha => ?_) 0
              obtain ⟨hleft, hright⟩ := alternatives_narrower ha
              exact ⟨ih (by omega), ih (by omega)⟩

theorem gives_count (r : Region) : Gives s clock (count s clock r) (plainCount s r) :=
  gives_countWithin le_rfl

theorem gives_countLinkages (nulls : Nat) :
    Gives s clock (countLinkages s nulls clock) (plainLinkages s nulls) := by
  unfold countLinkages plainLinkages
  generalize s.roots nulls = roots
  generalize 0 = total
  induction roots generalizing total with
  | nil => exact gives_pure total
  | cons root rest ih => exact (gives_count root.2).bind (ih _)

/-! ## Extraction -/

theorem gives_pick (index : Nat) (alts : List Alternative) :
    Gives s clock (pick s clock index alts) (plainPick s index alts) := by
  induction alts generalizing index with
  | nil => exact gives_pure none
  | cons a rest ih =>
      refine (gives_count a.left).bind ?_
      rw [plainPick]
      split
      next => exact ih index
      next =>
        refine (gives_count a.right).bind ?_
        split
        next hhere =>
          simp only [hhere, if_true]
          exact gives_pure _
        next hhere =>
          simp only [hhere, if_false]
          exact ih _

private theorem gives_assembleWithin (width : Nat) (r : Region) (index : Nat) :
    Gives s clock (assembleWithin s clock width r index) (plainAssembleWithin s width r index) := by
  induction width generalizing r index with
  | zero => exact gives_pure Assembly.nothing
  | succ width ih =>
      unfold assembleWithin plainAssembleWithin
      split
      next => exact gives_pure Assembly.nothing
      next =>
        refine (gives_pick index (s.alternatives r)).bind ?_
        cases plainPick s index (s.alternatives r) with
        | none => exact gives_pure Assembly.nothing
        | some picked =>
            obtain ⟨a, i, j⟩ := picked
            exact (ih a.left i).bind ((ih a.right j).bind (gives_pure _))

theorem gives_assemble (nulls index : Nat) :
    Gives s clock (assemble s nulls clock index) (plainAssemble s nulls index) := by
  unfold assemble plainAssemble
  generalize s.roots nulls = roots
  induction roots generalizing index with
  | nil => exact gives_pure none
  | cons root rest ih =>
      obtain ⟨c, region⟩ := root
      refine (gives_count region).bind ?_
      rw [plainAssembleRoots]
      split
      next => exact (gives_assembleWithin _ region index).bind (gives_pure _)
      next => exact ih _

/-- The linkage with a number, found without memory and clock. -/
def plainExtract (s : Sentence) (nulls index : Nat) : Option Linkage :=
  (plainAssemble s nulls index).map (Assembly.toLinkage s)

theorem gives_extract (nulls index : Nat) :
    Gives s clock (extract s nulls clock index) (plainExtract s nulls index) :=
  (gives_assemble nulls index).bind (gives_pure _)

/-! ## Questions to a search -/

/-- What a search can be asked for: the number of linkages, or the linkage with a number. -/
inductive Query where
  | count
  | linkage (index : Nat)

/-- What a search answers. -/
inductive Answer where
  /-- The clock rang. -/
  | expired
  | count (n : Nat)
  | linkage (found : Option Linkage)

/-- The answer that the end of a step amounts to, with the progress it leaves. -/
def Answer.ofResult (f : α → Answer) :
    EStateM.Result TimerExpired Progress α → Answer × Progress
  | .ok a p => (f a, p)
  | .error _ p => (.expired, p)

/-- Answer a question. -/
def serve (s : Sentence) (nulls : Nat) (clock : Clock) (p : Progress) : Query → Answer × Progress
  | .count => Answer.ofResult .count (countLinkages s nulls clock p)
  | .linkage index => Answer.ofResult .linkage (extract s nulls clock index p)

/-- The progress of a new search after a history of questions, each with a clock of its own. -/
def progressAfter (s : Sentence) (nulls : Nat) (history : List (Clock × Query)) : Progress :=
  history.foldl (fun p asked => (serve s nulls asked.1 p asked.2).2) .start

/-- The answer without memory and clock. -/
def plainAnswer (s : Sentence) (nulls : Nat) : Query → Answer
  | .count => .count (plainLinkages s nulls)
  | .linkage index => .linkage (plainExtract s nulls index)

private theorem Gives.ofResult {m : SearchM α} {v : α} (h : Gives s clock m v) (f : α → Answer)
    {p : Progress} (hp : Truthful s p) :
    ((Answer.ofResult f (m p)).1 = f v ∨
      ((Answer.ofResult f (m p)).1 = .expired ∧ ∃ look, clock look = true)) ∧
      Truthful s (Answer.ofResult f (m p)).2 := by
  have hm := h p hp
  cases hmp : m p with
  | ok a q =>
      rw [hmp] at hm
      obtain ⟨rfl, hq⟩ := hm
      exact ⟨.inl rfl, hq⟩
  | error e q =>
      rw [hmp] at hm
      exact ⟨.inr ⟨rfl, hm.1⟩, hm.2⟩

/-- One question: the plain answer unless the clock rings, and truthful progress. -/
theorem serve_spec (nulls : Nat) (clock : Clock) {p : Progress} (hp : Truthful s p) (q : Query) :
    ((serve s nulls clock p q).1 = plainAnswer s nulls q ∨
      ((serve s nulls clock p q).1 = .expired ∧ ∃ look, clock look = true)) ∧
      Truthful s (serve s nulls clock p q).2 := by
  cases q with
  | count =>
      have hgives : Gives s clock (countLinkages s nulls clock) _ := gives_countLinkages nulls
      exact hgives.ofResult .count hp
  | linkage index =>
      have hgives : Gives s clock (extract s nulls clock index) _ := gives_extract nulls index
      exact hgives.ofResult .linkage hp

/-- Any number of questions leave truthful progress. -/
theorem truthful_progressAfter (s : Sentence) (nulls : Nat) (history : List (Clock × Query)) :
    Truthful s (progressAfter s nulls history) := by
  unfold progressAfter
  have hstep : ∀ (asked : List (Clock × Query)) (p : Progress), Truthful s p →
      Truthful s (asked.foldl (fun p asked => (serve s nulls asked.1 p asked.2).2) p) := by
    intro asked
    induction asked with
    | nil => exact fun p hp => hp
    | cons first rest ih => exact fun p hp => ih _ (serve_spec nulls first.1 hp first.2).2
  exact hstep history .start truthful_start

/-- Without a clock a step gives its value. -/
theorem Gives.never {m : SearchM α} {v : α} (h : Gives s .never m v) {p : Progress}
    (hp : Truthful s p) : ∃ q, m p = .ok v q := by
  have hm := h p hp
  cases hmp : m p with
  | ok a q =>
      rw [hmp] at hm
      obtain ⟨rfl, -⟩ := hm
      exact ⟨q, rfl⟩
  | error e q =>
      rw [hmp] at hm
      obtain ⟨⟨look, hlook⟩, -⟩ := hm
      simp [Clock.never] at hlook

/-- After any history of questions, whatever the clock did at each look and whatever it does
now, a search answers that the time is up, which takes a clock that rings, or it gives the
answer of a search without memory and clock, which is also that of a new search without a
clock.  All it has remembered then, also if the time is up, is the count without memory of
the region it is remembered for. -/
theorem serve_eq_plainAnswer (s : Sentence) (nulls : Nat) (history : List (Clock × Query))
    (clock : Clock) (q : Query) :
    ((serve s nulls clock (progressAfter s nulls history) q).1 = plainAnswer s nulls q ∨
      ((serve s nulls clock (progressAfter s nulls history) q).1 = .expired ∧
        ∃ look, clock look = true)) ∧
      (serve s nulls .never .start q).1 = plainAnswer s nulls q ∧
      ∀ r n, (serve s nulls clock (progressAfter s nulls history) q).2.memo[r]? = some n →
        n = plainCount s r := by
  obtain ⟨hanswer, htruthful⟩ :=
    serve_spec nulls clock (truthful_progressAfter s nulls history) q
  refine ⟨hanswer, ?_, htruthful⟩
  rcases (serve_spec nulls .never (truthful_start (s := s)) q).1 with h | ⟨-, look, hlook⟩
  · exact h
  · simp [Clock.never] at hlook

end LinkParsing.Search
