import LinkParsing.Proofs.Session.Failures

/-!
# The states of a session

Whatever happens to a session, the number that is selected is below the number of its linkages
(`SelectsWithin`): parsing starts with nothing selected, and selecting checks the number.  So the
states of a session are told apart by what it has, a request leads to the state that it is for
or leaves the state as it is, and a session that is released refuses all that is asked of it
(`lawful_after_create`).
-/

namespace LinkParsing

/-- The state to which a request leads when it succeeds, unless it leaves the state as it is. -/
def SessionRequest.target? : SessionRequest → Option SessionState
  | parse _ => some .parsed
  | parseBytes _ => some .parsed
  | selectLinkage _ => some .linkageSelected
  | clear => some .created
  | release => some .closed
  | _ => none

namespace LinkageSet

variable {set set' : LinkageSet} {linkage : Linkage} {index : Int} {n : Nat}

/-- A linkage is selected by its number, which is not negative. -/
theorem select_eq_ok_iff : set.select index = .ok (linkage, set') ↔
    ∃ n : Nat, (n : Int) = index ∧ set.get? n = some linkage ∧
      set' = { set with selected := some n } := by
  unfold select
  constructor
  · intro h
    split at h
    next => cases h
    next hindex =>
      have hcast : (index.toNat : Int) = index := Int.toNat_of_nonneg (Int.not_lt.mp hindex)
      split at h
      next found hfound =>
        cases h
        exact ⟨index.toNat, hcast, hfound, rfl⟩
      next => cases h
  · rintro ⟨n, rfl, hget, rfl⟩
    simp [hget]

theorem select_of_neg (h : index < 0) : set.select index = .error (.rangeUnderflow index) :=
  if_pos h

theorem select_of_le (h : (set.numLinkages : Int) ≤ index) :
    set.select index = .error (.rangeOutOfBounds index set.numLinkages) := by
  obtain ⟨n, rfl⟩ := Int.eq_ofNat_of_zero_le (Int.le_trans (Int.natCast_nonneg _) h)
  have hget : set.get? n = none := Array.getElem?_eq_none (Int.ofNat_le.mp h)
  simp [select, hget]

theorem exists_get?_iff : (∃ linkage, set.get? n = some linkage) ↔ n < set.numLinkages := by
  rw [← Option.isSome_iff_exists]
  exact Iff.of_eq (isSome_getElem? set.linkages n)

end LinkageSet

namespace LiveSession

variable {s : LiveSession} {linkage : Linkage} {summary : ParseSummary} {index : Int}

/-! ## One operation -/

/-- The linkages that a parse comes to start with nothing selected. -/
theorem selected_of_linkagesOf {sentence : String} {set : LinkageSet}
    (h : s.linkagesOf sentence = .ok set) : set.selected = none := by
  unfold linkagesOf at h
  split at h
  next =>
    cases h
    rfl
  next =>
    cases houtcome : s.engine.parse s.dictionary sentence s.options with
    | error e =>
        rw [houtcome] at h
        cases h
    | ok outcome =>
        rw [houtcome] at h
        cases h
        rfl

theorem parse_of_ok {sentence : String} (h : (s.parse sentence).1 = .ok summary) :
    ∃ set, set.selected = none ∧ (s.parse sentence).2 = { s with linkages := some set } := by
  unfold parse at h ⊢
  cases hset : s.linkagesOf sentence with
  | error e =>
      rw [hset] at h
      cases h
  | ok set => exact ⟨set, selected_of_linkagesOf hset, rfl⟩

theorem parseBytes_of_ok {bytes : List UInt8} (h : (s.parseBytes bytes).1 = .ok summary) :
    ∃ set, set.selected = none ∧ (s.parseBytes bytes).2 = { s with linkages := some set } := by
  unfold parseBytes at h ⊢
  cases htext : Text.Utf8.decode bytes with
  | error e =>
      rw [htext] at h
      cases h
  | ok text =>
      rw [htext] at h
      exact parse_of_ok h

theorem selectLinkage_of_none (h : s.linkages = none) :
    (s.selectLinkage index).1 = .error (.state .selectLinkage .created) := by
  simp only [selectLinkage, linkagesFor, state, h]

theorem selectLinkage_of_some {set : LinkageSet} (h : s.linkages = some set) :
    (s.selectLinkage index).1 = (set.select index).map (·.1) := by
  simp only [selectLinkage, linkagesFor, h]
  cases set.select index <;> rfl

theorem selectLinkage_of_ok (h : (s.selectLinkage index).1 = .ok linkage) :
    ∃ (set : LinkageSet) (n : Nat), s.linkages = some set ∧ (n : Int) = index ∧
      set.get? n = some linkage ∧
      (s.selectLinkage index).2 =
        { s with linkages := some { set with selected := some n } } := by
  cases hset : s.linkages with
  | none =>
      rw [selectLinkage_of_none hset] at h
      cases h
  | some set =>
      simp only [selectLinkage, linkagesFor, hset] at h ⊢
      cases hselect : set.select index with
      | error e =>
          rw [hselect] at h
          cases h
      | ok selected =>
          rw [hselect] at h
          cases h
          obtain ⟨n, hn, hget, hset'⟩ := LinkageSet.select_eq_ok_iff.mp hselect
          exact ⟨set, n, rfl, hn, hget, by rw [← hset']⟩

/-- Setting an option leaves the linkages as they are. -/
theorem setOption_linkages (s : LiveSession) (name : String) (value : OptionValue) :
    (s.setOption name value).2.linkages = s.linkages := by
  unfold setOption
  split
  next => rfl
  next => split <;> rfl

theorem setOptions_linkages (s : LiveSession) (options : Options) :
    (s.setOptions options).2.linkages = s.linkages := by
  unfold setOptions
  split <;> rfl

/-- An answer is given where the operation behind it succeeds. -/
theorem changed_of_ok {α : Type} {reply : α → SessionReply} {done : Except Error α × LiveSession}
    {r : SessionReply} (h : (changed reply done).1 = .ok r) : ∃ a, done.1 = .ok a := by
  obtain ⟨result, after⟩ := done
  cases result with
  | error e => cases h
  | ok a => exact ⟨a, rfl⟩

end LiveSession

namespace Session

variable {s : Session} {t : LiveSession} {request : SessionRequest} {reply : SessionReply}

/-- The linkages of the last parse. -/
def linkageSet? : Session → Option LinkageSet
  | live s => s.linkages
  | released => none

/-! ## One request -/

/-- What a request that succeeds does to a session in use. -/
inductive Effect (t : LiveSession) : SessionRequest → Session → Prop where
  /-- A parse puts linkages into the session, none of them selected. -/
  | parsed {request set} (htarget : request.target? = some .parsed) (hset : set.selected = none) :
      Effect t request (live { t with linkages := some set })
  | selected {set : LinkageSet} {n : Nat} (hset : t.linkages = some set)
      (hn : n < set.numLinkages) :
      Effect t (.selectLinkage n) (live { t with linkages := some { set with selected := some n } })
  | cleared : Effect t .clear (live { t with linkages := none })
  | released : Effect t .release released
  /-- All other requests leave the linkages as they are. -/
  | other {request t'} (htarget : request.target? = none) (hsame : t'.linkages = t.linkages) :
      Effect t request (live t')

theorem effect_of_ok (hok : ((live t).answer request).1 = .ok reply) :
    Effect t request ((live t).answer request).2 := by
  cases request with
  | parse sentence =>
      obtain ⟨summary, hsummary⟩ := LiveSession.changed_of_ok hok
      obtain ⟨set, hset, hafter⟩ := LiveSession.parse_of_ok hsummary
      have heffect : Effect t (.parse sentence) _ := .parsed rfl hset
      rwa [← hafter] at heffect
  | parseBytes bytes =>
      obtain ⟨summary, hsummary⟩ := LiveSession.changed_of_ok hok
      obtain ⟨set, hset, hafter⟩ := LiveSession.parseBytes_of_ok hsummary
      have heffect : Effect t (.parseBytes bytes) _ := .parsed rfl hset
      rwa [← hafter] at heffect
  | selectLinkage index =>
      obtain ⟨linkage, hlinkage⟩ := LiveSession.changed_of_ok hok
      obtain ⟨set, n, hset, rfl, hget, hafter⟩ := LiveSession.selectLinkage_of_ok hlinkage
      have heffect := Effect.selected hset (LinkageSet.exists_get?_iff.mp ⟨linkage, hget⟩)
      rwa [← hafter] at heffect
  | clear => exact .cleared
  | release => exact .released
  | setOption name value => exact .other rfl (t.setOption_linkages name value)
  | setOptions options => exact .other rfl (t.setOptions_linkages options)
  | _ => exact .other rfl rfl

/-- A session that is released refuses every request but another release, by its name. -/
theorem answer_released (h : request ≠ .release) : ∃ operation,
    request.operation = some operation ∧
      released.answer request = (.error (.sessionClosed operation), released) := by
  cases request with
  | release => exact absurd rfl h
  | _ => exact ⟨_, rfl, rfl⟩

theorem eq_release_of_ok (hok : (released.answer request).1 = .ok reply) : request = .release := by
  cases request with
  | release => rfl
  | _ => cases hok

theorem next_released (event : SessionEvent) : released.next event = released := by
  cases event with
  | engine engine => rfl
  | request request => cases request <;> rfl

theorem after_released (events : List SessionEvent) : released.after events = released := by
  induction events with
  | nil => rfl
  | cons event events ih => rw [after_cons, next_released, ih]

/-! ## The number that is selected -/

/-- The number that is selected is below the number of linkages. -/
def SelectsWithin (s : Session) : Prop :=
  ∀ set n, s.linkageSet? = some set → set.selected = some n → n < set.numLinkages

theorem Effect.selectsWithin (h : (live t).SelectsWithin) (heffect : Effect t request s) :
    s.SelectsWithin := by
  intro set n hset hn
  cases heffect with
  | parsed htarget hnone =>
      cases hset
      rw [hnone] at hn
      cases hn
  | selected hold hlt =>
      cases hset
      cases hn
      exact hlt
  | cleared => cases hset
  | released => cases hset
  | other htarget hsame => exact h set n (hsame.symm.trans hset) hn

theorem selectsWithin_next (h : s.SelectsWithin) (event : SessionEvent) :
    (s.next event).SelectsWithin := by
  cases s with
  | released =>
      rw [next_released]
      exact h
  | live t =>
      cases event with
      | engine engine => exact h
      | request request =>
          cases hresult : ((live t).answer request).1 with
          | error e =>
              have hsame : (live t).next (.request request) = live t := answer_of_error hresult
              rw [hsame]
              exact h
          | ok reply => exact (effect_of_ok hresult).selectsWithin h

theorem selectsWithin_after (h : s.SelectsWithin) (events : List SessionEvent) :
    (s.after events).SelectsWithin := by
  induction events generalizing s with
  | nil => exact h
  | cons event events ih => exact ih (selectsWithin_next h event)

theorem selectsWithin_create (entropy : Sampling.Generator) (language : String)
    (dictionary : Dictionary) : (create entropy language dictionary).SelectsWithin := by
  intro set n hset
  cases hset

/-! ## States -/

theorem state_eq_created_iff : s.state = .created ↔ s.isClosed = false ∧ s.linkageSet? = none := by
  cases s with
  | released => exact ⟨nofun, nofun⟩
  | live t =>
      simp only [state, LiveSession.state, isClosed, linkageSet?, true_and]
      cases t.linkages with
      | none => simp
      | some set => cases hselected : set.selected <;> simp [hselected]

theorem state_eq_closed_iff : s.state = .closed ↔ s.isClosed = true := by
  cases s with
  | released => exact ⟨fun _ => rfl, fun _ => rfl⟩
  | live t =>
      simp only [state, LiveSession.state, isClosed]
      cases t.linkages with
      | none => simp
      | some set => cases hselected : set.selected <;> simp [hselected]

theorem state_eq_linkageSelected_iff : s.state = .linkageSelected ↔
    ∃ set n, s.linkageSet? = some set ∧ set.selected = some n := by
  cases s with
  | released => exact ⟨nofun, fun ⟨_, _, hset, _⟩ => nomatch hset⟩
  | live t =>
      simp only [state, LiveSession.state, linkageSet?]
      cases t.linkages with
      | none => simp
      | some set => cases hselected : set.selected <;> simp [hselected]

/-- What a session has tells its state, whatever else it holds. -/
theorem state_congr {t' : LiveSession} (h : t'.linkages = t.linkages) :
    (live t').state = (live t).state := by
  simp only [state, LiveSession.state, h]

theorem Effect.state_eq {target : SessionState} (htarget : request.target? = some target)
    (heffect : Effect t request s) : s.state = target := by
  cases heffect with
  | parsed hparsed hnone =>
      rw [hparsed] at htarget
      cases htarget
      simp [state, LiveSession.state, hnone]
  | selected hset hn =>
      cases htarget
      rfl
  | cleared =>
      cases htarget
      rfl
  | released =>
      cases htarget
      rfl
  | other hother hsame =>
      rw [hother] at htarget
      cases htarget

/-- A request that succeeds leads to the state that it is for. -/
theorem answer_state_of_ok {target : SessionState} (htarget : request.target? = some target)
    (hok : (s.answer request).1 = .ok reply) : (s.answer request).2.state = target := by
  cases s with
  | live t => exact (effect_of_ok hok).state_eq htarget
  | released =>
      obtain rfl := eq_release_of_ok hok
      cases htarget
      rfl

/-- A request that leads to no state of its own, or that fails, leaves the state as it is. -/
theorem answer_state_eq
    (h : request.target? = none ∨ ∃ e, (s.answer request).1 = .error e) :
    (s.answer request).2.state = s.state := by
  cases hresult : (s.answer request).1 with
  | error e => rw [answer_of_error hresult]
  | ok reply =>
      have htarget : request.target? = none := by
        refine h.resolve_right fun ⟨e, he⟩ => ?_
        rw [hresult] at he
        cases he
      cases s with
      | released =>
          have hafter : (released.answer request).2 = released := next_released (.request request)
          rw [hafter]
      | live t =>
          have heffect := effect_of_ok hresult
          generalize ((live t).answer request).2 = after at heffect ⊢
          cases heffect with
          | other _ hsame => exact state_congr hsame
          | parsed hparsed _ =>
              rw [htarget] at hparsed
              cases hparsed
          | selected | cleared | released => cases htarget

/-! ## Selecting and showing -/

/-- A linkage can be selected if there are linkages and its number is below theirs. -/
theorem selectLinkage_isOk_iff {index : Int} :
    (∃ reply, (s.answer (.selectLinkage index)).1 = .ok reply) ↔
      ∃ set, s.linkageSet? = some set ∧ 0 ≤ index ∧ index < set.numLinkages := by
  constructor
  · rintro ⟨reply, hreply⟩
    cases s with
    | released => cases hreply
    | live t =>
        have heffect := effect_of_ok hreply
        generalize ((live t).answer (.selectLinkage index)).2 = after at heffect
        cases heffect with
        | selected hset hn => exact ⟨_, hset, Int.natCast_nonneg _, Int.ofNat_lt.mpr hn⟩
        | parsed htarget _ => cases htarget
        | other htarget _ => cases htarget
  · rintro ⟨set, hset, hpos, hlt⟩
    cases s with
    | released => cases hset
    | live t =>
        obtain ⟨n, rfl⟩ := Int.eq_ofNat_of_zero_le hpos
        obtain ⟨linkage, hget⟩ := LinkageSet.exists_get?_iff.mpr (Int.ofNat_lt.mp hlt)
        have hselect := LinkageSet.select_eq_ok_iff.mpr ⟨n, rfl, hget, rfl⟩
        refine ⟨.linkage linkage, ?_⟩
        have hresult : (t.selectLinkage n).1 = .ok linkage := by
          rw [LiveSession.selectLinkage_of_some hset, hselect]
          rfl
        exact congrArg (Except.map SessionReply.linkage) hresult

theorem linkageSet?_of_selected {index : Int}
    (hok : (s.answer (.selectLinkage index)).1 = .ok reply) :
    ∃ (set : LinkageSet) (n : Nat), (n : Int) = index ∧ set.selected = some n ∧
      (s.answer (.selectLinkage index)).2.linkageSet? = some set := by
  cases s with
  | released => cases hok
  | live t =>
      have heffect := effect_of_ok hok
      generalize ((live t).answer (.selectLinkage index)).2 = after at heffect ⊢
      cases heffect with
      | selected hset hn => exact ⟨_, _, rfl, rfl, rfl⟩
      | parsed htarget _ => cases htarget
      | other htarget _ => cases htarget

/-- A parse leaves nothing selected. -/
theorem linkageSet?_of_parsed (htarget : request.target? = some .parsed)
    (hok : (s.answer request).1 = .ok reply) :
    ∃ set, (s.answer request).2.linkageSet? = some set ∧ set.selected = none := by
  cases s with
  | released =>
      obtain rfl := eq_release_of_ok hok
      cases htarget
  | live t =>
      have heffect := effect_of_ok hok
      generalize ((live t).answer request).2 = after at heffect ⊢
      cases heffect with
      | parsed _ hset => exact ⟨_, rfl, hset⟩
      | other hother _ =>
          rw [hother] at htarget
          cases htarget
      | selected | cleared | released => cases htarget

/-- A number that cannot be selected is refused for the reason that its set of linkages gives. -/
theorem selectLinkage_of_error {index : Int} {set : LinkageSet} {e : Error}
    (hset : s.linkageSet? = some set) (h : set.select index = .error e) :
    (s.answer (.selectLinkage index)).1 = .error e := by
  cases s with
  | released => cases hset
  | live t =>
      have hresult : (t.selectLinkage index).1 = .error e := by
        rw [LiveSession.selectLinkage_of_some hset, h]
        rfl
      exact congrArg (Except.map SessionReply.linkage) hresult

theorem selectLinkage_of_created {index : Int} (h : s.state = .created) :
    (s.answer (.selectLinkage index)).1 = .error (.state .selectLinkage .created) := by
  obtain ⟨hopen, hnone⟩ := state_eq_created_iff.mp h
  cases s with
  | released => cases hopen
  | live t =>
      exact congrArg (Except.map SessionReply.linkage) (LiveSession.selectLinkage_of_none hnone)

/-- With a number in range, the linkage with this number is the one that is selected. -/
theorem selectedLinkage_eq {set : LinkageSet} {n : Nat} (h : s.SelectsWithin)
    (hset : s.linkageSet? = some set) (hn : set.selected = some n) :
    ∃ linkage, set.get? n = some linkage ∧
      s.answer .selectedLinkage = (.ok (.selection (some linkage)), s) := by
  cases s with
  | released => cases hset
  | live t =>
      obtain ⟨linkage, hget⟩ := LinkageSet.exists_get?_iff.mpr (h set n hset hn)
      have hselected : t.selectedLinkage = some linkage := by
        have hlinkages : t.linkages = some set := hset
        simp [LiveSession.selectedLinkage, LinkageSet.selectedLinkage, hlinkages, hn, hget]
      refine ⟨linkage, hget, ?_⟩
      simp only [answer, LiveSession.answer, LiveSession.unchanged, hselected]
      rfl

/-- There is a linkage to show just in the state that says so. -/
theorem exists_selectedLinkage_iff (h : (live t).SelectsWithin) :
    (∃ linkage, t.selectedLinkage = some linkage) ↔ (live t).state = .linkageSelected := by
  rw [state_eq_linkageSelected_iff]
  constructor
  · rintro ⟨linkage, hlinkage⟩
    obtain ⟨set, hset, hselected⟩ := Option.bind_eq_some_iff.mp hlinkage
    obtain ⟨n, hn, -⟩ := Option.bind_eq_some_iff.mp hselected
    exact ⟨set, n, hset, hn⟩
  · rintro ⟨set, n, hset, hn⟩
    obtain ⟨linkage, hget, hanswer⟩ := selectedLinkage_eq h hset hn
    refine ⟨linkage, Option.bind_eq_some_iff.mpr ⟨set, hset, ?_⟩⟩
    exact Option.bind_eq_some_iff.mpr ⟨n, hn, hget⟩

/-- An operation that shows the selected linkage succeeds just if there is one. -/
theorem show_isOk_iff (h : s.SelectsWithin) {operation : SessionOperation}
    {draw : LiveSession → Linkage → String} {request : SessionRequest}
    (hlive : ∀ t, (live t).answer request =
      t.unchanged .text ((t.selection operation).map (draw t)))
    (hreleased : ∃ e, (released.answer request).1 = .error e) :
    (∃ reply, (s.answer request).1 = .ok reply) ↔ s.state = .linkageSelected := by
  cases s with
  | released =>
      obtain ⟨e, he⟩ := hreleased
      rw [he]
      exact ⟨nofun, nofun⟩
  | live t =>
      rw [hlive t, ← exists_selectedLinkage_iff h]
      simp only [LiveSession.unchanged, LiveSession.selection]
      cases t.selectedLinkage with
      | none => exact ⟨nofun, nofun⟩
      | some linkage => exact ⟨fun _ => ⟨linkage, rfl⟩, fun _ => ⟨_, rfl⟩⟩

/-! ## The whole -/

/-- What holds of a session, whatever it is asked next. -/
structure Lawful (s : Session) : Prop where
  created_iff : s.state = .created ↔ s.isClosed = false ∧ s.linkageSet? = none
  selected_iff : s.state = .linkageSelected ↔
    ∃ set n, s.linkageSet? = some set ∧ set.selected = some n ∧ n < set.numLinkages
  closed_iff : s.state = .closed ↔ s.isClosed = true
  /-- The linkage with the number that is selected is the selected one. -/
  selected_eq : ∀ set n, s.linkageSet? = some set → set.selected = some n →
    ∃ linkage, set.get? n = some linkage ∧
      s.answer .selectedLinkage = (.ok (.selection (some linkage)), s)
  /-- A request that succeeds leads to the state that it is for. -/
  moves : ∀ request reply target, request.target? = some target →
    (s.answer request).1 = .ok reply → (s.answer request).2.state = target
  /-- All other requests, and those that fail, leave the state as it is. -/
  stays : ∀ request, (request.target? = none ∨ ∃ e, (s.answer request).1 = .error e) →
    (s.answer request).2.state = s.state
  /-- A parse leaves nothing selected. -/
  parses : ∀ request reply, request.target? = some .parsed → (s.answer request).1 = .ok reply →
    ∃ set, (s.answer request).2.linkageSet? = some set ∧ set.selected = none
  /-- The number that is asked for is selected. -/
  selects : ∀ index reply, (s.answer (.selectLinkage index)).1 = .ok reply →
    ∃ (set : LinkageSet) (n : Nat), (n : Int) = index ∧ set.selected = some n ∧
      (s.answer (.selectLinkage index)).2.linkageSet? = some set
  clears : s.state ≠ .closed → (s.answer .clear).1 = .ok .done
  releases : (s.answer .release).1 = .ok .done
  select_iff : ∀ index, (∃ reply, (s.answer (.selectLinkage index)).1 = .ok reply) ↔
    ∃ set, s.linkageSet? = some set ∧ 0 ≤ index ∧ index < set.numLinkages
  select_unparsed : ∀ index, s.state = .created →
    (s.answer (.selectLinkage index)).1 = .error (.state .selectLinkage .created)
  select_underflow : ∀ index set, s.linkageSet? = some set → index < 0 →
    (s.answer (.selectLinkage index)).1 = .error (.rangeUnderflow index)
  select_outOfBounds : ∀ index set, s.linkageSet? = some set → (set.numLinkages : Int) ≤ index →
    (s.answer (.selectLinkage index)).1 = .error (.rangeOutOfBounds index set.numLinkages)
  diagram_iff : (∃ reply, (s.answer .diagram).1 = .ok reply) ↔ s.state = .linkageSelected
  postscript_iff : (∃ reply, (s.answer .postscript).1 = .ok reply) ↔ s.state = .linkageSelected
  /-- A session that is closed refuses every request but a release, by its name. -/
  refuses : s.state = .closed → ∀ request, request ≠ .release → ∃ operation,
    request.operation = some operation ∧ s.answer request = (.error (.sessionClosed operation), s)
  closed_after : s.state = .closed → ∀ events, (s.after events).state = .closed

theorem SelectsWithin.lawful (h : s.SelectsWithin) : s.Lawful where
  created_iff := state_eq_created_iff
  selected_iff := by
    rw [state_eq_linkageSelected_iff]
    constructor
    · rintro ⟨set, n, hset, hn⟩
      exact ⟨set, n, hset, hn, h set n hset hn⟩
    · rintro ⟨set, n, hset, hn, -⟩
      exact ⟨set, n, hset, hn⟩
  closed_iff := state_eq_closed_iff
  selected_eq := fun set n => selectedLinkage_eq h
  moves := fun request reply target => answer_state_of_ok
  stays := fun request => answer_state_eq
  parses := fun request reply => linkageSet?_of_parsed
  selects := fun index reply => linkageSet?_of_selected
  clears := by
    intro hopen
    cases s with
    | live t => rfl
    | released => exact absurd rfl hopen
  releases := by cases s <;> rfl
  select_iff := fun index => selectLinkage_isOk_iff
  select_unparsed := fun index => selectLinkage_of_created
  select_underflow := fun index set hset hneg =>
    selectLinkage_of_error hset (LinkageSet.select_of_neg hneg)
  select_outOfBounds := fun index set hset hle =>
    selectLinkage_of_error hset (LinkageSet.select_of_le hle)
  diagram_iff := show_isOk_iff h (fun _ => rfl) ⟨_, rfl⟩
  postscript_iff := show_isOk_iff h (fun _ => rfl) ⟨_, rfl⟩
  refuses := by
    intro hclosed request hrequest
    cases s with
    | live t => exact nomatch state_eq_closed_iff.mp hclosed
    | released => exact answer_released hrequest
  closed_after := by
    intro hclosed events
    cases s with
    | live t => exact nomatch state_eq_closed_iff.mp hclosed
    | released => rw [after_released, hclosed]

/-- Whatever has happened to a new session, its state follows from what it has, requests lead from
state to state as they should, and being closed is final. -/
theorem lawful_after_create (entropy : Sampling.Generator) (language : String)
    (dictionary : Dictionary) (events : List SessionEvent) :
    ((create entropy language dictionary).after events).Lawful :=
  (selectsWithin_after (selectsWithin_create entropy language dictionary) events).lawful

end Session

end LinkParsing
