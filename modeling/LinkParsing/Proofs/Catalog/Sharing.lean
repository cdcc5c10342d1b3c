import LinkParsing.Catalog.Run

/-!
# What catalogs share

A catalog is used while the files below it change.  What it looks at is the search root that was
set last and was a directory at that time (`rootAfter`), and the files as they are by then
(`filesAfter`).

A catalog that shares has a dictionary for a language just if some load of the language has given
it (`shared?_run_iff`), so the first load that succeeds decides on all later ones.  Dictionaries
that are loaded are numbered, so one that is loaded anew is none of those before it
(`Loads.serial_lt`).  A catalog that does not share loads anew every time.
-/

namespace LinkParsing

/-- What a reply says about the dictionary of a language. -/
def CatalogReply.dictionary? : CatalogReply → Option (Except Error Dictionary)
  | loaded found => some (.ok found.dictionary)
  | failed e => some (.error e)
  | done => none

/-- The catalog with one more dictionary. -/
def Catalog.keep (c : Catalog) (language : String) (new : LoadedDictionary) : Catalog :=
  let loaded :=
    match c.policy with
    | .shared => (language, new) :: c.loaded
    | .separate => c.loaded
  { c with loaded, count := c.count + 1 }

namespace CatalogScene

variable {s : CatalogScene} {events : List CatalogEvent} {event : CatalogEvent}
  {language : String} {found : LoadedDictionary}

/-! ## One event -/

/-- What comes of loading the dictionary of a language. -/
inductive Loading (s : CatalogScene) (language : String) : CatalogReply × CatalogScene → Prop where
  /-- It is shared already. -/
  | shared {found : LoadedDictionary} (hpolicy : s.catalog.policy = .shared)
      (hfound : s.catalog.shared? language = some found) : Loading s language (.loaded found, s)
  | failed {e : Error} (hfound : s.catalog.policy = .shared → s.catalog.shared? language = none)
      (hload : Dictionary.load s.compile s.files language s.catalog.root = .error e) :
      Loading s language (.failed e, s)
  /-- It is read from the files and gets the next number. -/
  | new {dictionary : Dictionary}
      (hfound : s.catalog.policy = .shared → s.catalog.shared? language = none)
      (hload : Dictionary.load s.compile s.files language s.catalog.root = .ok dictionary) :
      Loading s language (.loaded ⟨s.catalog.count, dictionary⟩,
        { s with catalog := s.catalog.keep language ⟨s.catalog.count, dictionary⟩ })

theorem loading (s : CatalogScene) (language : String) :
    Loading s language (s.step (.load language)) := by
  -- Both policies load anew in the same way.
  have hnew (hfound : s.catalog.policy = .shared → s.catalog.shared? language = none)
      (hload : s.catalog.load s.compile s.files language =
        s.catalog.loadNew s.compile s.files language) :
      Loading s language (s.step (.load language)) := by
    simp only [step, hload, Catalog.loadNew]
    cases hread : Dictionary.load s.compile s.files language s.catalog.root with
    | error e => exact .failed hfound hread
    | ok dictionary => exact .new hfound hread
  cases hpolicy : s.catalog.policy with
  | separate =>
      refine hnew (fun h => ?_) (by simp only [Catalog.load, hpolicy])
      rw [hpolicy] at h
      cases h
  | shared =>
      cases hfound : s.catalog.shared? language with
      | none => exact hnew (fun _ => hfound) (by simp only [Catalog.load, hpolicy, hfound])
      | some found =>
          have hstep : s.step (.load language) = (.loaded found, s) := by
            simp only [step, Catalog.load, hpolicy, hfound]
          rw [hstep]
          exact .shared hpolicy hfound

/-- A search root that is a directory is taken, any other one refused. -/
theorem step_setRoot (s : CatalogScene) (root : String) :
    s.step (.setRoot root) =
      if s.files.isDirectory root then (.done, { s with catalog := { s.catalog with root } })
      else (.failed (.configuration (.noSearchRoot root)), s) := by
  simp only [step, Catalog.setRoot, Catalog.checkRoot]
  cases s.files.isDirectory root <;> rfl

/-- Setting a search root changes the root, if at all, and nothing else. -/
theorem step_setRoot_snd (s : CatalogScene) (root : String) :
    (s.step (.setRoot root)).2 =
      { s with catalog := { s.catalog with
        root := if s.files.isDirectory root then root else s.catalog.root } } := by
  rw [step_setRoot]
  split <;> rfl

theorem Loading.eq_of_failed {result : CatalogReply × CatalogScene} {e : Error}
    (h : Loading s language result) (hfailed : result.1 = .failed e) : result.2 = s := by
  cases h with
  | shared | new => cases hfailed
  | failed => rfl

/-- What fails changes nothing. -/
theorem step_of_failed {e : Error} (h : (s.step event).1 = .failed e) : (s.step event).2 = s := by
  cases event with
  | load language => exact (loading s language).eq_of_failed h
  | setRoot root =>
      rw [step_setRoot] at h ⊢
      split
      next hdirectory =>
        rw [if_pos hdirectory] at h
        cases h
      next => rfl
  | change files => cases h

/-- Loading leaves all but the dictionaries that are shared and their number as it is. -/
theorem Loading.rest_eq {result : CatalogReply × CatalogScene} (h : Loading s language result) :
    result.2.compile = s.compile ∧ result.2.files = s.files ∧
      result.2.catalog.root = s.catalog.root ∧ result.2.catalog.policy = s.catalog.policy := by
  cases h <;> exact ⟨rfl, rfl, rfl, rfl⟩

theorem run_cons (s : CatalogScene) (event : CatalogEvent) (events : List CatalogEvent) :
    s.run (event :: events) = (s.step event).2.run events := rfl

theorem run_policy (s : CatalogScene) (events : List CatalogEvent) :
    (s.run events).catalog.policy = s.catalog.policy := by
  induction events generalizing s with
  | nil => rfl
  | cons event events ih =>
      refine (ih (s.step event).2).trans ?_
      cases event with
      | load language => exact (loading s language).rest_eq.2.2.2
      | setRoot root => rw [step_setRoot_snd]
      | change files => rfl

/-! ## Where a catalog looks -/

/-- The search root after events: the last one that was a directory when it was set. -/
def rootAfter (root : String) (files : FileTree) : List CatalogEvent → String
  | [] => root
  | .load _ :: events => rootAfter root files events
  | .setRoot new :: events => rootAfter (if files.isDirectory new then new else root) files events
  | .change new :: events => rootAfter root new events

/-- The files after events. -/
def filesAfter (files : FileTree) : List CatalogEvent → FileTree
  | [] => files
  | .load _ :: events => filesAfter files events
  | .setRoot _ :: events => filesAfter files events
  | .change new :: events => filesAfter new events

theorem run_looks (s : CatalogScene) (events : List CatalogEvent) :
    (s.run events).catalog.root = rootAfter s.catalog.root s.files events ∧
      (s.run events).files = filesAfter s.files events ∧ (s.run events).compile = s.compile := by
  induction events generalizing s with
  | nil => exact ⟨rfl, rfl, rfl⟩
  | cons event events ih =>
      rw [run_cons]
      cases event with
      | load language =>
          obtain ⟨hcompile, hfiles, hroot, -⟩ := (loading s language).rest_eq
          have hrest := ih (s.step (.load language)).2
          rwa [hcompile, hfiles, hroot] at hrest
      | setRoot root =>
          rw [step_setRoot_snd]
          exact ih _
      | change files => exact ih _

/-! ## What has been loaded -/

/-- Some load of the language among the events gives this dictionary. -/
def Loads (s : CatalogScene) (events : List CatalogEvent) (language : String)
    (found : LoadedDictionary) : Prop :=
  ∃ earlier later, events = earlier ++ .load language :: later ∧
    ((s.run earlier).step (.load language)).1 = .loaded found

theorem not_loads_nil : ¬s.Loads [] language found := by
  rintro ⟨earlier, later, heq, -⟩
  exact absurd heq.symm (List.append_ne_nil_of_right_ne_nil earlier (List.cons_ne_nil _ later))

/-- A load among events is the first of them or one behind it. -/
theorem loads_cons : s.Loads (event :: events) language found ↔
    event = .load language ∧ (s.step event).1 = .loaded found ∨
      (s.step event).2.Loads events language found := by
  constructor
  · rintro ⟨earlier, later, heq, hreply⟩
    cases earlier with
    | nil =>
        obtain ⟨rfl, rfl⟩ := List.cons.inj heq
        exact .inl ⟨rfl, hreply⟩
    | cons first earlier =>
        obtain ⟨rfl, rfl⟩ := List.cons.inj heq
        exact .inr ⟨earlier, later, rfl, hreply⟩
  · rintro (⟨rfl, hreply⟩ | ⟨earlier, later, rfl, hreply⟩)
    · exact ⟨[], events, rfl, hreply⟩
    · exact ⟨event :: earlier, later, rfl, hreply⟩

theorem shared?_keep {c : Catalog} {new : LoadedDictionary} (hpolicy : c.policy = .shared)
    (language other : String) : (c.keep language new).shared? other =
      if other = language then some new else c.shared? other := by
  simp only [Catalog.keep, Catalog.shared?, hpolicy, List.lookup_cons]
  by_cases h : other = language
  · simp [h]
  · have hne : (other == language) = false := beq_false_of_ne h
    simp [h, hne]

theorem Loading.shared?_iff {result : CatalogReply × CatalogScene} {other : String}
    (hpolicy : s.catalog.policy = .shared) (h : Loading s language result) :
    result.2.catalog.shared? other = some found ↔ s.catalog.shared? other = some found ∨
      language = other ∧ result.1 = .loaded found := by
  cases h with
  | shared _ hfound =>
      constructor
      · exact .inl
      · rintro (h | ⟨rfl, hreply⟩)
        · exact h
        · cases hreply
          exact hfound
  | failed _ _ =>
      constructor
      · exact .inl
      · rintro (h | ⟨-, hreply⟩)
        · exact h
        · cases hreply
  | new hfound _ =>
      rw [shared?_keep hpolicy]
      by_cases hsame : language = other
      · subst hsame
        simp [hfound hpolicy]
      · simp [hsame, Ne.symm hsame]

theorem shared?_step_iff (hpolicy : s.catalog.policy = .shared) :
    (s.step event).2.catalog.shared? language = some found ↔
      s.catalog.shared? language = some found ∨
        event = .load language ∧ (s.step event).1 = .loaded found := by
  cases event with
  | load other =>
      rw [(loading s other).shared?_iff hpolicy, CatalogEvent.load.injEq]
  | setRoot root =>
      rw [step_setRoot_snd, step_setRoot]
      split <;> simp [Catalog.shared?]
  | change files => simp [step]

/-- In a catalog that shares, the dictionary of a language is the one that some load has given. -/
theorem shared?_run_iff (hpolicy : s.catalog.policy = .shared) :
    (s.run events).catalog.shared? language = some found ↔
      s.catalog.shared? language = some found ∨ s.Loads events language found := by
  induction events generalizing s with
  | nil => exact ⟨.inl, fun h => h.resolve_right not_loads_nil⟩
  | cons event events ih =>
      have hstep : (s.step event).2.catalog.policy = .shared := by
        rw [← hpolicy]
        exact run_policy s [event]
      rw [loads_cons, ← or_assoc, ← shared?_step_iff hpolicy]
      exact ih hstep

/-! ## Numbers -/

/-- The dictionaries that are shared have numbers that were given already. -/
def Numbered (s : CatalogScene) : Prop :=
  ∀ language found, s.catalog.shared? language = some found → found.serial < s.catalog.count

theorem shared?_of_keep {c : Catalog} {new : LoadedDictionary} {other : String}
    (h : (c.keep language new).shared? other = some found) :
    found = new ∨ c.shared? other = some found := by
  cases hpolicy : c.policy with
  | separate =>
      right
      simpa only [Catalog.keep, Catalog.shared?, hpolicy] using h
  | shared =>
      rw [shared?_keep hpolicy] at h
      split at h
      next => exact .inl (Option.some.inj h).symm
      next => exact .inr h

theorem Loading.numbered {result : CatalogReply × CatalogScene} (hs : s.Numbered)
    (h : Loading s language result) :
    result.2.Numbered ∧ s.catalog.count ≤ result.2.catalog.count ∧
      ∀ found, result.1 = .loaded found → found.serial < result.2.catalog.count := by
  cases h with
  | shared _ hfound =>
      refine ⟨hs, Nat.le_refl _, fun found hreply => ?_⟩
      cases hreply
      exact hs language _ hfound
  | failed _ _ => exact ⟨hs, Nat.le_refl _, nofun⟩
  | new _ _ =>
      refine ⟨fun other found hother => ?_, Nat.le_succ _, fun found hreply => ?_⟩
      · rcases shared?_of_keep hother with rfl | hold
        · exact Nat.lt_succ_self _
        · exact Nat.lt_succ_of_lt (hs other found hold)
      · cases hreply
        exact Nat.lt_succ_self _

theorem step_numbered (hs : s.Numbered) (event : CatalogEvent) :
    (s.step event).2.Numbered ∧ s.catalog.count ≤ (s.step event).2.catalog.count ∧
      ∀ found, (s.step event).1 = .loaded found →
        found.serial < (s.step event).2.catalog.count := by
  cases event with
  | load language => exact (loading s language).numbered hs
  | setRoot root =>
      rw [step_setRoot]
      split <;> exact ⟨hs, Nat.le_refl _, nofun⟩
  | change files => exact ⟨hs, Nat.le_refl _, nofun⟩

theorem count_le_run (hs : s.Numbered) (events : List CatalogEvent) :
    s.catalog.count ≤ (s.run events).catalog.count := by
  induction events generalizing s with
  | nil => exact Nat.le_refl _
  | cons event events ih =>
      obtain ⟨hnext, hle, -⟩ := step_numbered hs event
      exact Nat.le_trans hle (ih hnext)

/-- Dictionaries that have been loaded have numbers below the next one. -/
theorem Loads.serial_lt (hs : s.Numbered) (h : s.Loads events language found) :
    found.serial < (s.run events).catalog.count := by
  induction events generalizing s with
  | nil => exact absurd h not_loads_nil
  | cons event events ih =>
      obtain ⟨hnext, -, hlt⟩ := step_numbered hs event
      rcases loads_cons.mp h with ⟨-, hreply⟩ | hlater
      · exact Nat.lt_of_lt_of_le (hlt found hreply) (count_le_run hnext events)
      · exact ih hnext hlater

/-! ## The two policies -/

/-- After these events the dictionary of a language is loaded from the files as they are, below
the search root in force, and it is none of those that were loaded before. -/
def LoadsNew (start : CatalogScene) (events : List CatalogEvent) (language : String) : Prop :=
  let reply := ((start.run events).step (.load language)).1
  reply.dictionary? = some (Dictionary.load start.compile (filesAfter start.files events) language
      (rootAfter start.catalog.root start.files events)) ∧
    ∀ found, reply = .loaded found →
      ∀ other old, start.Loads events other old → old.serial ≠ found.serial

theorem loadsNew (hs : s.Numbered)
    (hfound : (s.run events).catalog.policy = .shared →
      (s.run events).catalog.shared? language = none) : s.LoadsNew events language := by
  obtain ⟨hroot, hfiles, hcompile⟩ := run_looks s events
  have hloading := loading (s.run events) language
  unfold LoadsNew
  rw [← hroot, ← hfiles, ← hcompile]
  generalize (s.run events).step (.load language) = result at hloading ⊢
  cases hloading with
  | shared hpolicy hsome =>
      rw [hfound hpolicy] at hsome
      cases hsome
  | failed _ hload => exact ⟨congrArg some hload.symm, nofun⟩
  | new _ hload =>
      refine ⟨congrArg some hload.symm, fun found hreply other old hold => ?_⟩
      cases hreply
      exact Nat.ne_of_lt (hold.serial_lt hs)

/-- What holds of a catalog that shares its dictionaries. -/
structure Shares (start : CatalogScene) : Prop where
  /-- A language that has been loaded is loaded ever after, as the same dictionary. -/
  again : ∀ events language found, start.Loads events language found →
    ((start.run events).step (.load language)).1 = .loaded found
  first : ∀ events language, (∀ found, ¬start.Loads events language found) →
    start.LoadsNew events language
  isLoaded_iff : ∀ events language, (start.run events).catalog.isLoaded language = true ↔
    ∃ found, start.Loads events language found

/-- What holds of a catalog that does not share. -/
structure LoadsAnew (start : CatalogScene) : Prop where
  loads : ∀ events language, start.LoadsNew events language
  isLoaded_eq : ∀ events language, (start.run events).catalog.isLoaded language = false

variable {compile : Lexicon.PatternCompiler} {files : FileTree} {root : String}
  {policy : SharePolicy}

theorem shared?_make (language : String) : (Catalog.make root policy).shared? language = none := rfl

theorem numbered_make : (CatalogScene.mk compile files (.make root policy)).Numbered := by
  intro language found hfound
  rw [shared?_make] at hfound
  cases hfound

/-- From a catalog that shares and has loaded nothing yet, a dictionary is there just if some load
has given it. -/
theorem shared?_run_make_iff :
    ((CatalogScene.mk compile files (.make root .shared)).run events).catalog.shared? language =
        some found ↔
      (CatalogScene.mk compile files (.make root .shared)).Loads events language found := by
  rw [shared?_run_iff rfl, shared?_make]
  exact ⟨fun h => h.resolve_left nofun, .inr⟩

theorem shares_make : (CatalogScene.mk compile files (.make root .shared)).Shares where
  again := by
    intro events language found hloads
    have hfound := shared?_run_make_iff.mpr hloads
    have hpolicy := run_policy (CatalogScene.mk compile files (.make root .shared)) events
    have hloading :=
      loading ((CatalogScene.mk compile files (.make root .shared)).run events) language
    generalize (CatalogScene.step _ (.load language)) = result at hloading ⊢
    cases hloading with
    | shared _ hsame =>
        rw [hfound] at hsame
        cases hsame
        rfl
    | failed hnone _ | new hnone _ =>
        rw [hfound] at hnone
        cases hnone hpolicy
  first := by
    intro events language hnone
    refine loadsNew numbered_make fun _ => Option.eq_none_iff_forall_ne_some.mpr fun found h => ?_
    exact hnone found (shared?_run_make_iff.mp h)
  isLoaded_iff := by
    intro events language
    rw [Catalog.isLoaded, Option.isSome_iff_exists]
    exact exists_congr fun found => shared?_run_make_iff

theorem Loading.loaded_eq {result : CatalogReply × CatalogScene}
    (hpolicy : s.catalog.policy = .separate) (h : Loading s language result) :
    result.2.catalog.loaded = s.catalog.loaded := by
  cases h with
  | shared | failed => rfl
  | new => simp only [Catalog.keep, hpolicy]

/-- A catalog that does not share keeps nothing of what it loads. -/
theorem loaded_run_of_separate (hpolicy : s.catalog.policy = .separate) :
    (s.run events).catalog.loaded = s.catalog.loaded := by
  induction events generalizing s with
  | nil => rfl
  | cons event events ih =>
      have hnext : (s.step event).2.catalog.policy = .separate :=
        (run_policy s [event]).trans hpolicy
      refine (ih hnext).trans ?_
      cases event with
      | load language => exact (loading s language).loaded_eq hpolicy
      | setRoot root => rw [step_setRoot_snd]
      | change files => rfl

theorem loadsAnew_make : (CatalogScene.mk compile files (.make root .separate)).LoadsAnew where
  loads := by
    intro events language
    refine loadsNew numbered_make fun hshared => ?_
    rw [run_policy] at hshared
    cases hshared
  isLoaded_eq := by
    intro events language
    have hloaded :
        ((CatalogScene.mk compile files (.make root .separate)).run events).catalog.loaded = [] :=
      loaded_run_of_separate rfl
    rw [Catalog.isLoaded, Catalog.shared?, hloaded]
    rfl

/-- Whatever happens to a catalog and to the files below it: one that shares keeps to the dictionary
that the first load of a language to succeed has given, one that does not share loads anew every
time, and what fails, a load or a new search root, changes nothing. -/
theorem sharing_by_policy (compile : Lexicon.PatternCompiler) (files : FileTree) (root : String) :
    (CatalogScene.mk compile files (.make root .shared)).Shares ∧
      (CatalogScene.mk compile files (.make root .separate)).LoadsAnew ∧
      ∀ policy events event e,
        let s := (CatalogScene.mk compile files (.make root policy)).run events
        (s.step event).1 = .failed e → (s.step event).2 = s :=
  ⟨shares_make, loadsAnew_make, fun _ _ _ _ => step_of_failed⟩

end CatalogScene

end LinkParsing
