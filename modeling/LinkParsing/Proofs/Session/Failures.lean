import LinkParsing.Proofs.Options.Changes
import LinkParsing.Session.Request

/-!
# Requests that fail

A session lives through requests and changes of its engine (`SessionEvent`).  An engine that
does not always answer alike is an engine that changes, so nothing is assumed of engines.

A request that fails leaves its session as it was, whatever the cause: an option, the engine, the
bytes of the sentence, a number out of range, or that there is nothing selected or nothing left
(`answer_of_error`).  Hence the requests of a history that fail can be left out: the session
ends up the same, and so do its answers (`failures_leave_no_trace`).
-/

namespace LinkParsing

/-- Something that happens to a session: a request, or another engine. -/
inductive SessionEvent where
  | request (request : SessionRequest)
  | engine (engine : Engine)

namespace LiveSession

variable {s : LiveSession} {e : Error}

/-! ## One operation -/

/-- Options are changed where they stand, and a change that is refused has stored nothing. -/
theorem setOption_of_error {name : String} {value : OptionValue}
    (h : (s.setOption name value).1 = .error e) : (s.setOption name value).2 = s := by
  unfold setOption at h ⊢
  cases hname : Options.nameOf name with
  | error _ => rfl
  | ok option =>
      simp only [hname, Options.assign_eq, Options.inPlace] at h ⊢
      cases hset : s.options.set option value with
      | error _ => rfl
      | ok options =>
          rw [hset] at h
          cases h

theorem setOptions_of_error {options : Options} (h : (s.setOptions options).1 = .error e) :
    (s.setOptions options).2 = s := by
  unfold setOptions at h ⊢
  cases hvalid : options.validate with
  | error _ => rfl
  | ok _ =>
      rw [hvalid] at h
      cases h

theorem parse_of_error {sentence : String} (h : (s.parse sentence).1 = .error e) :
    (s.parse sentence).2 = s := by
  unfold parse at h ⊢
  cases hset : s.linkagesOf sentence with
  | error _ => rfl
  | ok set =>
      rw [hset] at h
      cases h

theorem parseBytes_of_error {bytes : List UInt8} (h : (s.parseBytes bytes).1 = .error e) :
    (s.parseBytes bytes).2 = s := by
  unfold parseBytes at h ⊢
  cases htext : Text.Utf8.decode bytes with
  | error _ => rfl
  | ok text =>
      simp only [htext] at h ⊢
      exact parse_of_error h

theorem selectLinkage_of_error {index : Int} (h : (s.selectLinkage index).1 = .error e) :
    (s.selectLinkage index).2 = s := by
  unfold selectLinkage at h ⊢
  cases hset : s.linkagesFor .selectLinkage with
  | error _ => rfl
  | ok set =>
      simp only [hset] at h ⊢
      cases hselect : set.select index with
      | error _ => rfl
      | ok selected =>
          rw [hselect] at h
          cases h

/-- The session behind an answer is the one behind the operation that gives it. -/
theorem changed_of_error {α : Type} {reply : α → SessionReply} {done : Except Error α × LiveSession}
    (hdone : ∀ e, done.1 = .error e → done.2 = s) (h : (changed reply done).1 = .error e) :
    (changed reply done).2 = .live s := by
  obtain ⟨result, after⟩ := done
  cases result with
  | ok _ => cases h
  | error e => exact congrArg Session.live (hdone e rfl)

end LiveSession

namespace Session

variable {s : Session} {request : SessionRequest} {e : Error}

/-- A request that fails leaves the session as it was. -/
theorem answer_of_error (h : (s.answer request).1 = .error e) : (s.answer request).2 = s := by
  cases s with
  | released => cases request <;> rfl
  | live s =>
      cases request with
      | setOption name value =>
          exact LiveSession.changed_of_error (fun _ => LiveSession.setOption_of_error) h
      | setOptions options =>
          exact LiveSession.changed_of_error (fun _ => LiveSession.setOptions_of_error) h
      | parse sentence =>
          exact LiveSession.changed_of_error (fun _ => LiveSession.parse_of_error) h
      | parseBytes bytes =>
          exact LiveSession.changed_of_error (fun _ => LiveSession.parseBytes_of_error) h
      | selectLinkage index =>
          exact LiveSession.changed_of_error (fun _ => LiveSession.selectLinkage_of_error) h
      | clear => cases h
      | release => cases h
      -- All other requests only look at the session.
      | version | dictionary | dictionaryHandle | getOption _ | options | linkageSet
      | selectedLinkage | diagram | postscript => rfl

/-! ## A whole history -/

/-- A new session. -/
def create (entropy : Sampling.Generator) (language : String) (dictionary : Dictionary) : Session :=
  live (.create entropy language dictionary)

/-- The session after an event. -/
def next (s : Session) : SessionEvent → Session
  | .request request => (s.answer request).2
  | .engine engine => s.withEngine engine

/-- The session after events, one after the other. -/
def after (s : Session) (events : List SessionEvent) : Session := events.foldl next s

/-- The answers to the requests among events. -/
def replies (s : Session) : List SessionEvent → List (Except Error SessionReply)
  | [] => []
  | .request request :: events =>
    (s.answer request).1 :: replies (s.next (.request request)) events
  | .engine engine :: events => replies (s.next (.engine engine)) events

/-- The events without the requests that fail when it is their turn. -/
def withoutFailures (s : Session) : List SessionEvent → List SessionEvent
  | [] => []
  | .request request :: events =>
    if (s.answer request).1.isOk then
      .request request :: withoutFailures (s.next (.request request)) events
    else withoutFailures (s.next (.request request)) events
  | .engine engine :: events => .engine engine :: withoutFailures (s.next (.engine engine)) events

@[simp] theorem after_cons (s : Session) (event : SessionEvent) (events : List SessionEvent) :
    s.after (event :: events) = (s.next event).after events := rfl

theorem replies_append (s : Session) (events later : List SessionEvent) :
    s.replies (events ++ later) = s.replies events ++ (s.after events).replies later := by
  induction events generalizing s with
  | nil => rfl
  | cons event events ih =>
      cases event with
      | request request => simp only [List.cons_append, replies, after_cons, ih]
      | engine engine => simp only [List.cons_append, replies, after_cons, ih]

/-- A request that does not succeed leaves the session as it was. -/
theorem next_of_not_isOk (h : ¬(s.answer request).1.isOk) : s.next (.request request) = s := by
  cases hresult : (s.answer request).1 with
  | ok _ =>
      rw [hresult] at h
      exact absurd rfl h
  | error e => exact answer_of_error hresult

/-- Without the requests that fail a session ends up the same. -/
theorem after_withoutFailures (s : Session) (events : List SessionEvent) :
    s.after (s.withoutFailures events) = s.after events := by
  induction events generalizing s with
  | nil => rfl
  | cons event events ih =>
      cases event with
      | engine engine => exact ih (s.next (.engine engine))
      | request request =>
          rw [withoutFailures, after_cons]
          by_cases hok : (s.answer request).1.isOk
          · rw [if_pos hok, after_cons]
            exact ih (s.next (.request request))
          · rw [if_neg hok, next_of_not_isOk hok]
            exact ih s

/-- Without the requests that fail a session gives all its other answers. -/
theorem replies_withoutFailures (s : Session) (events : List SessionEvent) :
    s.replies (s.withoutFailures events) = (s.replies events).filter Except.isOk := by
  induction events generalizing s with
  | nil => rfl
  | cons event events ih =>
      cases event with
      | engine engine => exact ih (s.next (.engine engine))
      | request request =>
          rw [withoutFailures, replies]
          by_cases hok : (s.answer request).1.isOk
          · rw [if_pos hok, replies, List.filter_cons_of_pos hok, ih]
          · rw [if_neg hok, List.filter_cons_of_neg hok, next_of_not_isOk hok]
            exact ih s

/-- Whatever has happened to a session, a request that fails leaves it as it was: its language,
its dictionary, its options, its linkages and which of them is selected.  So it makes no
difference whether the requests of its history that fail are made at all: the session ends up
the same, it has answered all others alike, and so it will later ones. -/
theorem failures_leave_no_trace (entropy : Sampling.Generator) (language : String)
    (dictionary : Dictionary) (events : List SessionEvent) :
    let start := create entropy language dictionary
    let s := start.after events
    (∀ request e, (s.answer request).1 = .error e → (s.answer request).2 = s) ∧
      start.after (start.withoutFailures events) = s ∧
      ∀ later, start.replies (start.withoutFailures events ++ later) =
        (start.replies events).filter Except.isOk ++ s.replies later := by
  refine ⟨fun request e => answer_of_error, after_withoutFailures _ events, fun later => ?_⟩
  rw [replies_append, replies_withoutFailures, after_withoutFailures]

end Session

end LinkParsing
