import LinkParsing.Options.Changes
import LinkParsing.Proofs.Options.Documents

/-!
# Options under changes

A change of options checks first and stores last, so that it does all of what its function says or
nothing (`assign_eq` for one option, `perform_eq` for every change).  Whatever changes are made, some
linkages are kept (`maxLinkages_pos_run`), and all that this needs holds after any of them
(`laws_after_changes`).  What was read of an option can always be set again, and this is no change
unless the option holds more than can be read (`set_get_after_changes`).
-/

namespace LinkParsing.Options

/-! ## Changing in place -/

theorem inPlace_error (e : Error) : inPlace (fun _ => .error e) = throw e := rfl

/-- What is checked does not depend on the options, so that it can be checked first. -/
theorem inPlace_bind {α : Type} (r : Except Error α) (f : Options → α → Except Error Options) :
    inPlace (fun o => r >>= f o) = checked r >>= fun a => inPlace (f · a) := by
  cases r <;> rfl

theorem inPlace_ite (p : Prop) [Decidable p] (f g : Options → Except Error Options) :
    inPlace (fun o => if p then f o else g o) = if p then inPlace f else inPlace g := by
  by_cases hp : p <;> simp [hp]

theorem assignMaxLinkages_eq (n : UInt64) :
    assignMaxLinkages n = inPlace (·.setMaxLinkages n) := by
  unfold assignMaxLinkages setMaxLinkages
  rw [inPlace_ite]
  split <;> rfl

/-- Changing an option in place is setting it, and a refusal leaves all options as they are. -/
theorem assign_eq (name : OptionName) (value : OptionValue) :
    assign name value = inPlace (·.set name value) := by
  cases name with
  | maxLinkages =>
      simp only [assign, set, inPlace_bind, inPlace_ite, inPlace_error, assignMaxLinkages_eq]
      rfl
  | verbosity =>
      simp only [assign, set, inPlace_bind, inPlace_ite, inPlace_error]
      rfl
  | parseTimeLimitSeconds | maxNullCount | displayWalls | repeatableRand =>
      simp only [assign, set, inPlace_bind]
      rfl

/-! ## Runs -/

namespace OptionChange

/-- A change does all of what it says or nothing. -/
theorem perform_eq (change : OptionChange) : change.perform = inPlace change.result := by
  cases change with
  | set name value => exact assign_eq name value
  | setMaxLinkages n => exact assignMaxLinkages_eq n
  | replace text =>
      funext o
      simp only [perform, inPlace, result]
      cases ofJson text <;> rfl

theorem maxLinkages_pos_of_result {change : OptionChange} {o o' : Options}
    (ho : 0 < o.maxLinkages) (h : change.result o = .ok o') : 0 < o'.maxLinkages := by
  cases change with
  | set name value =>
      obtain ⟨v, -, -, hpos⟩ := (set_eq_ok_iff_of_pos ho).mp h
      exact hpos
  | setMaxLinkages n =>
      obtain ⟨hn, rfl⟩ := setMaxLinkages_eq_ok_iff.mp h
      exact UInt64.pos_iff_ne_zero.mpr hn
  | replace text => exact (ofDocument_eq_ok_iff.mp h).2

end OptionChange

/-! ## After any changes -/

variable {o o' : Options}

theorem maxLinkages_pos_run (ho : 0 < o.maxLinkages) (changes : List OptionChange) :
    0 < (o.run changes).maxLinkages := by
  induction changes generalizing o with
  | nil => exact ho
  | cons change changes ih =>
      simp only [run, OptionChange.perform_eq, inPlace]
      cases hresult : change.result o with
      | error e => exact ih ho
      | ok o' => exact ih (OptionChange.maxLinkages_pos_of_result ho hresult)

/-- Whatever changes were made to the defaults, some linkages are kept.  An option that is set is
read as it was set, and all others stay as they are; a change that is refused leaves all of them.
The options are what their own document says. -/
theorem laws_after_changes (changes : List OptionChange) :
    let o := Options.default.run changes
    0 < o.maxLinkages ∧
      (∀ name value o', o.set name value = .ok o' → assign name value o = .ok () o' ∧
        o'.get name = value ∧ ∀ other, other ≠ name → o'.held other = o.held other) ∧
      (∀ change e, OptionChange.result change o = .error e → change.perform o = .error e o) ∧
      ofJson o.toJson = .ok o := by
  intro o
  have hpos : 0 < o.maxLinkages := maxLinkages_pos_run (by decide) changes
  refine ⟨hpos, fun name value o' hset => ?_, fun change e hresult => ?_, ofJson_toJson hpos⟩
  · rw [assign_eq, inPlace, hset]
    exact ⟨rfl, get_set hset⟩
  · rw [OptionChange.perform_eq, inPlace, hresult]

/-- Whatever changes were made to the defaults, an option can be set to what is read of it.  It then
holds what was read, and all others stay as they are: so nothing changes but a number that is too
large to be read. -/
theorem set_get_after_changes (changes : List OptionChange) (name : OptionName) :
    let o := Options.default.run changes
    ∃ o', o.set name (o.get name) = .ok o' ∧ assign name (o.get name) o = .ok () o' ∧
      o'.held name = (o.held name).capped ∧
      (∀ other, other ≠ name → o'.held other = o.held other) ∧
      (o' = o ↔ ∀ n, o.held name = .number n → n ≤ OptionValue.maxInt) := by
  intro o
  have hpos : 0 < o.maxLinkages := maxLinkages_pos_run (by decide) changes
  obtain ⟨o', hset, hheld, hothers⟩ := exists_set_get hpos name
  refine ⟨o', hset, by rw [assign_eq, inPlace, hset], hheld, hothers, ?_⟩
  rw [← capped_eq_self_iff, ← hheld]
  constructor
  · rintro rfl
    rfl
  · intro hname
    refine ext_held fun other => ?_
    by_cases hother : other = name
    · rw [hother, hname]
    · exact hothers other hother

/-- The first number of linkages that is too large to be read is not set again by what is read. -/
theorem set_get_maxLinkages_ne :
    ¬∀ (changes : List OptionChange) (name : OptionName),
      let o := Options.default.run changes
      o.set name (o.get name) = .ok o := by
  intro h
  have hlarge := Except.ok.inj (h [.setMaxLinkages 0x8000000000000000] .maxLinkages)
  exact absurd (congrArg maxLinkages hlarge) (by decide)

end LinkParsing.Options
