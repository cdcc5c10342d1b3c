import LinkParsing.Options.Document
import LinkParsing.Proofs.Result

/-!
# The values that options hold

Options hold numbers and truth values (`held`), and by these they are told apart (`ext_held`).
Storing a value that fits an option makes the option hold it and leaves all others as they are
(`store?_spec`).  Setting an option stores what its value says (`set_eq_ok_iff`), and what is read
of an option is the value that it holds, as far as an integer of 64 bits can say it
(`get_eq_shown`).  So what has been read can be set again (`exists_set_get`).
-/

namespace LinkParsing

/-- What a value says in a document: a number that is not negative, or a truth value. -/
def OptionValue.document? : OptionValue → Option DocumentValue
  | .int n => if n < 0 then none else some (.number n.toNatClampNeg)
  | .bool b => some (.truth b)

/-- What a value of a document is as the value of an option, where numbers end with the largest
integer. -/
def DocumentValue.shown : DocumentValue → OptionValue
  | .number n => .int (Int64.ofNat (min n OptionValue.maxInt))
  | .truth b => .bool b

/-- The value that is left of a value once it has been shown. -/
def DocumentValue.capped : DocumentValue → DocumentValue
  | .number n => .number (min n OptionValue.maxInt)
  | .truth b => .truth b

namespace Options

/-- The value that an option holds. -/
def held (o : Options) : OptionName → DocumentValue
  | .maxLinkages => .number o.maxLinkages.toNat
  | .parseTimeLimitSeconds => .number o.parseTimeLimitSeconds.toNat
  | .verbosity => .number o.verbosity.toNat
  | .maxNullCount => .number o.maxNullCount.toNat
  | .displayWalls => .truth o.displayWalls
  | .repeatableRand => .truth o.repeatableRand

/-- Whether an option can hold a value. -/
def Fits : OptionName → DocumentValue → Prop
  | .maxLinkages, .number n => n < UInt64.size
  | .parseTimeLimitSeconds, .number n => n < UInt64.size
  | .verbosity, .number n => n < UInt32.size
  | .maxNullCount, .number n => n < UInt64.size
  | .displayWalls, .truth _ => True
  | .repeatableRand, .truth _ => True
  | _, _ => False

variable {o o' : Options} {name : OptionName} {value : OptionValue} {v : DocumentValue}

theorem ext_held (h : ∀ name, o.held name = o'.held name) : o = o' := by
  have hmaxLinkages := h .maxLinkages
  have hseconds := h .parseTimeLimitSeconds
  have hverbosity := h .verbosity
  have hnulls := h .maxNullCount
  have hwalls := h .displayWalls
  have hrand := h .repeatableRand
  obtain ⟨_, _, _, _, _, _⟩ := o
  obtain ⟨_, _, _, _, _, _⟩ := o'
  simp only [held, DocumentValue.number.injEq, DocumentValue.truth.injEq, UInt64.toNat_inj,
    UInt32.toNat_inj] at *
  simp [*]

theorem fits_held (o : Options) (name : OptionName) : Fits name (o.held name) := by
  cases name with
  | maxLinkages => exact o.maxLinkages.toNat_lt_size
  | parseTimeLimitSeconds => exact o.parseTimeLimitSeconds.toNat_lt_size
  | verbosity => exact o.verbosity.toNat_lt_size
  | maxNullCount => exact o.maxNullCount.toNat_lt_size
  | displayWalls => trivial
  | repeatableRand => trivial

/-! ## Storing -/

theorem exists_store? (h : Fits name v) (o : Options) : ∃ o', o.store? name v = some o' := by
  cases name <;> cases v <;> simp_all [Fits, store?]

theorem store?_spec (h : o.store? name v = some o') :
    Fits name v ∧ o'.held name = v ∧ ∀ other, other ≠ name → o'.held other = o.held other := by
  cases name <;> cases v <;>
    simp only [store?, reduceCtorEq, Option.ite_none_right_eq_some, Option.some.injEq] at h
  case displayWalls.truth | repeatableRand.truth =>
      subst h
      refine ⟨trivial, rfl, fun other hne => ?_⟩
      cases other <;> first | rfl | exact absurd rfl hne
  -- A number that is in range is what its word stands for.
  all_goals
    obtain ⟨hn, rfl⟩ := h
    refine ⟨hn, congrArg DocumentValue.number (Nat.mod_eq_of_lt hn), fun other hne => ?_⟩
    cases other <;> first | rfl | exact absurd rfl hne

/-! ## Setting -/

theorem expectInteger_eq_ok_iff {n : Int64} :
    expectInteger name value = .ok n ↔ value = .int n := by
  cases value <;> simp [expectInteger]

theorem expectNonNegative_eq_ok_iff {n : Int64} :
    expectNonNegative name value = .ok n ↔ value = .int n ∧ ¬n < 0 := by
  rw [expectNonNegative, bind_eq_ok_iff]
  simp only [expectInteger_eq_ok_iff]
  constructor
  · rintro ⟨m, rfl, hm⟩
    split at hm
    · cases hm
    · next hnonneg =>
        cases hm
        exact ⟨rfl, hnonneg⟩
  · rintro ⟨rfl, hn⟩
    exact ⟨n, rfl, if_neg hn⟩

theorem eq_ofNat_of_nonneg {n : Int64} (h : ¬n < 0) : n = Int64.ofNat n.toNatClampNeg :=
  (Int64.ofNat_toNatClampNeg n (Int64.not_lt.mp h)).symm

theorem ofNat_le_zero_iff {n : Nat} (hn : n ≤ OptionValue.maxInt) : Int64.ofNat n ≤ 0 ↔ n = 0 := by
  rw [← Nat.le_zero]
  exact Int64.ofNat_le_iff_le (Nat.lt_succ_of_le hn) (by decide)

theorem not_ofNat_neg {n : Nat} (hn : n ≤ OptionValue.maxInt) : ¬Int64.ofNat n < 0 := by
  rw [show (0 : Int64) = Int64.ofNat 0 from rfl,
    Int64.ofNat_lt_iff_lt (Nat.lt_succ_of_le hn) (by decide)]
  exact Nat.not_lt_zero n

theorem expectNonNegative_ofNat {n : Nat} (hn : n ≤ OptionValue.maxInt) :
    expectNonNegative name (.int (Int64.ofNat n)) = .ok (Int64.ofNat n) :=
  expectNonNegative_eq_ok_iff.mpr ⟨rfl, not_ofNat_neg hn⟩

theorem setMaxLinkages_eq_ok_iff {n : UInt64} :
    o.setMaxLinkages n = .ok o' ↔ n ≠ 0 ∧ o' = { o with maxLinkages := n } := by
  unfold setMaxLinkages
  split
  · next hzero => simp [hzero]
  · next hpos => simp [hpos, eq_comm]

/-- An integer that is not negative is stored, but for zero as the number of linkages. -/
theorem set_ofNat_eq_ok_iff {n : Nat} (hn : n ≤ OptionValue.maxInt) :
    o.set name (.int (Int64.ofNat n)) = .ok o' ↔
      o.store? name (.number n) = some o' ∧ (name = .maxLinkages → n ≠ 0) := by
  have hword : n < UInt64.size := Nat.lt_of_le_of_lt hn (by decide)
  cases name with
  | maxLinkages =>
      have hzero : UInt64.ofNat n = 0 ↔ n = 0 := by
        rw [← UInt64.toNat_inj, UInt64.toNat_ofNat_of_lt' hword]
        rfl
      simp only [set, expectInteger, bind, Except.bind, ofNat_le_zero_iff hn, Int64.toUInt64_ofNat',
        store?, if_pos hword, Option.some.injEq, forall_const]
      split
      · next h => simp [h]
      · next h =>
          rw [setMaxLinkages_eq_ok_iff]
          simp [hzero, h, eq_comm]
  | verbosity =>
      simp only [set, expectNonNegative_ofNat hn, bind, Except.bind, pure, Except.pure,
        Int64.toNatClampNeg_ofNat_of_lt (Nat.lt_succ_of_le hn), store?]
      split <;> simp
  | parseTimeLimitSeconds | maxNullCount =>
      simp [set, expectNonNegative_ofNat hn, bind, Except.bind, pure, Except.pure, store?, hword]
  | displayWalls | repeatableRand => simp [set, expectBoolean, bind, Except.bind, store?]

/-- No option can be set to a negative integer. -/
theorem set_of_neg {n : Int64} (hn : n < 0) : o.set name (.int n) ≠ .ok o' := by
  cases name with
  | maxLinkages => simp [set, expectInteger, bind, Except.bind, Int64.le_of_lt hn]
  | parseTimeLimitSeconds | verbosity | maxNullCount =>
      simp [set, expectNonNegative, expectInteger, bind, Except.bind, hn]
  | displayWalls | repeatableRand => simp [set, expectBoolean, bind, Except.bind]

theorem set_bool_eq_ok_iff {b : Bool} :
    o.set name (.bool b) = .ok o' ↔ o.store? name (.truth b) = some o' := by
  cases name with
  | maxLinkages => simp [set, expectInteger, bind, Except.bind, store?]
  | parseTimeLimitSeconds | verbosity | maxNullCount =>
      simp [set, expectNonNegative, expectInteger, bind, Except.bind, store?]
  | displayWalls | repeatableRand =>
      simp [set, expectBoolean, bind, Except.bind, pure, Except.pure, store?]

/-- Setting an option stores what the value says; only zero is refused as the number of
linkages. -/
theorem set_eq_ok_iff : o.set name value = .ok o' ↔ ∃ v, value.document? = some v ∧
    o.store? name v = some o' ∧ (name = .maxLinkages → v ≠ .number 0) := by
  cases value with
  | bool b => simp [OptionValue.document?, set_bool_eq_ok_iff]
  | int n =>
      by_cases hn : n < 0
      · simp [OptionValue.document?, hn, set_of_neg hn]
      · have hof := eq_ofNat_of_nonneg hn
        simp only [OptionValue.document?, if_neg hn, Option.some.injEq, exists_eq_left', ne_eq,
          DocumentValue.number.injEq]
        rw [hof, set_ofNat_eq_ok_iff (Nat.le_of_lt_succ n.toNatClampNeg_lt), ← hof]

theorem maxLinkages_pos_iff : 0 < o.maxLinkages ↔ o.held .maxLinkages ≠ .number 0 := by
  rw [UInt64.pos_iff_ne_zero, held, ne_eq, ne_eq, DocumentValue.number.injEq, ← UInt64.toNat_inj]
  rfl

/-- Where some linkages are kept, what cannot be set is what cannot be stored or leaves none. -/
theorem set_eq_ok_iff_of_pos (ho : 0 < o.maxLinkages) : o.set name value = .ok o' ↔
    ∃ v, value.document? = some v ∧ o.store? name v = some o' ∧ 0 < o'.maxLinkages := by
  rw [set_eq_ok_iff]
  refine exists_congr fun v => and_congr_right fun _ => and_congr_right fun hstore => ?_
  obtain ⟨-, hheld, hothers⟩ := store?_spec hstore
  rw [maxLinkages_pos_iff]
  by_cases hname : name = .maxLinkages
  · subst hname
    simp [hheld]
  · rw [hothers _ (Ne.symm hname)]
    simp [hname, maxLinkages_pos_iff.mp ho]

/-! ## Reading -/

theorem shown_of_document? (h : value.document? = some v) : v.shown = value := by
  cases value with
  | bool b =>
      cases h
      rfl
  | int n =>
      simp only [OptionValue.document?] at h
      split at h
      · cases h
      · next hn =>
          cases h
          have hle : n.toNatClampNeg ≤ OptionValue.maxInt := Nat.le_of_lt_succ n.toNatClampNeg_lt
          rw [DocumentValue.shown, Nat.min_eq_left hle, ← eq_ofNat_of_nonneg hn]

theorem document?_shown (v : DocumentValue) : v.shown.document? = some v.capped := by
  cases v with
  | truth b => rfl
  | number n =>
      have hle : min n OptionValue.maxInt ≤ OptionValue.maxInt := Nat.min_le_right n _
      rw [DocumentValue.shown, OptionValue.document?, if_neg (not_ofNat_neg hle),
        Int64.toNatClampNeg_ofNat_of_lt (Nat.lt_succ_of_le hle), DocumentValue.capped]

theorem ofUInt64_eq_shown (n : UInt64) :
    OptionValue.ofUInt64 n = (DocumentValue.number n.toNat).shown := by
  show _ = OptionValue.int (Int64.ofNat (min n.toNat OptionValue.maxInt))
  unfold OptionValue.ofUInt64
  split
  · next hle =>
      rw [Nat.min_eq_left hle, ← UInt64.toInt64_ofNat', UInt64.ofNat_toNat]
  · next hlt =>
      rw [Nat.min_eq_right (Nat.le_of_not_le hlt)]
      rfl

/-- What is read of an option is the value that it holds. -/
theorem get_eq_shown (o : Options) (name : OptionName) : o.get name = (o.held name).shown := by
  cases name with
  | maxLinkages | parseTimeLimitSeconds | maxNullCount => exact ofUInt64_eq_shown _
  | displayWalls | repeatableRand => rfl
  | verbosity =>
      have hle : o.verbosity.toUInt64.toNat ≤ OptionValue.maxInt := by
        have hlt := o.verbosity.toNat_lt
        rw [UInt32.toNat_toUInt64, OptionValue.maxInt]
        omega
      have hword := ofUInt64_eq_shown o.verbosity.toUInt64
      rw [OptionValue.ofUInt64, if_pos hle, UInt32.toNat_toUInt64] at hword
      exact hword

/-- An option that has been set is read as it was set, and all others are as they were. -/
theorem get_set (h : o.set name value = .ok o') :
    o'.get name = value ∧ ∀ other, other ≠ name → o'.held other = o.held other := by
  obtain ⟨v, hv, hstore, -⟩ := set_eq_ok_iff.mp h
  obtain ⟨-, hheld, hothers⟩ := store?_spec hstore
  exact ⟨by rw [get_eq_shown, hheld, shown_of_document? hv], hothers⟩

/-! ## Setting what has been read -/

theorem fits_capped (h : Fits name v) : Fits name v.capped := by
  cases v with
  | truth b => exact h
  | number n =>
      have hle : min n OptionValue.maxInt ≤ n := Nat.min_le_left n OptionValue.maxInt
      cases name with
      | maxLinkages | parseTimeLimitSeconds | verbosity | maxNullCount =>
          exact Nat.lt_of_le_of_lt hle h
      | displayWalls | repeatableRand => exact h

theorem capped_ne_zero (h : v ≠ .number 0) : v.capped ≠ .number 0 := by
  cases v with
  | truth b => nofun
  | number n =>
      simp only [DocumentValue.capped, OptionValue.maxInt, ne_eq, DocumentValue.number.injEq] at h ⊢
      omega

theorem capped_eq_self_iff :
    v.capped = v ↔ ∀ n, v = .number n → n ≤ OptionValue.maxInt := by
  cases v with
  | truth b => simp [DocumentValue.capped]
  | number n =>
      simp only [DocumentValue.capped, DocumentValue.number.injEq, forall_eq']
      exact ⟨fun h => h ▸ Nat.min_le_right n OptionValue.maxInt, Nat.min_eq_left⟩

/-- An option can be set to what is read of it.  Then it holds this value, as far as it could be
read, and all others are as they were. -/
theorem exists_set_get (ho : 0 < o.maxLinkages) (name : OptionName) :
    ∃ o', o.set name (o.get name) = .ok o' ∧ o'.held name = (o.held name).capped ∧
      ∀ other, other ≠ name → o'.held other = o.held other := by
  obtain ⟨o', hstore⟩ := exists_store? (fits_capped (fits_held o name)) o
  obtain ⟨-, hheld, hothers⟩ := store?_spec hstore
  refine ⟨o', set_eq_ok_iff.mpr ⟨(o.held name).capped, ?_, hstore, ?_⟩, hheld, hothers⟩
  · rw [get_eq_shown, document?_shown]
  · rintro rfl
    exact capped_ne_zero (maxLinkages_pos_iff.mp ho)

end Options

end LinkParsing
