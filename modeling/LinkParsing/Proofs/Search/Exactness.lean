import LinkParsing.Proofs.Search.Memory
import Mathlib.Data.Set.Card

/-!
# Counting is exact and numbering is a bijection

The count of a sentence is the number of its linkages, cut off at `maxCount`
(`countLinkages_eq_ncard`), and the numbers below the count stand for different linkages,
for all of them unless the count is cut off (`assemble_bijOn`).  Both hold of a search
without a clock whatever it was asked for before.
-/

namespace LinkParsing.Search

variable {s : Sentence} {nulls : Nat}

/-- The linkages of a sentence are the wirings of the assemblies listed for it. -/
theorem setOf_isLinkage (s : Sentence) (nulls : Nat) : {x | IsLinkage s nulls x} =
    {x | x ∈ (linkageAssemblies s nulls).map Assembly.toWiring} := by
  ext x
  rw [Set.mem_ofPred_eq, Set.mem_ofPred_eq, List.mem_map]
  constructor
  · exact exists_mem_linkageAssemblies
  · rintro ⟨a, ha, rfl⟩
    exact (isLinkage_of_mem ha).1

theorem finite_setOf_isLinkage (s : Sentence) (nulls : Nat) :
    {x | IsLinkage s nulls x}.Finite := by
  rw [setOf_isLinkage]
  exact List.finite_toSet _

theorem ncard_setOf_isLinkage (s : Sentence) (nulls : Nat) :
    {x | IsLinkage s nulls x}.ncard = (linkageAssemblies s nulls).length := by
  classical
  have hlist : {x | IsLinkage s nulls x} =
      ↑((linkageAssemblies s nulls).map Assembly.toWiring).toFinset := by
    rw [setOf_isLinkage]
    ext x
    simp
  rw [hlist, Set.ncard_coe_finset, List.toFinset_card_of_nodup (linkageAssemblies_nodup s nulls),
    List.length_map]

/-- Without a clock, and whatever the search was asked for before, the count of a sentence is
the number of its linkages, of which there are finitely many, cut off at the largest 64-bit
number. -/
theorem countLinkages_eq_ncard (s : Sentence) (nulls : Nat) (history : List (Clock × Query)) :
    {x | IsLinkage s nulls x}.Finite ∧
      ∃ p, countLinkages s nulls .never (progressAfter s nulls history) =
        .ok (min (2 ^ 64 - 1) {x | IsLinkage s nulls x}.ncard) p := by
  refine ⟨finite_setOf_isLinkage s nulls, ?_⟩
  have hplain : plainLinkages s nulls = min (2 ^ 64 - 1) {x | IsLinkage s nulls x}.ncard := by
    rw [ncard_setOf_isLinkage, plainLinkages_eq, maxCount_eq]
  rw [← hplain]
  exact (gives_countLinkages nulls).never (truthful_progressAfter s nulls history)

/-! ## Numbers and linkages -/

/-- The wiring of the linkage with a number. -/
def wiringAt (s : Sentence) (nulls index : Nat) : Wiring :=
  ((plainAssemble s nulls index).getD .nothing).toWiring

/-- A number below the count belongs to the assembly at that place of the list. -/
theorem plainAssemble_of_lt {i : Nat} (hi : i < plainLinkages s nulls) :
    ∃ a ∈ linkageAssemblies s nulls, (linkageAssemblies s nulls)[i]? = some a ∧
      plainAssemble s nulls i = some a ∧ a.toWiring = wiringAt s nulls i := by
  obtain ⟨hmax, hlength⟩ := lt_of_lt_plainLinkages hi
  have hplace := List.getElem?_eq_getElem hlength
  have hplain := (plainAssemble_eq_getElem? hmax).trans hplace
  exact ⟨_, List.getElem_mem hlength, hplace, hplain, by rw [wiringAt, hplain, Option.getD_some]⟩

theorem wiringAt_mapsTo (s : Sentence) (nulls : Nat) :
    Set.MapsTo (wiringAt s nulls) (Set.Iio (plainLinkages s nulls)) {x | IsLinkage s nulls x} := by
  intro i hi
  obtain ⟨a, ha, -, -, hwiring⟩ := plainAssemble_of_lt hi
  rw [← hwiring]
  exact (isLinkage_of_mem ha).1

theorem wiringAt_injOn (s : Sentence) (nulls : Nat) :
    Set.InjOn (wiringAt s nulls) (Set.Iio (plainLinkages s nulls)) := by
  intro i hi j hj heq
  obtain ⟨a, -, hplace, -, hwiring⟩ := plainAssemble_of_lt hi
  obtain ⟨b, -, hplace', -, hwiring'⟩ := plainAssemble_of_lt hj
  have hlength : i < ((linkageAssemblies s nulls).map Assembly.toWiring).length := by
    rw [List.length_map]
    exact (lt_of_lt_plainLinkages hi).2
  refine (List.getElem?_inj hlength (linkageAssemblies_nodup s nulls)).mp ?_
  rw [List.getElem?_map, List.getElem?_map, hplace, hplace', Option.map_some, Option.map_some,
    hwiring, hwiring', heq]

/-- A count that is not cut off leaves no linkage without a number. -/
theorem wiringAt_surjOn (hcount : plainLinkages s nulls < maxCount) :
    Set.SurjOn (wiringAt s nulls) (Set.Iio (plainLinkages s nulls)) {x | IsLinkage s nulls x} := by
  intro x hx
  obtain ⟨a, ha, rfl⟩ := exists_mem_linkageAssemblies hx
  obtain ⟨i, hlength, rfl⟩ := List.getElem_of_mem ha
  have hi : i < plainLinkages s nulls := by
    rw [plainLinkages_eq] at hcount ⊢
    omega
  obtain ⟨b, -, hplace, -, hwiring⟩ := plainAssemble_of_lt hi
  rw [List.getElem?_eq_getElem hlength] at hplace
  refine ⟨i, hi, ?_⟩
  rw [← hwiring, Option.some.inj hplace]

/-- Without a clock, and whatever the search was asked for before, every number below the
count belongs to a linkage of its own, also if the count is cut off.  If it is not, every
linkage has a number, and a number that is not below the count belongs to none. -/
theorem assemble_bijOn (s : Sentence) (nulls : Nat) : ∃ (n : Nat) (f : Nat → Wiring),
    (∀ history, ∃ q, countLinkages s nulls .never (progressAfter s nulls history) = .ok n q) ∧
    (∀ i < n, ∀ history, ∃ a q q',
      assemble s nulls .never i (progressAfter s nulls history) = .ok (some a) q ∧
      extract s nulls .never i (progressAfter s nulls history) = .ok (some (a.toLinkage s)) q' ∧
      a.toWiring = f i) ∧
    Set.InjOn f (Set.Iio n) ∧
    Set.MapsTo f (Set.Iio n) {x | IsLinkage s nulls x} ∧
    (n < 2 ^ 64 - 1 → Set.BijOn f (Set.Iio n) {x | IsLinkage s nulls x} ∧
      ∀ i, n ≤ i → ∀ history, ∃ q,
        extract s nulls .never i (progressAfter s nulls history) = .ok none q) := by
  refine ⟨plainLinkages s nulls, wiringAt s nulls, ?_, ?_, wiringAt_injOn s nulls,
    wiringAt_mapsTo s nulls, ?_⟩
  · exact fun history => (gives_countLinkages nulls).never (truthful_progressAfter s nulls history)
  · intro i hi history
    have htruthful := truthful_progressAfter s nulls history
    obtain ⟨a, -, -, hplain, hwiring⟩ := plainAssemble_of_lt hi
    obtain ⟨q, hq⟩ := (gives_assemble nulls i).never htruthful
    obtain ⟨q', hq'⟩ := (gives_extract nulls i).never htruthful
    rw [plainExtract, hplain] at hq'
    rw [hplain] at hq
    exact ⟨a, q, q', hq, hq', hwiring⟩
  · intro hcount
    rw [← maxCount_eq] at hcount
    refine ⟨⟨wiringAt_mapsTo s nulls, wiringAt_injOn s nulls, wiringAt_surjOn hcount⟩, ?_⟩
    intro i hi history
    obtain ⟨q, hq⟩ := (gives_extract nulls i).never (truthful_progressAfter s nulls history)
    rw [plainExtract, plainAssemble_eq_none hcount hi] at hq
    exact ⟨q, hq⟩

end LinkParsing.Search
