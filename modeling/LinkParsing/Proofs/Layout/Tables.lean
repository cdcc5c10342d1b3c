import LinkParsing.Proofs.Layout.HiddenWalls
import LinkParsing.Proofs.Layout.LinkGraph
import Mathlib.Data.List.Flatten

/-!
# Tables below a drawing

With walls hidden, the drawing of a diagram is that of the linkage without its walls, but the
tables below it list every word and every link of the linkage, walls included.  A text from which
lines are left out is shorter (`eq_of_sublist_of_unlines_eq`), so such a diagram shows nothing of
walls just if it has no tables or there is nothing to leave out of them (`hides_walls_iff`).
-/

namespace LinkParsing

/-- A text without some of its lines is another text. -/
theorem eq_of_sublist_of_unlines_eq {kept lines : List String} (h : kept.Sublist lines)
    (htext : unlines kept = unlines lines) : kept = lines := by
  have hchars := congrArg String.toList htext
  rw [toList_unlines, toList_unlines] at hchars
  clear htext
  induction h with
  | slnil => rfl
  | @cons kept rest line h ih =>
      -- The line that is left out has at least the character that ends it.
      have hle : (kept.flatMap fun line => line.toList ++ ['\n']).length ≤
          (rest.flatMap fun line => line.toList ++ ['\n']).length :=
        (h.flatMap _).length_le
      rw [hchars] at hle
      simp only [List.flatMap_cons, List.length_append, List.length_singleton] at hle
      omega
  | @cons_cons kept rest line h ih =>
      rw [List.flatMap_cons, List.flatMap_cons] at hchars
      rw [ih (List.append_cancel_left hchars)]

namespace Diagram

open Linkage

/-! ## Tables without walls -/

/-- The table of links with no row for links that touch a wall. -/
def linkTableBesideWalls (linkage : Linkage) : List String :=
  (linkTable linkage).take 1 ++
    (linkage.links.filter fun l => !touchesWall linkage.words l).filterMap (linkLine linkage)

/-- The table of disjuncts with no row for walls. -/
def disjunctTableBesideWalls (linkage : Linkage) : List String :=
  (linkage.words.filter fun w => !w.isWall).map disjunctLine

/-- A table and the blank line above it, if it is asked for. -/
def tableIf (asked : Bool) (table : List String) : List String :=
  if asked then "" :: table else []

/-- The lines of a diagram that shows nothing of walls, neither in its drawing nor in its
tables. -/
def linesBesideWalls (linkage : Linkage) (verbosity : UInt32) : List String :=
  drawing (Layout.make linkage.withoutWalls true) ++
    tableIf (1 ≤ verbosity) (linkTableBesideWalls linkage) ++
    tableIf (2 ≤ verbosity) (disjunctTableBesideWalls linkage)

variable {linkage : Linkage} {asked : Bool} {kept table : List String}

theorem tableIf_sublist (asked : Bool) (h : kept.Sublist table) :
    (tableIf asked kept).Sublist (tableIf asked table) := by
  cases asked with
  | false => exact List.Sublist.refl _
  | true => exact h.cons_cons _

theorem tableIf_eq_iff : tableIf asked kept = tableIf asked table ↔
    asked = true → kept = table := by
  cases asked <;> simp [tableIf]

theorem linkTableBesideWalls_sublist (linkage : Linkage) :
    (linkTableBesideWalls linkage).Sublist (linkTable linkage) := by
  rw [linkTableBesideWalls, linkTable, List.take_succ_cons, List.take_zero, List.singleton_append]
  exact (List.filter_sublist.filterMap _).cons_cons _

theorem disjunctTableBesideWalls_sublist (linkage : Linkage) :
    (disjunctTableBesideWalls linkage).Sublist (disjunctTable linkage) :=
  List.filter_sublist.map _

/-- Every link between two words has a row. -/
theorem linkLine_isSome {l : Link} (hleft : l.left < linkage.words.length)
    (hright : l.right < linkage.words.length) : (linkLine linkage l).isSome = true := by
  rw [linkLine, List.getElem?_eq_getElem hleft, List.getElem?_eq_getElem hright]
  rfl

/-- The table of links is without walls just if no link touches one. -/
theorem linkTableBesideWalls_eq_iff (hends : ∀ l ∈ linkage.links,
    l.left < linkage.words.length ∧ l.right < linkage.words.length) :
    linkTableBesideWalls linkage = linkTable linkage ↔
      ∀ l ∈ linkage.links, touchesWall linkage.words l = false := by
  have hrows : ∀ l ∈ linkage.links, (linkLine linkage l).isSome = true :=
    fun l hl => linkLine_isSome (hends l hl).1 (hends l hl).2
  rw [linkTableBesideWalls, linkTable, List.take_succ_cons, List.take_zero, List.singleton_append,
    List.cons.injEq, and_iff_right rfl]
  constructor
  · intro heq l hl
    have hkept : (linkage.links.filter fun l => !touchesWall linkage.words l).length =
        linkage.links.length := by
      calc (linkage.links.filter fun l => !touchesWall linkage.words l).length
          = ((linkage.links.filter fun l => !touchesWall linkage.words l).filterMap
              (linkLine linkage)).length := by
            refine (List.filterMap_length_eq_length.mpr fun l hl => ?_).symm
            exact hrows l (List.mem_of_mem_filter hl)
        _ = (linkage.links.filterMap (linkLine linkage)).length := by rw [heq]
        _ = linkage.links.length := List.filterMap_length_eq_length.mpr hrows
    have hall := List.length_filter_eq_length_iff.mp hkept l hl
    simpa using hall
  · intro hnone
    rw [List.filter_eq_self.mpr fun l hl => by simp [hnone l hl]]

/-- The table of disjuncts is without walls just if there are none. -/
theorem disjunctTableBesideWalls_eq_iff :
    disjunctTableBesideWalls linkage = disjunctTable linkage ↔
      ∀ w ∈ linkage.words, w.isWall = false := by
  constructor
  · intro heq w hw
    have hkept := congrArg List.length heq
    rw [disjunctTableBesideWalls, disjunctTable, List.length_map, List.length_map] at hkept
    have hall := List.length_filter_eq_length_iff.mp hkept w hw
    simpa using hall
  · intro hnone
    rw [disjunctTableBesideWalls, disjunctTable,
      List.filter_eq_self.mpr fun w hw => by simp [hnone w hw]]

/-! ## Diagrams without walls -/

/-- With walls hidden, the drawing is that of the linkage without them, and the tables are those of
the linkage with them. -/
theorem lines_of_hidden (words : List LinkageWord) (links : List Link) {options : Options}
    (hhidden : options.displayWalls = false) :
    lines (ofLinks words links) options =
      drawing (Layout.make (ofLinks words links).withoutWalls true) ++
        tableIf (1 ≤ options.verbosity) (linkTable (ofLinks words links)) ++
        tableIf (2 ≤ options.verbosity) (disjunctTable (ofLinks words links)) := by
  rw [lines, hhidden, Layout.make, Layout.make, Layout.shownArcs_withoutWalls,
    Layout.shownTexts_withoutWalls]
  simp only [tableIf, decide_eq_true_eq]

/-- With walls hidden, a diagram is without walls just if the tables that are asked for are. -/
theorem diagram_eq_iff_of_hidden (words : List LinkageWord) (links : List Link)
    {options : Options} (hhidden : options.displayWalls = false) :
    (ofLinks words links).diagram options =
        unlines (linesBesideWalls (ofLinks words links) options.verbosity) ↔
      (1 ≤ options.verbosity →
        linkTableBesideWalls (ofLinks words links) = linkTable (ofLinks words links)) ∧
      (2 ≤ options.verbosity →
        disjunctTableBesideWalls (ofLinks words links) = disjunctTable (ofLinks words links)) := by
  have hlinks := tableIf_sublist (1 ≤ options.verbosity)
    (linkTableBesideWalls_sublist (ofLinks words links))
  have hdisjuncts := tableIf_sublist (2 ≤ options.verbosity)
    (disjunctTableBesideWalls_sublist (ofLinks words links))
  rw [Linkage.diagram, lines_of_hidden words links hhidden, linesBesideWalls]
  constructor
  · intro htext
    have hlines := eq_of_sublist_of_unlines_eq
      (((List.Sublist.refl _).append hlinks).append hdisjuncts) htext.symm
    -- Each table has at most as many lines as the one with walls, and all have as many together.
    have hlength := congrArg List.length hlines
    simp only [List.length_append] at hlength
    have hlinksLe := hlinks.length_le
    have hdisjunctsLe := hdisjuncts.length_le
    have hlinksEq := hlinks.eq_of_length (by omega)
    have hdisjunctsEq := hdisjuncts.eq_of_length (by omega)
    rw [tableIf_eq_iff, decide_eq_true_eq] at hlinksEq hdisjunctsEq
    exact ⟨hlinksEq, hdisjunctsEq⟩
  · rintro ⟨hlinksEq, hdisjunctsEq⟩
    rw [← decide_eq_true_eq (p := 1 ≤ options.verbosity), ← tableIf_eq_iff] at hlinksEq
    rw [← decide_eq_true_eq (p := 2 ≤ options.verbosity), ← tableIf_eq_iff] at hdisjunctsEq
    rw [hlinksEq, hdisjunctsEq]

theorem verbosity_cases (v : UInt32) : v = 0 ∨ v = 1 ∨ 1 ≤ v ∧ 2 ≤ v ∧ v ≠ 0 ∧ v ≠ 1 := by
  simp only [UInt32.le_iff_toNat_le, ne_eq, ← UInt32.toNat_inj]
  change v.toNat = 0 ∨ v.toNat = 1 ∨ 1 ≤ v.toNat ∧ 2 ≤ v.toNat ∧ ¬v.toNat = 0 ∧ ¬v.toNat = 1
  omega

/-- With walls hidden, a diagram shows nothing of walls just if it has no tables, or there is
nothing of walls to leave out of them. -/
theorem hides_walls_iff (words : List LinkageWord) (links : List Link) (options : Options)
    (hends : ∀ l ∈ links, l.left < l.right ∧ l.right < words.length)
    (hhidden : options.displayWalls = false) :
    (ofLinks words links).diagram options =
        unlines (linesBesideWalls (ofLinks words links) options.verbosity) ↔
      options.verbosity = 0 ∨ (∀ l ∈ links, touchesWall words l = false) ∧
        (options.verbosity = 1 ∨ ∀ w ∈ words, w.isWall = false) := by
  have hmem : ∀ l, l ∈ (ofLinks words links).links ↔ l ∈ links :=
    fun l => (List.mergeSort_perm links endsLe).mem_iff
  have hrange : ∀ l ∈ (ofLinks words links).links, l.left < words.length ∧
      l.right < words.length := by
    intro l hl
    have hl := hends l ((hmem l).mp hl)
    omega
  have hnone : (∀ l ∈ (ofLinks words links).links, touchesWall words l = false) ↔
      ∀ l ∈ links, touchesWall words l = false := by
    simp only [hmem]
  rw [diagram_eq_iff_of_hidden words links hhidden, linkTableBesideWalls_eq_iff hrange,
    disjunctTableBesideWalls_eq_iff]
  change (_ → ∀ l ∈ (ofLinks words links).links, touchesWall words l = false) ∧
    (_ → ∀ w ∈ words, w.isWall = false) ↔ _
  rw [hnone]
  rcases verbosity_cases options.verbosity with hv | hv | ⟨hone, htwo, hne⟩
  · simp [hv]
  · simp [hv]
  · simp [hone, htwo, hne]

/-- A wall and the only word, which is linked to it. -/
def loneWords : List LinkageWord :=
  [⟨"LEFT-WALL", true, false, some "Wd+", 0⟩, ⟨"a", false, false, some "Wd-", 0⟩]

/-- The link from the wall to the only word. -/
def loneLinks : List Link := [⟨0, 1, "Wd", "Wd+", "Wd-"⟩]

/-- Walls hidden, and both tables asked for. -/
def tablesAsked : Options := { Options.default with verbosity := 2, displayWalls := false }

theorem hides_walls_iff_lone : (∀ l ∈ loneLinks, l.left < l.right ∧ l.right < loneWords.length) ∧
    tablesAsked.displayWalls = false ∧
    (ofLinks loneWords loneLinks).diagram tablesAsked ≠
      unlines (linesBesideWalls (ofLinks loneWords loneLinks) tablesAsked.verbosity) := by
  have hends : ∀ l ∈ loneLinks, l.left < l.right ∧ l.right < loneWords.length := by decide
  refine ⟨hends, rfl, ?_⟩
  rw [ne_eq, hides_walls_iff loneWords loneLinks tablesAsked hends rfl]
  decide

/-- The drawing leaves the wall out, but both tables have a row that shows it. -/
theorem tables_show_wall : tablesAsked.displayWalls = false ∧
    (ofLinks loneWords loneLinks).diagram tablesAsked =
      unlines ["a", "", "cost vector = (UNUSED=0 DIS=0 LEN=0)",
        "LEFT-WALL    Wd+ <---Wd---> Wd-    a", "",
        "LEFT-WALL        Wd+                      cost=0",
        "a                Wd-                      cost=0"] ∧
    unlines (linesBesideWalls (ofLinks loneWords loneLinks) tablesAsked.verbosity) =
      unlines ["a", "", "cost vector = (UNUSED=0 DIS=0 LEN=0)", "",
        "a                Wd-                      cost=0"] ∧
    (ofLinks loneWords loneLinks).diagram tablesAsked ≠
      unlines (linesBesideWalls (ofLinks loneWords loneLinks) tablesAsked.verbosity) := by
  have hshown : (ofLinks loneWords loneLinks).diagram tablesAsked =
      unlines ["a", "", "cost vector = (UNUSED=0 DIS=0 LEN=0)",
        "LEFT-WALL    Wd+ <---Wd---> Wd-    a", "",
        "LEFT-WALL        Wd+                      cost=0",
        "a                Wd-                      cost=0"] := by
    decide +kernel
  have hkept : unlines (linesBesideWalls (ofLinks loneWords loneLinks) tablesAsked.verbosity) =
      unlines ["a", "", "cost vector = (UNUSED=0 DIS=0 LEN=0)", "",
        "a                Wd-                      cost=0"] := by
    decide +kernel
  refine ⟨rfl, hshown, hkept, ?_⟩
  rw [hshown, hkept]
  decide +kernel

end Diagram

end LinkParsing
