import LinkParsing.Catalog.Loading
import LinkParsing.Proofs.Result
import Mathlib.Data.List.Basic

/-!
# Following paths

The directories of a file tree name each of their entries differently, and no entry has a name that
paths use for something else (`WellFormed`).  So an entry of a directory is what its name leads to.

A path below another one is followed by following the other one first (`follow_segments_joinPath`).
A file in a directory below a path is found just where the path leads to a directory that has this
directory, and the file in it (`isFile_joinPath_joinPath_iff`).
-/

namespace LinkParsing

variable {name path root : String} {tree t : FileTree} {entries : List (String × FileTree)}
  {names place segs segs' : List String} {a b : List Char}

/-! ## Names of entries -/

/-- A text that may be the name of an entry of a directory. -/
structure IsEntryName (name : String) : Prop where
  ne_empty : name ≠ ""
  ne_here : name ≠ "."
  ne_above : name ≠ ".."
  no_slash : '/' ∉ name.toList

namespace FileTree

/-- In every directory the entries have different names, and they have names of entries. -/
inductive WellFormed : FileTree → Prop where
  | file (content : List UInt8) : WellFormed (file content)
  | directory {entries : List (String × FileTree)} (hnodup : (entries.map (·.1)).Nodup)
      (hnames : ∀ e ∈ entries, IsEntryName e.1) (htrees : ∀ e ∈ entries, WellFormed e.2) :
      WellFormed (directory entries)

theorem lookup_eq_some_iff (hnodup : (entries.map (·.1)).Nodup) :
    entries.lookup name = some t ↔ (name, t) ∈ entries := by
  induction entries with
  | nil => simp
  | cons e entries ih =>
      obtain ⟨hnew, hnodup⟩ := List.nodup_cons.mp hnodup
      rw [List.lookup_cons, List.mem_cons]
      by_cases hname : name = e.1
      · -- The name is that of the first entry, and so of no other one.
        have hother : (name, t) ∉ entries := fun hmem =>
          hnew (List.mem_map.mpr ⟨(name, t), hmem, hname⟩)
        simp only [hname, beq_self_eq_true, hname ▸ hother, or_false, Option.some.injEq,
          Prod.ext_iff, true_and]
        exact eq_comm
      · have hne : (name, t) ≠ e := fun h => hname (congrArg Prod.fst h)
        simp only [beq_eq_false_iff_ne.mpr hname, ih hnodup, hne, false_or]

theorem WellFormed.find? (h : tree.WellFormed) (hfind : tree.find? names = some t) :
    t.WellFormed := by
  induction names generalizing tree with
  | nil => exact Option.some.inj hfind ▸ h
  | cons name names ih =>
      obtain ⟨child, hchild, hrest⟩ := Option.bind_eq_some_iff.mp hfind
      cases h with
      | file content => cases hchild
      | directory hnodup hnames htrees =>
          exact ih (htrees _ ((lookup_eq_some_iff hnodup).mp hchild)) hrest

/-! ## Paths as texts -/

theorem splitSlashes_ne_nil (a : List Char) : splitSlashes a ≠ [] := by
  cases a with
  | nil => exact List.cons_ne_nil _ _
  | cons c a =>
      rw [splitSlashes]
      split
      next => exact List.cons_ne_nil _ _
      next => split <;> exact List.cons_ne_nil _ _

theorem splitSlashes_of_not_mem (h : '/' ∉ a) : splitSlashes a = [a] := by
  induction a with
  | nil => rfl
  | cons c a ih =>
      rw [List.mem_cons, not_or] at h
      rw [splitSlashes, if_neg (Ne.symm h.1), ih h.2]

theorem splitSlashes_append (a b : List Char) :
    splitSlashes (a ++ '/' :: b) = splitSlashes a ++ splitSlashes b := by
  induction a with
  | nil => rfl
  | cons c a ih =>
      rw [List.cons_append, splitSlashes, splitSlashes, ih]
      split
      next => rfl
      next =>
        cases hsplit : splitSlashes a with
        | nil => exact absurd hsplit (splitSlashes_ne_nil a)
        | cons name names => rfl

theorem segments_ne_nil (path : String) : segments path ≠ [] := by
  rw [segments, ne_eq, List.map_eq_nil_iff]
  exact splitSlashes_ne_nil _

theorem segments_of_not_mem (h : '/' ∉ name.toList) : segments name = [name] := by
  rw [segments, splitSlashes_of_not_mem h, List.map_singleton, String.ofList_toList]

/-- The path below another one has the names of both, and an empty one between them if the other one
ends with a slash. -/
theorem segments_joinPath (hroot : root ≠ "") (name : String) : ∃ segs,
    segments (joinPath root name) = segs ++ segments name ∧
      (segments root = segs ∨ segments root = segs ++ [""]) := by
  have hempty : root.isEmpty = false := by simpa using hroot
  rw [joinPath, hempty, if_neg Bool.false_ne_true]
  split
  next hslash =>
    obtain ⟨r, hr⟩ := List.getLast?_eq_some_iff.mp hslash
    refine ⟨(splitSlashes r).map String.ofList, ?_, .inr ?_⟩
    · rw [segments, String.toList_append, hr, List.append_assoc, List.singleton_append,
        splitSlashes_append, List.map_append]
      rfl
    · rw [segments, hr, splitSlashes_append, List.map_append]
      rfl
  next =>
    refine ⟨segments root, ?_, .inl rfl⟩
    rw [segments, String.toList_append, String.toList_append, List.append_assoc]
    exact (congrArg _ (splitSlashes_append root.toList name.toList)).trans List.map_append

theorem joinPath_ne_empty (hname : name ≠ "") : joinPath root name ≠ "" := by
  rw [joinPath]
  split
  next => exact hname
  next => split <;> simp [hname]

/-! ## Following segments -/

theorem find?_concat (names : List String) (name : String) (tree : FileTree) :
    tree.find? (names ++ [name]) = (tree.find? names).bind (child? name) := by
  induction names generalizing tree with
  | nil => exact Option.bind_fun_some _
  | cons other names ih =>
      rw [List.cons_append, find?, find?, Option.bind_assoc]
      exact Option.bind_congr fun t _ => ih t

theorem follow_append (tree : FileTree) (place segs segs' : List String) :
    tree.follow place (segs ++ segs') =
      tree.follow place segs >>= fun names => tree.follow names.reverse segs' := by
  induction segs generalizing place with
  | nil => exact congrArg (tree.follow · segs') place.reverse_reverse.symm
  | cons seg segs ih =>
      rw [List.cons_append, follow, follow]
      split
      next => split_ifs <;> first | exact ih _ | rfl
      next => rfl
      next => rfl

/-- An empty name stays where it is, which has to be a directory for any name. -/
theorem follow_empty_cons (hsegs : segs ≠ []) :
    tree.follow place ("" :: segs) = tree.follow place segs := by
  obtain ⟨seg, segs, rfl⟩ := List.exists_cons_of_ne_nil hsegs
  rw [follow]
  split
  next => rfl
  next content hfile => rw [follow, hfile]
  next hnone => rw [follow, hnone]

/-- A path below another one is followed by following the other one first. -/
theorem follow_segments_joinPath (hroot : root ≠ "") (name : String) :
    tree.follow place (segments (joinPath root name)) =
      tree.follow place (segments root ++ segments name) := by
  obtain ⟨segs, hjoin, hsegs | hsegs⟩ := segments_joinPath hroot name
  · rw [hjoin, hsegs]
  · rw [hjoin, hsegs, follow_append, List.append_assoc, follow_append]
    congr 1
    funext names
    exact (follow_empty_cons (segments_ne_nil name)).symm

/-- The name of an entry is followed into a directory that has the entry. -/
theorem follow_cons_eq_ok_iff (hname : IsEntryName name) :
    tree.follow place (name :: segs) = .ok names ↔
      ∃ entries, tree.find? place.reverse = some (directory entries) ∧
        (entries.lookup name).isSome = true ∧ tree.follow (name :: place) segs = .ok names := by
  rw [follow]
  split
  next entries hfind =>
    simp only [hname.ne_empty, hname.ne_here, hname.ne_above, decide_false, Bool.or_self,
      Bool.false_eq_true, if_false, hfind, Option.some.injEq, FileTree.directory.injEq,
      exists_eq_left']
    split
    next hsome => simp only [hsome, true_and]
    next hnone => simp only [hnone, false_and, reduceCtorEq]
  next content hfind => simp [hfind]
  next hfind => simp [hfind]

/-! ## What paths lead to -/

theorem locate_eq_ok_iff : tree.locate path = .ok t ↔ path ≠ "" ∧
    ∃ names, tree.follow [] (segments path) = .ok names ∧ tree.find? names = some t := by
  rw [locate, resolve, bind_eq_ok_iff]
  by_cases hpath : path = ""
  · simp [hpath]
  · simp only [String.isEmpty_iff, hpath, if_false, ne_eq, not_false_eq_true, true_and]
    refine exists_congr fun names => and_congr_right fun _ => ?_
    cases tree.find? names with
    | none => simp
    | some found => simp

theorem isFile_iff :
    tree.isFile path = true ↔ ∃ content, tree.locate path = .ok (file content) := by
  rw [isFile]
  split
  next content hfound => simp [hfound]
  next hother => exact ⟨nofun, fun ⟨content, h⟩ => absurd h (hother content)⟩

/-- A file of a directory below a path is found just where the path leads to a directory that has
this directory with the file in it. -/
theorem isFile_joinPath_joinPath_iff {directoryName fileName : String} (hroot : root ≠ "")
    (hdirectory : IsEntryName directoryName) (hfile : IsEntryName fileName) :
    tree.isFile (joinPath (joinPath root directoryName) fileName) = true ↔
      ∃ entries entries' content, tree.locate root = .ok (directory entries) ∧
        entries.lookup directoryName = some (directory entries') ∧
        entries'.lookup fileName = some (file content) := by
  have hjoined : joinPath root directoryName ≠ "" := joinPath_ne_empty hdirectory.ne_empty
  have hfollow : tree.follow [] (segments (joinPath (joinPath root directoryName) fileName)) =
      tree.follow [] (segments root) >>= fun place =>
        tree.follow place.reverse [directoryName, fileName] := by
    rw [follow_segments_joinPath hjoined, follow_append, follow_segments_joinPath hroot,
      ← follow_append, segments_of_not_mem hdirectory.no_slash, segments_of_not_mem hfile.no_slash,
      List.append_assoc, follow_append]
    rfl
  simp only [isFile_iff, locate_eq_ok_iff, ne_eq, joinPath_ne_empty hfile.ne_empty, hroot,
    not_false_eq_true, true_and, hfollow, bind_eq_ok_iff, follow_cons_eq_ok_iff hdirectory,
    follow_cons_eq_ok_iff hfile, List.reverse_reverse, List.reverse_cons]
  constructor
  · rintro ⟨content, _, ⟨place, hplace, entries, hroot, -, entries', hentries, -, ⟨⟩⟩, hfind⟩
    rw [List.reverse_cons, List.reverse_cons, List.reverse_reverse, find?_concat, hentries] at hfind
    rw [find?_concat, hroot] at hentries
    exact ⟨entries, entries', content, ⟨place, hplace, hroot⟩, hentries, hfind⟩
  · rintro ⟨entries, entries', content, ⟨place, hplace, hroot⟩, hentries, hlookup⟩
    have hdirectory : tree.find? (place ++ [directoryName]) = some (directory entries') := by
      rw [find?_concat, hroot]
      exact hentries
    refine ⟨content, _, ⟨place, hplace, entries, hroot, Option.isSome_of_eq_some hentries,
      entries', hdirectory, Option.isSome_of_eq_some hlookup, rfl⟩, ?_⟩
    rw [List.reverse_cons, List.reverse_cons, List.reverse_reverse, find?_concat, hdirectory]
    exact hlookup

end FileTree

end LinkParsing
