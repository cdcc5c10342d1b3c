import LinkParsing.Proofs.Catalog.Paths

/-!
# Writing files

A file can be written to a path that ends in the name of an entry, in a directory that is there, if
this is not the name of a directory (`HasRoom`, `write_eq_ok_iff`).  Afterwards the path leads to
the file, and everywhere else there is what was there before (`Receives`, `receives_of_write`): the
directories on the way stay directories, and no other file is made, changed or lost.
-/

namespace LinkParsing.FileTree

variable {tree after new : FileTree} {path name : String} {place names : List String}
  {content : List UInt8} {entries : List (String × FileTree)}

/-! ## Entries of directories -/

theorem lookup_setEntry (name : String) (new : FileTree) (entries : List (String × FileTree))
    (other : String) : (setEntry name new entries).lookup other =
      if other = name then some new else entries.lookup other := by
  induction entries with
  | nil =>
      rw [setEntry, List.lookup_cons]
      split_ifs with h
      · rw [h, beq_self_eq_true]
      · rw [beq_eq_false_iff_ne.mpr h]
  | cons e entries ih =>
      rw [setEntry]
      split_ifs with hentry h h
      · rw [h, List.lookup_cons, beq_self_eq_true]
      · rw [List.lookup_cons, List.lookup_cons, hentry, beq_eq_false_iff_ne.mpr h]
      · rw [List.lookup_cons, ih, if_pos h, h, beq_eq_false_iff_ne.mpr (Ne.symm hentry)]
      · rw [List.lookup_cons, List.lookup_cons, ih, if_neg h]

/-- What follows a name into a directory. -/
theorem find?_cons_directory (name : String) (names : List String)
    (entries : List (String × FileTree)) :
    (directory entries).find? (name :: names) = (entries.lookup name).bind (find? names) := rfl

/-- What the name of an entry leads to from the place of its directory. -/
theorem find?_entry (h : tree.find? place = some (directory entries)) (name : String) :
    tree.find? (place ++ [name]) = entries.lookup name := by
  rw [find?_concat, h]
  rfl

/-- Where a name leads on to a directory, it is that of an entry of a directory. -/
theorem exists_of_find?_cons {t : FileTree} (h : tree.find? (name :: names) = some t) :
    ∃ entries child, tree = directory entries ∧ entries.lookup name = some child ∧
      child.find? names = some t := by
  cases tree with
  | file content => cases h
  | directory entries =>
      obtain ⟨child, hchild, hrest⟩ := Option.bind_eq_some_iff.mp h
      exact ⟨entries, child, rfl, hchild, hrest⟩

theorem insert_cons_directory (name : String) (names : List String) (new child : FileTree)
    (hchild : entries.lookup name = some child) :
    insert new (name :: names) (directory entries) =
      directory (setEntry name (insert new names child) entries) := by
  rw [insert, hchild]
  rfl

/-! ## Putting a tree into a directory -/

/-- What is put into a directory is found in it. -/
theorem find?_insert_self (h : tree.find? place = some (directory entries)) :
    (insert new (place ++ [name]) tree).find? (place ++ [name]) = some new := by
  induction place generalizing tree with
  | nil =>
      obtain rfl := Option.some.inj h
      rw [List.nil_append, insert, find?_cons_directory, lookup_setEntry, if_pos rfl]
      rfl
  | cons step place ih =>
      obtain ⟨steps, child, rfl, hchild, hrest⟩ := exists_of_find?_cons h
      rw [List.cons_append, insert_cons_directory _ _ _ _ hchild, find?_cons_directory,
        lookup_setEntry, if_pos rfl]
      exact ih hrest

/-- A tree has the files of another one, but for one place, and its directories. -/
structure SameBut (target : List String) (tree after : FileTree) : Prop where
  files : ∀ names, names ≠ target → ∀ content,
    after.find? names = some (file content) ↔ tree.find? names = some (file content)
  directories : ∀ names, (∃ entries, after.find? names = some (directory entries)) ↔
    ∃ entries, tree.find? names = some (directory entries)

/-- Nothing is found behind what is no directory. -/
theorem bind_find?_of_free {old : Option FileTree} (hfree : ∀ inner, old ≠ some (directory inner))
    (hnames : names ≠ []) : old.bind (find? names) = none := by
  obtain ⟨first, names, rfl⟩ := List.exists_cons_of_ne_nil hnames
  cases old with
  | none => rfl
  | some t =>
      cases t with
      | file content => rfl
      | directory inner => exact absurd rfl (hfree inner)

theorem bind_find?_ne_of_free {old : Option FileTree}
    (hfree : ∀ inner, old ≠ some (directory inner)) (names : List String)
    (inner : List (String × FileTree)) : old.bind (find? names) ≠ some (directory inner) := by
  cases names with
  | nil =>
      rw [show old.bind (find? []) = old from Option.bind_fun_some old]
      exact hfree inner
  | cons first names =>
      rw [bind_find?_of_free hfree (List.cons_ne_nil first names)]
      nofun

/-- A directory with a new value for one entry is the same but for what is new in the entry. -/
theorem sameBut_setEntry {target : List String} {child : FileTree}
    (hfiles : ∀ names, names ≠ target → ∀ content, child.find? names = some (file content) ↔
      (entries.lookup name).bind (find? names) = some (file content))
    (hdirectories : ∀ names, (∃ inner, child.find? names = some (directory inner)) ↔
      ∃ inner, (entries.lookup name).bind (find? names) = some (directory inner)) :
    SameBut (name :: target) (directory entries) (directory (setEntry name child entries)) := by
  constructor
  · intro names hnames content
    cases names with
    | nil => exact ⟨nofun, nofun⟩
    | cons first names =>
        rw [find?_cons_directory, find?_cons_directory, lookup_setEntry]
        split_ifs with hfirst
        · subst hfirst
          exact hfiles names (fun heq => hnames (congrArg (first :: ·) heq)) content
        · rfl
  · intro names
    cases names with
    | nil => exact ⟨fun _ => ⟨_, rfl⟩, fun _ => ⟨_, rfl⟩⟩
    | cons first names =>
        rw [find?_cons_directory, find?_cons_directory, lookup_setEntry]
        split_ifs with hfirst
        · subst hfirst
          exact hdirectories names
        · rfl

/-- A file that is put into a directory, in place of a file or of nothing, leaves everything else as
it is. -/
theorem sameBut_insert (content : List UInt8) (h : tree.find? place = some (directory entries))
    (hfree : ∀ inner, tree.find? (place ++ [name]) ≠ some (directory inner)) :
    SameBut (place ++ [name]) tree (insert (file content) (place ++ [name]) tree) := by
  induction place generalizing tree with
  | nil =>
      -- Behind the entry nothing is found, neither before nor afterwards.
      have hold : ∀ inner, entries.lookup name ≠ some (directory inner) := by
        rwa [find?_entry h] at hfree
      have hnew : ∀ inner, some (file content) ≠ some (directory inner) := nofun
      obtain rfl := Option.some.inj h
      rw [List.nil_append, insert]
      apply sameBut_setEntry
      · intro names hnames c
        rw [bind_find?_of_free hold hnames]
        exact iff_of_eq (congrArg (· = _) (bind_find?_of_free hnew hnames))
      · intro names
        exact iff_of_false (not_exists.mpr (bind_find?_ne_of_free hnew names))
          (not_exists.mpr (bind_find?_ne_of_free hold names))
  | cons step place ih =>
      obtain ⟨steps, child, rfl, hchild, hrest⟩ := exists_of_find?_cons h
      rw [List.cons_append, find?_cons_directory, hchild] at hfree
      have hsame := ih hrest hfree
      rw [List.cons_append, insert_cons_directory _ _ _ _ hchild]
      apply sameBut_setEntry
      · rw [hchild]
        exact hsame.files
      · rw [hchild]
        exact hsame.directories

/-! ## Writing a file -/

/-- A path may take a file of this name in the directory at this place. -/
structure HasRoom (tree : FileTree) (path : String) (place : List String) (name : String) :
    Prop where
  ne_empty : path ≠ ""
  last : (segments path).getLast? = some name
  follow : tree.follow [] (segments path).dropLast = .ok place
  parent : ∃ entries, tree.find? place = some (directory entries)
  named : name ≠ "" ∧ name ≠ "." ∧ name ≠ ".."
  free : ∀ entries, tree.find? (place ++ [name]) ≠ some (directory entries)

/-- A file is written where a path has room for it. -/
theorem write_eq_ok_iff : tree.write path content = .ok after ↔ ∃ place name,
    tree.HasRoom path place name ∧ after = insert (file content) (place ++ [name]) tree := by
  constructor
  · intro h
    unfold write at h
    cases hlast : (segments path).getLast? with
    | none =>
        simp only [hlast, reduceCtorEq] at h
    | some name =>
        by_cases hpath : path = ""
        · simp only [hlast, String.isEmpty_iff] at h
          rw [if_pos hpath] at h
          cases h
        · simp only [hlast, String.isEmpty_iff, hpath, if_false, bind_eq_ok_iff] at h
          obtain ⟨place, hfollow, h⟩ := h
          split at h
          next entries hparent =>
            split at h
            next => cases h
            next hnamed =>
              split at h
              next => cases h
              next hfree =>
                simp only [Bool.or_eq_true, decide_eq_true_eq, not_or] at hnamed
                refine ⟨place, name, ⟨hpath, hlast, hfollow, ⟨entries, hparent⟩,
                  ⟨hnamed.1.1, hnamed.1.2, hnamed.2⟩, fun inner hinner => ?_⟩,
                  (Except.ok.inj h).symm⟩
                rw [find?_entry hparent] at hinner
                exact hfree inner hinner
          next => cases h
          next => cases h
  · rintro ⟨place, name, hroom, rfl⟩
    obtain ⟨entries, hparent⟩ := hroom.parent
    unfold write
    simp only [hroom.last, String.isEmpty_iff, hroom.ne_empty, if_false, bind_eq_ok_iff]
    refine ⟨place, hroom.follow, ?_⟩
    simp only [hparent, hroom.named, decide_false, Bool.or_self, Bool.false_eq_true, if_false]
    split
    next inner hinner =>
      have hfree := hroom.free inner
      rw [find?_entry hparent] at hfree
      exact absurd hinner hfree
    next => rfl

/-- Nothing is lost. -/
theorem SameBut.isSome_find? {target : List String} (h : SameBut target tree after)
    (htarget : (after.find? target).isSome = true) (hfind : (tree.find? names).isSome = true) :
    (after.find? names).isSome = true := by
  by_cases hnames : names = target
  · rwa [hnames]
  · obtain ⟨t, ht⟩ := Option.isSome_iff_exists.mp hfind
    cases t with
    | file content => exact Option.isSome_of_eq_some ((h.files names hnames content).mpr ht)
    | directory entries =>
        obtain ⟨entries', hentries'⟩ := (h.directories names).mpr ⟨entries, ht⟩
        exact Option.isSome_of_eq_some hentries'

/-- Paths still lead where they did. -/
theorem SameBut.follow {target segs : List String} (h : SameBut target tree after)
    (htarget : (after.find? target).isSome = true) (hfollow : tree.follow place segs = .ok names) :
    after.follow place segs = .ok names := by
  induction segs generalizing place with
  | nil => exact hfollow
  | cons seg segs ih =>
      rw [FileTree.follow] at hfollow
      split at hfollow
      next entries hplace =>
        -- The directory may have one entry more, and lacks none.
        obtain ⟨entries', hplace'⟩ := (h.directories _).mpr ⟨entries, hplace⟩
        have hentry : (entries.lookup seg).isSome = true → (entries'.lookup seg).isSome = true := by
          rw [← find?_entry hplace, ← find?_entry hplace']
          exact h.isSome_find? htarget
        rw [FileTree.follow, hplace']
        dsimp only
        split at hfollow
        next hhere =>
          rw [if_pos hhere]
          exact ih hfollow
        next hhere =>
          rw [if_neg hhere]
          split at hfollow
          next habove =>
            rw [if_pos habove]
            exact ih hfollow
          next habove =>
            rw [if_neg habove]
            split at hfollow
            next hfound =>
              rw [if_pos (hentry hfound)]
              exact ih hfollow
            next => cases hfollow
      next => cases hfollow
      next => cases hfollow

/-- What becomes of a tree when a file is written: its path leads to the file, and all else is as it
was. -/
structure Receives (tree : FileTree) (path : String) (content : List UInt8) (after : FileTree) :
    Prop where
  written : after.locate path = .ok (file content)
  others : ∃ target, after.resolve path = .ok target ∧ SameBut target tree after

theorem receives_of_write (h : tree.write path content = .ok after) :
    tree.Receives path content after := by
  obtain ⟨place, name, hroom, rfl⟩ := write_eq_ok_iff.mp h
  obtain ⟨entries, hparent⟩ := hroom.parent
  have hsame := sameBut_insert content hparent hroom.free
  have hself : (insert (file content) (place ++ [name]) tree).find? (place ++ [name]) =
      some (file content) := find?_insert_self hparent
  have hresolve : (insert (file content) (place ++ [name]) tree).resolve path =
      .ok (place ++ [name]) := by
    have hplace := hsame.follow (Option.isSome_of_eq_some hself) hroom.follow
    obtain ⟨entries', hparent'⟩ := (hsame.directories place).mpr hroom.parent
    have hentry : (entries'.lookup name).isSome = true := by
      rw [← find?_entry hparent', hself]
      rfl
    obtain ⟨hempty, hhere, habove⟩ := hroom.named
    rw [resolve, if_neg (by simpa using hroom.ne_empty),
      ← List.dropLast_append_getLast? name hroom.last, follow_append, hplace]
    show FileTree.follow _ place.reverse [name] = _
    rw [FileTree.follow, List.reverse_reverse, hparent']
    simp [hempty, hhere, habove, hentry, FileTree.follow]
  refine ⟨?_, _, hresolve, hsame⟩
  rw [locate, hresolve]
  simp only [bind, Except.bind, hself]

end LinkParsing.FileTree
