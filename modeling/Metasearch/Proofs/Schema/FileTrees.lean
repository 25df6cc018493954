import Mathlib.Data.List.Nodup
import Metasearch.Schema.FileTree

set_option autoImplicit false

/-! # The files of a tree

A walk through a tree lists its files with their paths; look-up finds what is at a path. In a
tree whose folders use every name once (`Proper`), as those of a file system do, the walk lists
just the files that look-up finds (`mem_files`), and each once (`nodup_files`).
-/

namespace Metasearch.FileTree

/-- Every folder, at any depth, uses each of its names once. -/
inductive Proper : FileTree → Prop where
  | file (content : ByteArray) : Proper (.file content)
  | folder {entries : List (String × FileTree)} (names : (entries.map Prod.fst).Nodup)
      (children : ∀ entry ∈ entries, Proper entry.2) : Proper (.folder entries)

/-! ## Look-up in a folder -/

theorem lookup_eq_some {entries : List (String × FileTree)}
    (hnames : (entries.map Prod.fst).Nodup) {name : String} {child : FileTree} :
    entries.lookup name = some child ↔ (name, child) ∈ entries := by
  induction entries with
  | nil => simp
  | cons entry entries ih =>
    obtain ⟨first, tree⟩ := entry
    obtain ⟨hfirst, hrest⟩ := List.nodup_cons.mp hnames
    by_cases hname : name = first
    · subst hname
      have hnot : (name, child) ∉ entries := fun hmem =>
        hfirst (List.mem_map.mpr ⟨(name, child), hmem, rfl⟩)
      simp [hnot, eq_comm]
    · have hne : (name == first) = false := by simpa using hname
      rw [List.lookup_cons, hne]
      simp [ih hrest, hname]

/-- What is at a path below a folder is at the rest of the path below one of its entries. -/
theorem get?_folder {entries : List (String × FileTree)} (hnames : (entries.map Prod.fst).Nodup)
    {name : String} {path : Path} {found : FileTree} :
    (folder entries).get? (name :: path) = some found ↔
      ∃ child, (name, child) ∈ entries ∧ child.get? path = some found := by
  rw [get?, FileTree.entries, Option.bind_eq_some_iff]
  exact exists_congr fun child => and_congr_left fun _ => lookup_eq_some hnames

/-! ## The walk -/

theorem filesOfAll_eq_flatMap (above : Path) (entries : List (String × FileTree)) :
    filesOfAll above entries = entries.flatMap fun entry => files (above ++ [entry.1]) entry.2 := by
  induction entries with
  | nil => rfl
  | cons entry entries ih =>
    rw [filesOfAll, ih]
    rfl

theorem files_folder (above : Path) (entries : List (String × FileTree)) :
    files above (.folder entries)
      = entries.flatMap fun entry => files (above ++ [entry.1]) entry.2 := by
  rw [files, filesOfAll_eq_flatMap]

/-- The files of a tree that stands somewhere below others. -/
theorem mem_files_above {tree : FileTree} (hproper : tree.Proper) {above path : Path}
    {content : ByteArray} :
    (path, content) ∈ tree.files above ↔
      ∃ rest, path = above ++ rest ∧ tree.get? rest = some (.file content) := by
  induction hproper generalizing above with
  | file stored =>
    constructor
    · intro hmem
      cases List.mem_singleton.mp hmem
      exact ⟨[], (List.append_nil _).symm, rfl⟩
    · rintro ⟨rest, rfl, hrest⟩
      -- nothing lies below a file
      cases rest with
      | nil =>
        cases hrest
        rw [List.append_nil]
        exact List.mem_singleton_self _
      | cons name rest => cases hrest
  | @folder entries names children ih =>
    rw [files_folder, List.mem_flatMap]
    constructor
    · rintro ⟨⟨name, child⟩, hentry, hmem⟩
      obtain ⟨rest, rfl, hrest⟩ := (ih _ hentry).mp hmem
      exact ⟨name :: rest, by simp, (get?_folder names).mpr ⟨child, hentry, hrest⟩⟩
    · rintro ⟨rest, rfl, hrest⟩
      cases rest with
      | nil => simp [get?] at hrest
      | cons name rest =>
        obtain ⟨child, hentry, hchild⟩ := (get?_folder names).mp hrest
        exact ⟨(name, child), hentry, (ih _ hentry).mpr ⟨rest, by simp, hchild⟩⟩

/-- **The walk lists the files that look-up finds.** -/
theorem mem_files {tree : FileTree} (hproper : tree.Proper) {path : Path} {content : ByteArray} :
    (path, content) ∈ tree.files [] ↔ tree.get? path = some (.file content) := by
  rw [mem_files_above hproper]
  simp

theorem exists_append_of_mem_files {tree : FileTree} (hproper : tree.Proper) {above path : Path}
    (h : path ∈ (tree.files above).map Prod.fst) : ∃ rest, path = above ++ rest := by
  obtain ⟨⟨_, content⟩, hmem, rfl⟩ := List.mem_map.mp h
  obtain ⟨rest, hrest, _⟩ := (mem_files_above hproper).mp hmem
  exact ⟨rest, hrest⟩

/-- **The walk lists every file once**: no two files have the same path. -/
theorem nodup_files {tree : FileTree} (hproper : tree.Proper) (above : Path) :
    ((tree.files above).map Prod.fst).Nodup := by
  induction hproper generalizing above with
  | file stored => exact List.nodup_singleton above
  | @folder entries names children ih =>
    rw [files_folder, List.map_flatMap, List.nodup_flatMap]
    refine ⟨fun entry hentry => ih entry hentry _, ?_⟩
    refine (List.pairwise_map.mp names).imp_of_mem fun {entry other} hentry hother hne => ?_
    -- paths below different entries differ in the name of the entry
    intro path hpath hpath'
    obtain ⟨rest, rfl⟩ := exists_append_of_mem_files (children _ hentry) hpath
    obtain ⟨rest', hrest⟩ := exists_append_of_mem_files (children _ hother) hpath'
    rw [List.append_assoc, List.append_assoc] at hrest
    exact hne (List.cons.inj (List.append_cancel_left hrest)).1

end Metasearch.FileTree
