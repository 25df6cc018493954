import Mathlib.Data.List.Induction
import Mathlib.Data.List.Nodup
import Mathlib.Tactic.Push
import Metasearch.Proofs.Schema.Descriptors
import Metasearch.Proofs.Schema.FileNames
import Metasearch.Proofs.Schema.FileTrees
import Metasearch.Proofs.StableSort

set_option autoImplicit false

/-! # What a settings directory holds

Several files may belong to one index, in several folders and in three forms of name, and any
of them may be broken. Which of them count is said here of the tree alone: `Source` are the
files of an index that hold an object, and the one with the greatest path decides (`Decides`).
Neither broken files nor the order of the walk have a part in it.

The argument goes through the sorted list of files. It is the same for any walk, since no two
files have the same path, and leaving out broken files commutes with sorting.
-/

namespace Metasearch

open SettingsFile

/-! ## Files that count -/

/-- A file of the tree that belongs to an index by its name and holds an object. -/
inductive Source (tree : FileTree) (index : String) (kind : SettingsKind) : Path → Fields → Prop
  where
  | file {folder : Path} {name : String} {content : ByteArray} {object : Fields}
      (named : Names index kind name)
      (present : tree.get? (folder ++ [name]) = some (.file content))
      (holds : readObject? content = some object) :
      Source tree index kind (folder ++ [name]) object

/-- The object of the file with the greatest path decides. -/
def Decides (tree : FileTree) (index : String) (kind : SettingsKind) (object : Fields) : Prop :=
  ∃ path, Source tree index kind path object
    ∧ ∀ other object', Source tree index kind other object' → other ≤ path

/-- The hints for an index: those of the file that decides, or none if there is no such file. -/
def HintsFor (tree : FileTree) (index : String) (hints : Fields) : Prop :=
  Decides tree index .types hints
    ∨ (∀ path object, ¬ Source tree index .types path object) ∧ hints = []

/-- A file that has no part in a schema: its name has another extension than `json`, or it does
not hold a JSON object. -/
inductive Broken (path : Path) (content : ByteArray) : Prop where
  | extension (other : ∀ name, path.getLast? = some name → ¬ HasJsonExtension name)
  | encoding (noText : String.fromUTF8? content = none)
  | text {text : String} (isText : String.fromUTF8? content = some text)
      (noJson : Json.read? text = none)
  | value {text : String} {value : Json} (isText : String.fromUTF8? content = some text)
      (isJson : Json.read? text = some value) (noObject : ∀ fields, value ≠ .object fields)

theorem source?_eq_some {path : Path} {content : ByteArray} {index : String}
    {kind : SettingsKind} {object : Fields} :
    source? (path, content) = some (index, kind, object) ↔
      ∃ folder name, path = folder ++ [name] ∧ Names index kind name
        ∧ readObject? content = some object := by
  have hsource : source? (path, content) = path.getLast?.bind fun name =>
      if isJson name then
        (readObject? content).map fun object =>
          ((classifyName name).1, (classifyName name).2, object)
      else none := by
    rw [source?]
    cases path.getLast? with
    | none => rfl
    | some name => cases readObject? content <;> rfl
  rw [hsource]
  simp only [Option.bind_eq_some_iff, Option.ite_none_right_eq_some, Option.map_eq_some_iff,
    List.getLast?_eq_some_iff, names_iff]
  constructor
  · rintro ⟨name, ⟨folder, rfl⟩, hjson, object, hholds, heq⟩
    cases heq
    exact ⟨folder, name, rfl, ⟨hjson, rfl⟩, hholds⟩
  · rintro ⟨folder, name, rfl, ⟨hjson, hclass⟩, hholds⟩
    exact ⟨name, ⟨folder, rfl⟩, hjson, object, hholds, by rw [hclass]⟩

/-- A file that holds the text of an object is a source of the index that its name tells. -/
theorem source?_toUTF8 (folder : Path) {name text index : String} {kind : SettingsKind}
    {object : Fields} (hname : isJson name = true ∧ classifyName name = (index, kind))
    (hread : Json.read? text = some (.object object)) :
    source? (folder ++ [name], text.toUTF8) = some (index, kind, object) := by
  refine source?_eq_some.mpr ⟨folder, name, rfl, names_iff.mpr hname, ?_⟩
  rw [readObject?_toUTF8, hread]
  rfl

theorem source?_of_broken {path : Path} {content : ByteArray} (h : Broken path content) :
    source? (path, content) = none := by
  refine Option.eq_none_iff_forall_ne_some.mpr fun ⟨index, kind, object⟩ hsource => ?_
  obtain ⟨folder, name, rfl, hnamed, hholds⟩ := source?_eq_some.mp hsource
  have hobject : ∃ text value, String.fromUTF8? content = some text
      ∧ Json.read? text = some value ∧ value = .object object := by
    simp only [readObject?, Option.bind_eq_bind, Option.bind_eq_some_iff] at hholds
    obtain ⟨text, htext, value, hvalue, hobject⟩ := hholds
    refine ⟨text, value, htext, hvalue, ?_⟩
    cases value <;> simp_all [Json.object?]
  obtain ⟨text, value, htext, hvalue, rfl⟩ := hobject
  cases h with
  | extension other => exact other name List.getLast?_concat (isJson_iff.mp (names_iff.mp hnamed).1)
  | encoding noText => simp [noText] at htext
  | text isText noJson =>
    cases isText.symm.trans htext
    simp [noJson] at hvalue
  | value isText isJson noObject =>
    cases isText.symm.trans htext
    cases isJson.symm.trans hvalue
    exact noObject object rfl

/-! ## The sorted walk -/

/-- The sources among the files of a walk, in the order of their paths. -/
def sourcesOf (walk : List (Path × ByteArray)) : List (String × SettingsKind × Fields) :=
  (walk.mergeSort fun a b => Path.le a.1 b.1).filterMap source?

/-- The schema of the files of a walk, whatever its order. -/
def Schema.ofWalk (engine : Engine) (walk : List (Path × ByteArray)) : Schema :=
  Schema.build engine (objectsOf .settings (sourcesOf walk)) (objectsOf .types (sourcesOf walk))

theorem Schema.load_folder (engine : Engine) (entries : List (String × FileTree)) :
    Schema.load engine (some (.folder entries))
      = Schema.ofWalk engine ((FileTree.folder entries).files []) := rfl

section Walk

variable {walk other : List (Path × ByteArray)}

theorem totalPreorderOn_walk (walk : List (Path × ByteArray)) :
    TotalPreorderOn (fun a b : Path × ByteArray => Path.le a.1 b.1) walk where
  total a _ b _ := by
    rw [Path.le_iff, Path.le_iff]
    exact le_total a.1 b.1
  trans a _ b _ c _ hab hbc := by
    rw [Path.le_iff] at hab hbc ⊢
    exact le_trans hab hbc

theorem pairwise_sorted (walk : List (Path × ByteArray)) :
    (walk.mergeSort fun a b => Path.le a.1 b.1).Pairwise fun a b => a.1 ≤ b.1 :=
  (pairwise_mergeSort (totalPreorderOn_walk walk)).imp fun hab => (Path.le_iff _ _).mp hab

/-- **The order of a walk does not matter**: files with different paths can be sorted in one way
only. -/
theorem sourcesOf_perm (hnodup : (walk.map Prod.fst).Nodup) (hperm : walk.Perm other) :
    sourcesOf walk = sourcesOf other := by
  have hsorted : (walk.mergeSort fun a b => Path.le a.1 b.1)
      = other.mergeSort fun a b => Path.le a.1 b.1 := by
    have hall : (walk.mergeSort fun a b => Path.le a.1 b.1).Perm
        (other.mergeSort fun a b => Path.le a.1 b.1) :=
      ((List.mergeSort_perm walk _).trans hperm).trans (List.mergeSort_perm other _).symm
    refine hall.eq_of_pairwise (fun a b ha hb hab hba => ?_) (pairwise_sorted walk)
      (pairwise_sorted other)
    exact List.inj_on_of_nodup_map hnodup (List.mem_mergeSort.mp ha)
      (hperm.mem_iff.mpr (List.mem_mergeSort.mp hb)) (le_antisymm hab hba)
  rw [sourcesOf, hsorted, sourcesOf]

/-- **Files without a source do not matter.** -/
theorem sourcesOf_filter (walk : List (Path × ByteArray)) :
    sourcesOf (walk.filter fun file => (source? file).isSome) = sourcesOf walk := by
  rw [sourcesOf, mergeSort_filter (totalPreorderOn_walk walk), List.filterMap_filter, sourcesOf]
  refine List.filterMap_congr fun file _ => ?_
  cases source? file <;> rfl

end Walk

/-! ## The last source of an index -/

/-- The object of a file if it is of the given kind and belongs to the given index. -/
def objectIn? (index : String) (kind : SettingsKind) (file : Path × ByteArray) : Option Fields :=
  (source? file).bind fun source =>
    if source.1 = index ∧ source.2.1 = kind then some source.2.2 else none

theorem lastOf?_objectsOf (index : String) (kind : SettingsKind)
    (files : List (Path × ByteArray)) :
    Schema.lastOf? index (objectsOf kind (files.filterMap source?))
      = (files.filterMap (objectIn? index kind)).getLast? := by
  rw [Schema.lastOf?, objectsOf, ← List.getLast?_map, List.filter_map, List.map_map,
    List.filter_filter, ← List.filterMap_eq_map, ← List.filterMap_eq_filter,
    List.filterMap_filterMap, List.filterMap_filterMap]
  refine congrArg List.getLast? (List.filterMap_congr fun file _ => ?_)
  rw [objectIn?]
  cases source? file with
  | none => rfl
  | some source =>
    by_cases hname : source.1 = index <;> by_cases hkind : source.2.1 = kind <;>
      simp [Option.guard, hname, hkind]

/-- In a list that goes up, the last value is the one with the greatest key. -/
theorem getLast?_filterMap_iff {α β γ : Type} [LinearOrder γ] {key : α → γ} {value? : α → Option β}
    {items : List α} (hsorted : items.Pairwise fun a b => key a ≤ key b)
    (hkey : ∀ a ∈ items, ∀ b ∈ items, key a = key b → a = b) {value : β} :
    (items.filterMap value?).getLast? = some value ↔
      ∃ a ∈ items, value? a = some value ∧ ∀ b ∈ items, (value? b).isSome → key b ≤ key a := by
  induction items using List.reverseRecOn with
  | nil => simp
  | append_singleton items last ih =>
    obtain ⟨hrest, _, hlast⟩ := List.pairwise_append.mp hsorted
    rw [List.filterMap_append]
    cases hvalue : value? last with
    | none =>
      have ih := ih hrest fun a ha b hb =>
        hkey a (List.mem_append_left _ ha) b (List.mem_append_left _ hb)
      rw [List.filterMap_cons_none hvalue, List.filterMap_nil, List.append_nil, ih]
      simp [hvalue, or_and_right, exists_or, or_imp, forall_and]
    | some found =>
      have hfirst : (items.filterMap value? ++ [last].filterMap value?).getLast? = some found := by
        simp [hvalue]
      rw [hfirst]
      constructor
      · rintro ⟨rfl⟩
        refine ⟨last, by simp, hvalue, fun b hb _ => ?_⟩
        rcases List.mem_append.mp hb with hb | hb
        · exact hlast b hb last (by simp)
        · rw [List.mem_singleton.mp hb]
      · rintro ⟨a, ha, hfound, hgreatest⟩
        have hle : key last ≤ key a := hgreatest last (by simp) (by simp [hvalue])
        have hge : key a ≤ key last := by
          rcases List.mem_append.mp ha with ha | ha
          · exact hlast a ha last (by simp)
          · rw [List.mem_singleton.mp ha]
        have heq : a = last := hkey a ha last (by simp) (le_antisymm hge hle)
        rw [← hvalue, ← heq, hfound]

section Tree

variable {tree : FileTree} (hproper : tree.Proper)

include hproper

theorem source_iff {index : String} {kind : SettingsKind} {path : Path} {object : Fields} :
    Source tree index kind path object ↔
      ∃ content, (path, content) ∈ tree.files []
        ∧ objectIn? index kind (path, content) = some object := by
  have hobject : ∀ content, objectIn? index kind (path, content) = some object ↔
      source? (path, content) = some (index, kind, object) := by
    intro content
    rw [objectIn?, Option.bind_eq_some_iff]
    constructor
    · rintro ⟨⟨_, _, _⟩, hsource, hobject⟩
      split at hobject
      · next hboth =>
        cases hobject
        rw [hsource, ← hboth.1, ← hboth.2]
      · cases hobject
    · intro hsource
      exact ⟨_, hsource, if_pos ⟨rfl, rfl⟩⟩
  simp only [hobject, source?_eq_some, FileTree.mem_files hproper]
  constructor
  · rintro ⟨named, present, holds⟩
    exact ⟨_, present, _, _, rfl, named, holds⟩
  · rintro ⟨content, present, folder, name, rfl, named, holds⟩
    exact .file named present holds

/-- **The object that decides is the last one of the sorted walk.** -/
theorem lastOf?_eq_some_iff {index : String} {kind : SettingsKind} {object : Fields} :
    Schema.lastOf? index (objectsOf kind (sourcesOf (tree.files []))) = some object ↔
      Decides tree index kind object := by
  have hkey : ∀ a ∈ (tree.files []).mergeSort fun a b => Path.le a.1 b.1,
      ∀ b ∈ (tree.files []).mergeSort fun a b => Path.le a.1 b.1, a.1 = b.1 → a = b :=
    fun a ha b hb => List.inj_on_of_nodup_map (FileTree.nodup_files hproper [])
      (List.mem_mergeSort.mp ha) (List.mem_mergeSort.mp hb)
  rw [sourcesOf, lastOf?_objectsOf, getLast?_filterMap_iff (pairwise_sorted _) hkey]
  simp only [List.mem_mergeSort, Decides, source_iff hproper]
  constructor
  · rintro ⟨⟨path, content⟩, hmem, hobject, hgreatest⟩
    refine ⟨path, ⟨content, hmem, hobject⟩, fun other object' ⟨content', hmem', hobject'⟩ => ?_⟩
    exact hgreatest (other, content') hmem' (by rw [hobject']; rfl)
  · rintro ⟨path, ⟨content, hmem, hobject⟩, hgreatest⟩
    refine ⟨(path, content), hmem, hobject, fun other hmem' hsome => ?_⟩
    obtain ⟨object', hobject'⟩ := Option.isSome_iff_exists.mp hsome
    exact hgreatest other.1 object' ⟨other.2, hmem', hobject'⟩

theorem lastOf?_isSome_iff {index : String} {kind : SettingsKind} :
    (Schema.lastOf? index (objectsOf kind (sourcesOf (tree.files [])))).isSome ↔
      ∃ path object, Source tree index kind path object := by
  rw [sourcesOf, lastOf?_objectsOf, List.getLast?_isSome, Ne, List.filterMap_eq_nil_iff]
  simp only [List.mem_mergeSort, source_iff hproper]
  constructor
  · intro h
    push Not at h
    obtain ⟨⟨path, content⟩, hmem, hne⟩ := h
    obtain ⟨object, hobject⟩ := Option.ne_none_iff_exists'.mp hne
    exact ⟨path, object, content, hmem, hobject⟩
  · rintro ⟨path, object, content, hmem, hobject⟩ hall
    rw [hall _ hmem] at hobject
    cases hobject

theorem hintsFor_iff {index : String} {hints : Fields} :
    HintsFor tree index hints ↔
      hints = (Schema.lastOf? index (objectsOf .types (sourcesOf (tree.files [])))).getD [] := by
  rw [HintsFor, ← lastOf?_eq_some_iff hproper]
  have hsome : (Schema.lastOf? index (objectsOf .types (sourcesOf (tree.files [])))).isSome ↔
      ∃ path object, Source tree index .types path object := lastOf?_isSome_iff hproper
  cases hlast : Schema.lastOf? index (objectsOf .types (sourcesOf (tree.files []))) with
  | none =>
    rw [hlast] at hsome
    have hno : ∀ path object, ¬ Source tree index .types path object := fun path object h =>
      absurd (hsome.mpr ⟨path, object, h⟩) Bool.false_ne_true
    simp [hno]
  | some object =>
    rw [hlast] at hsome
    obtain ⟨path, found, hfound⟩ := hsome.mp rfl
    have hyes : ¬ ∀ path object, ¬ Source tree index .types path object := fun h =>
      h path found hfound
    simp [hyes, eq_comm]

end Tree

/-! ## Loading -/

/-- Two trees with the same files, up to broken ones, have the same sources. -/
theorem sourcesOf_eq_of_agree {tree other : FileTree} (hproper : tree.Proper)
    (hother : other.Proper)
    (hagree : ∀ path content, ¬ Broken path content →
      (tree.get? path = some (.file content) ↔ other.get? path = some (.file content))) :
    sourcesOf (tree.files []) = sourcesOf (other.files []) := by
  have hnodup : ∀ {tree : FileTree}, tree.Proper →
      ((tree.files []).filter fun file => (source? file).isSome).Nodup := fun hproper =>
    ((FileTree.nodup_files hproper []).of_map Prod.fst).filter _
  have hperm : ((tree.files []).filter fun file => (source? file).isSome).Perm
      ((other.files []).filter fun file => (source? file).isSome) := by
    refine (List.perm_ext_iff_of_nodup (hnodup hproper) (hnodup hother)).mpr fun file => ?_
    obtain ⟨path, content⟩ := file
    rw [List.mem_filter, List.mem_filter, FileTree.mem_files hproper, FileTree.mem_files hother]
    refine and_congr_left fun hsome => hagree path content fun hbroken => ?_
    rw [source?_of_broken hbroken] at hsome
    cases hsome
  rw [← sourcesOf_filter (tree.files []), ← sourcesOf_filter (other.files [])]
  exact sourcesOf_perm ((FileTree.nodup_files hproper []).sublist (List.filter_sublist.map _)) hperm

/-- **A directory is resolved by index, and the last path decides.** -/
theorem load_resolves (engine : Engine) {entries : List (String × FileTree)}
    (hproper : (FileTree.folder entries).Proper) :
    (∀ index, ((Schema.load engine (some (.folder entries))).index? index).isSome ↔
        ∃ path object, Source (.folder entries) index .settings path object)
      ∧ (∀ index descriptor,
          (Schema.load engine (some (.folder entries))).index? index = some descriptor ↔
            ∃ raw hints, Decides (.folder entries) index .settings raw
              ∧ HintsFor (.folder entries) index hints
              ∧ descriptor = IndexDescriptor.build index (IndexSettings.ofRaw engine raw) hints)
      ∧ (∀ others, (FileTree.folder others).Proper →
          (∀ path content, ¬ Broken path content →
            ((FileTree.folder entries).get? path = some (.file content) ↔
              (FileTree.folder others).get? path = some (.file content))) →
          Schema.load engine (some (.folder others)) = Schema.load engine (some (.folder entries)))
      ∧ ∀ walk, walk.Perm ((FileTree.folder entries).files []) →
          Schema.ofWalk engine walk = Schema.load engine (some (.folder entries)) := by
  simp only [Schema.load_folder]
  refine ⟨fun index => ?_, fun index descriptor => ?_, fun others hothers hagree => ?_,
    fun walk hwalk => ?_⟩
  · rw [Schema.ofWalk, Schema.index?_build, Option.isSome_map, lastOf?_isSome_iff hproper]
  · rw [Schema.ofWalk, Schema.index?_build, Option.map_eq_some_iff]
    simp only [lastOf?_eq_some_iff hproper, hintsFor_iff hproper]
    constructor
    · rintro ⟨raw, hraw, rfl⟩
      exact ⟨raw, _, hraw, rfl, rfl⟩
    · rintro ⟨raw, hints, hraw, rfl, rfl⟩
      exact ⟨raw, hraw, rfl⟩
  · rw [Schema.ofWalk, Schema.ofWalk, sourcesOf_eq_of_agree hproper hothers hagree]
  · have hnodup : (walk.map Prod.fst).Nodup :=
      (hwalk.map Prod.fst).nodup_iff.mpr (FileTree.nodup_files hproper [])
    rw [Schema.ofWalk, sourcesOf_perm hnodup hwalk, Schema.ofWalk]

/-! ## A directory with a broken file -/

/-- Settings of one index in two folders, hints for it, and a broken file behind them. -/
def bookFiles : List (String × FileTree) :=
  [("books.settings.json", .file "\x7b\x7d".toUTF8),
    ("books.types.json", .file "\x7b\"year\": \"integer\"\x7d".toUTF8),
    ("novels", .folder
      [("books.JSON", .file "\x7b\"filterableAttributes\": [\"year\"]\x7d".toUTF8)]),
    ("zoo", .folder [("books.json", .file "[".toUTF8)])]

theorem proper_bookFiles : (FileTree.folder bookFiles).Proper := by
  have hfolder : ∀ name content, (FileTree.folder [(name, .file content)]).Proper :=
    fun name content => .folder (List.nodup_singleton _) fun entry hentry =>
      List.mem_singleton.mp hentry ▸ .file content
  refine .folder (by decide) fun entry hentry => ?_
  simp only [bookFiles, List.mem_cons, List.not_mem_nil, or_false] at hentry
  rcases hentry with rfl | rfl | rfl | rfl
  · exact .file _
  · exact .file _
  · exact hfolder _ _
  · exact hfolder _ _

/-- The last file of all holds the beginning of a list. -/
theorem broken_lastBooks : Broken ["zoo", "books.json"] "[".toUTF8 :=
  .text (fromUTF8?_toUTF8 "[") (by with_unfolding_all rfl)

theorem sourcesOf_bookFiles :
    sourcesOf ((FileTree.folder bookFiles).files [])
      = [("books", .settings, []), ("books", .types, [("year", .string "integer")]),
        ("books", .settings, [("filterableAttributes", .array [.string "year"])])] := by
  have hsorted : ((FileTree.folder bookFiles).files []).Pairwise
      fun a b => Path.le a.1 b.1 := by decide +kernel
  have hplain : source? (["books.settings.json"], "\x7b\x7d".toUTF8)
      = some ("books", .settings, []) :=
    source?_toUTF8 [] (by decide) (by with_unfolding_all rfl)
  have htypes : source? (["books.types.json"], "\x7b\"year\": \"integer\"\x7d".toUTF8)
      = some ("books", .types, [("year", .string "integer")]) :=
    source?_toUTF8 [] (by decide) (by with_unfolding_all rfl)
  have hdeep : source? (["novels", "books.JSON"],
        "\x7b\"filterableAttributes\": [\"year\"]\x7d".toUTF8)
      = some ("books", .settings, [("filterableAttributes", .array [.string "year"])]) :=
    source?_toUTF8 ["novels"] (by decide) (by with_unfolding_all rfl)
  have hbroken : source? (["zoo", "books.json"], "[".toUTF8) = none :=
    source?_of_broken broken_lastBooks
  rw [sourcesOf, List.mergeSort_of_pairwise hsorted]
  exact (List.filterMap_cons_some hplain).trans (congrArg _ ((List.filterMap_cons_some htypes).trans
    (congrArg _ ((List.filterMap_cons_some hdeep).trans
      (congrArg _ (List.filterMap_cons_none hbroken))))))

/-- What the deeper settings make of the books: the year is filtered and counted, as a number. -/
def booksByYear : IndexDescriptor where
  name := "books"
  identifier := "id"
  fields :=
    [{ name := "year", type := .int, searchable := false, filterable := true, sortable := false,
       distinct := false, facet := true },
      .ofIdentifier "id"]

/-- The deeper settings decide, since `novels` stands behind `books.settings.json`; the file in
`zoo` would come last, but it is broken, and might as well not be there. -/
theorem load_resolves_bookFiles :
    (FileTree.folder bookFiles).Proper
      ∧ (Schema.load .meilisearch (some (.folder bookFiles))).index? "books" = some booksByYear
      ∧ Schema.load .meilisearch (some (.folder bookFiles.dropLast))
          = Schema.load .meilisearch (some (.folder bookFiles))
      ∧ Schema.ofWalk .meilisearch ((FileTree.folder bookFiles).files []).reverse
          = Schema.load .meilisearch (some (.folder bookFiles)) := by
  have hraw : Decides (.folder bookFiles) "books" .settings
      [("filterableAttributes", .array [.string "year"])] :=
    (lastOf?_eq_some_iff proper_bookFiles).mp (by rw [sourcesOf_bookFiles]; rfl)
  have hhints : Decides (.folder bookFiles) "books" .types [("year", .string "integer")] :=
    (lastOf?_eq_some_iff proper_bookFiles).mp (by rw [sourcesOf_bookFiles]; rfl)
  have hrest : (FileTree.folder bookFiles.dropLast).Proper := by
    cases proper_bookFiles with
    | folder names children =>
      exact .folder (names.sublist ((List.dropLast_sublist _).map _)) fun entry hentry =>
        children entry (List.dropLast_subset _ hentry)
  have hagree : ∀ path content, ¬ Broken path content →
      ((FileTree.folder bookFiles).get? path = some (.file content) ↔
        (FileTree.folder bookFiles.dropLast).get? path = some (.file content)) := by
    intro path content hsound
    have hfiles : (FileTree.folder bookFiles).files []
        = (FileTree.folder bookFiles.dropLast).files [] ++ [(["zoo", "books.json"], "[".toUTF8)] :=
      rfl
    rw [← FileTree.mem_files proper_bookFiles, ← FileTree.mem_files hrest, hfiles,
      List.mem_append, List.mem_singleton]
    refine or_iff_left fun hlast => ?_
    cases hlast
    exact hsound broken_lastBooks
  have hyear : booksByYear = IndexDescriptor.build "books"
      (IndexSettings.ofRaw .meilisearch [("filterableAttributes", .array [.string "year"])])
      [("year", .string "integer")] := by decide +kernel
  obtain ⟨_, hindex, hbroken, hwalk⟩ := load_resolves .meilisearch proper_bookFiles
  exact ⟨proper_bookFiles, (hindex "books" _).mpr ⟨_, _, hraw, .inl hhints, hyear⟩,
    hbroken _ hrest hagree, hwalk _ (List.reverse_perm _)⟩

end Metasearch
