import Mathlib.Data.List.Lex
import Mathlib.Data.String.Basic
import Metasearch.Proofs.Text.Scanning
import Metasearch.Schema.Files

set_option autoImplicit false

/-! # The names of settings files

A file name is taken apart from its end: the extension behind the last dot, then the kind. Here
the names are put together instead. `Names` lists the three forms of a name that belongs to an
index, and `names_iff` says that the names which are recognised are those and no others.

Paths are compared name by name, which is the lexicographic order of lists (`Path.le_iff`).
-/

namespace Metasearch

/-! ## Order of paths -/

/-- **Paths are compared component by component.** -/
theorem Path.le_iff (path other : Path) : Path.le path other = true ↔ path ≤ other := by
  induction path generalizing other with
  | nil =>
    have hle : ([] : Path) ≤ other := not_lt.mp (List.not_lt_nil other)
    exact ⟨fun _ => hle, fun _ => by cases other <;> rfl⟩
  | cons name path ih =>
    cases other with
    | nil =>
      have hlt : ([] : Path) < name :: path := List.nil_lt_cons name path
      exact ⟨fun h => absurd h (by simp [Path.le]), fun h => absurd hlt (not_lt.mpr h)⟩
    | cons first rest =>
      have hcons : name :: path ≤ first :: rest
          ↔ ¬ (first < name ∨ first = name ∧ rest < path) := by
        rw [← not_lt]
        exact not_congr List.cons_lt_cons_iff
      rw [hcons]
      by_cases hname : name = first
      · subst hname
        simp [Path.le, ih]
      · simp [Path.le, hname, Ne.symm hname, lt_iff_le_and_ne]

namespace SettingsFile

/-! ## Taking names apart -/

/-- **The extension stands behind the last dot**, and something stands before it. -/
theorem splitExtension?_append {before extension : List Char} (hdot : '.' ∉ extension) :
    splitExtension? (before ++ '.' :: extension)
      = if before = [] then none else some (before, extension) := by
  obtain ⟨htake, hdrop⟩ := Text.takeWhile_ne_reverse hdot before
  simp only [splitExtension?, htake, hdrop, List.drop_succ_cons, List.drop_zero]
  cases hbefore : before.reverse with
  | nil =>
    rw [if_pos (List.reverse_eq_nil_iff.mp hbefore)]
  | cons c rest =>
    have hne : before ≠ [] := fun hnil => by simp [hnil] at hbefore
    rw [if_neg hne]
    show some ((c :: rest).reverse, extension.reverse.reverse) = some (before, extension)
    rw [← hbefore, List.reverse_reverse, List.reverse_reverse]

theorem eq_append_of_splitExtension? {name before extension : List Char}
    (h : splitExtension? name = some (before, extension)) :
    name = before ++ '.' :: extension ∧ before ≠ [] := by
  by_cases hmem : '.' ∈ name
  · -- the last dot of a name is the first one of the name read backwards
    obtain ⟨behind, front, hreverse, hdot⟩ :=
      List.eq_append_cons_of_mem (List.mem_reverse.mpr hmem)
    have hname : name = front.reverse ++ '.' :: behind.reverse := by
      rw [← List.reverse_reverse name, hreverse]
      simp
    rw [hname, splitExtension?_append (by simpa using hdot)] at h
    split at h
    · cases h
    · next hne =>
      cases h
      exact ⟨hname, hne⟩
  · have hall : ∀ c ∈ name.reverse, decide (c ≠ '.') = true := fun c hc =>
      decide_eq_true fun heq => hmem (heq ▸ List.mem_reverse.mp hc)
    have hdrop : name.reverse.dropWhile (fun c => decide (c ≠ '.')) = [] :=
      List.dropWhile_eq_nil_iff.mpr hall
    simp only [splitExtension?, hdrop, List.drop_nil] at h
    cases h

theorem dropSuffix?_eq_some {suffix text front : List Char} :
    Text.dropSuffix? suffix text = some front ↔ text = front ++ suffix := by
  rw [Text.dropSuffix?]
  constructor
  · intro h
    split at h
    · next hsuffix =>
      obtain ⟨rest, rfl⟩ := List.isSuffixOf_iff_suffix.mp hsuffix
      simpa [eq_comm] using h
    · cases h
  · rintro rfl
    simp

theorem dropSuffix?_eq_none {suffix text : List Char} :
    Text.dropSuffix? suffix text = none ↔ ¬ suffix <:+ text := by
  simp [Text.dropSuffix?]

/-! ## Putting names together -/

/-- A word that is `json` in some case. -/
def JsonWord (word : String) : Prop := word.toList.map Char.toLower = "json".toList

/-- A file name with the extension `json`. Something must stand before the dot. -/
def HasJsonExtension (name : String) : Prop :=
  ∃ stem extension, stem ≠ "" ∧ JsonWord extension ∧ name = stem ++ "." ++ extension

/-- The names of the files that hold the settings or the type hints of an index. -/
inductive Names (index : String) : SettingsKind → String → Prop where
  | types {extension : String} (json : JsonWord extension) :
    Names index .types (index ++ ".types" ++ "." ++ extension)
  | settings {extension : String} (json : JsonWord extension) :
    Names index .settings (index ++ ".settings" ++ "." ++ extension)
  | plain {extension : String} (json : JsonWord extension) (nonempty : index ≠ "")
      (noTypes : ¬ ".types".toList <:+ index.toList)
      (noSettings : ¬ ".settings".toList <:+ index.toList) :
    Names index .settings (index ++ "." ++ extension)

theorem JsonWord.dot_not_mem {word : String} (h : JsonWord word) : '.' ∉ word.toList := by
  intro hmem
  have hlower : '.'.toLower ∈ "json".toList := h ▸ List.mem_map_of_mem hmem
  exact absurd hlower (by decide)

theorem splitExtension?_name {stem extension : String} (hstem : stem ≠ "")
    (hjson : JsonWord extension) :
    splitExtension? (stem ++ "." ++ extension).toList = some (stem.toList, extension.toList) := by
  have hname : (stem ++ "." ++ extension).toList = stem.toList ++ '.' :: extension.toList := by
    simp [String.toList_append]
  rw [hname, splitExtension?_append hjson.dot_not_mem, if_neg (by simpa using hstem)]

theorem isJson_iff {name : String} : isJson name = true ↔ HasJsonExtension name := by
  constructor
  · intro h
    unfold isJson at h
    split at h
    · next before extension hsplit =>
      obtain ⟨hname, hbefore⟩ := eq_append_of_splitExtension? hsplit
      refine ⟨String.ofList before, String.ofList extension, by simpa using hbefore, ?_, ?_⟩
      · rw [JsonWord, String.toList_ofList]
        exact of_decide_eq_true h
      · rw [← String.toList_inj, hname]
        simp [String.toList_append]
    · cases h
  · rintro ⟨stem, extension, hstem, hjson, rfl⟩
    rw [isJson, splitExtension?_name hstem hjson]
    exact decide_eq_true hjson

/-- What a stem says: the index, and the kind by its ending. -/
theorem classifyName_name {stem extension : String} (hstem : stem ≠ "")
    (hjson : JsonWord extension) :
    classifyName (stem ++ "." ++ extension)
      = match Text.dropSuffix? ".types".toList stem.toList with
        | some index => (String.ofList index, .types)
        | none =>
          match Text.dropSuffix? ".settings".toList stem.toList with
          | some index => (String.ofList index, .settings)
          | none => (String.ofList stem.toList, .settings) := by
  have hstemOf : SettingsFile.stem (stem ++ "." ++ extension).toList = stem.toList := by
    rw [SettingsFile.stem, splitExtension?_name hstem hjson]
  rw [← hstemOf]
  rfl

/-- **The names of an index are those that are recognised as such.** -/
theorem names_iff {index name : String} {kind : SettingsKind} :
    Names index kind name ↔ isJson name = true ∧ classifyName name = (index, kind) := by
  have hends : ∀ ending : String, (index ++ ending).toList = index.toList ++ ending.toList :=
    fun ending => String.toList_append
  have hne : ∀ ending : String, ending ≠ "" → index ++ ending ≠ "" := by
    intro ending hending heq
    have hlist := (hends ending).symm.trans (congrArg String.toList heq)
    exact hending (String.toList_inj.mp (List.append_eq_nil_iff.mp hlist).2)
  constructor
  · intro h
    cases h with
    | types json =>
      have hstem := hne ".types" (by decide)
      refine ⟨isJson_iff.mpr ⟨_, _, hstem, json, rfl⟩, ?_⟩
      rw [classifyName_name hstem json, dropSuffix?_eq_some.mpr (hends _)]
      exact congrArg (·, SettingsKind.types) String.ofList_toList
    | settings json =>
      have hstem := hne ".settings" (by decide)
      have htypes : Text.dropSuffix? ".types".toList (index ++ ".settings").toList = none := by
        rw [dropSuffix?_eq_none, hends]
        intro hsuffix
        have hshort : ".types".toList <:+ ".settings".toList :=
          List.suffix_of_suffix_length_le hsuffix (List.suffix_append _ _) (by decide)
        exact absurd hshort (by decide)
      refine ⟨isJson_iff.mpr ⟨_, _, hstem, json, rfl⟩, ?_⟩
      rw [classifyName_name hstem json, htypes, dropSuffix?_eq_some.mpr (hends _)]
      exact congrArg (·, SettingsKind.settings) String.ofList_toList
    | plain json nonempty noTypes noSettings =>
      refine ⟨isJson_iff.mpr ⟨_, _, nonempty, json, rfl⟩, ?_⟩
      rw [classifyName_name nonempty json, dropSuffix?_eq_none.mpr noTypes,
        dropSuffix?_eq_none.mpr noSettings]
      exact congrArg (·, SettingsKind.settings) String.ofList_toList
  · rintro ⟨hname, hclass⟩
    obtain ⟨stem, extension, hstem, hjson, rfl⟩ := isJson_iff.mp hname
    rw [classifyName_name hstem hjson] at hclass
    split at hclass
    · next front hfront =>
      cases hclass
      have hindex : stem = String.ofList front ++ ".types" := by
        rw [← String.toList_inj, dropSuffix?_eq_some.mp hfront]
        simp [String.toList_append]
      rw [hindex]
      exact .types hjson
    · next hnone =>
      split at hclass
      · next front hfront =>
        cases hclass
        have hindex : stem = String.ofList front ++ ".settings" := by
          rw [← String.toList_inj, dropSuffix?_eq_some.mp hfront]
          simp [String.toList_append]
        rw [hindex]
        exact .settings hjson
      · next hnone' =>
        rw [String.ofList_toList] at hclass
        cases hclass
        exact .plain hjson hstem (dropSuffix?_eq_none.mp hnone) (dropSuffix?_eq_none.mp hnone')

end SettingsFile

end Metasearch
