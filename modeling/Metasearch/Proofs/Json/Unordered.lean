import Mathlib.Data.List.Nodup
import Metasearch.Proofs.Json.Removal

set_option autoImplicit false

/-! # Objects up to the order of their entries

Two lists of entries are the same object if they differ in their order alone (`Reordered`).
As no key occurs twice in an object, this is so exactly if look-up gives the same in both
(`reordered_iff`). So what is put together from objects is seen to be the same object by
look-up, wherever removals and insertions have left the entries.
-/

namespace Metasearch.Fields

/-! ## Entries and look-up -/

/-- Where no key occurs twice, look-up finds every entry. -/
theorem get?_eq_some {entries : Fields} (hdistinct : Distinct entries) {key : String}
    {value : Json} : get? entries key = some value ↔ (key, value) ∈ entries := by
  refine ⟨mem_of_get?, fun hmem => ?_⟩
  obtain ⟨before, after, rfl⟩ := List.append_of_mem hmem
  rw [get?_perm List.perm_middle hdistinct, get?_cons, if_pos rfl]

theorem not_mem_keys_of_contains {entries : Fields} {key : String}
    (h : contains entries key = false) : key ∉ keys entries := by
  rw [← get?_eq_none]
  simpa [contains] using h

theorem insert_of_not_mem {entries : Fields} {key : String} (h : key ∉ keys entries)
    (value : Json) : insert entries key value = entries ++ [(key, value)] := by
  induction entries with
  | nil => rfl
  | cons entry rest ih =>
    obtain ⟨name, old⟩ := entry
    have hname : name ≠ key := fun heq => h (by simp [keys, heq])
    have hrest : key ∉ keys rest := fun hmem => h (List.mem_cons_of_mem name hmem)
    rw [insert, if_neg hname, ih hrest, List.cons_append]

/-! ## No key twice -/

theorem distinct_append {entries others : Fields} (h : Distinct entries)
    (hothers : Distinct others) (hnew : ∀ key ∈ keys others, key ∉ keys entries) :
    Distinct (entries ++ others) := by
  rw [Distinct, keys, List.map_append]
  refine List.nodup_append.mpr ⟨h, hothers, fun key hkey other hother heq => ?_⟩
  exact hnew other hother (heq ▸ hkey)

theorem distinct_insertAll {entries : Fields} (h : Distinct entries) (others : Fields) :
    Distinct (insertAll entries others) := by
  induction others generalizing entries with
  | nil => exact h
  | cons entry others ih => exact ih (distinct_insert h entry.1 entry.2)

theorem distinct_insertNew {entries : Fields} (h : Distinct entries) (key : String)
    (value : Json) : Distinct (insertNew entries key value) := by
  unfold insertNew
  split
  · exact h
  · next hcontains =>
    rw [← insert_of_not_mem (not_mem_keys_of_contains (Bool.eq_false_iff.mpr hcontains))]
    exact distinct_insert h key value

theorem distinct_insertAllNew {entries : Fields} (h : Distinct entries) (others : Fields) :
    Distinct (insertAllNew entries others) := by
  induction others generalizing entries with
  | nil => exact h
  | cons entry others ih => exact ih (distinct_insertNew h entry.1 entry.2)

/-! ## The same object -/

/-- The same object: the same entries in any order, and no key twice. -/
structure Reordered (entries others : Fields) : Prop where
  distinct : Distinct entries
  perm : entries.Perm others

theorem Reordered.distinct' {entries others : Fields} (h : Reordered entries others) :
    Distinct others :=
  (h.perm.map Prod.fst).nodup_iff.mp h.distinct

theorem Reordered.get?_eq {entries others : Fields} (h : Reordered entries others)
    (key : String) : get? entries key = get? others key :=
  get?_perm h.perm h.distinct key

/-- **An object is what look-up finds in it.** -/
theorem reordered_iff {entries others : Fields} :
    Reordered entries others ↔
      Distinct entries ∧ Distinct others ∧ ∀ key, get? entries key = get? others key := by
  constructor
  · intro h
    exact ⟨h.distinct, h.distinct', h.get?_eq⟩
  · rintro ⟨hdistinct, hdistinct', hget⟩
    have hnodup : entries.Nodup := List.Nodup.of_map Prod.fst hdistinct
    have hnodup' : others.Nodup := List.Nodup.of_map Prod.fst hdistinct'
    refine ⟨hdistinct, (List.perm_ext_iff_of_nodup hnodup hnodup').mpr fun ⟨key, value⟩ => ?_⟩
    rw [← get?_eq_some hdistinct, ← get?_eq_some hdistinct', hget]

/-- Removing keys leaves the same object, whichever entries fill the holes. -/
theorem Reordered.eraseAll {entries others : Fields} (h : Reordered entries others)
    (names : List String) :
    Reordered (Fields.eraseAll entries names) (Fields.eraseAll others names) := by
  refine reordered_iff.mpr ⟨distinct_eraseAll h.distinct names,
    distinct_eraseAll h.distinct' names, fun key => ?_⟩
  rw [get?_eraseAll h.distinct, get?_eraseAll h.distinct', h.get?_eq]

/-- Adding entries where a key is missing gives the same object if look-up finds the same
among the added ones. -/
theorem reordered_insertAllNew {entries : Fields} (hdistinct : Distinct entries)
    {added others : Fields} (hget : ∀ key, get? added key = get? others key) :
    Reordered (insertAllNew entries added) (insertAllNew entries others) := by
  refine reordered_iff.mpr ⟨distinct_insertAllNew hdistinct added,
    distinct_insertAllNew hdistinct others, fun key => ?_⟩
  rw [get?_insertAllNew, get?_insertAllNew, hget]

end Metasearch.Fields
