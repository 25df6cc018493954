import Metasearch.Alias
import Metasearch.Proofs.Stepwise

set_option autoImplicit false

/-! # Look-up in changed objects

Requests are put together by setting and removing keys of ordered objects, and the order of
their entries changes on the way. What a request means depends on look-up alone. The lemmas here
say what look-up gives after many insertions, and that it does not see the order as long as no
key occurs twice (`get?_perm`).
-/

namespace Metasearch.Fields

instance (entries : Fields) : Decidable (Distinct entries) :=
  inferInstanceAs (Decidable (keys entries).Nodup)

theorem get?_eq_none {entries : Fields} {key : String} :
    get? entries key = none ↔ key ∉ keys entries := by
  induction entries with
  | nil => simp [keys]
  | cons entry rest ih =>
    obtain ⟨name, value⟩ := entry
    by_cases hname : name = key
    · simp [get?, keys, hname]
    · simp only [get?, if_neg hname, ih, keys, List.map_cons, List.mem_cons, not_or]
      exact ⟨fun h => ⟨Ne.symm hname, h⟩, fun h => h.2⟩

theorem getSet?_congr {entries others : Fields} {key : String}
    (h : get? entries key = get? others key) : getSet? entries key = getSet? others key := by
  rw [getSet?, getSet?, h]

theorem mem_of_get? {entries : Fields} {key : String} {value : Json}
    (h : get? entries key = some value) : (key, value) ∈ entries := by
  induction entries with
  | nil => cases h
  | cons entry rest ih =>
    obtain ⟨name, first⟩ := entry
    rw [get?_cons] at h
    by_cases hname : name = key
    · rw [if_pos hname] at h
      cases h
      rw [hname]
      exact List.mem_cons_self
    · rw [if_neg hname] at h
      exact List.mem_cons_of_mem _ (ih h)

/-- Look-up after the value at one key has been changed wherever it stands. -/
theorem get?_map_at (entries : Fields) (name : String) (change : Json → Json) (key : String) :
    get? (entries.map fun entry => if entry.1 = name then (entry.1, change entry.2) else entry) key
      = if key = name then (get? entries key).map change else get? entries key := by
  induction entries with
  | nil => simp
  | cons entry rest ih =>
    obtain ⟨first, value⟩ := entry
    by_cases hname : first = name
    · subst hname
      by_cases hkey : first = key
      · simp [get?, hkey]
      · simp [get?, hkey, ih, Ne.symm hkey]
    · by_cases hkey : first = key
      · subst hkey
        simp [get?, hname]
      · simp [get?, hname, hkey, ih]

/-- A look-up passes over entries that keep to other keys. -/
theorem get?_append_of_keys {entries : Fields} {names : List String} {key : String}
    (h : (keys entries).Sublist names) (hkey : key ∉ names) (others : Fields) :
    get? (entries ++ others) key = get? others key := by
  rw [get?_append, get?_eq_none.mpr fun hmem => hkey (h.subset hmem), Option.none_or]

/-- Look-up among the entries that are kept by their key. -/
theorem get?_filter_keys (entries : Fields) (p : String → Bool) (key : String) :
    get? (entries.filter fun entry => p entry.1) key
      = if p key then get? entries key else none := by
  induction entries with
  | nil => simp
  | cons entry rest ih =>
    obtain ⟨name, value⟩ := entry
    by_cases hname : name = key
    · subst hname
      cases hp : p name <;> simp [hp, ih, get?_cons]
    · cases hp : p name <;> simp [hp, ih, get?_cons, hname]

/-! ## Insertions -/

theorem keys_insert (entries : Fields) (key : String) (value : Json) :
    keys (insert entries key value)
      = if key ∈ keys entries then keys entries else keys entries ++ [key] := by
  induction entries with
  | nil => rfl
  | cons entry rest ih =>
    obtain ⟨name, old⟩ := entry
    by_cases hname : name = key
    · simp [insert, keys, hname]
    · have hrest : keys (insert ((name, old) :: rest) key value)
          = name :: keys (insert rest key value) := by
        rw [insert, if_neg hname]
        rfl
      rw [hrest, ih]
      by_cases hmem : key ∈ keys rest <;> simp_all [keys, Ne.symm hname]

theorem distinct_insert {entries : Fields} (h : Distinct entries) (key : String)
    (value : Json) : Distinct (insert entries key value) := by
  rw [Distinct, keys_insert]
  split
  · exact h
  · next hmem =>
    have hnew : (key :: keys entries).Nodup := List.nodup_cons.mpr ⟨hmem, h⟩
    exact hnew.perm (List.perm_append_singleton key _).symm

theorem insertAll_append (entries others more : Fields) :
    insertAll entries (others ++ more) = insertAll (insertAll entries others) more :=
  List.foldl_append

/-- A key that is not among the new entries keeps its value. -/
theorem get?_insertAll_of_not_mem {entries others : Fields} {key : String}
    (h : key ∉ keys others) : get? (insertAll entries others) key = get? entries key := by
  induction others generalizing entries with
  | nil => rfl
  | cons entry others ih =>
    obtain ⟨name, value⟩ := entry
    have hname : name ≠ key := fun heq => h (by simp [keys, heq])
    have hrest : key ∉ keys others := fun hmem => h (List.mem_cons_of_mem name hmem)
    show get? (insertAll (insert entries name value) others) key = _
    rw [ih hrest, get?_insert, if_neg hname]

/-- A new entry is there afterwards, if no later one has its key. -/
theorem get?_insertAll_of_mem {entries others : Fields} (hdistinct : Distinct others)
    {key : String} {value : Json} (h : (key, value) ∈ others) :
    get? (insertAll entries others) key = some value := by
  induction others generalizing entries with
  | nil => cases h
  | cons entry others ih =>
    obtain ⟨hfirst, hrest⟩ := List.nodup_cons.mp hdistinct
    rcases List.mem_cons.mp h with rfl | h
    · show get? (insertAll (insert entries key value) others) key = _
      rw [get?_insertAll_of_not_mem hfirst, get?_insert, if_pos rfl]
    · exact ih hrest h

/-- **New entries hide the present ones** with their keys. -/
theorem get?_insertAll {others : Fields} (hdistinct : Distinct others) (entries : Fields)
    (key : String) :
    get? (insertAll entries others) key = (get? others key).or (get? entries key) := by
  induction others generalizing entries with
  | nil => rfl
  | cons entry others ih =>
    obtain ⟨name, value⟩ := entry
    obtain ⟨hfirst, hrest⟩ := List.nodup_cons.mp hdistinct
    show get? (insertAll (insert entries name value) others) key = _
    rw [ih hrest, get?_insert, get?_cons]
    by_cases hname : name = key
    · subst hname
      have hlater : get? others name = none := get?_eq_none.mpr hfirst
      simp [hlater]
    · simp [hname]

/-- Entries that are added where a key is missing come after the present ones. -/
theorem get?_insertAllNew (entries others : Fields) (key : String) :
    get? (insertAllNew entries others) key = (get? entries key).or (get? others key) := by
  induction others generalizing entries with
  | nil => exact (Option.or_none).symm
  | cons entry others ih =>
    obtain ⟨name, value⟩ := entry
    show get? (insertAllNew (insertNew entries name value) others) key = _
    rw [ih, get?_insertNew, get?_cons, Option.or_assoc]
    by_cases hname : name = key <;> simp [hname]

/-- They leave the present ones alone. -/
theorem get?_insertAllNew_of_some {entries : Fields} (others : Fields) {key : String}
    {value : Json} (h : get? entries key = some value) :
    get? (insertAllNew entries others) key = some value := by
  rw [get?_insertAllNew, h, Option.some_or]

/-- Look-up among the entries that some keys are given. -/
theorem get?_filterMap_keys (value? : String → Option Json) (names : List String)
    (key : String) :
    get? (names.filterMap fun name => (value? name).map fun value => (name, value)) key
      = if key ∈ names then value? key else none := by
  induction names with
  | nil => rfl
  | cons name names ih =>
    cases hvalue : value? name with
    | none =>
      rw [List.filterMap_cons_none (by rw [hvalue]; rfl), ih]
      by_cases hname : key = name
      · subst hname
        simp [hvalue]
      · simp [hname]
    | some value =>
      rw [List.filterMap_cons_some (by rw [hvalue]; rfl), get?_cons, ih]
      by_cases hname : name = key
      · subst hname
        simp [hvalue]
      · simp [hname, Ne.symm hname]

theorem keys_filterMap_keys (value? : String → Option Json) (names : List String) :
    (keys (names.filterMap fun name => (value? name).map fun value => (name, value))).Sublist
      names := by
  induction names with
  | nil => exact .slnil
  | cons name names ih =>
    cases hvalue : value? name with
    | none =>
      rw [List.filterMap_cons_none (by rw [hvalue]; rfl)]
      exact ih.cons name
    | some value =>
      rw [List.filterMap_cons_some (by rw [hvalue]; rfl)]
      exact ih.cons_cons name

/-! ## Order -/

/-- Look-up does not see the order of entries with different keys. -/
theorem get?_perm {entries others : Fields} (hperm : entries.Perm others)
    (hdistinct : Distinct entries) (key : String) : get? entries key = get? others key := by
  induction hperm with
  | nil => rfl
  | cons entry hperm ih =>
    obtain ⟨name, value⟩ := entry
    obtain ⟨_, hrest⟩ := List.nodup_cons.mp hdistinct
    rw [get?, get?, ih hrest]
  | swap first second rest =>
    -- only here it matters that no key occurs twice
    obtain ⟨name, value⟩ := first
    obtain ⟨other, value'⟩ := second
    have hne : other ≠ name := by
      rintro rfl
      exact (List.nodup_cons.mp hdistinct).1 (by simp)
    by_cases hname : name = key
    · subst hname
      simp [get?, hne]
    · simp [get?, hname]
  | trans hfirst _ ih ih' =>
    have hmiddle := (hfirst.map Prod.fst).nodup_iff.mp hdistinct
    rw [ih hdistinct, ih' hmiddle]

end Metasearch.Fields

/-! ## Reading under several names -/

namespace Metasearch.Alias

/-- The text under some names depends on what stands under them. -/
theorem firstText_congr {names : List String} {entries others : Fields}
    (h : ∀ key ∈ names, Fields.get? entries key = Fields.get? others key) :
    firstText names entries = firstText names others := by
  have hfirst := findSome?_congr fun key hkey =>
    congrArg (Option.bind · text?) (h key hkey)
  rw [firstText, hfirst, firstText]

/-- The wish for scores depends on what stands under the names for it. -/
theorem wantsScores_congr {entries others : Fields}
    (h : ∀ key ∈ scoreKeys, Fields.get? entries key = Fields.get? others key) :
    wantsScores entries = wantsScores others := by
  have hfirst : scoreKeys.findSome? (Fields.getSet? entries)
      = scoreKeys.findSome? (Fields.getSet? others) :=
    findSome?_congr fun key hkey => Fields.getSet?_congr (h key hkey)
  rw [wantsScores, hfirst, wantsScores]

end Metasearch.Alias
