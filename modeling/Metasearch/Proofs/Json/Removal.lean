import Mathlib.Data.List.Nodup
import Metasearch.Proofs.Json.Fields

set_option autoImplicit false

/-! # Keys taken out of objects

To take a key out, its entry is removed and the last entry moves into the hole (`erase_eq`), so
the order of an object changes with every removal, and an entry that is moved may be the next to
go. What is left does not depend on any of this: where no key occurs twice, a removal leaves the
entries with other keys (`erase_perm_without`), and a run of removals those whose keys are not
listed (`eraseAll_perm`), however often and in which order the list has them.

Callers' names are taken out this way before an object is passed on. What they resolve to is then
gone, and what other names resolve to is the same as before (`names_are_taken_out`).
-/

namespace Metasearch

/-! ## Filling the hole -/

/-- A list with its last item at the front. -/
def lastFirst {α : Type} (items : List α) : List α := items.getLast?.toList ++ items.dropLast

section LastFirst

variable {α : Type}

theorem lastFirst_concat (items : List α) (last : α) :
    lastFirst (items ++ [last]) = last :: items := by
  rw [lastFirst, List.getLast?_concat, List.dropLast_concat]
  rfl

theorem lastFirst_perm (items : List α) : (lastFirst items).Perm items := by
  rcases List.eq_nil_or_concat items with rfl | ⟨before, last, rfl⟩
  · exact .nil
  · rw [List.concat_eq_append, lastFirst_concat]
    exact (List.perm_append_singleton last before).symm

/-- Two different items cannot stay in order. -/
theorem lastFirst_eq_iff {items : List α} (h : items.Nodup) :
    lastFirst items = items ↔ items.length ≤ 1 := by
  rcases List.eq_nil_or_concat items with rfl | ⟨before, last, rfl⟩
  · simp [lastFirst]
  · rw [List.concat_eq_append] at h ⊢
    rw [lastFirst_concat]
    cases before with
    | nil => simp
    | cons first before =>
      have hne : last ≠ first := by
        rintro rfl
        exact (List.nodup_cons.mp h).1 (by simp)
      simp [hne]

end LastFirst

namespace Fields

/-- The entries in front of a key, all of them if the key is missing. -/
def before (entries : Fields) (key : String) : Fields :=
  entries.takeWhile fun entry => entry.1 ≠ key

/-- The entries behind a key, none if the key is missing. -/
def behind (entries : Fields) (key : String) : Fields :=
  (entries.dropWhile fun entry => entry.1 ≠ key).drop 1

/-- The entries with other keys, in their order. -/
def without (entries : Fields) (key : String) : Fields :=
  entries.filter fun entry => entry.1 ≠ key

variable {entries : Fields} {key : String}

theorem before_cons_self (value : Json) (rest : Fields) :
    before ((key, value) :: rest) key = [] := by
  simp [before]

theorem behind_cons_self (value : Json) (rest : Fields) :
    behind ((key, value) :: rest) key = rest := by
  simp [behind]

theorem before_cons_of_ne {name : String} (h : name ≠ key) (value : Json) (rest : Fields) :
    before ((name, value) :: rest) key = (name, value) :: before rest key := by
  simp [before, h]

theorem behind_cons_of_ne {name : String} (h : name ≠ key) (value : Json) (rest : Fields) :
    behind ((name, value) :: rest) key = behind rest key := by
  simp [behind, h]

/-- **Removal leaves the entries in front of a key alone** and moves the last of those behind it
into the hole. -/
theorem erase_eq (entries : Fields) (key : String) :
    erase entries key = before entries key ++ lastFirst (behind entries key) := by
  induction entries with
  | nil => rfl
  | cons entry rest ih =>
    obtain ⟨name, value⟩ := entry
    by_cases hname : name = key
    · subst hname
      rw [erase, if_pos rfl, before_cons_self, behind_cons_self, lastFirst]
      cases hlast : rest.getLast? with
      | none => simp [List.getLast?_eq_none_iff.mp hlast]
      | some last => rfl
    · rw [erase, if_neg hname, ih, before_cons_of_ne hname, behind_cons_of_ne hname,
        List.cons_append]

/-- Taken out in order, a key leaves the entries on its two sides. -/
theorem without_eq (h : Distinct entries) (key : String) :
    without entries key = before entries key ++ behind entries key := by
  induction entries with
  | nil => rfl
  | cons entry rest ih =>
    obtain ⟨name, value⟩ := entry
    obtain ⟨hfirst, hrest⟩ := List.nodup_cons.mp h
    by_cases hname : name = key
    · subst hname
      have hothers : ∀ entry ∈ rest, entry.1 ≠ name := fun entry hmem heq =>
        hfirst (List.mem_map.mpr ⟨entry, hmem, heq⟩)
      calc without ((name, value) :: rest) name
          = rest.filter fun entry => entry.1 ≠ name := by simp [without]
        _ = rest := List.filter_eq_self.mpr fun entry hmem => decide_eq_true (hothers entry hmem)
        _ = before ((name, value) :: rest) name ++ behind ((name, value) :: rest) name := by
          rw [before_cons_self, behind_cons_self, List.nil_append]
    · rw [before_cons_of_ne hname, behind_cons_of_ne hname, List.cons_append, ← ih hrest]
      simp [without, hname]

theorem erase_perm_without (h : Distinct entries) (key : String) :
    (erase entries key).Perm (without entries key) := by
  rw [erase_eq, without_eq h]
  exact (lastFirst_perm (behind entries key)).append_left (before entries key)

/-- **Removal keeps the order exactly if at most one entry stands behind the key.** -/
theorem erase_eq_without_iff (h : Distinct entries) (key : String) :
    erase entries key = without entries key ↔ (behind entries key).length ≤ 1 := by
  have hnodup : (behind entries key).Nodup :=
    ((List.drop_sublist 1 _).trans (List.dropWhile_sublist _)).nodup (List.Nodup.of_map Prod.fst h)
  rw [erase_eq, without_eq h, List.append_cancel_left_eq, lastFirst_eq_iff hnodup]

/-! ## One key -/

theorem distinct_erase (h : Distinct entries) (key : String) : Distinct (erase entries key) := by
  have hsub : (keys (without entries key)).Sublist (keys entries) :=
    (List.filter_sublist).map Prod.fst
  exact ((erase_perm_without h key).map Prod.fst).nodup_iff.mpr (h.sublist hsub)

theorem get?_erase (h : Distinct entries) (key other : String) :
    get? (erase entries key) other = if key = other then none else get? entries other := by
  rw [get?_perm (erase_perm_without h key) (distinct_erase h key), without,
    get?_filter_keys entries (· ≠ key)]
  by_cases hother : key = other
  · simp [hother]
  · simp [hother, Ne.symm hother]

/-! ## Several keys -/

theorem distinct_eraseAll (h : Distinct entries) (names : List String) :
    Distinct (eraseAll entries names) := by
  induction names generalizing entries with
  | nil => exact h
  | cons name names ih => exact ih (distinct_erase h name)

/-- **A run of removals** leaves the entries whose keys are not listed, in some order. -/
theorem eraseAll_perm (h : Distinct entries) (names : List String) :
    (eraseAll entries names).Perm (entries.filter fun entry => entry.1 ∉ names) := by
  induction names generalizing entries with
  | nil =>
    have hall : entries.filter (fun entry => entry.1 ∉ ([] : List String)) = entries := by simp
    rw [hall]
    exact .refl entries
  | cons name names ih =>
    -- what one removal leaves is thinned out further by the others
    have hrest : (without entries name).filter (fun entry => entry.1 ∉ names)
        = entries.filter fun entry => entry.1 ∉ name :: names := by
      rw [without, List.filter_filter]
      refine List.filter_congr fun entry _ => ?_
      simp [Bool.and_comm]
    rw [← hrest]
    exact (ih (distinct_erase h name)).trans ((erase_perm_without h name).filter _)

theorem mem_eraseAll (h : Distinct entries) (names : List String) (entry : String × Json) :
    entry ∈ eraseAll entries names ↔ entry ∈ entries ∧ entry.1 ∉ names := by
  rw [(eraseAll_perm h names).mem_iff, List.mem_filter, decide_eq_true_iff]

/-- **Removing several keys** hides them and nothing else. -/
theorem get?_eraseAll (h : Distinct entries) (names : List String) (other : String) :
    get? (eraseAll entries names) other = if other ∈ names then none else get? entries other := by
  rw [get?_perm (eraseAll_perm h names) (distinct_eraseAll h names),
    get?_filter_keys entries (· ∉ names)]
  by_cases hother : other ∈ names <;> simp [hother]

/-- Two runs of removals are one run. -/
theorem eraseAll_append (entries : Fields) (names others : List String) :
    eraseAll (eraseAll entries names) others = eraseAll entries (names ++ others) :=
  List.foldl_append.symm

/-- Lists of keys that are taken out one after the other are one list. -/
theorem foldl_eraseAll (entries : Fields) (lists : List (List String)) :
    lists.foldl eraseAll entries = eraseAll entries lists.flatten :=
  List.foldl_flatten.symm

/-- The last of several removals fills the hole that it makes itself. -/
theorem eraseAll_concat (entries : Fields) (names : List String) (key : String) :
    eraseAll entries (names ++ [key]) = before (eraseAll entries names) key
      ++ lastFirst (behind (eraseAll entries names) key) := by
  rw [eraseAll, List.foldl_concat]
  exact erase_eq (eraseAll entries names) key

end Fields

/-! ## Names that are taken out -/

namespace Alias

variable {entries : Fields}

/-- Where nothing stands under some names, they give no text. -/
theorem firstText_eq_empty {group : List String}
    (h : ∀ key ∈ group, Fields.get? entries key = none) : firstText group entries = "" := by
  have hempty : firstText group entries = firstText group [] := firstText_congr h
  have hnone : group.findSome? (fun key => (Fields.get? [] key).bind text?) = none :=
    List.findSome?_eq_none_iff.mpr fun _ _ => rfl
  rw [hempty, firstText, hnone, Option.getD_none]

theorem wantsScores_eq_false (h : ∀ key ∈ scoreKeys, Fields.get? entries key = none) :
    wantsScores entries = false := by
  have hempty : wantsScores entries = wantsScores [] := wantsScores_congr h
  rw [hempty]
  rfl

end Alias

/-- What an object is, once `names` have been taken out of it. -/
structure Stripped (names : List String) (entries rest : Fields) : Prop where
  distinct : rest.Distinct
  /-- No entry is left that has one of the names, and no other is lost or changed. -/
  mem_iff : ∀ entry, entry ∈ rest ↔ entry ∈ entries ∧ entry.1 ∉ names
  /-- Names that have been taken out say nothing any more. -/
  silent : ∀ group ⊆ names, Alias.firstText group rest = ""
  unasked : Alias.scoreKeys ⊆ names → Alias.wantsScores rest = false
  /-- Names none of which has been taken out say what they said before. -/
  heard : ∀ group, (∀ key ∈ group, key ∉ names) →
    Alias.firstText group rest = Alias.firstText group entries
  asked : (∀ key ∈ Alias.scoreKeys, key ∉ names) →
    Alias.wantsScores rest = Alias.wantsScores entries

theorem stripped_eraseAll {entries : Fields} (h : entries.Distinct) (names : List String) :
    Stripped names entries (entries.eraseAll names) where
  distinct := Fields.distinct_eraseAll h names
  mem_iff := Fields.mem_eraseAll h names
  silent := fun group hgroup => Alias.firstText_eq_empty fun key hkey => by
    rw [Fields.get?_eraseAll h, if_pos (hgroup hkey)]
  unasked := fun hscores => Alias.wantsScores_eq_false fun key hkey => by
    rw [Fields.get?_eraseAll h, if_pos (hscores hkey)]
  heard := fun group hgroup => Alias.firstText_congr fun key hkey => by
    rw [Fields.get?_eraseAll h, if_neg (hgroup key hkey)]
  asked := fun hscores => Alias.wantsScores_congr fun key hkey => by
    rw [Fields.get?_eraseAll h, if_neg (hscores key hkey)]

/-- **Taking names out takes out what stands under them, and nothing else.** Every removal moves
the last entry into the hole that it makes, and yet the entries with other keys are left, each
once and with its value. So it is for any list of names, and for lists one after the other. -/
theorem names_are_taken_out {entries : Fields} (h : entries.Distinct) :
    (∀ names key, entries.eraseAll (names ++ [key])
      = (entries.eraseAll names).before key ++ lastFirst ((entries.eraseAll names).behind key))
    ∧ (∀ names, Stripped names entries (entries.eraseAll names))
    ∧ ∀ lists : List (List String),
      Stripped lists.flatten entries (lists.foldl Fields.eraseAll entries) := by
  refine ⟨Fields.eraseAll_concat entries, stripped_eraseAll h, fun lists => ?_⟩
  rw [Fields.foldl_eraseAll]
  exact stripped_eraseAll h lists.flatten

/-! ### An index under two names -/

/-- A search whose last entry moves into the hole of the first, and is to be removed itself. -/
def namedTwice : Fields :=
  [("indexUid", .string "books"), ("limit", .ofNat 5), ("q", .string "sea"),
    ("getRankingInfo", .bool true), ("index", .string "films")]

/-- The names of the index, one of them twice and one that is missing. -/
def namesOfIndex : List String := ["indexUid", "index", "indexName", "indexUid"]

/-- The index is gone under both names. The text and the wish for scores are as they were, though
the latter comes first now. -/
theorem index_is_taken_out :
    namedTwice.Distinct
      ∧ namedTwice.eraseAll ["indexUid"] = [("index", .string "films"), ("limit", .ofNat 5),
        ("q", .string "sea"), ("getRankingInfo", .bool true)]
      ∧ namedTwice.eraseAll namesOfIndex
        = [("getRankingInfo", .bool true), ("limit", .ofNat 5), ("q", .string "sea")]
      ∧ Alias.indexOf namedTwice = "films" ∧ Alias.indexOf (namedTwice.eraseAll namesOfIndex) = ""
      ∧ Alias.queryOf (namedTwice.eraseAll namesOfIndex) = "sea"
      ∧ Alias.wantsScores (namedTwice.eraseAll namesOfIndex) = true := by
  have hdistinct : namedTwice.Distinct := by decide
  obtain ⟨_, hstripped, _⟩ := names_are_taken_out hdistinct
  have hnames := hstripped namesOfIndex
  exact ⟨hdistinct, rfl, rfl, rfl, hnames.silent Alias.indexKeys (by decide),
    (hnames.heard Alias.queryKeys (by decide)).trans rfl, (hnames.asked (by decide)).trans rfl⟩

end Metasearch
