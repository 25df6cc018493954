import Metasearch.Payload.Basic
import Metasearch.Proofs.Condition.Reading
import Metasearch.Proofs.Json.Removal
import Metasearch.Proofs.Stepwise

set_option autoImplicit false

/-! # The filters of a payload

A payload may give filters under two keys, and each of them in two forms. What `ofEntries`
makes of them is said here in terms of the payload itself: which list of conditions counts
(`filters_of_declares`), and which keys are passed on beside it (`get?_extra`).
-/

namespace Metasearch

open List (Forall₂)

/-- A list of conditions has as many as the list that was read. -/
theorem Condition.length_of_parseList {items : List Json} {conditions : List Condition}
    (h : Condition.parseList (.array items) = .ok conditions) :
    conditions.length = items.length := by
  have hall : Condition.allOf false items = .ok conditions := by
    simpa [Condition.parseList, Condition.listOf] using h
  exact (Condition.allOf_eq_ok.mp hall).length_eq.symm

namespace SearchPayload

/-! ## One key after the other -/

/-- The filter in the engine's words under a key, if there is one. -/
def rawFilter? (entries : Fields) (key : String) : Option Json :=
  match Fields.get? entries key with
  | some (.string text) => some (.string text)
  | _ => none

theorem readFilters_eq_ok {entries : Fields} {result : List Condition × Fields} :
    readFilters entries = .ok result ↔
      ∃ middle, readFilter entries ([], passthrough entries) "filters" = .ok middle
        ∧ readFilter entries middle "filter" = .ok result := by
  simp only [readFilters, filterKeys, List.foldlM_cons, List.foldlM_nil, bind_eq_ok, pure_eq_ok,
    exists_eq_right]

/-- There is no list of conditions under a key, but nothing or a text. -/
def Listless (entries : Fields) (key : String) : Prop :=
  Fields.get? entries key = none ∨ Fields.get? entries key = some .null
    ∨ ∃ text, Fields.get? entries key = some (.string text)

/-- The same stands under a key, or both times no list of conditions. -/
def DeclaredAlike (entries others : Fields) (key : String) : Prop :=
  Fields.get? entries key = Fields.get? others key ∨ Listless entries key ∧ Listless others key

/-- A key without a list leaves the conditions as they are. -/
theorem readFilter_of_listless {entries : Fields} {key : String} (h : Listless entries key)
    (before : List Condition × Fields) :
    (readFilter entries before key).map Prod.fst = .ok before.1 := by
  unfold readFilter
  rcases h with hvalue | hvalue | ⟨text, hvalue⟩ <;> rw [hvalue] <;> rfl

theorem readFilter_congr {entries others : Fields} {key : String}
    (hkey : DeclaredAlike entries others key)
    {before before' : List Condition × Fields} (hbefore : before.1 = before'.1) :
    (readFilter entries before key).map Prod.fst
      = (readFilter others before' key).map Prod.fst := by
  rcases hkey with hsame | ⟨hlistless, hlistless'⟩
  · unfold readFilter
    rw [hsame, hbefore]
    split
    · exact congrArg Except.ok hbefore
    · exact congrArg Except.ok hbefore
    · rfl
    · next items _ =>
      split
      · cases Condition.parseList (.array items) <;> rfl
      · exact congrArg Except.ok hbefore
    · rfl
  · rw [readFilter_of_listless hlistless, readFilter_of_listless hlistless', hbefore]

/-- The lists under the filter keys decide which conditions are read, and whether they can be. -/
theorem readFilters_congr {entries others : Fields}
    (h : ∀ key ∈ filterKeys, DeclaredAlike entries others key) :
    (readFilters entries).map Prod.fst = (readFilters others).map Prod.fst := by
  simp only [readFilters, filterKeys, List.foldlM_cons, List.foldlM_nil, bind_pure]
  exact map_bind_congr (readFilter_congr (h "filters" (by decide)) rfl)
    fun _ _ hmiddle => readFilter_congr (h "filter" (by decide)) hmiddle

/-- With the same lists under the filter keys, reading fails with one mistake or gives the same
conditions. -/
theorem readFilters_agree {entries others : Fields}
    (h : ∀ key ∈ filterKeys, DeclaredAlike entries others key) :
    (∃ mistake, readFilters entries = .error mistake ∧ readFilters others = .error mistake)
      ∨ ∃ conditions extra extra', readFilters entries = .ok (conditions, extra)
        ∧ readFilters others = .ok (conditions, extra') := by
  have hconditions := readFilters_congr h
  cases hread : readFilters entries with
  | error mistake =>
    cases hread' : readFilters others with
    | error mistake' =>
      rw [hread, hread'] at hconditions
      cases hconditions
      exact .inl ⟨mistake, rfl, rfl⟩
    | ok result' =>
      rw [hread, hread'] at hconditions
      cases hconditions
  | ok result =>
    cases hread' : readFilters others with
    | error mistake' =>
      rw [hread, hread'] at hconditions
      cases hconditions
    | ok result' =>
      obtain ⟨conditions, extra⟩ := result
      obtain ⟨conditions', extra'⟩ := result'
      rw [hread, hread'] at hconditions
      obtain rfl : conditions = conditions' := Except.ok.inj hconditions
      exact .inr ⟨conditions, extra, extra', rfl, rfl⟩

/-- **Payloads that differ in what is passed on only**: where the same stands under all other keys,
and the same lists under the filter keys, reading fails alike or gives the same but for what is
passed on. -/
theorem ofEntries_agree {entries others : Fields}
    (hfilters : ∀ key ∈ filterKeys, DeclaredAlike entries others key)
    (hsame : ∀ key, key ∉ filterKeys → Fields.get? entries key = Fields.get? others key) :
    (∃ failure, ofEntries entries = .error failure ∧ ofEntries others = .error failure)
      ∨ ∃ payload extra, ofEntries entries = .ok payload
        ∧ ofEntries others = .ok { payload with extra := extra }
        ∧ readFilters entries = .ok (payload.filters, payload.extra)
        ∧ readFilters others = .ok (payload.filters, extra) := by
  have hindexKeys : ∀ key ∈ Alias.indexKeys, key ∉ filterKeys := by decide
  have hqueryKeys : ∀ key ∈ Alias.queryKeys, key ∉ filterKeys := by decide
  have hscoreKeys : ∀ key ∈ Alias.scoreKeys, key ∉ filterKeys := by decide
  have hindex : Alias.indexOf entries = Alias.indexOf others :=
    Alias.firstText_congr fun key hkey => hsame key (hindexKeys key hkey)
  have hquery : Alias.queryOf entries = Alias.queryOf others :=
    Alias.firstText_congr fun key hkey => hsame key (hqueryKeys key hkey)
  have hscores : Alias.wantsScores entries = Alias.wantsScores others :=
    Alias.wantsScores_congr fun key hkey => hsame key (hscoreKeys key hkey)
  rcases readFilters_agree hfilters with
    ⟨mistake, hread, hread'⟩ | ⟨conditions, extra, extra', hread, hread'⟩
  · exact .inl ⟨.invalidFilter mistake, by rw [ofEntries, hread], by rw [ofEntries, hread']⟩
  · refine .inr ⟨_, extra', by rw [ofEntries, hread], ?_, hread, hread'⟩
    rw [ofEntries, hread']
    simp only [hindex, hquery, hscores, hsame "sort" (by decide), hsame "limit" (by decide),
      hsame "offset" (by decide), hsame "highlight" (by decide), hsame "distinct" (by decide),
      hsame "facets" (by decide), hsame "vector" (by decide)]

/-- What reading one key does. -/
structure KeyRead (entries : Fields) (key : String) (before after : List Condition × Fields) :
    Prop where
  /-- A list of conditions is read if none was read before. -/
  reads : ∀ items, Fields.get? entries key = some (.array items) → before.1 = [] →
    Condition.parseList (.array items) = .ok after.1
  /-- Otherwise the conditions stay as they were. -/
  keeps : before.1 ≠ [] ∨ (∀ items, Fields.get? entries key ≠ some (.array items)) →
    after.1 = before.1
  /-- A text is passed on. -/
  passes : ∀ other, Fields.get? after.2 other
    = if key = other then (rawFilter? entries key).or (Fields.get? before.2 other)
      else Fields.get? before.2 other

theorem keyRead_of_array {entries : Fields} {key : String} {items : List Json}
    (hvalue : Fields.get? entries key = some (.array items))
    {before after : List Condition × Fields} (h : readFilter entries before key = .ok after) :
    KeyRead entries key before after := by
  unfold readFilter at h
  rw [hvalue] at h
  have hpasses : after.2 = before.2 → ∀ other, Fields.get? after.2 other
      = if key = other then (rawFilter? entries key).or (Fields.get? before.2 other)
        else Fields.get? before.2 other := by
    intro hsame other
    rw [hsame, rawFilter?, hvalue, Option.none_or, ite_self]
  cases hbefore : before.1 with
  | nil =>
    simp only [hbefore, List.isEmpty_nil, ↓reduceIte] at h
    cases hparse : Condition.parseList (.array items) with
    | error mistake =>
      rw [hparse] at h
      cases h
    | ok conditions =>
      rw [hparse] at h
      cases h
      refine ⟨fun others hothers _ => ?_, fun hkeeps => ?_, hpasses rfl⟩
      · rw [hvalue] at hothers
        cases hothers
        exact hparse
      · rcases hkeeps with hne | harray
        · exact absurd hbefore hne
        · exact absurd hvalue (harray items)
  | cons c conditions =>
    simp only [hbefore, List.isEmpty_cons, Bool.false_eq_true, ↓reduceIte] at h
    cases h
    refine ⟨fun _ _ hnil => ?_, fun _ => rfl, hpasses rfl⟩
    rw [hbefore] at hnil
    cases hnil

theorem keyRead {entries : Fields} {key : String} {before after : List Condition × Fields}
    (h : readFilter entries before key = .ok after) : KeyRead entries key before after := by
  cases hvalue : Fields.get? entries key with
  | none =>
    unfold readFilter at h
    rw [hvalue] at h
    cases h
    exact ⟨by simp [hvalue], fun _ => rfl, by simp [rawFilter?, hvalue]⟩
  | some value =>
    cases value with
    | array items => exact keyRead_of_array hvalue h
    | null =>
      unfold readFilter at h
      rw [hvalue] at h
      cases h
      exact ⟨by simp [hvalue], fun _ => rfl, by simp [rawFilter?, hvalue]⟩
    | string text =>
      unfold readFilter at h
      rw [hvalue] at h
      cases h
      refine ⟨by simp [hvalue], fun _ => rfl, fun other => ?_⟩
      -- the only value that changes what is passed on
      show Fields.get? (Fields.insert before.2 key (.string text)) other = _
      rw [Fields.get?_insert, rawFilter?, hvalue]
      rfl
    | _ =>
      unfold readFilter at h
      rw [hvalue] at h
      cases h

/-- The keys with a meaning of their own are removed one after the other. -/
theorem passthrough_eq (entries : Fields) :
    passthrough entries = Fields.eraseAll entries
      (Alias.indexKeys ++ Alias.queryKeys ++ Alias.scoreKeys ++ declarativeKeys) := by
  simp only [passthrough, Fields.eraseAll_append]

/-- **What is passed on under a key**: under the filter keys a filter in the engine's words, and
elsewhere what has no meaning of its own. -/
theorem get?_extra {entries : Fields} (hdistinct : Fields.Distinct entries)
    {result : List Condition × Fields} (h : readFilters entries = .ok result) (key : String) :
    Fields.get? result.2 key
      = if key ∈ filterKeys then rawFilter? entries key
        else if key ∈ Alias.indexKeys ++ Alias.queryKeys ++ Alias.scoreKeys ++ declarativeKeys then
          none
        else Fields.get? entries key := by
  have hpassthrough : Fields.get? (passthrough entries) key
      = if key ∈ Alias.indexKeys ++ Alias.queryKeys ++ Alias.scoreKeys ++ declarativeKeys then none
        else Fields.get? entries key := by
    rw [passthrough_eq, Fields.get?_eraseAll hdistinct]
  obtain ⟨middle, hfirst, hsecond⟩ := readFilters_eq_ok.mp h
  rw [(keyRead hsecond).passes, (keyRead hfirst).passes, hpassthrough]
  by_cases hfilter : "filter" = key
  · subst hfilter
    simp [filterKeys, declarativeKeys]
  · by_cases hfilters : "filters" = key
    · subst hfilters
      simp [filterKeys, declarativeKeys]
    · have hmem : key ∉ filterKeys := by
        simp [filterKeys, Ne.symm hfilter, Ne.symm hfilters]
      rw [if_neg hfilter, if_neg hfilters, if_neg hmem]

theorem distinct_readFilter {entries extra : Fields} {key : String} {conditions : List Condition}
    (hextra : Fields.Distinct extra) {after : List Condition × Fields}
    (h : readFilter entries (conditions, extra) key = .ok after) : Fields.Distinct after.2 := by
  unfold readFilter at h
  split at h
  · cases h
    exact hextra
  · cases h
    exact hextra
  · cases h
    exact Fields.distinct_insert hextra _ _
  · next items _ =>
    split at h
    · obtain ⟨read, _, rfl⟩ := map_eq_ok.mp h
      exact hextra
    · cases h
      exact hextra
  · cases h

/-- No key is passed on twice. -/
theorem distinct_extra {entries : Fields} (hdistinct : Fields.Distinct entries)
    {result : List Condition × Fields} (h : readFilters entries = .ok result) :
    Fields.Distinct result.2 := by
  obtain ⟨⟨conditions, extra⟩, hfirst, hsecond⟩ := readFilters_eq_ok.mp h
  have hpassthrough : Fields.Distinct (passthrough entries) := by
    rw [passthrough_eq]
    exact Fields.distinct_eraseAll hdistinct _
  exact distinct_readFilter (distinct_readFilter hpassthrough hfirst) hsecond

/-! ## The list that counts -/

/-- A payload declares the conditions `items`: they stand under `filters`, or under `filter` if
there is no other list under `filters`. -/
def Declares (entries : Fields) (items : List Json) : Prop :=
  items ≠ [] ∧
    (Fields.get? entries "filters" = some (.array items)
      ∨ (Fields.get? entries "filters" = none
          ∨ Fields.get? entries "filters" = some .null
          ∨ Fields.get? entries "filters" = some (.array [])
          ∨ ∃ text, Fields.get? entries "filters" = some (.string text))
        ∧ Fields.get? entries "filter" = some (.array items))

/-- **The declared list is the one that is read.** -/
theorem filters_of_declares {entries : Fields} {items : List Json} (h : Declares entries items)
    {result : List Condition × Fields} (hread : readFilters entries = .ok result) :
    Condition.parseList (.array items) = .ok result.1 := by
  obtain ⟨middle, hfirst, hsecond⟩ := readFilters_eq_ok.mp hread
  obtain ⟨hne, hfilters | ⟨hfilters, hfilter⟩⟩ := h
  · have hparse := (keyRead hfirst).reads items hfilters rfl
    -- the list is not empty, so nothing under the second key replaces it
    have hmiddle : middle.1 ≠ [] := by
      intro hnil
      have hlength := Condition.length_of_parseList hparse
      rw [hnil] at hlength
      exact hne (List.length_eq_zero_iff.mp hlength.symm)
    rw [(keyRead hsecond).keeps (Or.inl hmiddle)]
    exact hparse
  · -- no conditions come from the first key, in each of the four cases
    have hmiddle : middle.1 = [] := by
      rcases hfilters with hnone | hnull | hempty | ⟨text, htext⟩
      · exact (keyRead hfirst).keeps (Or.inr (by simp [hnone]))
      · exact (keyRead hfirst).keeps (Or.inr (by simp [hnull]))
      · have hparse := (keyRead hfirst).reads [] hempty rfl
        exact List.length_eq_zero_iff.mp (Condition.length_of_parseList hparse)
      · exact (keyRead hfirst).keeps (Or.inr (by simp [htext]))
    exact (keyRead hsecond).reads items hfilter hmiddle

end SearchPayload

end Metasearch
