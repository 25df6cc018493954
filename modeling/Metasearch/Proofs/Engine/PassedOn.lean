import Metasearch.Proofs.Engine.RawFilters

set_option autoImplicit false

/-! # Every key of a payload is accounted for

A key of a payload either has a meaning or is passed on. What is passed on is what the caller wrote
(`get?_extra_eq_some`): every key without a meaning, and a filter in the engine's words.

On the compiler's way it is put behind the body that the compiler has written, where it fills the
gaps and overwrites nothing (`Merges`). So nothing that a caller has written gets lost, and nothing
of it replaces what the compiler has made of the payload (`keys_are_accounted_for`).
-/

namespace Metasearch

/-! ## Filling the gaps -/

namespace Fields

variable {entries others : Fields}

theorem insertAllNew_cons (entries others : Fields) (entry : String × Json) :
    insertAllNew entries (entry :: others)
      = insertAllNew (insertNew entries entry.1 entry.2) others := rfl

/-- **New entries fill the gaps**: those whose keys are missing are appended as they are. -/
theorem insertAllNew_eq (h : Distinct others) (entries : Fields) :
    insertAllNew entries others
      = entries ++ others.filter fun entry => !contains entries entry.1 := by
  induction others generalizing entries with
  | nil => simp [insertAllNew]
  | cons entry others ih =>
    obtain ⟨name, value⟩ := entry
    obtain ⟨hfirst, hrest⟩ := List.nodup_cons.mp h
    rw [insertAllNew_cons, ih hrest]
    cases hcontains : contains entries name with
    | true => simp [insertNew, hcontains]
    | false =>
      -- the entry that was appended hides none of the others
      have hsame : others.filter (fun entry => !contains (entries ++ [(name, value)]) entry.1)
          = others.filter fun entry => !contains entries entry.1 := by
        refine List.filter_congr fun entry hmem => ?_
        have hne : name ≠ entry.1 := fun heq => hfirst (List.mem_map.mpr ⟨entry, hmem, heq.symm⟩)
        rw [contains, contains, get?_append, get?_cons, if_neg hne]
        simp [get?]
      simp [insertNew, hcontains, hsame]

end Fields

/-- A body holds what was written first, and behind it what is passed on under other keys. -/
structure Merges (compiled extra body : Fields) : Prop where
  parts : body = compiled ++ extra.filter fun entry => !Fields.contains compiled entry.1
  distinct : Fields.Distinct body
  /-- What was written is not overridden. -/
  written : ∀ key value, Fields.get? compiled key = some value →
    Fields.get? body key = some value
  /-- What is passed on is not lost. -/
  passed : ∀ key value, key ∉ Fields.keys compiled → Fields.get? extra key = some value →
    Fields.get? body key = some value
  nothingElse : ∀ key value, Fields.get? body key = some value →
    Fields.get? compiled key = some value
      ∨ key ∉ Fields.keys compiled ∧ Fields.get? extra key = some value

theorem merges_insertAllNew {compiled extra : Fields} (hcompiled : Fields.Distinct compiled)
    (hextra : Fields.Distinct extra) :
    Merges compiled extra (Fields.insertAllNew compiled extra) where
  parts := Fields.insertAllNew_eq hextra compiled
  distinct := Fields.distinct_insertAllNew hcompiled extra
  written _ _ h := Fields.get?_insertAllNew_of_some extra h
  passed key value hkey h := by
    rw [Fields.get?_insertAllNew, Fields.get?_eq_none.mpr hkey, Option.none_or, h]
  nothingElse key value h := by
    rw [Fields.get?_insertAllNew, Option.or_eq_some_iff, Fields.get?_eq_none] at h
    exact h

/-! ## What is passed on -/

/-- The keys of a payload that have a meaning. -/
def SearchPayload.knownKeys : List String :=
  Alias.indexKeys ++ Alias.queryKeys ++ Alias.scoreKeys ++ declarativeKeys

/-- **What is passed on is what the caller wrote** under a key without a meaning, or as a filter in
the engine's words. -/
theorem SearchPayload.get?_extra_eq_some {entries : Fields} (hdistinct : Fields.Distinct entries)
    {result : List Condition × Fields} (h : readFilters entries = .ok result) (key : String)
    (value : Json) :
    Fields.get? result.2 key = some value
      ↔ Fields.get? entries key = some value
        ∧ (key ∉ knownKeys ∨ key ∈ filterKeys ∧ ∃ text, value = .string text) := by
  have hknown : filterKeys ⊆ knownKeys := by decide
  rw [get?_extra hdistinct h, ← knownKeys]
  by_cases hfilter : key ∈ filterKeys
  · rw [if_pos hfilter]
    constructor
    · intro hraw
      obtain ⟨text, htext, rfl⟩ := eq_string_of_rawFilter? hraw
      exact ⟨htext, .inr ⟨hfilter, text, rfl⟩⟩
    · rintro ⟨hvalue, hother | ⟨_, text, rfl⟩⟩
      · exact absurd (hknown hfilter) hother
      · rw [rawFilter?, hvalue]
  · by_cases hkey : key ∈ knownKeys <;> simp [hfilter, hkey]

/-! ## What is sent -/

/-- **Every key of a payload is accounted for.** What is passed on is exactly what the caller wrote
under the keys without a meaning, and the filters in the engine's words. On the compiler's way what
is sent is exactly the body that the compiler has written, and behind it what is passed on under
other keys. -/
theorem keys_are_accounted_for (searcher : Searcher) (schema? : Option Schema)
    (transport : Transport) (sent : Nat) {entries : Fields} (hdistinct : Fields.Distinct entries)
    {payload : SearchPayload} (hread : SearchPayload.ofEntries entries = .ok payload) :
    let calls := (searcher.searchFromJson schema? transport sent (.object entries)).calls
    Fields.Distinct payload.extra
    ∧ (∀ key value, Fields.get? payload.extra key = some value
      ↔ Fields.get? entries key = some value
        ∧ (key ∉ SearchPayload.knownKeys
          ∨ key ∈ SearchPayload.filterKeys ∧ ∃ text, value = .string text))
    ∧ (¬ LeadsAround searcher.engine entries →
      (∀ compiled, CompilesTo searcher.engine schema? payload compiled →
        ∃ body, calls = [callFor searcher.engine payload.index body]
          ∧ Merges compiled payload.extra body)
      ∧ ∀ call ∈ calls, ∃ compiled, CompilesTo searcher.engine schema? payload compiled) := by
  intro calls
  obtain ⟨hfilters, _, _⟩ := ofEntries_eq_ok hread
  have hextra : Fields.Distinct payload.extra := SearchPayload.distinct_extra hdistinct hfilters
  refine ⟨hextra, SearchPayload.get?_extra_eq_some hdistinct hfilters, fun hdirect => ⟨?_, ?_⟩⟩
  · intro compiled hcompiles
    have ⟨_, _, _, hcompiled⟩ := hcompiles
    exact ⟨_, calls_of_compilesTo hdistinct hread hdirect hcompiles,
      merges_insertAllNew (distinct_compiledBody hcompiled) hextra⟩
  · intro call hcall
    exact compilesTo_of_call hdistinct hread hdirect hcall

/-! ### A payload with words of its own -/

/-- A payload for Meilisearch that asks for highlights in two ways, and for a strategy that only
the engine knows. -/
def pickyPayload : Fields :=
  [("index", .string "books"), ("filters", .array novels),
    ("highlight", .object [("fields", .ofStrings ["title"])]),
    ("attributesToHighlight", .ofStrings ["author"]), ("matchingStrategy", .string "all")]

/-- The strategy is passed on, and of the two ways the one with a meaning counts. -/
theorem strategy_is_passed_on :
    Fields.Distinct pickyPayload ∧ ¬ LeadsAround .meilisearch pickyPayload
      ∧ ∃ payload, SearchPayload.ofEntries pickyPayload = .ok payload
        ∧ Fields.get? payload.extra "attributesToHighlight" = some (.ofStrings ["author"])
        ∧ ∃ body, bookCalls .meilisearch pickyPayload = [callFor .meilisearch "books" body]
          ∧ Fields.get? body "attributesToHighlight" = some (.ofStrings ["title"])
          ∧ Fields.get? body "matchingStrategy" = some (.string "all") := by
  have hdistinct : Fields.Distinct pickyPayload := by decide
  have hdirect : ¬ LeadsAround .meilisearch pickyPayload := by
    rintro (⟨key, hkey, hvalue⟩ | ⟨key, hkey, text, htext⟩ | ⟨_, hvector⟩)
    · obtain rfl := List.mem_singleton.mp hkey
      cases hvalue
    · obtain rfl := List.mem_singleton.mp hkey
      cases htext
    · cases hvector
  obtain ⟨_, hextra, hroute⟩ := keys_are_accounted_for (searcherOf .meilisearch) (some bookshelf)
    (fun _ _ => ⟨0, .ok .null⟩) 0 hdistinct rfl
  obtain ⟨body, hcalls, hmerges⟩ := (hroute hdirect).1 _ ⟨by decide, _, rfl, rfl⟩
  refine ⟨hdistinct, hdirect, _, rfl, ?_, body, hcalls, ?_, ?_⟩
  · exact (hextra _ _).mpr ⟨rfl, .inl (by decide)⟩
  · exact hmerges.written _ _ rfl
  · exact hmerges.passed _ _ (by decide) ((hextra _ _).mpr ⟨rfl, .inl (by decide)⟩)

end Metasearch
