import Metasearch.Engine.Algolia
import Metasearch.Engine.Meilisearch
import Metasearch.Proofs.Federation.Expansion

set_option autoImplicit false

/-! # The queries of a search over several indexes

Each entry that names an index becomes one query of a single request, with the shared defaults
of the federation options. The engines' requests are put together differently: Meilisearch gets
the keys of a list (`forwardedKeys`), Algolia the entry itself with some of its keys renamed.
The lemmas here say what such a request holds under a key, so that nothing later has to open
the way it was made.
-/

namespace Metasearch

namespace Meilisearch

/-- **Look-up among forwarded keys**: what is not forwarded is not there. -/
theorem get?_forwarded (entries : Fields) (key : String) :
    Fields.get? (forwarded entries) key
      = if key ∈ forwardedKeys then Fields.getSet? entries key else none :=
  Fields.get?_filterMap_keys (Fields.getSet? entries) forwardedKeys key

/-- The body of the query that an entry becomes. -/
def bodyOf (federation : FederationSpec) (query : String) (entry : Fields) : Fields :=
  [("indexUid", .string (Alias.indexOf entry)),
      ("q", .string (if Alias.queryOf entry = "" then query else Alias.queryOf entry))]
    ++ forwarded (federation.applyDefaults entry)
    ++ (if federation.isNative then
          [("federationOptions",
            .object [("weight", .ofFloat (federation.weight (Alias.indexOf entry)))])]
        else [])

/-- The query that an entry becomes. -/
def sourceOf (federation : FederationSpec) (query : String) (entry : Fields) : SourceQuery :=
  ⟨Alias.indexOf entry, Alias.wantsScores (federation.applyDefaults entry),
    bodyOf federation query entry⟩

theorem filterMap_sourceQuery? (federation : FederationSpec) (query : String)
    (queries : List Fields) :
    queries.filterMap (sourceQuery? federation query)
      = (indexed queries).map (sourceOf federation query) :=
  filterMap_eq_map_indexed (fun _ => rfl) queries

/-- A forwarded key holds what the entry or else the shared defaults have there. -/
theorem get?_bodyOf (federation : FederationSpec) (query : String) (entry : Fields)
    {key : String} (hkey : key ∈ forwardedKeys) :
    Fields.get? (bodyOf federation query entry) key
      = Fields.getSet? (federation.applyDefaults entry) key := by
  -- the three entries around the forwarded keys have other keys
  have hother : ∀ name, name ∉ forwardedKeys → name ≠ key := by
    rintro name hname rfl
    exact hname hkey
  have hindex := hother "indexUid" (by decide)
  have hquery := hother "q" (by decide)
  have hoptions := hother "federationOptions" (by decide)
  unfold bodyOf
  rw [Fields.get?_append, Fields.get?_append, get?_forwarded, if_pos hkey]
  cases federation.isNative <;> simp [Fields.get?_cons, hindex, hquery, hoptions]

end Meilisearch

namespace Algolia

/-- An entry with its index and query text under the engine's names for them. -/
def named (query : String) (entry : Fields) : Fields :=
  let own := Alias.queryOf entry
  let request := Fields.eraseAll (Fields.eraseAll entry Alias.indexKeys) Alias.queryKeys
  let request := Fields.insert request "indexName" (.string (Alias.indexOf entry))
  Fields.insert request "query" (.string (if own = "" then query else own))

/-- The request of the query that an entry becomes. -/
def requestOf (federation : FederationSpec) (query : String) (limit : Nat) (entry : Fields) :
    Fields :=
  Fields.insertNew (federation.applyDefaults (renameLimit (named query entry))) "hitsPerPage"
    (.ofNat (federation.pageSize limit))

/-- The query that an entry becomes. -/
def sourceOf (federation : FederationSpec) (query : String) (limit : Nat) (entry : Fields) :
    SourceQuery :=
  ⟨Alias.indexOf entry, Alias.wantsScores (requestOf federation query limit entry),
    requestOf federation query limit entry⟩

theorem filterMap_sourceQuery? (federation : FederationSpec) (query : String) (limit : Nat)
    (queries : List Fields) :
    queries.filterMap (sourceQuery? federation query limit)
      = (indexed queries).map (sourceOf federation query limit) :=
  filterMap_eq_map_indexed (fun _ => rfl) queries

variable {entry : Fields} (hdistinct : Fields.Distinct entry)

include hdistinct

theorem distinct_named (query : String) : Fields.Distinct (named query entry) :=
  Fields.distinct_insert (Fields.distinct_insert
    (Fields.distinct_eraseAll (Fields.distinct_eraseAll hdistinct _) _) _ _) _ _

/-- The names for the index and the query text are replaced, and nothing else is. -/
theorem get?_named (query : String) {key : String}
    (hkey : key ∉ Alias.indexKeys ++ Alias.queryKeys) :
    Fields.get? (named query entry) key = Fields.get? entry key := by
  have hindexName : "indexName" ≠ key := fun heq => hkey (by rw [← heq]; decide)
  have hqueryName : "query" ≠ key := fun heq => hkey (by rw [← heq]; decide)
  unfold named
  rw [Fields.get?_insert, if_neg hqueryName, Fields.get?_insert, if_neg hindexName,
    Fields.eraseAll_append, Fields.get?_eraseAll hdistinct, if_neg hkey]

/-- Renaming the limit concerns the two names for it. -/
theorem get?_renameLimit {key : String} (hlimit : key ≠ "limit") (hpage : key ≠ "hitsPerPage") :
    Fields.get? (renameLimit entry) key = Fields.get? entry key := by
  unfold renameLimit
  split
  · rfl
  · rw [Fields.get?_insertNew, if_neg hpage.symm, Option.or_none, Fields.get?_erase hdistinct,
      if_neg hlimit.symm]

/-- **Other keys than those of the page size** hold what the named entry or else the shared defaults
have there. -/
theorem get?_requestOf_of_ne (federation : FederationSpec) (query : String) (limit : Nat)
    {key : String} (hlimit : key ≠ "limit") (hpage : key ≠ "hitsPerPage") :
    Fields.get? (requestOf federation query limit entry) key
      = (Fields.get? (named query entry) key).or (Fields.get? federation.extra key) := by
  rw [requestOf, Fields.get?_insertNew, if_neg hpage.symm, Option.or_none,
    FederationSpec.applyDefaults, Fields.get?_insertAllNew,
    get?_renameLimit (distinct_named hdistinct query) hlimit hpage]

/-- A key that is not renamed holds what the entry or else the shared defaults have there. -/
theorem get?_requestOf (federation : FederationSpec) (query : String) (limit : Nat)
    {key : String}
    (hkey : key ∉ Alias.indexKeys ++ Alias.queryKeys ++ ["limit", "hitsPerPage"]) :
    Fields.get? (requestOf federation query limit entry) key
      = Fields.get? (federation.applyDefaults entry) key := by
  obtain ⟨hname, hpaging⟩ := not_or.mp (mt List.mem_append.mpr hkey)
  have hlimit : key ≠ "limit" := fun heq => hpaging (by rw [heq]; decide)
  have hpage : key ≠ "hitsPerPage" := fun heq => hpaging (by rw [heq]; decide)
  rw [get?_requestOf_of_ne hdistinct federation query limit hlimit hpage,
    get?_named hdistinct query hname, FederationSpec.applyDefaults, Fields.get?_insertAllNew]

end Algolia

end Metasearch
