import Metasearch.Proofs.Engine.NamelessQueries
import Metasearch.Proofs.Federation.Options

set_option autoImplicit false

/-! # The page size of each request

With Algolia every query of a search over several indexes is a request with a page size of its own.
It can be asked for in five places (`pageSizes`): by the query under two names, by the federation
options in two ways, and by the caller. The request is put together in three steps, and each adds
what it has only where the key is still missing. So the first place that is given decides
(`get?_hitsPerPage`).

Given does not mean set. A key that holds `null` is there, and hides the places behind it: the
request then has `null` for its page size. Otherwise it has the first value that is set
(`firstGiven_eq_firstSet_iff`).
-/

namespace Metasearch

/-- The places where the page size of a query can be asked for, in their order. -/
def pageSizes (options : Fields) (limit : Nat) (entry : Fields) : List (Option Json) :=
  [Fields.get? entry "hitsPerPage", Fields.get? entry "limit", Fields.get? options "hitsPerPage",
    Fields.getSet? options "limit", some (.ofNat limit)]

/-- The first place that is given, whatever its value. -/
def firstGiven (places : List (Option Json)) : Option Json := places.findSome? id

/-- The first place that is given a value other than `null`. -/
def firstSet (places : List (Option Json)) : Option Json :=
  places.findSome? fun place => place.filter fun value => !value.isNull

/-- **What is given first is what is set first**, unless it is `null`. -/
theorem firstGiven_eq_firstSet_iff (places : List (Option Json)) :
    firstGiven places = firstSet places ↔ firstGiven places ≠ some .null := by
  induction places with
  | nil => simp [firstGiven, firstSet]
  | cons place places ih =>
    cases place with
    | none => exact ih
    | some value =>
      have hgiven : firstGiven (some value :: places) = some value := rfl
      rw [hgiven]
      by_cases hnull : value = .null
      · subst hnull
        -- behind a `null` nothing is set to `null`
        refine iff_of_false (fun heq => ?_) (by simp)
        obtain ⟨place, _, hset⟩ := List.exists_of_findSome?_eq_some heq.symm
        obtain ⟨_, hvalue⟩ := Option.filter_eq_some_iff.mp hset
        cases hvalue
      · have hset : firstSet (some value :: places) = some value := by
          cases value <;> first | rfl | exact absurd rfl hnull
        rw [hset]
        simpa using hnull

namespace Algolia

section PageSize

variable {entry : Fields} (hdistinct : Fields.Distinct entry)

include hdistinct

/-- Afterwards the limit is under the engine's name for it, behind what was there. -/
theorem get?_hitsPerPage_renameLimit :
    Fields.get? (renameLimit entry) "hitsPerPage"
      = (Fields.get? entry "hitsPerPage").or (Fields.get? entry "limit") := by
  unfold renameLimit
  split
  · next hlimit => rw [hlimit, Option.or_none]
  · next limit hlimit =>
    rw [Fields.get?_insertNew, Fields.get?_erase hdistinct, if_neg (by decide), if_pos rfl, hlimit]

theorem get?_limit_renameLimit : Fields.get? (renameLimit entry) "limit" = none := by
  unfold renameLimit
  split
  · next hlimit => exact hlimit
  · next limit hlimit =>
    rw [Fields.get?_insertNew, Fields.get?_erase hdistinct, if_pos rfl, if_neg (by decide),
      Option.or_none]

variable {options : Fields} (hoptions : Fields.Distinct options) {federation : FederationSpec}
  (hread : FederationSpec.ofEntries options = .ok federation)

include hread

/-- The name that is not the engine's is taken out of the query, and no default has it. -/
theorem get?_limit_requestOf (query : String) (limit : Nat) :
    Fields.get? (requestOf federation query limit entry) "limit" = none := by
  rw [requestOf, Fields.get?_insertNew, if_neg (by decide), FederationSpec.applyDefaults,
    Fields.get?_insertAllNew, get?_limit_renameLimit (distinct_named hdistinct query),
    FederationSpec.get?_extra hread, if_pos (by decide)]
  rfl

include hoptions

/-- **The page size of a request** is the first that is given. -/
theorem get?_hitsPerPage (query : String) (limit : Nat) :
    Fields.get? (requestOf federation query limit entry) "hitsPerPage"
      = firstGiven (pageSizes options limit entry) := by
  have hfallback : some (Json.ofNat (federation.pageSize limit))
      = (Fields.getSet? options "limit").or (some (.ofNat limit)) := by
    rw [← FederationSpec.limit_eq_getSet? hoptions hread, FederationSpec.pageSize]
    cases federation.limit <;> rfl
  rw [requestOf, Fields.get?_insertNew, if_pos rfl, FederationSpec.applyDefaults,
    Fields.get?_insertAllNew, get?_hitsPerPage_renameLimit (distinct_named hdistinct query),
    get?_named hdistinct query (by decide), get?_named hdistinct query (by decide),
    FederationSpec.get?_extra hread, if_neg (by decide), hfallback]
  simp only [firstGiven, pageSizes]
  cases Fields.get? entry "hitsPerPage" <;> cases Fields.get? entry "limit" <;>
    cases Fields.get? options "hitsPerPage" <;> cases Fields.getSet? options "limit" <;> rfl

end PageSize

end Algolia

/-- What a request asks for as its page: the size that is given first, and nothing under the name
that is not the engine's. The size is the first that is set, unless a `null` is given before it, and
then it is `null`. -/
structure AsksForPage (options : Fields) (limit : Nat) (entry request : Fields) : Prop where
  size : Fields.get? request "hitsPerPage" = firstGiven (pageSizes options limit entry)
  set_iff : Fields.get? request "hitsPerPage" = firstSet (pageSizes options limit entry)
    ↔ firstGiven (pageSizes options limit entry) ≠ some .null
  noLimit : Fields.get? request "limit" = none

theorem Algolia.asksForPage_requestOf {entry options : Fields} (hdistinct : Fields.Distinct entry)
    (hoptions : Fields.Distinct options) {federation : FederationSpec}
    (hread : FederationSpec.ofEntries options = .ok federation) (query : String) (limit : Nat) :
    AsksForPage options limit entry (requestOf federation query limit entry) := by
  have hsize := get?_hitsPerPage hdistinct hoptions hread query limit
  refine ⟨hsize, ?_, get?_limit_requestOf hdistinct hread query limit⟩
  rw [hsize]
  exact firstGiven_eq_firstSet_iff _

/-- **The page size of every request.** A search over several indexes by Algolia sends the requests
of its queries with an index in one call, in their order, and none if there are none. Each asks for
the page of its query. -/
theorem page_sizes_of_requests (policy : Federation.Policy) (timeout : Nat) (transport : Transport)
    (sent : Nat) {queries : List Fields} (hdistinct : ∀ entry ∈ queries, Fields.Distinct entry)
    (query : String) {options : Fields} (hoptions : Fields.Distinct options)
    {federation : FederationSpec} (hread : FederationSpec.ofEntries options = .ok federation)
    (limit : Nat) :
    ∃ requests : List Fields,
      (Searcher.multiSearch ⟨.algolia, policy, timeout⟩ transport sent queries query federation
          limit).calls = (if requests = [] then [] else [Algolia.callOf requests])
        ∧ List.Forall₂ (AsksForPage options limit) (indexed queries) requests := by
  refine ⟨(indexed queries).map (Algolia.requestOf federation query limit), ?_, ?_⟩
  · show (Algolia.multiSearch policy queries query federation limit).calls = _
    rw [Algolia.calls_multiSearch]
    simp only [List.map_eq_nil_iff]
  · rw [List.forall₂_map_right_iff, List.forall₂_same]
    exact fun entry hentry => Algolia.asksForPage_requestOf
      (hdistinct entry (List.mem_of_mem_filter hentry)) hoptions hread query limit

/-! ### Sizes for books and films -/

/-- Two books by the caller's name for the page size, and one film by the engine's. -/
def booksAndFilm : List Fields :=
  [[("index", .string "books"), ("limit", .ofNat 2)],
    [("index", .string "films"), ("hitsPerPage", .ofNat 1), ("limit", .ofNat 9)]]

/-- Options with a page size of seven. -/
def sevenHits : Fields := [("limit", .ofNat 7)]

/-- What is sent for some queries with these options. -/
def callsForSeven (queries : List Fields) : List Call :=
  (Searcher.multiSearch ⟨.algolia, ⟨0, false, Federation.termOverlap⟩, 1000⟩
    (fun _ _ => ⟨0, .ok .null⟩) 0 queries "" { FederationSpec.empty with limit := some 7 } 20).calls

/-- Each query has the page size that it asks for itself. -/
theorem own_sizes_are_sent :
    FederationSpec.ofEntries sevenHits = .ok { FederationSpec.empty with limit := some 7 }
      ∧ ∃ books films, callsForSeven booksAndFilm = [Algolia.callOf [books, films]]
        ∧ Fields.get? books "hitsPerPage" = some (.ofNat 2)
        ∧ Fields.get? books "limit" = none
        ∧ Fields.get? films "hitsPerPage" = some (.ofNat 1)
        ∧ Fields.get? films "limit" = none := by
  have hread : FederationSpec.ofEntries sevenHits
      = .ok { FederationSpec.empty with limit := some 7 } := rfl
  obtain ⟨requests, hcalls, hasks⟩ := page_sizes_of_requests ⟨0, false, Federation.termOverlap⟩ 1000
    (fun _ _ => ⟨0, .ok .null⟩) 0 (by decide : ∀ entry ∈ booksAndFilm, Fields.Distinct entry) ""
    (by decide) hread 20
  rw [show indexed booksAndFilm = booksAndFilm from rfl, booksAndFilm] at hasks
  obtain _ | ⟨hbooks, _ | ⟨hfilms, _ | _⟩⟩ := hasks
  exact ⟨hread, _, _, hcalls, hbooks.size, hbooks.noLimit, hfilms.size, hfilms.noLimit⟩

/-- A query for books with `null` under the engine's name for the page size. -/
def unsizedBooks : Fields := [("index", .string "books"), ("hitsPerPage", .null)]

/-- **A page size can be `null`.** The query is sent with its `null`, although the options ask for
seven hits. -/
theorem null_size_is_sent :
    callsForSeven [unsizedBooks]
        = [Algolia.callOf [[("hitsPerPage", .null), ("indexName", .string "books"),
            ("query", .string "")]]]
      ∧ firstSet (pageSizes sevenHits 20 unsizedBooks) = some (.ofNat 7) :=
  ⟨rfl, rfl⟩

end Metasearch
