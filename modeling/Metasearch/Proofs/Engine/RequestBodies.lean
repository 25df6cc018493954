import Metasearch.Proofs.Engine.MeilisearchBody
import Metasearch.Proofs.Engine.Overwritten
import Metasearch.Proofs.Schema.Descriptors

set_option autoImplicit false

/-! # Bodies say what requests say

A request tells its query text and its filter conditions apart by looking at the conditions
(`queryText`, `predicates`). A body tells them apart only after they have been compiled. The two
agree because compiling keeps the difference: words come from searches and from nothing else, and
every other condition has an expression, unless it is a place on Algolia's map.

Each condition is compiled for itself and its result stays in its place. So the order in which
searches, filters and places follow one another does not matter.
-/

namespace Metasearch

open List (Forall₂)

/-! ## Facets -/

theorem Facet.distinctFields_eq (facets : List Facet) :
    distinctFields facets = firstOccurrences (facets.map Facet.field) := by
  rw [firstOccurrences, List.foldl_map]
  rfl

/-- Each requested field is listed once, where it was first asked for. -/
theorem Facet.firstSeen_distinctFields (facets : List Facet) :
    FirstSeen (facets.map Facet.field) (distinctFields facets) := by
  rw [distinctFields_eq]
  exact firstSeen_firstOccurrences _

/-- The facets of a request stand in a body: their fields are listed without repetition, in the
order in which they were first asked for, and nothing is listed when nothing was asked for. -/
def ListsFacets (request : SearchRequest) (body : Fields) : Prop :=
  ∃ fields, FirstSeen (request.facets.map Facet.field) fields
    ∧ Fields.get? body "facets"
        = if request.facets = [] then none else some (.ofStrings fields)

theorem listsFacets_of_get? {request : SearchRequest} {body rest : Fields}
    (h : Fields.get? body "facets" = Fields.get? (Body.facets request.facets ++ rest) "facets")
    (hrest : Fields.get? rest "facets" = none) : ListsFacets request body := by
  refine ⟨_, Facet.firstSeen_distinctFields request.facets, ?_⟩
  rw [h, Fields.get?_append, hrest, Option.or_none]
  cases request.facets with
  | nil => rfl
  | cons first others => rfl

/-! ## Meilisearch -/

namespace Meilisearch

open Filter.Meilisearch (Predicate)

section Compiled

variable {identifier : String} {conditions : List Condition} {predicates : List Predicate}
  (h : Filter.Meilisearch.compileAll identifier conditions = .ok predicates)

include h

/-- The words of a condition are those of what it compiles to. -/
theorem queryWords_eq : queryWords predicates = conditions.filterMap SearchRequest.searchText? := by
  symm
  apply filterMap_eq_of_forall₂ (Filter.Meilisearch.compileAll_eq_ok.mp h)
  intro c p hp
  cases c with
  | search text =>
    cases hp
    rfl
  | _ =>
    -- what is no search compiles to an expression
    obtain ⟨expression, rfl⟩ := Filter.Meilisearch.expression_of_compile hp rfl
    rfl

/-- **Without the searches, the expressions are left**: compiling what is no search gives the
expressions among what has been compiled, one for each condition. -/
theorem compileAll_predicates :
    Filter.Meilisearch.compileAll identifier (conditions.filter fun c => !c.isSearch)
      = .ok ((filterExpressions predicates).map .filter) := by
  rw [Filter.Meilisearch.compileAll_eq_ok, List.forall₂_map_right_iff]
  apply forall₂_filter_filterMap (Filter.Meilisearch.compileAll_eq_ok.mp h)
  intro c p hp
  cases c with
  | search text =>
    cases hp
    exact .inl ⟨rfl, rfl⟩
  | _ =>
    obtain ⟨expression, rfl⟩ := Filter.Meilisearch.expression_of_compile hp rfl
    exact .inr ⟨rfl, expression, rfl, hp⟩

end Compiled

/-- What a body for Meilisearch says of its request: under `q` its query text, under `filter` one
expression for each of its filter conditions, in their order, and its facets. -/
structure Says (identifier : String) (request : SearchRequest) (body : Fields) : Prop where
  query : Fields.get? body "q" = some (.string request.queryText)
  filters : ∃ expressions,
    Filter.Meilisearch.compileAll identifier request.predicates
        = .ok (expressions.map .filter)
      ∧ Fields.get? body "filter"
          = if request.predicates = [] then none else some (.ofStrings expressions)
  facets : ListsFacets request body

theorem says_requestBody {identifier : String} {request : SearchRequest} {body : Fields}
    (h : requestBody identifier request = .ok body) : Says identifier request body := by
  obtain ⟨predicates, hcompiled, hbody⟩ := requestBody_eq_ok.mp h
  constructor
  · rw [hbody, SearchRequest.queryText, ← queryWords_eq hcompiled]
    rfl
  · have hpredicates := compileAll_predicates hcompiled
    refine ⟨_, hpredicates, ?_⟩
    have hlength := (Filter.Meilisearch.compileAll_eq_ok.mp hpredicates).length_eq
    rw [List.length_map] at hlength
    have hnil : filterExpressions predicates = [] ↔ request.predicates = [] := by
      rw [← List.length_eq_zero_iff, ← hlength, List.length_eq_zero_iff]
      rfl
    rw [get?_filter hcompiled h]
    simp only [hnil]
  · apply @listsFacets_of_get? _ _ (Body.switch "showRankingScore" request.showScores)
    · simp only [hbody, otherParts, List.append_assoc, List.singleton_append]
      rw [Fields.get?_cons, if_neg (by decide),
        Fields.get?_append_of_keys (keys_textList _ _) (by decide),
        Fields.get?_append_of_keys (keys_textList _ _) (by decide),
        Fields.get?_append_of_keys (Body.keys_optional _ _ _) (by decide),
        Fields.get?_append_of_keys (Body.keys_optional _ _ _) (by decide),
        Fields.get?_append_of_keys (Body.keys_highlight _) (by decide),
        Fields.get?_append_of_keys (Body.keys_optional _ _ _) (by decide)]
    · cases request.showScores <;> rfl

end Meilisearch

/-! ## Algolia -/

namespace Algolia

open Filter.Algolia (Predicate)

/-- **Without searches and places, the clauses are left**, one for each condition. -/
theorem filterClauses_eq {conditions : List Condition} {predicates : List Predicate}
    (h : Filter.Algolia.compileAll conditions = .ok predicates) :
    Forall₂ (fun c clause => ∃ p, Filter.Algolia.compile c = .ok p ∧ p.expression? = some clause)
      (conditions.filter fun c => !c.isGeo && !c.isSearch) (filterClauses predicates) := by
  apply forall₂_filter_filterMap (Filter.Algolia.compileAll_eq_ok.mp h)
  intro c p hp
  have hclause := Filter.Algolia.expression?_isSome_iff hp
  cases hexpression : p.expression? with
  | none =>
    refine .inl ⟨?_, rfl⟩
    by_contra hkept
    have hplain : c.isSearch = false ∧ c.isGeo = false := by simp_all
    obtain ⟨clause, hsome⟩ := hclause.mpr hplain
    rw [hexpression] at hsome
    cases hsome
  | some clause =>
    obtain ⟨hsearch, hgeo⟩ := hclause.mp ⟨clause, hexpression⟩
    exact .inr ⟨by rw [hsearch, hgeo]; rfl, clause, rfl, p, hp, hexpression⟩

/-- What a body for Algolia says of its request: under `query` its query text, under `filters` the
expressions of its filter conditions other than places, joined in their order, and its facets. -/
structure Says (request : SearchRequest) (body : Fields) : Prop where
  query : Fields.get? body "query" = some (.string request.queryText)
  filters : ∃ clauses,
    Forall₂ (fun c clause => ∃ p, Filter.Algolia.compile c = .ok p ∧ p.expression? = some clause)
        (request.predicates.filter fun c => !c.isGeo) clauses
      ∧ Fields.get? body "filters"
          = if (request.predicates.filter fun c => !c.isGeo) = [] then none
            else some (.string (" AND ".intercalate clauses))
  facets : ListsFacets request body

theorem says_requestBody {request : SearchRequest} {body : Fields}
    (h : requestBody request = .ok body) : Says request body := by
  obtain ⟨predicates, hcompiled, _⟩ := requestBody_eq_ok.mp h
  constructor
  · exact get?_query h
  · have hclauses := filterClauses_eq hcompiled
    rw [← List.filter_filter] at hclauses
    refine ⟨_, hclauses, ?_⟩
    have hnil : filterClauses predicates = []
        ↔ (request.predicates.filter fun c => !c.isGeo) = [] := by
      rw [← List.length_eq_zero_iff, ← hclauses.length_eq, List.length_eq_zero_iff]
      rfl
    rw [get?_filters hcompiled h]
    simp only [hnil]
  · apply @listsFacets_of_get? _ _ (Body.switch "getRankingInfo" request.showScores)
    · have hstart : Fields.get? (startOf request predicates) "facets" = none :=
        Fields.get?_eq_none.mpr fun hmem =>
          absurd ((keys_startOf request predicates).subset hmem) (by decide)
      rw [get?_of_not_place hcompiled h (by decide), hstart, Option.none_or]
      simp only [otherParts, List.append_assoc]
      rw [Fields.get?_append_of_keys (keys_paging _ _) (by decide),
        Fields.get?_append_of_keys (Body.keys_highlight _) (by decide),
        Fields.get?_append_of_keys (Body.keys_switch _ _) (by decide)]
    · cases request.showScores <;> rfl

end Algolia

/-- **Bodies say what requests say.** The body that is written for a request has the query text of
the request, one filter for each of its filter conditions in their order, and the fields of its
facets, each once and in first-seen order. For Algolia the filters are joined in one text, and
places are no filters. -/
theorem bodies_say_what_requests_say (descriptor : IndexDescriptor) (request : SearchRequest) :
    (∀ body, Meilisearch.requestBody descriptor.identifier request = .ok body →
      Meilisearch.Says descriptor.identifier request body)
    ∧ ∀ body, Algolia.requestBody request = .ok body → Algolia.Says request body :=
  ⟨fun _ => Meilisearch.says_requestBody, fun _ => Algolia.says_requestBody⟩

/-! ### Searches among filters -/

/-- A request whose searches and filters alternate, with facets asked for twice. -/
def seaNovels : SearchRequest where
  index := "books"
  filters := [.search "sea", .compare "genre" .equal (.string "novel"), .search "",
    .search "wind", .member "lang" .among [.string "en", .string "el"]]
  sort := []
  limit := none
  offset := none
  highlight := none
  distinct := none
  facets := [.count "genre", .count "lang", ⟨.minMax, "genre", []⟩]
  vector := none
  showScores := false

def meilisearchBodyOfSeaNovels : Fields :=
  [("q", .string "sea wind"),
    ("filter", .ofStrings ["genre = \"novel\"", "lang IN [\"en\", \"el\"]"]),
    ("facets", .ofStrings ["genre", "lang"])]

def algoliaBodyOfSeaNovels : Fields :=
  [("indexName", .string "books"), ("query", .string "sea wind"),
    ("filters", .string "genre:\"novel\" AND (lang:\"en\" OR lang:\"el\")"),
    ("facets", .ofStrings ["genre", "lang"])]

theorem bodies_of_seaNovels :
    (Meilisearch.requestBody "id" seaNovels = .ok meilisearchBodyOfSeaNovels
      ∧ Meilisearch.Says "id" seaNovels meilisearchBodyOfSeaNovels)
    ∧ Algolia.requestBody seaNovels = .ok algoliaBodyOfSeaNovels
      ∧ Algolia.Says seaNovels algoliaBodyOfSeaNovels := by
  have hmeilisearch : Meilisearch.requestBody "id" seaNovels = .ok meilisearchBodyOfSeaNovels := rfl
  have halgolia : Algolia.requestBody seaNovels = .ok algoliaBodyOfSeaNovels := rfl
  obtain ⟨hlisted, hjoined⟩ := bodies_say_what_requests_say ⟨"books", "id", []⟩ seaNovels
  exact ⟨⟨hmeilisearch, hlisted _ hmeilisearch⟩, halgolia, hjoined _ halgolia⟩

end Metasearch
