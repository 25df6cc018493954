import Metasearch.Engine.Basic
import Metasearch.Engine.Body
import Metasearch.Engine.Plan
import Metasearch.Federation.Blend
import Metasearch.Federation.Policy
import Metasearch.Filter.Algolia
import Metasearch.Schema.Basic

set_option autoImplicit false

/-! # Searching with Algolia

Every search goes to one path and carries a list of requests, also when it is only one. Sort
orders have no place in a request: they select a replica of the index by its name.

A declarative search normally goes through the schema and the filter compiler. A filter in the
engine's own words leads around both (`escapes`).
-/

namespace Metasearch.Algolia

open Federation (Policy)

/-- The keys of a payload that lead around the filter compiler. -/
def escapeKeys : List String :=
  ["filter", "filters", "facetFilters", "numericFilters", "aroundLatLng", "insideBoundingBox"]

/-- The length of a page that starts at a position when none is asked for. -/
def defaultLength : Nat := 20

/-- The engine's ranking score of a document. -/
def rankingOf (fields : Fields) : Option Float :=
  match Fields.get? fields "_rankingInfo" with
  | some (.object info) => (Fields.get? info "neuralScore").bind Json.float?
  | _ => none

def queriesPath : String := "/1/indexes/*/queries"

/-- The call that carries some requests. -/
def callOf (requests : List Fields) : Call :=
  ⟨queriesPath, .object [("requests", .array (requests.map .object))]⟩

/-- The name of the replica of an index that is sorted by a field. -/
def replicaName (index field direction : String) : String :=
  index ++ "__" ++ field ++ "_" ++ direction

/-- The results of an answer. -/
def resultsOf : Json → List Json
  | .object entries => ((Fields.get? entries "results").bind Json.array?).getD []
  | _ => []

/-- The hits of the first result of an answer. -/
def firstHits (answer : Json) : List Hit :=
  match resultsOf answer with
  | [] => []
  | result :: _ => Hit.listOfAnswer rankingOf result

/-- The plan that makes one request. -/
def searchWith (policy : Policy) (request : Fields) (query : String) (showScores : Bool) : Plan :=
  .ask (callOf [request]) fun answer => policy.refine query showScores (firstHits answer)

/-! ## Plain search -/

/-- Searches one index with parameters in the engine's own words, which come before the page
size asked for. -/
def search (policy : Policy) (index query : String) (params : Fields) (limit : Nat) : Plan :=
  let query := if query = "" then Alias.queryOf params else query
  let overrides := Fields.eraseAll (Fields.eraseAll params Alias.indexKeys) Alias.queryKeys
  let request : Fields :=
    [("indexName", .string index), ("query", .string query), ("hitsPerPage", .ofNat limit)]
  searchWith policy (Fields.insertAll request overrides) query (Alias.wantsScores params)

/-! ## Several indexes -/

/-- A request of a search over several indexes. -/
structure SourceQuery where
  index : String
  showScores : Bool
  request : Fields

/-- A request with its `limit` under the engine's name for it, unless that name is taken. -/
def renameLimit (request : Fields) : Fields :=
  match Fields.get? request "limit" with
  | none => request
  | some limit => Fields.insertNew (Fields.erase request "limit") "hitsPerPage" limit

/-- The request of an entry with the shared defaults. An entry without an index is none. -/
def sourceQuery? (federation : FederationSpec) (query : String) (limit : Nat) (entry : Fields) :
    Option SourceQuery :=
  let index := Alias.indexOf entry
  if index = "" then none
  else
    let own := Alias.queryOf entry
    let request := Fields.eraseAll (Fields.eraseAll entry Alias.indexKeys) Alias.queryKeys
    let request := Fields.insert request "indexName" (.string index)
    let request := Fields.insert request "query" (.string (if own = "" then query else own))
    let request := federation.applyDefaults (renameLimit request)
    let request := Fields.insertNew request "hitsPerPage" (.ofNat (federation.pageSize limit))
    some ⟨index, Alias.wantsScores request, request⟩

/-- The pool of one result of an answer, past the floor of its query. -/
def poolOf (policy : Policy) (source : SourceQuery) (result : Json) : RankedPool :=
  ⟨source.index, Federation.applyFloor policy.minimum source.showScores
    (Hit.listOfAnswer rankingOf result)⟩

/-- Searches several indexes. The floor has been applied by query when the hits come
together, so it is not applied again. -/
def multiSearch (policy : Policy) (queries : List Fields) (query : String)
    (federation : FederationSpec) (limit : Nat) : Plan :=
  let sources := queries.filterMap (sourceQuery? federation query limit)
  if sources.isEmpty then .nothing
  else
    .ask (callOf (sources.map SourceQuery.request)) fun answer =>
      policy.refine query false
        (Federation.blend federation limit
          (List.zipWith (poolOf policy) sources (resultsOf answer)))

/-! ## Declarative search -/

/-- The paging of a request: by position and length, or else by page size. -/
def paging (limit offset : Option Nat) : Fields :=
  match offset, limit with
  | some offset, limit =>
    [("offset", .ofNat offset), ("length", .ofNat (limit.getD defaultLength))]
  | none, some limit => [("hitsPerPage", .ofNat limit)]
  | none, none => []

/-- The query words of compiled conditions. -/
def queryWords (predicates : List Filter.Algolia.Predicate) : List String :=
  predicates.filterMap fun
    | .query text => if text = "" then none else some text
    | _ => none

/-- The clauses of compiled conditions. -/
def filterClauses (predicates : List Filter.Algolia.Predicate) : List String :=
  predicates.filterMap Filter.Algolia.Predicate.expression?

/-- The search parameters of compiled conditions. -/
def geoParameters (predicates : List Filter.Algolia.Predicate) : Fields :=
  predicates.flatMap fun
    | .geo parameters => parameters
    | _ => []

/-- The index of a request, or its replica for the first sort key. -/
def indexNameOf (request : SearchRequest) : String :=
  match request.sort with
  | [] => request.index
  | key :: _ => replicaName request.index key.field key.direction.name

/-- The body of a compiled request. -/
def requestBody (request : SearchRequest) : Except Obstacle Fields := do
  let predicates ← Filter.Algolia.compileAll request.filters
  let clauses := filterClauses predicates
  let start : Fields :=
    [("indexName", .string (indexNameOf request)),
      ("query", .string (" ".intercalate (queryWords predicates)))]
      ++ (if clauses.isEmpty then [] else [("filters", .string (" AND ".intercalate clauses))])
  return Fields.insertAll start (geoParameters predicates)
    ++ paging request.limit request.offset
    ++ Body.highlight request.highlight
    ++ Body.switch "distinct" request.distinct.isSome
    ++ Body.facets request.facets
    ++ Body.switch "getRankingInfo" request.showScores

/-- Whether a payload leads around the filter compiler. -/
def escapes (payload : SearchPayload) : Bool := payload.hasAny escapeKeys

/-- The engine's name for a passed-on key: a filter is always under `filters`. -/
def ownKey (key : String) : String := if key = "filter" then "filters" else key

/-- The request of a payload that leads around the filter compiler. -/
def escapedRequest (payload : SearchPayload) : Fields :=
  let start : Fields :=
    [("indexName", .string payload.index), ("query", .string payload.query)]
      ++ paging payload.limit payload.offset
      ++ Body.switch "getRankingInfo" payload.showScores
  Fields.insertAllNew start (payload.extra.map fun (key, value) => (ownKey key, value))

/-- The text under `query` in a body. -/
def queryOfBody (body : Fields) : String :=
  ((Fields.get? body "query").bind Json.string?).getD ""

/-- Searches by a payload. -/
def searchPayload (policy : Policy) (schema? : Option Schema) (payload : SearchPayload) : Plan :=
  match schema? with
  | none => .nothing
  | some schema =>
    if payload.index = "" then .nothing
    else if escapes payload then
      searchWith policy (escapedRequest payload) payload.query payload.showScores
    else
      match schema.index? payload.index with
      | none => .nothing
      | some descriptor =>
        let request := SearchRequest.ofPayload descriptor.name payload
        match requestBody request with
        | .error obstacle => .fail (.unsupported Engine.algolia.name obstacle)
        | .ok compiled =>
          let body := Fields.insertAllNew compiled payload.extra
          searchWith policy body (queryOfBody body) request.showScores

end Metasearch.Algolia
