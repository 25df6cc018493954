import Metasearch.Engine.Basic
import Metasearch.Engine.Body
import Metasearch.Engine.Plan
import Metasearch.Federation.Blend
import Metasearch.Federation.Policy
import Metasearch.Filter.Meilisearch
import Metasearch.Schema.Basic

set_option autoImplicit false

/-! # Searching with Meilisearch

The engine searches one index at a path of its own, or several at once. It can also merge the
hits of several indexes itself, if the federation options ask for something that it
understands; otherwise each index answers on its own and the hits are blended here.

A declarative search normally goes through the schema and the filter compiler. A query vector
or an engine filter leads around both (`escapes`): then the payload's own keys are forwarded
as they are.
-/

namespace Metasearch.Meilisearch

open Federation (Policy)

/-- The keys of a search that are forwarded to the engine as they are. -/
def forwardedKeys : List String :=
  ["filter", "limit", "offset", "hitsPerPage", "page", "attributesToRetrieve",
    "attributesToHighlight", "facets", "sort", "matchingStrategy", "showRankingScore",
    "showMatchesPosition", "highlightPreTag", "highlightPostTag", "retrieveVectors", "vector"]

/-- The keys of a payload that lead around the filter compiler. -/
def escapeKeys : List String := ["retrieveVectors", "filter"]

/-- The engine's ranking score of a document. -/
def rankingOf (fields : Fields) : Option Float :=
  (Fields.get? fields "_rankingScore").bind Json.float?

def searchPath (index : String) : String := "/indexes/" ++ index ++ "/search"

def multiSearchPath : String := "/multi-search"

/-- The forwarded keys of a search that have a value. -/
def forwarded (entries : Fields) : Fields :=
  forwardedKeys.filterMap fun key => (Fields.getSet? entries key).map fun value => (key, value)

/-- The plan that searches one index. -/
def searchWith (policy : Policy) (index : String) (body : Fields) (query : String)
    (showScores : Bool) : Plan :=
  .ask ⟨searchPath index, .object body⟩ fun answer =>
    policy.refine query showScores (Hit.listOfAnswer rankingOf answer)

/-! ## Plain search -/

/-- Searches one index with parameters in the engine's own words. -/
def search (policy : Policy) (index query : String) (params : Fields) (limit : Nat) : Plan :=
  let query := if query = "" then Alias.queryOf params else query
  let body := Fields.eraseAll (Fields.eraseAll params Alias.indexKeys) Alias.queryKeys
  let body := Fields.insert body "q" (.string query)
  let body := Fields.insertNew body "limit" (.ofNat limit)
  searchWith policy index body query (Alias.wantsScores params)

/-! ## Several indexes -/

/-- A query of a search over several indexes. -/
structure SourceQuery where
  index : String
  showScores : Bool
  body : Fields

/-- The query of an entry with the shared defaults. An entry without an index is none. -/
def sourceQuery? (federation : FederationSpec) (query : String) (entry : Fields) :
    Option SourceQuery :=
  let index := Alias.indexOf entry
  if index = "" then none
  else
    let merged := federation.applyDefaults entry
    let own := Alias.queryOf entry
    let body : Fields :=
      [("indexUid", .string index), ("q", .string (if own = "" then query else own))]
        ++ forwarded merged
        ++ (if federation.isNative then
              [("federationOptions", .object [("weight", .ofFloat (federation.weight index))])]
            else [])
    some ⟨index, Alias.wantsScores merged, body⟩

/-- The federation options that the engine carries out. -/
def nativeOptions (federation : FederationSpec) : Fields :=
  Body.optional "limit" .ofNat federation.limit
    ++ Body.optional "offset" .ofNat federation.offset
    ++ Body.optional "facetsByIndex" id federation.facetsByIndex
    ++ Body.optional "mergeFacets" id federation.mergeFacets

def multiSearchBody (federation : FederationSpec) (sources : List SourceQuery) : Fields :=
  ("queries", .array (sources.map fun source => .object source.body))
    :: (if federation.isNative then [("federation", .object (nativeOptions federation))] else [])

/-- Whether scores were asked for by the query that a hit of a merged answer came from. -/
def showsScores (sources : List SourceQuery) (hit : Hit) : Bool :=
  match Fields.get? hit.fields "_federation" with
  | some (.object origin) =>
    (((Fields.get? origin "queriesPosition").bind Json.natural?).bind fun position =>
      (sources[position]?).map SourceQuery.showScores).getD false
  | _ => false

/-- The hits of an answer that the engine has merged, each past the floor of its query. -/
def mergedHits (policy : Policy) (sources : List SourceQuery) (answer : Json) : List Hit :=
  (Hit.listOfAnswer rankingOf answer).filter fun hit =>
    Federation.admits policy.minimum (showsScores sources hit) hit

/-- The pool of one result of an answer, past the floor of its query. -/
def poolOf (policy : Policy) (result : Json) (source : SourceQuery) : RankedPool :=
  let index :=
    match result with
    | .object entries => ((Fields.get? entries "indexUid").bind Json.string?).getD ""
    | _ => ""
  ⟨index, Federation.applyFloor policy.minimum source.showScores
    (Hit.listOfAnswer rankingOf result)⟩

/-- The results of an answer that the engine has not merged. -/
def resultsOf : Json → List Json
  | .object entries => ((Fields.get? entries "results").bind Json.array?).getD []
  | _ => []

/-- The page of an answer that the engine has not merged. -/
def blendedHits (policy : Policy) (federation : FederationSpec) (limit : Nat)
    (sources : List SourceQuery) (answer : Json) : List Hit :=
  Federation.blend federation limit (List.zipWith (poolOf policy) (resultsOf answer) sources)

/-- Searches several indexes. The floor has been applied by query when the hits come
together, so it is not applied again. -/
def multiSearch (policy : Policy) (queries : List Fields) (query : String)
    (federation : FederationSpec) (limit : Nat) : Plan :=
  let sources := queries.filterMap (sourceQuery? federation query)
  if sources.isEmpty then .nothing
  else
    .ask ⟨multiSearchPath, .object (multiSearchBody federation sources)⟩ fun answer =>
      policy.refine query false
        (if federation.isNative then mergedHits policy sources answer
         else blendedHits policy federation limit sources answer)

/-! ## Declarative search -/

/-- The query words of compiled conditions. -/
def queryWords (predicates : List Filter.Meilisearch.Predicate) : List String :=
  predicates.filterMap fun
    | .query text => if text = "" then none else some text
    | .filter _ => none

/-- The filter expressions of compiled conditions. -/
def filterExpressions (predicates : List Filter.Meilisearch.Predicate) : List String :=
  predicates.filterMap fun
    | .query _ => none
    | .filter expression => some expression

/-- A list of texts that is left out when it is empty. -/
def textList (key : String) (texts : List String) : Fields :=
  if texts.isEmpty then [] else [(key, .ofStrings texts)]

/-- The body of a compiled request. -/
def requestBody (identifier : String) (request : SearchRequest) : Except Obstacle Fields := do
  let predicates ← Filter.Meilisearch.compileAll identifier request.filters
  return [("q", .string (" ".intercalate (queryWords predicates)))]
    ++ textList "filter" (filterExpressions predicates)
    ++ textList "sort" (request.sort.map SortKey.text)
    ++ Body.optional "limit" .ofNat request.limit
    ++ Body.optional "offset" .ofNat request.offset
    ++ Body.highlight request.highlight
    ++ Body.optional "distinct" .string request.distinct
    ++ Body.facets request.facets
    ++ Body.switch "showRankingScore" request.showScores

/-- Whether a payload leads around the filter compiler. -/
def escapes (payload : SearchPayload) : Bool :=
  payload.vector.isSome || payload.hasAny escapeKeys

/-- The text under `q` in a body. -/
def queryOfBody (body : Fields) : String := ((Fields.get? body "q").bind Json.string?).getD ""

/-- Searches by a payload that has been read from `source`. -/
def searchPayload (policy : Policy) (schema? : Option Schema) (source : Fields)
    (payload : SearchPayload) : Plan :=
  match schema? with
  | none => .nothing
  | some schema =>
    if payload.index = "" then .nothing
    else if escapes payload then
      searchWith policy payload.index (("q", .string payload.query) :: forwarded source)
        payload.query payload.showScores
    else
      match schema.index? payload.index with
      | none => .nothing
      | some descriptor =>
        let request := SearchRequest.ofPayload descriptor.name payload
        match requestBody descriptor.identifier request with
        | .error obstacle => .fail (.unsupported Engine.meilisearch.name obstacle)
        | .ok compiled =>
          let body := Fields.insertAllNew compiled payload.extra
          searchWith policy payload.index body (queryOfBody body) request.showScores

end Metasearch.Meilisearch
