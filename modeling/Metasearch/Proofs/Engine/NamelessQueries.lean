import Metasearch.Proofs.Engine.FloorSafety

set_option autoImplicit false

/-! # Queries without an index are invisible

A query that names no index is passed over. What is sent and what comes back are lists that are
matched by position, and so is the position that Meilisearch writes into the hits it has merged. All
of them count the queries that were sent. So it matters that nothing is matched with the queries as
they were given: a shift by one would judge the hits of one query by the flag of another.

The sources of a search are the image of the queries with an index, in their order. Hence a search
is the same without the others (`multiSearch_indexed`), and what is sent and read off the answer can
be said of the remaining queries alone (`Attributed`). Of a fan-out the same is true for its
entries, whether the queries are taken out of the payload or passed over in it.
-/

namespace Metasearch

open Federation (Entry ExpandsTo Policy admits applyFloor flooredPool termOverlap)

/-- A query names no index. -/
def nameless (query : Fields) : Bool := Alias.indexOf query = ""

theorem indexed_eq_filter (queries : List Fields) :
    indexed queries = queries.filter fun query => !nameless query := by
  simp [indexed, nameless]

/-- Nothing is left to be taken out of the queries that remain. -/
theorem indexed_indexed (queries : List Fields) : indexed (indexed queries) = indexed queries := by
  simp [indexed, List.filter_filter]

/-! ## The same search -/

namespace Searcher

variable (searcher : Searcher) (queries : List Fields) (query : String)
  (federation : FederationSpec) (limit : Nat)

/-- A search is planned by the queries with an index. -/
theorem multiSearchPlan_indexed :
    searcher.multiSearchPlan (indexed queries) query federation limit
      = searcher.multiSearchPlan queries query federation limit := by
  unfold multiSearchPlan
  cases searcher.engine with
  | meilisearch =>
    simp only [Meilisearch.multiSearch, Meilisearch.filterMap_sourceQuery?, indexed_indexed]
  | algolia => simp only [Algolia.multiSearch, Algolia.filterMap_sourceQuery?, indexed_indexed]

/-- **A search is the same without the queries that name no index.** -/
theorem multiSearch_indexed (transport : Transport) (sent : Nat) :
    searcher.multiSearch transport sent (indexed queries) query federation limit
      = searcher.multiSearch transport sent queries query federation limit := by
  rw [multiSearch, multiSearchPlan_indexed, multiSearch]

/-- Without a query there is nothing to ask for. -/
theorem multiSearchPlan_of_nil (h : indexed queries = []) :
    searcher.multiSearchPlan queries query federation limit = .nothing := by
  unfold multiSearchPlan
  cases searcher.engine with
  | meilisearch =>
    simp only [Meilisearch.multiSearch, Meilisearch.filterMap_sourceQuery?, h]
    rfl
  | algolia =>
    simp only [Algolia.multiSearch, Algolia.filterMap_sourceQuery?, h]
    rfl

end Searcher

/-! ## The requests that are sent -/

/-- The key under which a call lists its requests. -/
def Engine.listKey : Engine → String
  | .meilisearch => "queries"
  | .algolia => "requests"

/-- The key under which a request names its index. -/
def Engine.indexKey : Engine → String
  | .meilisearch => "indexUid"
  | .algolia => "indexName"

/-- The key under which a request has its query text. -/
def Engine.textKey : Engine → String
  | .meilisearch => "q"
  | .algolia => "query"

/-- The requests of a call. -/
def requestsIn (engine : Engine) (call : Call) : List Fields :=
  (((call.body.object?.bind fun body => Fields.get? body engine.listKey).bind
    Json.array?).getD []).filterMap Json.object?

/-- **A request for a query**: it has the index and the query text of this query, and if the engine
is to merge the hits the weight of this index. -/
structure RequestFor (engine : Engine) (federation : FederationSpec) (query : String)
    (entry request : Fields) : Prop where
  index : Fields.get? request engine.indexKey = some (.string (Alias.indexOf entry))
  text : Fields.get? request engine.textKey
    = some (.string (if Alias.queryOf entry = "" then query else Alias.queryOf entry))
  weight : engine = .meilisearch → federation.isNative = true →
    Fields.get? request "federationOptions"
      = some (.object [("weight", .ofFloat (federation.weight (Alias.indexOf entry)))])

theorem requestsIn_of_listed {engine : Engine} {body : Fields} {requests : List Fields}
    (h : Fields.get? body engine.listKey = some (.array (requests.map .object))) (path : String) :
    requestsIn engine ⟨path, .object body⟩ = requests := by
  have hitems : (requests.map Json.object).filterMap Json.object? = requests := by
    rw [List.filterMap_map]
    exact List.filterMap_some
  simp only [requestsIn, Json.object?, Option.bind_some, h, Json.array?, Option.getD_some]
  exact hitems

theorem Meilisearch.requestsIn_multiSearchBody (federation : FederationSpec)
    (sources : List SourceQuery) :
    requestsIn .meilisearch ⟨multiSearchPath, .object (multiSearchBody federation sources)⟩
      = sources.map SourceQuery.body := by
  apply requestsIn_of_listed
  rw [List.map_map]
  rfl

theorem Algolia.requestsIn_callOf (requests : List Fields) :
    requestsIn .algolia (callOf requests) = requests := by
  apply requestsIn_of_listed
  rfl

/-- A search makes one call for its queries with an index, and none if there are none. -/
theorem Meilisearch.calls_multiSearch (policy : Policy) (queries : List Fields) (query : String)
    (federation : FederationSpec) (limit : Nat) :
    (multiSearch policy queries query federation limit).calls
      = if indexed queries = [] then []
        else [⟨multiSearchPath, .object (multiSearchBody federation
          ((indexed queries).map (sourceOf federation query)))⟩] := by
  rw [multiSearch, filterMap_sourceQuery?]
  cases indexed queries <;> rfl

theorem Algolia.calls_multiSearch (policy : Policy) (queries : List Fields) (query : String)
    (federation : FederationSpec) (limit : Nat) :
    (multiSearch policy queries query federation limit).calls
      = if indexed queries = [] then []
        else [callOf ((indexed queries).map (requestOf federation query limit))] := by
  rw [multiSearch, filterMap_sourceQuery?]
  cases indexed queries with
  | nil => rfl
  | cons entry entries =>
    simp only [List.map_map]
    rfl

/-- **The requests of a search** are those of its queries with an index, in their order. -/
theorem Meilisearch.requests_multiSearch (policy : Policy) (queries : List Fields) (query : String)
    (federation : FederationSpec) (limit : Nat) :
    (multiSearch policy queries query federation limit).calls.flatMap (requestsIn .meilisearch)
      = (indexed queries).map (bodyOf federation query) := by
  rw [calls_multiSearch]
  split
  · next hnone => rw [hnone]; rfl
  · rw [List.flatMap_singleton, requestsIn_multiSearchBody, List.map_map]
    rfl

theorem Algolia.requests_multiSearch (policy : Policy) (queries : List Fields) (query : String)
    (federation : FederationSpec) (limit : Nat) :
    (multiSearch policy queries query federation limit).calls.flatMap (requestsIn .algolia)
      = (indexed queries).map (requestOf federation query limit) := by
  rw [calls_multiSearch]
  split
  · next hnone => rw [hnone]; rfl
  · rw [List.flatMap_singleton, requestsIn_callOf]

theorem Meilisearch.requestFor_bodyOf (federation : FederationSpec) (query : String)
    (entry : Fields) :
    RequestFor .meilisearch federation query entry (bodyOf federation query entry) := by
  constructor
  · simp [bodyOf, Fields.get?_cons, Engine.indexKey]
  · simp [bodyOf, Fields.get?_cons, Engine.textKey]
  · intro _ hnative
    have hforwarded : Fields.get? (forwarded (federation.applyDefaults entry)) "federationOptions"
        = none := by
      rw [get?_forwarded, if_neg (by decide)]
    rw [bodyOf, Fields.get?_append, Fields.get?_append, hforwarded, if_pos hnative]
    rfl

/-- What an entry is given a name for stays in its request. -/
theorem Algolia.get?_requestOf_of_named {entry : Fields} (hdistinct : Fields.Distinct entry)
    (federation : FederationSpec) (query : String) (limit : Nat) {key : String} {value : Json}
    (hlimit : key ≠ "limit") (hpage : key ≠ "hitsPerPage")
    (h : Fields.get? (named query entry) key = some value) :
    Fields.get? (requestOf federation query limit entry) key = some value := by
  rw [get?_requestOf_of_ne hdistinct federation query limit hlimit hpage, h, Option.some_or]

theorem Algolia.requestFor_requestOf {entry : Fields} (hdistinct : Fields.Distinct entry)
    (federation : FederationSpec) (query : String) (limit : Nat) :
    RequestFor .algolia federation query entry (requestOf federation query limit entry) := by
  constructor
  · apply get?_requestOf_of_named hdistinct federation query limit (by decide) (by decide)
    simp [named, Engine.indexKey, Fields.get?_insert]
  · apply get?_requestOf_of_named hdistinct federation query limit (by decide) (by decide)
    simp [named, Engine.textKey, Fields.get?_insert]
  · intro hengine
    cases hengine

/-! ## What is read off the answer -/

/-- The index whose weight a result counts with: Meilisearch names it in the result, and with
Algolia it is that of the query. -/
def weighedAs (engine : Engine) (entry : Fields) (result : Json) : String :=
  match engine with
  | .meilisearch =>
    ((result.object?.bind fun entries => Fields.get? entries "indexUid").bind Json.string?).getD ""
  | .algolia => Alias.indexOf entry

/-- The pool of a query by its result: the hits found that pass the floor of this query. -/
def poolFor (engine : Engine) (minimum : Float) (federation : FederationSpec) (entry : Fields)
    (result : Json) : RankedPool :=
  ⟨weighedAs engine entry result,
    applyFloor minimum (Alias.wantsScores (federation.applyDefaults entry))
      (Hit.listOfAnswer engine.rankingOf result)⟩

/-- **A call and what is read off its answer belong to the queries with an index**: each request is
for the query at its position, each result is judged with the flag of the query at its position,
and a merged hit with that of the query at the position it names. -/
structure Attributed (searcher : Searcher) (queries : List Fields) (query : String)
    (federation : FederationSpec) (limit : Nat) (call : Call) (read : Json → List Hit) : Prop where
  requests : List.Forall₂ (RequestFor searcher.engine federation query) (indexed queries)
    (requestsIn searcher.engine call)
  blended : (searcher.engine = .meilisearch → federation.isNative = false) → ∀ answer,
    read answer = searcher.policy.refine query false (Federation.blend federation limit
      (List.zipWith (poolFor searcher.engine searcher.policy.minimum federation) (indexed queries)
        (searcher.engine.resultsOf answer)))
  merged : searcher.engine = .meilisearch → federation.isNative = true → ∀ answer,
    read answer = searcher.policy.refine query false
      ((hitsOf .meilisearch answer).filter fun hit =>
        admits searcher.policy.minimum (originFlag federation queries hit) hit)

section Attribution

variable (policy : Policy) (timeout : Nat) (queries : List Fields) (query : String)
  (federation : FederationSpec) (limit : Nat)

theorem Meilisearch.zipWith_poolOf (results : List Json) :
    List.zipWith (poolOf policy) results ((indexed queries).map (sourceOf federation query))
      = List.zipWith (poolFor .meilisearch policy.minimum federation) (indexed queries)
        results := by
  have hpool : ∀ entry result, poolOf policy result (sourceOf federation query entry)
      = poolFor .meilisearch policy.minimum federation entry result := by
    intro entry result
    cases result <;> rfl
  rw [List.zipWith_comm, List.zipWith_map_left]
  simp only [hpool]

theorem Algolia.zipWith_poolOf {queries : List Fields}
    (hdistinct : ∀ entry ∈ indexed queries, Fields.Distinct entry) (results : List Json) :
    List.zipWith (poolOf policy) ((indexed queries).map (sourceOf federation query limit)) results
      = List.zipWith (poolFor .algolia policy.minimum federation) (indexed queries) results := by
  rw [List.zipWith_map_left, ← List.forall₂_eq_eq_eq]
  apply forall₂_zipWith
  intro entry hentry result
  -- the flag is read off the finished request
  rw [poolFor, ← wantsScores_requestOf (hdistinct entry hentry) federation query limit]
  rfl

variable {queries} (hsome : indexed queries ≠ [])

include hsome

theorem attributed_meilisearch :
    ∃ call read, Meilisearch.multiSearch policy queries query federation limit = .ask call read
      ∧ Attributed ⟨.meilisearch, policy, timeout⟩ queries query federation limit call read := by
  have hsources : ((indexed queries).map (Meilisearch.sourceOf federation query)).isEmpty
      = false := by
    simpa using hsome
  rw [Meilisearch.multiSearch, Meilisearch.filterMap_sourceQuery?]
  simp only [hsources, Bool.false_eq_true, if_false]
  refine ⟨_, _, rfl, ?_⟩
  constructor
  · rw [Meilisearch.requestsIn_multiSearchBody, List.map_map, List.forall₂_map_right_iff,
      List.forall₂_same]
    exact fun entry _ => Meilisearch.requestFor_bodyOf federation query entry
  · intro hlocal answer
    simp only [hlocal rfl, Meilisearch.blendedHits, Meilisearch.zipWith_poolOf]
    rfl
  · intro _ hnative answer
    simp only [hnative, if_true, Meilisearch.mergedHits, showsScores_eq_originFlag]
    rfl

theorem attributed_algolia (hdistinct : ∀ entry ∈ queries, Fields.Distinct entry) :
    ∃ call read, Algolia.multiSearch policy queries query federation limit = .ask call read
      ∧ Attributed ⟨.algolia, policy, timeout⟩ queries query federation limit call read := by
  have hremaining : ∀ entry ∈ indexed queries, Fields.Distinct entry :=
    fun entry hentry => hdistinct entry (List.mem_of_mem_filter hentry)
  have hsources : ((indexed queries).map (Algolia.sourceOf federation query limit)).isEmpty
      = false := by
    simpa using hsome
  rw [Algolia.multiSearch, Algolia.filterMap_sourceQuery?]
  simp only [hsources, Bool.false_eq_true, if_false]
  refine ⟨_, _, rfl, ?_⟩
  constructor
  · rw [Algolia.requestsIn_callOf, List.map_map, List.forall₂_map_right_iff, List.forall₂_same]
    exact fun entry hentry =>
      Algolia.requestFor_requestOf (hremaining entry hentry) federation query limit
  · intro _ answer
    rw [Algolia.zipWith_poolOf policy query federation limit hremaining]
    rfl
  · intro hengine
    cases hengine

end Attribution

/-! ## Payloads over several indexes -/

namespace Federation

theorem without_nameless (payload : FederatedPayload) :
    payload.without nameless = { payload with queries := indexed payload.queries } := by
  rw [FederatedPayload.without, indexed_eq_filter]

/-- **The entries are those of the queries with an index.** -/
theorem entriesOf_without_nameless (payload : FederatedPayload) :
    entriesOf (payload.without nameless) = entriesOf payload := by
  show (payload.queries.filter fun query => !nameless query).filterMap (entryOf? payload) = _
  rw [entriesOf, List.filterMap_filter]
  congr 1
  funext query
  by_cases hindex : Alias.indexOf query = ""
  · simp [nameless, hindex, entryOf?_eq_none_iff.mpr hindex]
  · simp [nameless, hindex]

theorem entriesOf_of_nil {payload : FederatedPayload} (h : indexed payload.queries = []) :
    entriesOf payload = [] := by
  have hentries := expandsTo_entriesOf payload
  rw [h] at hentries
  exact List.forall₂_nil_left_iff.mp hentries

theorem ExpandsTo.index_eq {payload : FederatedPayload} {query : Fields} {entry : Entry}
    (h : ExpandsTo payload query entry) : entry.index = Alias.indexOf query := by
  obtain ⟨single, hexpand, _⟩ := h
  exact FederatedPayload.index_of_expand hexpand

theorem federatePayload_without_nameless (search : Fields → Timed (List Hit)) (deadline : Nat)
    (minimum : Float) (payload : FederatedPayload) :
    federatePayload search deadline minimum (payload.without nameless)
      = federatePayload search deadline minimum payload := by
  rw [federatePayload, entriesOf_without_nameless]
  rfl

theorem federate_withoutQueries_nameless (search : Fields → Timed (List Hit)) (deadline : Nat)
    (minimum : Float) (json : Json) :
    federate search deadline minimum (json.withoutQueries nameless)
      = federate search deadline minimum json := by
  rw [federate, FederatedPayload.ofJson_withoutQueries, federate]
  cases FederatedPayload.ofJson json with
  | error failure => rfl
  | ok payload => exact federatePayload_without_nameless search deadline minimum payload

end Federation

theorem Searcher.multiSearchFromJson_withoutQueries_nameless (searcher : Searcher)
    (schema? : Option Schema) (transport : Transport) (sent : Nat) (json : Json) :
    searcher.multiSearchFromJson schema? transport sent (json.withoutQueries nameless)
      = searcher.multiSearchFromJson schema? transport sent json := by
  rw [multiSearchFromJson, FederatedPayload.ofJson_withoutQueries, multiSearchFromJson]
  cases FederatedPayload.ofJson json with
  | error failure => rfl
  | ok payload =>
    simp only [Except.map, Federation.entriesOf_without_nameless]
    rfl

/-- **The searches of a fan-out belong to the queries with an index**: each stands for the query at
its position, and its hits are judged with its own flag and count with the weight of the index of
this query. -/
structure AttributedEntries (payload : FederatedPayload) : Prop where
  entries : List.Forall₂ (fun query entry => ExpandsTo payload query entry
      ∧ entry.index = Alias.indexOf query) (indexed payload.queries) (Federation.entriesOf payload)
  flags : ∀ entry ∈ Federation.entriesOf payload,
    entry.showScores = Alias.wantsScores entry.payload
  page : ∀ search deadline minimum hits,
    Federation.federatePayload search deadline minimum payload = .ok hits →
      hits = Federation.blend payload.federation payload.limit
        ((Federation.entriesOf payload).map fun entry =>
          flooredPool minimum (entry, (search entry.payload).within deadline))

theorem attributedEntries (payload : FederatedPayload) : AttributedEntries payload := by
  constructor
  · exact (Federation.expandsTo_entriesOf payload).imp fun query entry h => ⟨h, h.index_eq⟩
  · exact fun entry hentry => Searcher.showScores_of_mem_entriesOf hentry
  · intro search deadline minimum hits h
    have hpage := Federation.eq_blend_of_gather h
    rwa [List.map_map] at hpage

/-! ## All searches over several indexes -/

/-- **Queries without an index are invisible.** For every engine, schema and transport:

* a search over a list of queries is the same, in what is sent and what is returned, without the
  queries that name no index; if none remains, nothing is sent and nothing found; else what is sent
  and what is read off the answer belongs to the remaining queries, position by position;
* the same is true of the queries of a federated payload, for any provider of single searches. -/
theorem nameless_queries_are_invisible (searcher : Searcher) (schema? : Option Schema)
    (transport : Transport) (sent : Nat) :
    (∀ queries query federation limit,
      searcher.multiSearch transport sent (indexed queries) query federation limit
          = searcher.multiSearch transport sent queries query federation limit
        ∧ (indexed queries = [] →
          searcher.multiSearch transport sent queries query federation limit = ⟨[], .ok []⟩)
        ∧ (indexed queries ≠ [] → (∀ entry ∈ queries, Fields.Distinct entry) →
          ∃ call read, searcher.multiSearchPlan queries query federation limit = .ask call read
            ∧ Attributed searcher queries query federation limit call read))
    ∧ ∀ json,
      (∀ search deadline minimum,
        Federation.federate search deadline minimum (json.withoutQueries nameless)
          = Federation.federate search deadline minimum json)
      ∧ searcher.multiSearchFromJson schema? transport sent (json.withoutQueries nameless)
        = searcher.multiSearchFromJson schema? transport sent json
      ∧ ∀ payload, FederatedPayload.ofJson json = .ok payload →
        FederatedPayload.ofJson (json.withoutQueries nameless)
            = .ok { payload with queries := indexed payload.queries }
          ∧ Federation.entriesOf { payload with queries := indexed payload.queries }
            = Federation.entriesOf payload
          ∧ AttributedEntries payload
          ∧ (indexed payload.queries = [] → Federation.entriesOf payload = []
            ∧ (∀ search deadline minimum,
              Federation.federate search deadline minimum json = .ok [])
            ∧ searcher.multiSearchFromJson schema? transport sent json = ⟨[], .ok []⟩) := by
  constructor
  · intro queries query federation limit
    refine ⟨searcher.multiSearch_indexed queries query federation limit transport sent, ?_, ?_⟩
    · intro hnone
      have hplan := searcher.multiSearchPlan_of_nil queries query federation limit hnone
      rw [Searcher.multiSearch, hplan]
      rfl
    · intro hsome hdistinct
      obtain ⟨engine, policy, timeout⟩ := searcher
      cases engine with
      | meilisearch => exact attributed_meilisearch policy timeout query federation limit hsome
      | algolia => exact attributed_algolia policy timeout query federation limit hsome hdistinct
  · intro json
    refine ⟨fun search deadline minimum =>
        Federation.federate_withoutQueries_nameless search deadline minimum json,
      searcher.multiSearchFromJson_withoutQueries_nameless schema? transport sent json, ?_⟩
    intro payload hread
    rw [← Federation.without_nameless]
    refine ⟨?_, Federation.entriesOf_without_nameless payload, attributedEntries payload, ?_⟩
    · rw [FederatedPayload.ofJson_withoutQueries, hread]
      rfl
    · intro hnone
      have hentries := Federation.entriesOf_of_nil hnone
      refine ⟨hentries, fun search deadline minimum => ?_, ?_⟩
      · simp only [Federation.federate, hread, Federation.federatePayload, hentries]
        rfl
      · simp only [Searcher.multiSearchFromJson, hread, hentries]
        rfl

/-- The query without an index in front of two others is not sent, and what is found belongs to the
others in their order. -/
theorem lost_query_is_invisible :
    (keenSearcher .algolia).multiSearch mixedTransport 0 mixedQueries.tail "" tenMerged 20
        = (keenSearcher .algolia).multiSearch mixedTransport 0 mixedQueries "" tenMerged 20
      ∧ ∃ call read,
        (keenSearcher .algolia).multiSearchPlan mixedQueries "" tenMerged 20 = .ask call read
          ∧ Attributed (keenSearcher .algolia) mixedQueries "" tenMerged 20 call read
          ∧ (requestsIn .algolia call).length = 2 := by
  have hindexed : indexed mixedQueries = mixedQueries.tail := rfl
  have hdistinct : ∀ entry ∈ mixedQueries, Fields.Distinct entry := by decide
  obtain ⟨hlists, _⟩ :=
    nameless_queries_are_invisible (keenSearcher .algolia) (some bookshelf) mixedTransport 0
  obtain ⟨hsame, _, hsome⟩ := hlists mixedQueries "" tenMerged 20
  rw [hindexed] at hsame hsome
  obtain ⟨call, read, hplan, hattributed⟩ := hsome (by simp [mixedQueries]) hdistinct
  refine ⟨hsame, call, read, hplan, hattributed, ?_⟩
  have hlength := hattributed.requests.length_eq
  rw [hindexed] at hlength
  exact hlength.symm

end Metasearch
