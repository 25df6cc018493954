import Metasearch.Proofs.Engine.DeclaredFilters
import Metasearch.Proofs.Engine.Sources
import Metasearch.Proofs.Federation.Isolation
import Metasearch.Proofs.Federation.Provenance
import Metasearch.Proofs.Federation.Scores

set_option autoImplicit false

/-! # Pages of a search over several indexes

What a page is made of when every index has a fixed ranked list and each search gets the
beginning of its list. A fan-out and a search over several indexes with Algolia ask each index
for as many hits as the page is long, whatever the offset. So the list that they page through
lacks all hits of that rank or greater (`pages_of_prefixes`): the first page is right, and a
later one may end too early or hold the wrong hits (`later_page_is_short`). A depth of the
offset and the page size together would do, by `blend_cutAt_of_le`.
-/

namespace Metasearch

/-- The whole lists of the indexes that some queries name, in the order of the queries. -/
def wholePools (library : String → List Hit) (queries : List Fields) : List RankedPool :=
  (indexed queries).map fun query => ⟨Alias.indexOf query, library (Alias.indexOf query)⟩

/-- A query that leaves the page size to the search as a whole. -/
structure Unpaged (query : Fields) : Prop where
  distinct : Fields.Distinct query
  limit : Fields.get? query "limit" = none
  hitsPerPage : Fields.get? query "hitsPerPage" = none

/-- All weights are finite and none is negative. -/
def FederationSpec.Weighted (spec : FederationSpec) : Prop :=
  ∀ index, (spec.weight index).isFinite = true ∧ 0 ≤ spec.weight index

/-- The page of the merge of some pools without the hits of a rank or greater. -/
def shallowPage (spec : FederationSpec) (fallback depth : Nat) (pools : List RankedPool) :
    List Hit :=
  ((((Federation.rankedMerge spec pools).filter fun ranked => ranked.2 < depth).map
    Prod.fst).drop (spec.offset.getD 0)).take (spec.pageSize fallback)

/-! ## The fan-out -/

namespace Federation

/-- A search over ranked lists: in time, it answers a payload that asks for a number of hits
with that many hits from the beginning of its index's list. -/
def Serves (library : String → List Hit) (deadline : Nat)
    (search : Fields → Timed (List Hit)) : Prop :=
  ∀ payload count, Fields.get? payload "limit" = some (.ofNat count) →
    (search payload).within deadline = .ok ((library (Alias.indexOf payload)).take count)

/-- Searches that all succeed, without asking for scores, give a pool each. -/
theorem gather_ok {minimum : Float} {payload : FederatedPayload} {entries : List Entry}
    {found : Entry → List Hit} (hhidden : ∀ entry ∈ entries, entry.showScores = false) :
    gather minimum payload (entries.map fun entry => (entry, .ok (found entry)))
      = .ok (blend payload.federation payload.limit
          (entries.map fun entry => ⟨entry.index, found entry⟩)) := by
  have hpools : (entries.map fun entry =>
        ((entry, .ok (found entry)) : Entry × Except Failure (List Hit))).map (flooredPool minimum)
      = entries.map fun entry => ⟨entry.index, found entry⟩ := by
    rw [List.map_map]
    refine List.map_congr_left fun entry hentry => ?_
    show (⟨entry.index, applyFloor minimum entry.showScores (found entry)⟩ : RankedPool) = _
    rw [hhidden entry hentry, applyFloor_of_hidden]
  rw [gather_of_not_fatal, hpools]
  intro result hresult
  obtain ⟨entry, _, rfl⟩ := List.mem_map.mp hresult
  rfl

/-- What an entry of an unpaged query asks for. -/
theorem asks_of_entryOf? {payload : FederatedPayload} {query : Fields} (hquery : Unpaged query)
    {entry : Entry} (h : entryOf? payload query = some entry) :
    Fields.get? entry.payload "limit" = some (.ofNat payload.limit) := by
  obtain ⟨⟨index, single⟩, hexpand, rfl⟩ := Option.map_eq_some_iff.mp h
  have hlimit := FederatedPayload.get?_expand hquery.distinct hexpand "limit"
  have hown : payload.entryLimit query = payload.limit := by
    rw [FederatedPayload.entryLimit, hquery.limit, hquery.hitsPerPage]
    rfl
  rw [if_pos rfl, hown] at hlimit
  dsimp only
  split
  · rw [get?_requestScores single (by decide), hlimit]
  · exact hlimit

/-- A fan-out over ranked lists blends their beginnings. -/
theorem federatePayload_eq {library : String → List Hit} {deadline : Nat}
    {search : Fields → Timed (List Hit)} (hserves : Serves library deadline search)
    (minimum : Float) {payload : FederatedPayload}
    (hqueries : ∀ query ∈ payload.queries, Unpaged query)
    (hhidden : ∀ entry ∈ entriesOf payload, entry.showScores = false) :
    federatePayload search deadline minimum payload
      = .ok (blend payload.federation payload.limit
          ((wholePools library payload.queries).map (cutAt payload.limit))) := by
  have hpools : (entriesOf payload).map (fun entry =>
      (⟨entry.index, (library entry.index).take payload.limit⟩ : RankedPool))
      = (wholePools library payload.queries).map (cutAt payload.limit) := by
    rw [entriesOf, List.map_filterMap, wholePools, List.map_map]
    apply filterMap_eq_map_indexed
    intro query
    by_cases hindex : Alias.indexOf query = ""
    · rw [entryOf?_eq_none_iff.mpr hindex, if_pos hindex]
      rfl
    · obtain ⟨entry, hentry⟩ := Option.ne_none_iff_exists'.mp (mt entryOf?_eq_none_iff.mp hindex)
      rw [hentry, if_neg hindex, Option.map_some, index_of_entryOf? hentry]
      rfl
  have hfound : ∀ entry ∈ entriesOf payload, (search entry.payload).within deadline
      = .ok ((library entry.index).take payload.limit) := by
    intro entry hentry
    obtain ⟨query, hquery, hturn⟩ := List.mem_filterMap.mp hentry
    have hplain := hqueries query hquery
    rw [hserves _ _ (asks_of_entryOf? hplain hturn),
      (alike_of_entryOf? hplain.distinct hturn).index, index_of_entryOf? hturn]
  rw [federatePayload, List.map_congr_left fun entry hentry => by rw [hfound entry hentry],
    gather_ok hhidden, hpools]

end Federation

/-! ## Several indexes with Algolia -/

namespace Algolia

/-- A transport to an engine with ranked lists: it answers each request for a page of an index
with that many hits from the beginning of the index's list. -/
def Serves (library : String → List Hit) (transport : Transport) : Prop :=
  ∀ number requests, ∃ answer, (transport number (callOf requests)).result = .ok answer
    ∧ List.Forall₂ (fun request result => ∀ index count,
        Fields.get? request "indexName" = some (.string index) →
        Fields.get? request "hitsPerPage" = some (.ofNat count) →
        Hit.listOfAnswer rankingOf result = (library index).take count)
      requests (resultsOf answer)

/-- What the request of an unpaged query asks for. -/
theorem asks_of_unpaged {federation : FederationSpec}
    (hshared : Fields.get? federation.extra "hitsPerPage" = none) {entry : Fields}
    (hentry : Unpaged entry) (query : String) (limit : Nat) :
    Fields.get? (requestOf federation query limit entry) "indexName"
        = some (.string (Alias.indexOf entry))
      ∧ Fields.get? (requestOf federation query limit entry) "hitsPerPage"
        = some (.ofNat (federation.pageSize limit)) := by
  have hlimit : Fields.get? (named query entry) "limit" = none :=
    (get?_named hentry.distinct query (by decide)).trans hentry.limit
  have hpage : Fields.get? (named query entry) "hitsPerPage" = none :=
    (get?_named hentry.distinct query (by decide)).trans hentry.hitsPerPage
  have hname : Fields.get? (named query entry) "indexName"
      = some (.string (Alias.indexOf entry)) := by
    rw [named, Fields.get?_insert, if_neg (by decide), Fields.get?_insert, if_pos rfl]
  have hrenamed : renameLimit (named query entry) = named query entry := by
    rw [renameLimit, hlimit]
  rw [requestOf, hrenamed, FederationSpec.applyDefaults]
  constructor
  · rw [Fields.get?_insertNew, Fields.get?_insertAllNew, hname]
    rfl
  · rw [Fields.get?_insertNew, Fields.get?_insertAllNew, hpage, hshared]
    rfl

theorem pools_of_answer {library : String → List Hit} (policy : Federation.Policy) {count : Nat}
    {sources : List SourceQuery} {results : List Json}
    (hhidden : ∀ source ∈ sources, source.showScores = false)
    (hasks : ∀ source ∈ sources,
      Fields.get? source.request "indexName" = some (.string source.index)
        ∧ Fields.get? source.request "hitsPerPage" = some (.ofNat count))
    (hanswer : List.Forall₂ (fun request result => ∀ index count,
        Fields.get? request "indexName" = some (.string index) →
        Fields.get? request "hitsPerPage" = some (.ofNat count) →
        Hit.listOfAnswer rankingOf result = (library index).take count)
      (sources.map SourceQuery.request) results) :
    List.zipWith (poolOf policy) sources results
      = sources.map fun source => ⟨source.index, (library source.index).take count⟩ := by
  induction sources generalizing results with
  | nil => rfl
  | cons source sources ih =>
    obtain ⟨hsource, hsources⟩ := List.forall_mem_cons.mp hhidden
    obtain ⟨⟨hindex, hcount⟩, hrest⟩ := List.forall_mem_cons.mp hasks
    cases hanswer with
    | cons hresult hresults =>
      rw [List.zipWith_cons_cons, List.map_cons, ih hsources hrest hresults, poolOf,
        hresult _ _ hindex hcount, hsource, Federation.applyFloor_of_hidden]

/-- A search over an engine with ranked lists blends their beginnings. -/
theorem multiSearch_eq {library : String → List Hit} {transport : Transport}
    (hserves : Serves library transport) (policy : Federation.Policy) (sent : Nat)
    {queries : List Fields} (query : String) {federation : FederationSpec} (limit : Nat)
    (hqueries : ∀ query ∈ queries, Unpaged query)
    (hshared : Fields.get? federation.extra "hitsPerPage" = none)
    (hhidden : ∀ source ∈ queries.filterMap (sourceQuery? federation query limit),
      source.showScores = false) :
    ((multiSearch policy queries query federation limit).run transport sent).result
      = .ok (if (wholePools library queries).isEmpty then []
          else policy.refine query false (Federation.blend federation limit
            ((wholePools library queries).map
              (Federation.cutAt (federation.pageSize limit))))) := by
  rw [filterMap_sourceQuery?] at hhidden
  have hpools : ((indexed queries).map (sourceOf federation query limit)).map (fun source =>
      (⟨source.index, (library source.index).take (federation.pageSize limit)⟩ : RankedPool))
      = (wholePools library queries).map (Federation.cutAt (federation.pageSize limit)) := by
    rw [List.map_map, wholePools, List.map_map]
    rfl
  have hasks : ∀ source ∈ (indexed queries).map (sourceOf federation query limit),
      Fields.get? source.request "indexName" = some (.string source.index)
        ∧ Fields.get? source.request "hitsPerPage" = some (.ofNat (federation.pageSize limit)) := by
    intro source hsource
    obtain ⟨entry, hentry, rfl⟩ := List.mem_map.mp hsource
    exact asks_of_unpaged hshared (hqueries entry (List.mem_of_mem_filter hentry)) query limit
  unfold multiSearch
  rw [filterMap_sourceQuery?]
  dsimp only
  generalize (indexed queries).map (sourceOf federation query limit) = sources at *
  have hempty : sources.isEmpty = (wholePools library queries).isEmpty := by
    have hlength := congrArg List.isEmpty hpools
    rwa [List.isEmpty_map, List.isEmpty_map] at hlength
  rw [hempty]
  split
  · rfl
  · obtain ⟨answer, hanswer, hresults⟩ := hserves sent (sources.map SourceQuery.request)
    rw [Plan.run, hanswer, ← hpools, ← pools_of_answer policy hhidden hasks hresults]
    rfl

end Algolia

/-! ## Pages -/

theorem FederationSpec.pageSize_pageSize (spec : FederationSpec) (fallback : Nat) :
    spec.pageSize (spec.pageSize fallback) = spec.pageSize fallback := by
  unfold pageSize
  cases spec.limit <;> rfl

/-- The page that is cut from pools of the depth of the page size. -/
theorem blend_cutAt_pageSize {spec : FederationSpec} (hweights : spec.Weighted)
    (fallback : Nat) (pools : List RankedPool) :
    Federation.blend spec fallback (pools.map (Federation.cutAt (spec.pageSize fallback)))
        = shallowPage spec fallback (spec.pageSize fallback) pools
      ∧ (spec.offset.getD 0 = 0 →
        Federation.blend spec fallback (pools.map (Federation.cutAt (spec.pageSize fallback)))
          = Federation.blend spec fallback pools) := by
  have hcomparable : TotalPreorderOn Federation.scoreAtLeast (Federation.scoredHits spec pools) :=
    Federation.totalPreorderOn_scoredHits fun pool _ => (hweights pool.index).1
  have hfalling : ∀ pool ∈ pools, Federation.Falling spec pool := fun pool _ =>
    (Federation.descends_of_nonneg (hweights pool.index).1 (hweights pool.index).2).falling
  refine ⟨Federation.blend_cutAt hcomparable fallback _, fun hfirst => ?_⟩
  apply Federation.blend_cutAt_of_le hcomparable hfalling
  rw [hfirst, Nat.zero_add]

/-- **A page is cut from the merge without the hits beyond the page size.** Each index holds a
ranked list and gives as many hits from its beginning as it is asked for; the queries leave the
page size to the whole, no scores are asked for, and no weight is negative. Then a fan-out, and
a search over several indexes with Algolia before the hits are judged again, page through the
merge of the whole lists *from which all hits are missing whose rank is the page size or
greater*. The page that starts at the beginning is that of the whole lists. -/
theorem pages_of_prefixes (library : String → List Hit) :
    (∀ deadline search minimum payload, Federation.Serves library deadline search →
      (∀ query ∈ payload.queries, Unpaged query) →
      (∀ entry ∈ Federation.entriesOf payload, entry.showScores = false) →
      payload.federation.Weighted →
      let pools := wholePools library payload.queries
      let result := Federation.federatePayload search deadline minimum payload
      result = .ok (shallowPage payload.federation payload.limit payload.limit pools)
        ∧ (payload.federation.offset.getD 0 = 0 →
          result = .ok (Federation.blend payload.federation payload.limit pools)))
    ∧ (∀ (searcher : Searcher) transport sent queries query federation limit,
      searcher.engine = .algolia → Algolia.Serves library transport →
      (∀ query ∈ queries, Unpaged query) →
      Fields.get? federation.extra "hitsPerPage" = none →
      (∀ source ∈ queries.filterMap (Algolia.sourceQuery? federation query limit),
        source.showScores = false) →
      federation.Weighted →
      let pools := wholePools library queries
      let judged := fun hits =>
        if pools.isEmpty then [] else searcher.policy.refine query false hits
      let result := (searcher.multiSearch transport sent queries query federation limit).result
      result = .ok (judged (shallowPage federation limit (federation.pageSize limit) pools))
        ∧ (federation.offset.getD 0 = 0 →
          result = .ok (judged (Federation.blend federation limit pools)))) := by
  constructor
  · intro deadline search minimum payload hserves hqueries hhidden hweights pools result
    have hresult : result = .ok (Federation.blend payload.federation payload.limit
        (pools.map (Federation.cutAt payload.limit))) :=
      Federation.federatePayload_eq hserves minimum hqueries hhidden
    obtain ⟨hpage, hfirst⟩ := blend_cutAt_pageSize hweights payload.limit pools
    have hdepth : payload.federation.pageSize payload.limit = payload.limit :=
      payload.federation.pageSize_pageSize _
    rw [hdepth] at hpage hfirst
    exact ⟨by rw [hresult, hpage], fun hoffset => by rw [hresult, hfirst hoffset]⟩
  · intro searcher transport sent queries query federation limit hengine hserves hqueries hshared
      hhidden hweights pools judged result
    have hresult : result = .ok (judged (Federation.blend federation limit
        (pools.map (Federation.cutAt (federation.pageSize limit))))) := by
      have hplan : searcher.multiSearchPlan queries query federation limit
          = Algolia.multiSearch searcher.policy queries query federation limit := by
        rw [Searcher.multiSearchPlan, hengine]
      show ((searcher.multiSearchPlan queries query federation limit).run transport sent).result = _
      rw [hplan]
      exact Algolia.multiSearch_eq hserves searcher.policy sent query limit hqueries hshared hhidden
    obtain ⟨hpage, hfirst⟩ := blend_cutAt_pageSize hweights limit pools
    exact ⟨by rw [hresult, hpage], fun hoffset => by rw [hresult, hfirst hoffset]⟩

/-! ### A shelf of two books -/

/-- The ranked list of the only index. -/
def twoBooks (index : String) : List Hit :=
  if index = "books" then [Federation.hitOf "first", Federation.hitOf "second"] else []

/-- A search over ranked lists that takes no time. -/
def serving (library : String → List Hit) (payload : Fields) : Timed (List Hit) :=
  ⟨0, .ok ((library (Alias.indexOf payload)).take
    (((Fields.get? payload "limit").bind Json.natural?).getD 0))⟩

theorem serves_serving (library : String → List Hit) (deadline : Nat) :
    Federation.Serves library deadline (serving library) := by
  intro payload count hcount
  rw [Timed.within, serving, hcount]
  rfl

/-- The answer to a request for a page of a ranked list. -/
def pageOf (library : String → List Hit) (request : Fields) : Json :=
  let index := ((Fields.get? request "indexName").bind Json.string?).getD ""
  let count := ((Fields.get? request "hitsPerPage").bind Json.natural?).getD 0
  .object [("hits", .array (((library index).take count).map fun hit => .object hit.fields))]

/-- The requests that a call carries. -/
def requestsOf : Json → List Fields
  | .object entries =>
    (((Fields.get? entries "requests").bind Json.array?).getD []).filterMap Json.object?
  | _ => []

/-- A transport to an engine with ranked lists. -/
def answeringPages (library : String → List Hit) : Transport := fun _ call =>
  ⟨0, .ok (.object [("results", .array ((requestsOf call.body).map (pageOf library)))])⟩

/-- The hits are read off their own documents. -/
theorem twoBooks_ofJson (index : String) :
    ∀ hit ∈ twoBooks index, Hit.ofJson? Algolia.rankingOf (.object hit.fields) = some hit := by
  intro hit hhit
  unfold twoBooks at hhit
  split at hhit
  · simp only [List.mem_cons, List.not_mem_nil, or_false] at hhit
    rcases hhit with rfl | rfl <;> rfl
  · cases hhit

theorem serves_answeringPages : Algolia.Serves twoBooks (answeringPages twoBooks) := by
  intro number requests
  have hrequests : requestsOf (Algolia.callOf requests).body = requests := by
    show (requests.map Json.object).filterMap Json.object? = requests
    rw [List.filterMap_map]
    exact List.filterMap_some
  refine ⟨_, rfl, ?_⟩
  rw [hrequests]
  show List.Forall₂ _ requests (requests.map (pageOf twoBooks))
  rw [List.forall₂_map_right_iff, List.forall₂_same]
  intro request _ index count hindex hcount
  rw [pageOf, hindex, hcount]
  show (((twoBooks index).take count).map fun hit => Json.object hit.fields).filterMap
    (Hit.ofJson? Algolia.rankingOf) = (twoBooks index).take count
  have hread : ∀ hit ∈ (twoBooks index).take count,
      (Hit.ofJson? Algolia.rankingOf ∘ fun hit => Json.object hit.fields) hit = some hit :=
    fun hit hhit => twoBooks_ofJson index hit (List.mem_of_mem_take hhit)
  rw [List.filterMap_map, List.filterMap_congr hread]
  exact List.filterMap_some

/-- A query for books. -/
def forBooks : List Fields := [[("index", .string "books")]]

/-- Pages of one hit, from a position on. -/
def pageOfOne (offset : Nat) : FederationSpec :=
  { FederationSpec.empty with limit := some 1, offset := some offset }

def bookPayload (offset : Nat) : FederatedPayload := ⟨"", forBooks, pageOfOne offset⟩

theorem unpaged_forBooks : ∀ query ∈ forBooks, Unpaged query := by
  intro query hquery
  obtain rfl := List.mem_singleton.mp hquery
  exact ⟨by decide, rfl, rfl⟩

theorem weighted_pageOfOne (offset : Nat) : (pageOfOne offset).Weighted := fun _ => by
  show (1.0 : Float).isFinite = true ∧ (0 : Float) ≤ 1.0
  decide

/-- The first book at the score of the first rank. -/
def firstBook : Hit := (Federation.hitOf "first").setScore 1.0

/-- The second book at the score of the second rank. -/
def secondBook : Hit := (Federation.hitOf "second").setScore 0.5

theorem merged_twoBooks (offset : Nat) :
    Federation.merged (pageOfOne offset) (wholePools twoBooks forBooks)
      = [firstBook, secondBook] :=
  Federation.merged_pair rfl _ _

/-- The first page is the first book, with either way to search. -/
theorem first_page_is_first_book :
    Federation.Serves twoBooks 1000 (serving twoBooks)
      ∧ Algolia.Serves twoBooks (answeringPages twoBooks)
      ∧ Federation.federatePayload (serving twoBooks) 1000 0 (bookPayload 0) = .ok [firstBook]
      ∧ ((searcherOf .algolia).multiSearch (answeringPages twoBooks) 0 forBooks "" (pageOfOne 0)
          20).result = .ok [firstBook] := by
  obtain ⟨hfanout, halgolia⟩ := pages_of_prefixes twoBooks
  have hpage : ∀ fallback, Federation.blend (pageOfOne 0) fallback (wholePools twoBooks forBooks)
      = [firstBook] := by
    intro fallback
    rw [Federation.blend, merged_twoBooks]
    rfl
  refine ⟨serves_serving twoBooks 1000, serves_answeringPages, ?_, ?_⟩
  · have hhidden : ∀ entry ∈ Federation.entriesOf (bookPayload 0), entry.showScores = false := by
      decide
    obtain ⟨_, hfirst⟩ := hfanout 1000 (serving twoBooks) 0 (bookPayload 0)
      (serves_serving twoBooks 1000) unpaged_forBooks hhidden (weighted_pageOfOne 0)
    exact (hfirst rfl).trans (congrArg Except.ok (hpage _))
  · have hhidden : ∀ source ∈ forBooks.filterMap (Algolia.sourceQuery? (pageOfOne 0) "" 20),
        source.showScores = false := by decide
    obtain ⟨_, hfirst⟩ := halgolia (searcherOf .algolia) (answeringPages twoBooks) 0 forBooks ""
      (pageOfOne 0) 20 rfl serves_answeringPages unpaged_forBooks rfl hhidden (weighted_pageOfOne 0)
    refine (hfirst rfl).trans (congrArg Except.ok ?_)
    rw [hpage]
    rfl

/-- **A later page can be short**: the second page of one hit is empty, although the blend of
the whole lists has the second book there. -/
theorem later_page_is_short :
    Federation.Serves twoBooks 1000 (serving twoBooks)
      ∧ Algolia.Serves twoBooks (answeringPages twoBooks)
      ∧ (∀ query ∈ forBooks, Unpaged query) ∧ (pageOfOne 1).Weighted
      ∧ (∀ entry ∈ Federation.entriesOf (bookPayload 1), entry.showScores = false)
      ∧ Federation.blend (pageOfOne 1) 20 (wholePools twoBooks forBooks) = [secondBook]
      ∧ Federation.federatePayload (serving twoBooks) 1000 0 (bookPayload 1) = .ok []
      ∧ ((searcherOf .algolia).multiSearch (answeringPages twoBooks) 0 forBooks "" (pageOfOne 1)
          20).result = .ok [] := by
  have hhidden : ∀ entry ∈ Federation.entriesOf (bookPayload 1), entry.showScores = false := by
    decide
  -- of the pool only the first book is fetched, and it is on the page before
  have hempty : ∀ fallback, Federation.blend (pageOfOne 1) fallback
      ((wholePools twoBooks forBooks).map (Federation.cutAt 1)) = [] := by
    intro fallback
    have hlength : (Federation.merged (pageOfOne 1)
        ((wholePools twoBooks forBooks).map (Federation.cutAt 1))).length = 1 :=
      (List.length_mergeSort _).trans rfl
    have hoffset : (pageOfOne 1).offset.getD 0 = 1 := rfl
    rw [Federation.blend, hoffset, List.drop_eq_nil_of_le (Nat.le_of_eq hlength), List.take_nil]
  refine ⟨serves_serving twoBooks 1000, serves_answeringPages, unpaged_forBooks,
    weighted_pageOfOne 1, hhidden, ?_, ?_, ?_⟩
  · rw [Federation.blend, merged_twoBooks]
    rfl
  · exact (Federation.federatePayload_eq (serves_serving twoBooks 1000) 0 unpaged_forBooks
      hhidden).trans (congrArg Except.ok (hempty _))
  · have hhidden : ∀ source ∈ forBooks.filterMap (Algolia.sourceQuery? (pageOfOne 1) "" 20),
        source.showScores = false := by decide
    refine (Algolia.multiSearch_eq serves_answeringPages (searcherOf .algolia).policy 0 "" 20
      unpaged_forBooks rfl hhidden).trans (congrArg Except.ok ?_)
    rw [show (pageOfOne 1).pageSize 20 = 1 from rfl, hempty]
    rfl

end Metasearch
