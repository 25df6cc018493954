import Metasearch.Proofs.Engine.ScoreFlags
import Metasearch.Proofs.Engine.ScoreSwitch
import Metasearch.Proofs.Federation.Isolation
import Metasearch.Proofs.Federation.Provenance

set_option autoImplicit false

/-! # The floor drops what it should and nothing else

The floor is applied in three places: to the hits of one query, to the pools of several by their
position in the answer, and to hits that the engine has merged by a position that is written in
each hit. Queries without an index are not sent, so positions count the sent ones only.

For each search, what comes out is compared with what the engine has found for the queries, each
with its flag. Safety: returned hits come from different hits found, and each passes the floor of
its query. Fairness: where nothing else is done to the hits, those of a query without the flag
all go on, in the engine's order.
-/

namespace Metasearch

open Federation (Entry Finding Policy PoolFrom Traced admits applyFloor fatalOf flooredPool found
  termOverlap)

/-! ## Answers -/

namespace Plan

/-- The answer to the call of a plan. Without a call or an answer there is `null`, in which no
hits are found. -/
def answer (plan : Plan) (transport : Transport) (sent : Nat) : Json :=
  match plan with
  | .done _ => .null
  | .ask call _ =>
    match (transport sent call).result with
    | .ok answer => answer
    | .error _ => .null

/-- The hits of a plan with a call are read off the answer. -/
theorem eq_read_of_run {call : Call} {read : Json → List Hit} (hnull : read .null = [])
    {transport : Transport} {sent : Nat} {hits : List Hit}
    (h : ((ask call read).run transport sent).result = .ok hits) :
    hits = read ((ask call read).answer transport sent) := by
  simp only [run, answer] at h ⊢
  cases hanswer : (transport sent call).result with
  | ok answer =>
    rw [hanswer] at h
    exact (Except.ok.inj h).symm
  | error failure =>
    rw [hanswer] at h
    simp only [Except.map, degrade] at h
    split at h
    · cases h
    · rw [hnull]
      exact (Except.ok.inj h).symm

/-- A plan that makes its call only if there is something to ask for reads its hits off the answer,
too: without a call it finds what there is in `null`. -/
theorem eq_read_of_run_unless {empty : Bool} {call : Call} {read : Json → List Hit}
    (hnull : read .null = []) {transport : Transport} {sent : Nat} {hits : List Hit}
    (h : ((if empty then nothing else ask call read).run transport sent).result = .ok hits) :
    hits = read ((if empty then nothing else ask call read).answer transport sent) := by
  cases empty with
  | true =>
    cases h
    exact hnull.symm
  | false => exact eq_read_of_run hnull h

end Plan

/-! ## One query -/

/-- The plans of a search for one query with a flag: nothing is found, or what is found is
refined. -/
inductive SearchesOne (policy : Policy) (engine : Engine) (showScores : Bool) : Plan → Prop where
  | nothing : SearchesOne policy engine showScores .nothing
  | fail (failure : Failure) : SearchesOne policy engine showScores (.fail failure)
  | ask (call : Call) (query : String) :
    SearchesOne policy engine showScores
      (.ask call fun answer => policy.refine query showScores (hitsOf engine answer))

theorem hitsOf_null (engine : Engine) : hitsOf engine .null = [] := by
  cases engine <;> rfl

/-- The hits of a search for one query are those found, refined. -/
theorem SearchesOne.hits_eq {policy : Policy} (hrelevance : policy.relevance = termOverlap)
    {engine : Engine} {showScores : Bool} {plan : Plan}
    (h : SearchesOne policy engine showScores plan) {transport : Transport} {sent : Nat}
    {hits : List Hit} (hresult : (plan.run transport sent).result = .ok hits) :
    ∃ query, hits = policy.refine query showScores
      (hitsOf engine (plan.answer transport sent)) := by
  have hnull : ∀ query, policy.refine query showScores (hitsOf engine .null) = [] := fun query => by
    rw [hitsOf_null, Federation.refine_nil hrelevance]
  cases h with
  | nothing =>
    cases hresult
    exact ⟨"", (hnull "").symm⟩
  | fail failure =>
    simp only [Plan.fail, Plan.run, degrade] at hresult
    split at hresult
    · cases hresult
    · cases hresult
      exact ⟨"", (hnull "").symm⟩
  | ask call query => exact ⟨query, Plan.eq_read_of_run (hnull query) hresult⟩

namespace Searcher

theorem searchesOne_searchPlan (searcher : Searcher) (index query : String) (params : Fields)
    (limit : Nat) :
    SearchesOne searcher.policy searcher.engine (Alias.wantsScores params)
      (searcher.searchPlan index query params limit) := by
  obtain ⟨engine, policy, timeout⟩ := searcher
  cases engine with
  | meilisearch => exact .ask _ _
  | algolia => exact .ask _ _

theorem searchesOne_meilisearch (policy : Policy) (schema? : Option Schema) (source : Fields)
    (payload : SearchPayload) :
    SearchesOne policy .meilisearch payload.showScores
      (Meilisearch.searchPayload policy schema? source payload) := by
  unfold Meilisearch.searchPayload
  split
  · exact .nothing
  · next schema =>
    split
    · exact .nothing
    · split
      · exact .ask _ _
      · split
        · exact .nothing
        · dsimp only
          split
          · exact .fail _
          · exact .ask _ _

theorem searchesOne_algolia (policy : Policy) (schema? : Option Schema)
    (payload : SearchPayload) :
    SearchesOne policy .algolia payload.showScores
      (Algolia.searchPayload policy schema? payload) := by
  unfold Algolia.searchPayload
  split
  · exact .nothing
  · next schema =>
    split
    · exact .nothing
    · split
      · exact .ask _ _
      · split
        · exact .nothing
        · dsimp only
          split
          · exact .fail _
          · exact .ask _ _

theorem searchesOne_payloadPlan (searcher : Searcher) (schema? : Option Schema)
    (entries : Fields) :
    SearchesOne searcher.policy searcher.engine (Alias.wantsScores entries)
      (searcher.payloadPlan schema? entries) := by
  obtain ⟨engine, policy, timeout⟩ := searcher
  unfold payloadPlan
  cases hread : SearchPayload.ofEntries entries with
  | error failure => exact .fail failure
  | ok payload =>
    rw [← showScores_of_ofEntries hread]
    cases engine with
    | meilisearch => exact searchesOne_meilisearch policy schema? entries payload
    | algolia => exact searchesOne_algolia policy schema? payload

/-- A payload that is no object wishes for nothing, and nothing is found. -/
theorem searchesOne_jsonPlan (searcher : Searcher) (schema? : Option Schema) (payload : Json) :
    SearchesOne searcher.policy searcher.engine (payload.object?.any Alias.wantsScores)
      (searcher.jsonPlan schema? payload) := by
  cases payload with
  | object entries => exact searcher.searchesOne_payloadPlan schema? entries
  | _ => exact .fail _

end Searcher

/-! ## Several queries of one request -/

/-- The ranking score of a document, in the answer of an engine. -/
def Engine.rankingOf : Engine → Fields → Option Float
  | .meilisearch => Meilisearch.rankingOf
  | .algolia => Algolia.rankingOf

/-- The results of an answer, one for each query. -/
def Engine.resultsOf : Engine → Json → List Json
  | .meilisearch => Meilisearch.resultsOf
  | .algolia => Algolia.resultsOf

/-- What an answer holds for the queries that were sent: those with an index, in their order. -/
def findingsOf (engine : Engine) (federation : FederationSpec) (queries : List Fields)
    (answer : Json) : List Finding :=
  List.zipWith (fun entry result => ⟨Alias.wantsScores (federation.applyDefaults entry),
      Hit.listOfAnswer engine.rankingOf result⟩)
    (indexed queries) (engine.resultsOf answer)

/-- The hits of a pool are those found that pass the floor: all of them without the flag. -/
structure PoolOf (minimum : Float) (finding : Finding) (pool : RankedPool) : Prop where
  floored : pool.hits = applyFloor minimum finding.showScores finding.hits
  full : finding.showScores = false → pool.hits = finding.hits

theorem poolOf_of_floored {minimum : Float} {finding : Finding} {pool : RankedPool}
    (h : pool.hits = applyFloor minimum finding.showScores finding.hits) :
    PoolOf minimum finding pool :=
  ⟨h, fun hhidden => by rw [h, hhidden, Federation.applyFloor_of_hidden]⟩

namespace Searcher

variable {searcher : Searcher} {transport : Transport} {sent : Nat} {queries : List Fields}
  {query : String} {federation : FederationSpec} {limit : Nat} {hits : List Hit}

/-- The hits of a search over several indexes with Meilisearch, by the answer. -/
theorem hits_of_meilisearch {policy : Policy} (hrelevance : policy.relevance = termOverlap)
    (h : ((Meilisearch.multiSearch policy queries query federation limit).run
      transport sent).result = .ok hits) :
    hits = policy.refine query false
      (let sources := (indexed queries).map (Meilisearch.sourceOf federation query)
        let answer :=
          (Meilisearch.multiSearch policy queries query federation limit).answer transport sent
        if federation.isNative then Meilisearch.mergedHits policy sources answer
        else Meilisearch.blendedHits policy federation limit sources answer) := by
  unfold Meilisearch.multiSearch at h ⊢
  rw [Meilisearch.filterMap_sourceQuery?] at h ⊢
  refine Plan.eq_read_of_run_unless ?_ h
  split
  · exact Federation.refine_nil hrelevance query false
  · rw [Meilisearch.blendedHits]
    exact (congrArg (policy.refine query false) (Federation.blend_nil federation limit)).trans
      (Federation.refine_nil hrelevance query false)

theorem hits_of_algolia {policy : Policy} (hrelevance : policy.relevance = termOverlap)
    (h : ((Algolia.multiSearch policy queries query federation limit).run
      transport sent).result = .ok hits) :
    hits = policy.refine query false (Federation.blend federation limit
      (List.zipWith (Algolia.poolOf policy)
        ((indexed queries).map (Algolia.sourceOf federation query limit))
        (Algolia.resultsOf
          ((Algolia.multiSearch policy queries query federation limit).answer
            transport sent)))) := by
  unfold Algolia.multiSearch at h ⊢
  rw [Algolia.filterMap_sourceQuery?] at h ⊢
  refine Plan.eq_read_of_run_unless ?_ h
  -- without a call there are no results, and no pools
  have hnone : List.zipWith (Algolia.poolOf policy)
      ((indexed queries).map (Algolia.sourceOf federation query limit))
      (Algolia.resultsOf .null) = [] := List.zipWith_nil_right
  rw [hnone, Federation.blend_nil, Federation.refine_nil hrelevance]

theorem poolsOf_meilisearch (policy : Policy) (federation : FederationSpec)
    (queries : List Fields) (query : String) (answer : Json) :
    List.Forall₂ (PoolOf policy.minimum) (findingsOf .meilisearch federation queries answer)
      (List.zipWith (Meilisearch.poolOf policy) (Meilisearch.resultsOf answer)
        ((indexed queries).map (Meilisearch.sourceOf federation query))) := by
  rw [List.zipWith_comm, List.zipWith_map_left]
  exact forall₂_zipWith (fun entry _ result => poolOf_of_floored rfl) _

theorem poolsOf_algolia (policy : Policy) (federation : FederationSpec) {queries : List Fields}
    (hdistinct : ∀ entry ∈ queries, Fields.Distinct entry) (query : String) (limit : Nat)
    (answer : Json) :
    List.Forall₂ (PoolOf policy.minimum) (findingsOf .algolia federation queries answer)
      (List.zipWith (Algolia.poolOf policy)
        ((indexed queries).map (Algolia.sourceOf federation query limit))
        (Algolia.resultsOf answer)) := by
  rw [List.zipWith_map_left]
  -- here the flag is read off the finished request, not off the entry with the defaults
  refine forall₂_zipWith (fun entry hentry result => poolOf_of_floored ?_) _
  have hflag := Algolia.wantsScores_requestOf (hdistinct entry (List.mem_of_mem_filter hentry))
    federation query limit
  rw [← hflag]
  rfl

/-- **Results are floored by position**: the pools that are blended are those of the queries that
were sent. -/
theorem blend_of_multiSearch (searcher : Searcher)
    (hrelevance : searcher.policy.relevance = termOverlap)
    (hdistinct : ∀ entry ∈ queries, Fields.Distinct entry)
    (hlocal : searcher.engine = .meilisearch → federation.isNative = false)
    (h : (searcher.multiSearch transport sent queries query federation limit).result = .ok hits) :
    ∃ pools, List.Forall₂ (PoolOf searcher.policy.minimum)
        (findingsOf searcher.engine federation queries
          ((searcher.multiSearchPlan queries query federation limit).answer transport sent)) pools
      ∧ hits = searcher.policy.refine query false (Federation.blend federation limit pools) := by
  obtain ⟨engine, policy, timeout⟩ := searcher
  cases engine with
  | meilisearch =>
    have hhits := hits_of_meilisearch hrelevance h
    rw [hlocal rfl] at hhits
    exact ⟨_, poolsOf_meilisearch policy federation queries query _, hhits⟩
  | algolia =>
    exact ⟨_, poolsOf_algolia policy federation hdistinct query limit _,
      hits_of_algolia hrelevance h⟩

end Searcher

/-! ## Hits that the engine has merged -/

/-- The position of the query that a merged hit came from, as the hit tells it. -/
def originPosition? (hit : Hit) : Option Nat :=
  ((Fields.get? hit.fields "_federation").bind Json.object?).bind fun origin =>
    (Fields.get? origin "queriesPosition").bind Json.natural?

/-- The flag of the query that a merged hit came from: the one at this position among those that
were sent. -/
def originFlag (federation : FederationSpec) (queries : List Fields) (hit : Hit) : Bool :=
  ((originPosition? hit).bind fun position => (indexed queries)[position]?).any
    fun entry => Alias.wantsScores (federation.applyDefaults entry)

theorem showsScores_eq_originFlag (federation : FederationSpec) (query : String)
    (queries : List Fields) (hit : Hit) :
    Meilisearch.showsScores ((indexed queries).map (Meilisearch.sourceOf federation query)) hit
      = originFlag federation queries hit := by
  unfold Meilisearch.showsScores originFlag originPosition?
  cases Fields.get? hit.fields "_federation" with
  | none => rfl
  | some origin =>
    cases origin with
    | object origin =>
      simp only [Option.bind_some, Json.object?]
      cases (Fields.get? origin "queriesPosition").bind Json.natural? with
      | none => rfl
      | some position =>
        simp only [Option.bind_some, List.getElem?_map]
        cases (indexed queries)[position]? <;> rfl
    | _ => rfl

namespace Searcher

/-- What is merged is floored by the position in each hit. -/
theorem merge_of_multiSearch {searcher : Searcher} {transport : Transport} {sent : Nat}
    {queries : List Fields} {query : String} {federation : FederationSpec} {limit : Nat}
    {hits : List Hit} (hrelevance : searcher.policy.relevance = termOverlap)
    (hengine : searcher.engine = .meilisearch) (hnative : federation.isNative = true)
    (h : (searcher.multiSearch transport sent queries query federation limit).result = .ok hits) :
    hits = searcher.policy.refine query false
      ((hitsOf .meilisearch
          ((searcher.multiSearchPlan queries query federation limit).answer transport sent)).filter
        fun hit => admits searcher.policy.minimum (originFlag federation queries hit) hit) := by
  obtain ⟨engine, policy, timeout⟩ := searcher
  subst hengine
  have hhits := hits_of_meilisearch hrelevance h
  rw [hnative] at hhits
  simp only [Meilisearch.mergedHits, showsScores_eq_originFlag, if_pos] at hhits
  exact hhits

end Searcher

/-! ## The fan-out -/

theorem isFatal_of_degrade {α : Type} {fallback : α} {result : Except Failure α}
    {failure : Failure} (h : degrade fallback result = .error failure) :
    failure.isFatal = true := by
  cases result with
  | ok value => cases h
  | error reason =>
    rw [degrade] at h
    split at h
    · next hfatal =>
      cases h
      exact hfatal
    · cases h

theorem Plan.isFatal_of_run {plan : Plan} {transport : Transport} {sent : Nat}
    {failure : Failure} (h : (plan.run transport sent).result = .error failure) :
    failure.isFatal = true := by
  cases plan with
  | done result => exact isFatal_of_degrade h
  | ask call read => exact isFatal_of_degrade h

theorem Federation.isFatal_of_gather {minimum : Float} {payload : FederatedPayload}
    {results : List (Entry × Except Failure (List Hit))} {failure : Failure}
    (h : gather minimum payload results = .error failure) : failure.isFatal = true := by
  have hfirst := (errorOf?_gather minimum payload results).symm.trans (errorOf?_eq_some.mpr h)
  obtain ⟨result, _, hresult⟩ := List.exists_of_findSome?_eq_some hfirst
  exact (Option.filter_eq_some_iff.mp hresult).2

/-- **What a search of a fan-out finds** is what the engine has found, refined, unless the search
comes too late or fails the whole. -/
theorem SearchesOne.found_within {policy : Policy} (hrelevance : policy.relevance = termOverlap)
    {engine : Engine} {showScores : Bool} {plan : Plan}
    (h : SearchesOne policy engine showScores plan) {transport : Transport} {sent deadline : Nat}
    (hfatal : fatalOf ((plan.run transport sent).within deadline) = none) :
    ∃ query, found ((plan.run transport sent).within deadline)
      = policy.refine query showScores
          (if deadline < (plan.run transport sent).delay then []
           else hitsOf engine (plan.answer transport sent)) := by
  unfold Timed.within at hfatal ⊢
  by_cases hlate : deadline < (plan.run transport sent).delay
  · rw [if_pos hlate, if_pos hlate]
    exact ⟨"", (Federation.refine_nil hrelevance "" showScores).symm⟩
  · rw [if_neg hlate] at hfatal
    rw [if_neg hlate, if_neg hlate]
    cases hresult : (plan.run transport sent).result with
    | ok hits => exact h.hits_eq hrelevance hresult
    | error failure =>
      -- a failure that is not fatal has been replaced by no hits before the deadline was looked at
      rw [hresult, fatalOf, errorOf?_error, Option.filter_some,
        if_pos (Plan.isFatal_of_run hresult)] at hfatal
      cases hfatal

namespace Searcher

/-- What the engine has found, in time, for the entries of a fan-out. Their calls are numbered in
order. -/
def findingsFrom (searcher : Searcher) (schema? : Option Schema) (transport : Transport)
    (sent : Nat) : List Entry → List Finding
  | [] => []
  | entry :: rest =>
    let plan := searcher.payloadPlan schema? entry.payload
    ⟨entry.showScores,
        if searcher.timeout < (plan.run transport sent).delay then []
        else hitsOf searcher.engine (plan.answer transport sent)⟩
      :: searcher.findingsFrom schema? transport (sent + plan.calls.length) rest

/-- The searches of a fan-out with their results. -/
def resultsFrom (searcher : Searcher) (schema? : Option Schema) (transport : Transport)
    (sent : Nat) (entries : List Entry) : List (Entry × Except Failure (List Hit)) :=
  entries.zip ((Plan.runAll (entries.map fun entry => searcher.payloadPlan schema? entry.payload)
    transport sent).map (Timed.within searcher.timeout))

/-- The pools of a fan-out are floored with the flags that their searches were. -/
theorem poolsFrom_entries (searcher : Searcher)
    (hrelevance : searcher.policy.relevance = termOverlap) (schema? : Option Schema)
    (transport : Transport) {entries : List Entry}
    (hflags : ∀ entry ∈ entries, entry.showScores = Alias.wantsScores entry.payload) {sent : Nat}
    (hfatal : ∀ result ∈ searcher.resultsFrom schema? transport sent entries,
      fatalOf result.2 = none) :
    List.Forall₂ (fun finding pool => PoolFrom searcher.policy.minimum finding pool
        ∧ (searcher.policy.advanced = false → PoolOf searcher.policy.minimum finding pool))
      (searcher.findingsFrom schema? transport sent entries)
      ((searcher.resultsFrom schema? transport sent entries).map
        (flooredPool searcher.policy.minimum)) := by
  -- the number of a call depends on the calls of the entries before it
  induction entries generalizing sent with
  | nil => exact .nil
  | cons entry rest ih =>
    obtain ⟨hflag, hrest⟩ := List.forall_mem_cons.mp hflags
    obtain ⟨hfirst, hlater⟩ := List.forall_mem_cons.mp hfatal
    obtain ⟨query, hfound⟩ :=
      (searcher.searchesOne_payloadPlan schema? entry.payload).found_within hrelevance hfirst
    refine .cons ⟨?_, fun hplain => poolOf_of_floored ?_⟩ (ih hrest hlater)
    · show (applyFloor searcher.policy.minimum entry.showScores (found _)).Subperm _
      rw [hfound, ← hflag]
      exact List.filter_sublist.subperm.trans (Federation.refine_subperm hrelevance query _ _)
    · show applyFloor searcher.policy.minimum entry.showScores (found _) = _
      rw [hfound, ← hflag, Federation.refine_of_plain hplain, Federation.applyFloor_applyFloor]

theorem showScores_of_mem_entriesOf {payload : FederatedPayload} {entry : Entry}
    (h : entry ∈ Federation.entriesOf payload) :
    entry.showScores = Alias.wantsScores entry.payload := by
  obtain ⟨query, _, hentry⟩ := List.mem_filterMap.mp h
  obtain ⟨_, _, rfl⟩ := Option.map_eq_some_iff.mp hentry
  rfl

/-- **The page of a fan-out is the blend of floored pools**, one for each entry. -/
theorem blend_of_multiSearchFromJson (searcher : Searcher)
    (hrelevance : searcher.policy.relevance = termOverlap) (schema? : Option Schema)
    {transport : Transport} {sent : Nat} {payload : Json} {federated : FederatedPayload}
    (hread : FederatedPayload.ofJson payload = .ok federated) {hits : List Hit}
    (h : (searcher.multiSearchFromJson schema? transport sent payload).result = .ok hits) :
    ∃ pools, List.Forall₂ (fun finding pool => PoolFrom searcher.policy.minimum finding pool
        ∧ (searcher.policy.advanced = false → PoolOf searcher.policy.minimum finding pool))
        (searcher.findingsFrom schema? transport sent (Federation.entriesOf federated)) pools
      ∧ hits = Federation.blend federated.federation federated.limit pools := by
  simp only [multiSearchFromJson, hread] at h
  cases hgather : Federation.gather searcher.policy.minimum federated
      (searcher.resultsFrom schema? transport sent (Federation.entriesOf federated)) with
  | error failure =>
    rw [resultsFrom] at hgather
    rw [hgather, degrade, if_pos (Federation.isFatal_of_gather hgather)] at h
    cases h
  | ok page =>
    have hnone := errorOf?_gather searcher.policy.minimum federated
      (searcher.resultsFrom schema? transport sent (Federation.entriesOf federated))
    rw [hgather, errorOf?_ok] at hnone
    have hpools := searcher.poolsFrom_entries hrelevance schema? transport
      (fun entry hentry => showScores_of_mem_entriesOf hentry)
      (List.findSome?_eq_none_iff.mp hnone.symm)
    refine ⟨_, hpools, ?_⟩
    have hpage := Federation.eq_blend_of_gather hgather
    rw [resultsFrom] at hgather
    rw [hgather] at h
    exact (Except.ok.inj h).symm.trans hpage

end Searcher

/-! ## All searches -/

/-- What comes of the hits found for one query. -/
structure Upheld (config : Config) (finding : Finding) (hits : List Hit) : Prop where
  safe : Traced config.minimumScore [finding] hits
  fair : config.advanced = false → finding.showScores = false → hits = finding.hits

/-- What comes of the hits found for several queries, whose pools make a page. -/
structure UpheldBlend (config : Config) (findings : List Finding)
    (page : List RankedPool → List Hit) (hits : List Hit) : Prop where
  safe : Traced config.minimumScore findings hits
  fair : config.advanced = false →
    ∃ pools, List.Forall₂ (PoolOf config.minimumScore) findings pools ∧ hits = page pools

/-- What comes of the hits that an engine has merged, each with the flag of its query. -/
structure UpheldMerge (config : Config) (flag : Hit → Bool) (found hits : List Hit) : Prop where
  among : hits.Subperm found
  safe : ∀ hit ∈ hits, admits config.minimumScore (flag hit) hit = true
  fair : config.advanced = false → hits.Sublist found
    ∧ hits.filter (fun hit => !flag hit) = found.filter fun hit => !flag hit

theorem upheld_refine (config : Config) (query : String) (finding : Finding) :
    Upheld config finding ((Policy.ofConfig config).refine query finding.showScores
      finding.hits) := by
  refine ⟨?_, fun hplain hhidden => ?_⟩
  · exact (Federation.traced_applyFloor config.minimumScore finding).subperm
      (Federation.refine_subperm rfl query _ _)
  · rw [Federation.refine_of_plain hplain, hhidden, Federation.applyFloor_of_hidden]

theorem refine_hidden_subperm (config : Config) (query : String) (hits : List Hit) :
    ((Policy.ofConfig config).refine query false hits).Subperm hits := by
  have hrefined : ((Policy.ofConfig config).refine query false hits).Subperm
      (applyFloor config.minimumScore false hits) :=
    Federation.refine_subperm rfl query false hits
  rwa [Federation.applyFloor_of_hidden] at hrefined

theorem refine_hidden_of_plain {config : Config} (hplain : config.advanced = false)
    (query : String) (hits : List Hit) :
    (Policy.ofConfig config).refine query false hits = hits := by
  rw [Federation.refine_of_plain hplain, Federation.applyFloor_of_hidden]

theorem upheldMerge_refine (config : Config) (query : String) (flag : Hit → Bool)
    (found : List Hit) :
    UpheldMerge config flag found ((Policy.ofConfig config).refine query false
      (found.filter fun hit => admits config.minimumScore (flag hit) hit)) := by
  have hrefined := refine_hidden_subperm config query
    (found.filter fun hit => admits config.minimumScore (flag hit) hit)
  refine ⟨hrefined.trans List.filter_sublist.subperm,
    fun hit hhit => (List.mem_filter.mp (hrefined.subset hhit)).2, fun hplain => ?_⟩
  rw [refine_hidden_of_plain hplain, List.filter_filter]
  refine ⟨List.filter_sublist, List.filter_congr fun hit _ => ?_⟩
  cases hflag : flag hit <;> simp [admits]

theorem upheldBlend_of_pools {config : Config} {findings : List Finding}
    {spec : FederationSpec} {fallback : Nat} {pools : List RankedPool}
    (hpools : List.Forall₂ (PoolFrom config.minimumScore) findings pools)
    (hplain : config.advanced = false →
      List.Forall₂ (PoolOf config.minimumScore) findings pools) {hits : List Hit}
    (hhits : hits.Subperm (Federation.blend spec fallback pools))
    (hpage : config.advanced = false → hits = Federation.blend spec fallback pools) :
    UpheldBlend config findings (Federation.blend spec fallback) hits :=
  ⟨(Federation.traced_blend spec fallback hpools).subperm hhits,
    fun h => ⟨pools, hplain h, hpage h⟩⟩

theorem PoolOf.poolFrom {minimum : Float} {finding : Finding} {pool : RankedPool}
    (h : PoolOf minimum finding pool) : PoolFrom minimum finding pool := by
  rw [PoolFrom, h.floored]

/-- **The floor drops what it should and nothing else.** For every configuration, engine, transport
and request, the hits that are returned

* by a search in one index, by parameters or a payload, uphold the floor of its flag;
* by a search over several indexes that is blended here uphold those of the queries that were
  sent, by their positions, and so does the fan-out for its entries;
* by one that Meilisearch has merged uphold those of the queries at the positions in the hits.

That is, they come from different hits found and pass the floor of their query; and without
advanced search all hits of a query without the flag go on in the engine's order. -/
theorem floor_is_safe_and_fair {searcher : Searcher} {config : Config}
    (hpolicy : searcher.policy = .ofConfig config) (schema? : Option Schema)
    (transport : Transport) (sent : Nat) :
    (∀ index query params limit hits,
      (searcher.search transport sent index query params limit).result = .ok hits →
      Upheld config ⟨Alias.wantsScores params, hitsOf searcher.engine
        ((searcher.searchPlan index query params limit).answer transport sent)⟩ hits)
    ∧ (∀ payload hits,
      (searcher.searchFromJson schema? transport sent payload).result = .ok hits →
      Upheld config ⟨payload.object?.any Alias.wantsScores, hitsOf searcher.engine
        ((searcher.jsonPlan schema? payload).answer transport sent)⟩ hits)
    ∧ (∀ queries query federation limit hits, (∀ entry ∈ queries, Fields.Distinct entry) →
      (searcher.multiSearch transport sent queries query federation limit).result = .ok hits →
      let answer := (searcher.multiSearchPlan queries query federation limit).answer transport sent
      ((searcher.engine = .meilisearch → federation.isNative = false) →
          UpheldBlend config (findingsOf searcher.engine federation queries answer)
            (Federation.blend federation limit) hits)
        ∧ (searcher.engine = .meilisearch → federation.isNative = true →
          UpheldMerge config (originFlag federation queries) (hitsOf .meilisearch answer) hits))
    ∧ (∀ payload hits,
      (searcher.multiSearchFromJson schema? transport sent payload).result = .ok hits →
      match FederatedPayload.ofJson payload with
      | .error _ => hits = []
      | .ok federated =>
        UpheldBlend config
          (searcher.findingsFrom schema? transport sent (Federation.entriesOf federated))
          (Federation.blend federated.federation federated.limit) hits) := by
  have hrelevance : searcher.policy.relevance = termOverlap := by rw [hpolicy]; rfl
  have hminimum : searcher.policy.minimum = config.minimumScore := by rw [hpolicy]; rfl
  have hone : ∀ {showScores plan hits},
      SearchesOne searcher.policy searcher.engine showScores plan →
      (plan.outcome transport sent).result = .ok hits →
      Upheld config ⟨showScores, hitsOf searcher.engine (plan.answer transport sent)⟩ hits := by
    intro showScores plan hits hsearches hresult
    obtain ⟨query, rfl⟩ := hsearches.hits_eq hrelevance hresult
    rw [hpolicy]
    exact upheld_refine config query ⟨showScores, _⟩
  refine ⟨fun index query params limit hits h => ?_, fun payload hits h => ?_,
    fun queries query federation limit hits hdistinct h => ⟨fun hlocal => ?_,
      fun hengine hnative => ?_⟩, fun payload hits h => ?_⟩
  · exact hone (searcher.searchesOne_searchPlan index query params limit) h
  · exact hone (searcher.searchesOne_jsonPlan schema? payload) h
  · obtain ⟨pools, hpools, rfl⟩ := searcher.blend_of_multiSearch hrelevance hdistinct hlocal h
    rw [hminimum] at hpools
    rw [hpolicy]
    exact upheldBlend_of_pools (hpools.imp fun _ _ => PoolOf.poolFrom) (fun _ => hpools)
      (refine_hidden_subperm config query _)
      (fun hplain => refine_hidden_of_plain hplain query _)
  · rw [Searcher.merge_of_multiSearch hrelevance hengine hnative h, hpolicy]
    exact upheldMerge_refine config query _ _
  · cases hread : FederatedPayload.ofJson payload with
    | error failure =>
      simp only [Searcher.multiSearchFromJson, hread, degrade] at h
      split at h
      · cases h
      · exact (Except.ok.inj h).symm
    | ok federated =>
      obtain ⟨pools, hpools, rfl⟩ :=
        searcher.blend_of_multiSearchFromJson hrelevance schema? hread h
      rw [hminimum] at hpools
      refine upheldBlend_of_pools (hpools.imp fun _ _ h => h.1) (fun hplain =>
        hpools.imp fun _ _ h => h.2 ?_) (.refl _) (fun _ => rfl)
      rw [hpolicy]
      exact hplain

/-! ### A query that is skipped shifts the positions -/

/-- A configuration that drops hits with a score below one half. -/
def keenConfig : Config := ⟨some [("minimum_ranking_score", .number (.real 0.5))], []⟩

def keenSearcher (engine : Engine) : Searcher := ⟨engine, .ofConfig keenConfig, 1000⟩

/-- A query without an index, one that asks for scores and one that does not. -/
def mixedQueries : List Fields :=
  [[("q", .string "lost")], [("index", .string "books"), ("showRankingScore", .bool true)],
    [("index", .string "films")]]

/-- A document with a score, merged from the query at a position. -/
def mergedDocument (id : String) (score : Float) (position : Nat) : Fields :=
  [("id", .string id), ("_rankingScore", .number (.real score)),
    ("_federation", .object [("queriesPosition", .ofNat position)])]

def mergedHit (id : String) (score : Float) (position : Nat) : Hit :=
  ⟨mergedDocument id score position, none, some score⟩

/-- A document without a score, merged from the first query. -/
def unscoredDocument : Fields :=
  [("id", .string "unscored book"), ("_federation", .object [("queriesPosition", .ofNat 0)])]

def unscoredHit : Hit := ⟨unscoredDocument, none, none⟩

/-- A film and a book with low scores, a book without a score and one with a high score. -/
def mixedAnswer : Json :=
  .object [("hits", .array [.object (mergedDocument "film" 0.1 1),
    .object (mergedDocument "poor book" 0.1 0), .object unscoredDocument,
    .object (mergedDocument "good book" 0.9 0)])]

/-- The options with which Meilisearch merges a page of ten hits itself. -/
def tenMerged : FederationSpec := { FederationSpec.empty with limit := some 10 }

/-- An engine that gives one answer to everything. -/
def mixedTransport : Transport := fun _ _ => ⟨0, .ok mixedAnswer⟩

/-- The poor book and the book without a score are dropped, and the film is not: it comes from the
second of the queries that were sent. The fan-out over the same queries upholds the floor, too. -/
theorem film_is_kept :
    (keenSearcher .meilisearch).policy = .ofConfig keenConfig
      ∧ (((keenSearcher .meilisearch).multiSearch mixedTransport 0 mixedQueries "" tenMerged
            20).result = .ok [mergedHit "film" 0.1 1, mergedHit "good book" 0.9 0]
        ∧ UpheldMerge keenConfig (originFlag tenMerged mixedQueries)
          [mergedHit "film" 0.1 1, mergedHit "poor book" 0.1 0, unscoredHit,
            mergedHit "good book" 0.9 0]
          [mergedHit "film" 0.1 1, mergedHit "good book" 0.9 0])
      ∧ ∃ hits, ((keenSearcher .meilisearch).multiSearchFromJson (some bookshelf) mixedTransport 0
            (.object [("queries", .array (mixedQueries.map .object))])).result = .ok hits
        ∧ ∃ federated, FederatedPayload.ofJson
              (.object [("queries", .array (mixedQueries.map .object))]) = .ok federated
          ∧ UpheldBlend keenConfig
            ((keenSearcher .meilisearch).findingsFrom (some bookshelf) mixedTransport 0
              (Federation.entriesOf federated))
            (Federation.blend federated.federation federated.limit) hits := by
  have hpolicy : (keenSearcher .meilisearch).policy = .ofConfig keenConfig := rfl
  have hdistinct : ∀ entry ∈ mixedQueries, Fields.Distinct entry := by decide
  have hmerged : ((keenSearcher .meilisearch).multiSearch mixedTransport 0 mixedQueries ""
      tenMerged 20).result = .ok [mergedHit "film" 0.1 1, mergedHit "good book" 0.9 0] := rfl
  obtain ⟨_, _, hseveral, hfanOut⟩ :=
    floor_is_safe_and_fair hpolicy (some bookshelf) mixedTransport 0
  refine ⟨hpolicy, ⟨hmerged, ?_⟩, _, rfl, ?_⟩
  · exact (hseveral mixedQueries "" tenMerged 20 _ hdistinct hmerged).2 rfl rfl
  · exact ⟨_, rfl, hfanOut (.object [("queries", .array (mixedQueries.map .object))]) _ rfl⟩

end Metasearch
