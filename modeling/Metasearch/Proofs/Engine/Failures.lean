import Metasearch.Proofs.Engine.DeclaredFilters
import Metasearch.Proofs.Federation.Expansion

set_option autoImplicit false

/-! # Failures come before requests

Most failures only cost hits. The two that a caller gets to see, conditions that cannot be read
and conditions that the engine cannot express, lie in the payload and the schema alone. They
are found before anything is sent, and nothing that an engine answers adds to them.

The argument goes over plans. What fails fatally is the plan itself (`Plan.fatal?`), and a plan
that does so makes no call; carrying out a plan adds no fatal failure unless the transport
does (`errorOf?_run`). So it remains to say which plans fail: `Rejects` does so in terms of the
payload, and `rejects_congr` says that the rewriting of a fan-out's entries changes nothing
about it.
-/

namespace Metasearch

/-- The error of a result, if it is one. -/
def errorOf? {ε α : Type} : Except ε α → Option ε
  | .error error => some error
  | .ok _ => none

@[simp] theorem errorOf?_ok {ε α : Type} (value : α) :
    errorOf? (.ok value : Except ε α) = none := rfl

@[simp] theorem errorOf?_error {ε α : Type} (error : ε) :
    errorOf? (.error error : Except ε α) = some error := rfl

theorem errorOf?_eq_some {ε α : Type} {result : Except ε α} {error : ε} :
    errorOf? result = some error ↔ result = .error error := by
  cases result <;> simp

theorem errorOf?_eq_none {ε α : Type} {result : Except ε α} :
    errorOf? result = none ↔ ∃ value, result = .ok value := by
  cases result <;> simp

theorem errorOf?_map {ε α β : Type} (f : α → β) (result : Except ε α) :
    errorOf? (result.map f) = errorOf? result := by
  cases result <;> rfl

/-- A sequence of two steps fails with the first failure. -/
theorem errorOf?_bind {ε α β : Type} (result : Except ε α) (f : α → Except ε β) :
    errorOf? (result >>= f)
      = match result with
        | .error error => some error
        | .ok value => errorOf? (f value) := by
  cases result <;> rfl

/-- What the caller gets to see of a failure. -/
theorem errorOf?_degrade {α : Type} (fallback : α) (result : Except Failure α) :
    errorOf? (degrade fallback result) = (errorOf? result).filter Failure.isFatal := by
  cases result with
  | ok value => rfl
  | error failure => cases hfatal : failure.isFatal <;> simp [degrade, Option.filter, hfatal]

/-! ## Plans -/

/-- No failure of a transport is fatal. -/
def Transport.Harmless (transport : Transport) : Prop :=
  ∀ number call failure,
    (transport number call).result = .error failure → failure.isFatal = false

namespace Plan

/-- The failure that a plan reports whatever is answered. -/
def fatal? : Plan → Option Failure
  | .done result => (errorOf? result).filter Failure.isFatal
  | .ask _ _ => none

theorem calls_of_fatal? {plan : Plan} {failure : Failure} (h : plan.fatal? = some failure) :
    plan.calls = [] := by
  cases plan with
  | done result => rfl
  | ask call read => cases h

/-- **Carrying out a plan reports the plan's own failure** and no other. -/
theorem errorOf?_run {transport : Transport} (h : transport.Harmless) (plan : Plan)
    (sent : Nat) : errorOf? (plan.run transport sent).result = plan.fatal? := by
  cases plan with
  | done result => exact errorOf?_degrade [] result
  | ask call read =>
    rw [run, errorOf?_degrade, errorOf?_map, fatal?, Option.filter_eq_none_iff]
    intro failure hfailure
    rw [h sent call failure (errorOf?_eq_some.mp hfailure)]
    exact Bool.false_ne_true

/-- A deadline adds no fatal failure and, since a plan that fails sends nothing and takes no
time, hides none. -/
theorem fatal_within_run {transport : Transport} (h : transport.Harmless) (plan : Plan)
    (sent deadline : Nat) :
    (errorOf? ((plan.run transport sent).within deadline)).filter Failure.isFatal
      = plan.fatal? := by
  have hrun : (errorOf? (plan.run transport sent).result).filter Failure.isFatal
      = plan.fatal? := by
    rw [errorOf?_run h]
    cases plan with
    | done result => simp [fatal?, Option.filter_filter]
    | ask call read => rfl
  unfold Timed.within
  split
  · next hlate =>
    cases plan with
    | done result => exact absurd hlate (Nat.not_lt_zero deadline)
    | ask call read => rfl
  · exact hrun

theorem fatal?_fail (failure : Failure) :
    (fail failure).fatal? = (some failure).filter Failure.isFatal := rfl

end Plan

/-! ## Payloads that are rejected -/

/-- What an engine has against some conditions. -/
def obstacle? (engine : Engine) (identifier : String) (conditions : List Condition) :
    Option Obstacle :=
  match engine with
  | .meilisearch => errorOf? (Filter.Meilisearch.compileAll identifier conditions)
  | .algolia => errorOf? (Filter.Algolia.compileAll conditions)

/-- The failure that a payload is rejected with: its filters cannot be read; or they can, the
payload names an index of the schema and does not lead around the compiler, and the engine
cannot express its conditions. -/
inductive Rejects (engine : Engine) (schema? : Option Schema) (entries : Fields) :
    Failure → Prop where
  | unreadable {mistake : Mistake} (h : SearchPayload.readFilters entries = .error mistake) :
    Rejects engine schema? entries (.invalidFilter mistake)
  | unsupported {payload : SearchPayload} {schema : Schema} {descriptor : IndexDescriptor}
      {obstacle : Obstacle} (read : SearchPayload.ofEntries entries = .ok payload)
      (configured : schema? = some schema) (named : payload.index ≠ "")
      (known : schema.index? payload.index = some descriptor)
      (direct : escapesOf engine payload = false)
      (obstructed : obstacle? engine descriptor.identifier payload.filters = some obstacle) :
    Rejects engine schema? entries (.unsupported engine.name obstacle)

theorem Rejects.isFatal {engine : Engine} {schema? : Option Schema} {entries : Fields}
    {failure : Failure} (h : Rejects engine schema? entries failure) : failure.isFatal = true := by
  cases h <;> rfl

/-- The query text comes in as one more condition, which every engine can express. -/
theorem obstacle?_filtersOf (engine : Engine) (identifier : String) (payload : SearchPayload) :
    obstacle? engine identifier (SearchRequest.filtersOf payload)
      = obstacle? engine identifier payload.filters := by
  unfold SearchRequest.filtersOf
  split
  · rfl
  · cases engine with
    | meilisearch =>
      rw [obstacle?, Filter.Meilisearch.compileAll, errorOf?_bind]
      simp only [Filter.Meilisearch.compile]
      exact errorOf?_map _ _
    | algolia =>
      rw [obstacle?, Filter.Algolia.compileAll, errorOf?_bind]
      simp only [Filter.Algolia.compile]
      exact errorOf?_map _ _

theorem errorOf?_meilisearchBody (identifier name : String) (payload : SearchPayload) :
    errorOf? (Meilisearch.requestBody identifier (.ofPayload name payload))
      = obstacle? .meilisearch identifier payload.filters := by
  rw [← obstacle?_filtersOf]
  exact errorOf?_map _ _

theorem errorOf?_algoliaBody (identifier name : String) (payload : SearchPayload) :
    errorOf? (Algolia.requestBody (.ofPayload name payload))
      = obstacle? .algolia identifier payload.filters := by
  rw [← obstacle?_filtersOf]
  exact errorOf?_map _ _

/-- The failure that a payload, once it has been read, is planned with. -/
def planned? (engine : Engine) (schema? : Option Schema) (payload : SearchPayload) :
    Option Failure :=
  match schema? with
  | none => none
  | some schema =>
    if payload.index = "" then none
    else if escapesOf engine payload then none
    else
      match schema.index? payload.index with
      | none => none
      | some descriptor =>
        (obstacle? engine descriptor.identifier payload.filters).map (.unsupported engine.name)

theorem fatal?_meilisearch (policy : Federation.Policy) (schema? : Option Schema)
    (source : Fields) (payload : SearchPayload) :
    (Meilisearch.searchPayload policy schema? source payload).fatal?
      = planned? .meilisearch schema? payload := by
  cases schema? with
  | none => rfl
  | some schema =>
    unfold Meilisearch.searchPayload planned?
    simp only [apply_ite Plan.fatal?, escapesOf]
    congr 2
    cases schema.index? payload.index with
    | none => rfl
    | some descriptor =>
      dsimp only
      rw [← errorOf?_meilisearchBody descriptor.identifier descriptor.name]
      cases Meilisearch.requestBody descriptor.identifier (.ofPayload descriptor.name payload)
        <;> rfl

theorem fatal?_algolia (policy : Federation.Policy) (schema? : Option Schema)
    (payload : SearchPayload) :
    (Algolia.searchPayload policy schema? payload).fatal?
      = planned? .algolia schema? payload := by
  cases schema? with
  | none => rfl
  | some schema =>
    unfold Algolia.searchPayload planned?
    simp only [apply_ite Plan.fatal?, escapesOf]
    congr 2
    cases schema.index? payload.index with
    | none => rfl
    | some descriptor =>
      dsimp only
      rw [← errorOf?_algoliaBody descriptor.identifier descriptor.name]
      cases Algolia.requestBody (.ofPayload descriptor.name payload) <;> rfl

theorem planned?_eq_some {engine : Engine} {schema? : Option Schema} {entries : Fields}
    {payload : SearchPayload} (hread : SearchPayload.ofEntries entries = .ok payload)
    {failure : Failure} :
    planned? engine schema? payload = some failure ↔
      Rejects engine schema? entries failure := by
  constructor
  · intro h
    unfold planned? at h
    split at h
    · cases h
    · next schema =>
      split at h
      · cases h
      · next hnamed =>
        split at h
        · cases h
        · next hdirect =>
          split at h
          · cases h
          · next descriptor hknown =>
            obtain ⟨obstacle, hobstacle, rfl⟩ := Option.map_eq_some_iff.mp h
            rw [Bool.not_eq_true] at hdirect
            exact .unsupported hread rfl hnamed hknown hdirect hobstacle
  · rintro (⟨h⟩ | ⟨h, rfl, hnamed, hknown, hdirect, hobstacle⟩)
    · rw [(ofEntries_eq_ok hread).1] at h
      cases h
    · rw [hread] at h
      cases h
      simp [planned?, hnamed, hdirect, hknown, hobstacle]

/-- **A payload is planned to fail exactly if it is rejected**, and with that failure. -/
theorem fatal?_payloadPlan {searcher : Searcher} {schema? : Option Schema} {entries : Fields}
    {failure : Failure} :
    (searcher.payloadPlan schema? entries).fatal? = some failure ↔
      Rejects searcher.engine schema? entries failure := by
  unfold Searcher.payloadPlan
  cases hofEntries : SearchPayload.ofEntries entries with
  | error reported =>
    -- of what reading a payload does, only the filters can fail
    obtain ⟨mistake, hread, rfl⟩ : ∃ mistake, SearchPayload.readFilters entries = .error mistake
        ∧ reported = .invalidFilter mistake := by
      unfold SearchPayload.ofEntries at hofEntries
      split at hofEntries
      · next mistake hread => exact ⟨mistake, hread, (Except.error.inj hofEntries).symm⟩
      · cases hofEntries
    constructor
    · intro h
      cases h
      exact .unreadable hread
    · rintro (⟨h⟩ | ⟨h⟩)
      · rw [hread] at h
        cases h
        rfl
      · rw [hofEntries] at h
        cases h
  | ok payload =>
    rw [← planned?_eq_some hofEntries]
    dsimp only
    split
    · next hengine => rw [hengine, fatal?_meilisearch]
    · next hengine => rw [hengine, fatal?_algolia]

/-! ## Rejection of a fan-out's entries -/

theorem leadsAround_congr {engine : Engine} {entries others : Fields}
    (h : Federation.Alike entries others) :
    LeadsAround engine entries ↔ LeadsAround engine others := by
  have hown : ∀ key ∈ ownWords engine, Fields.get? others key = Fields.get? entries key := by
    have hplain : ∀ key ∈ ownWords engine,
        key ∉ FederatedPayload.settledKeys ++ Alias.scoreKeys := by cases engine <;> decide
    exact fun key hkey => h.elsewhere key (hplain key hkey)
  have htext : ∀ key ∈ textKeys engine, Fields.get? others key = Fields.get? entries key := by
    have hplain : ∀ key ∈ textKeys engine,
        key ∉ FederatedPayload.settledKeys ++ Alias.scoreKeys := by cases engine <;> decide
    exact fun key hkey => h.elsewhere key (hplain key hkey)
  have hvector := h.elsewhere "vector" (by decide)
  unfold LeadsAround
  rw [hvector]
  apply or_congr
  · exact exists_congr fun key => and_congr_right fun hkey => by
      rw [Fields.getSet?_congr (hown key hkey)]
  apply or_congr
  · exact exists_congr fun key => and_congr_right fun hkey => by rw [htext key hkey]
  · rfl

/-- Two payloads that are alike are rejected alike. -/
theorem Rejects.of_alike {engine : Engine} {schema? : Option Schema} {entries others : Fields}
    (halike : Federation.Alike entries others) {failure : Failure}
    (h : Rejects engine schema? entries failure) : Rejects engine schema? others failure := by
  have hfilters : (SearchPayload.readFilters entries).map Prod.fst
      = (SearchPayload.readFilters others).map Prod.fst := by
    have hplain : ∀ key ∈ SearchPayload.filterKeys,
        key ∉ FederatedPayload.settledKeys ++ Alias.scoreKeys := by decide
    exact SearchPayload.readFilters_congr
      fun key hkey => .inl (halike.elsewhere key (hplain key hkey)).symm
  cases h with
  | @unreadable mistake hread =>
    rw [hread] at hfilters
    cases hread' : SearchPayload.readFilters others with
    | ok result =>
      rw [hread'] at hfilters
      cases hfilters
    | error mistake' =>
      rw [hread'] at hfilters
      cases hfilters
      exact .unreadable hread'
  | @unsupported payload schema descriptor obstacle read configured named known direct obstructed =>
    obtain ⟨hread, hindex, _⟩ := ofEntries_eq_ok read
    rw [hread] at hfilters
    cases hread' : SearchPayload.readFilters others with
    | error mistake =>
      rw [hread'] at hfilters
      cases hfilters
    | ok result =>
      rw [hread'] at hfilters
      obtain ⟨payload', read'⟩ : ∃ payload', SearchPayload.ofEntries others = .ok payload' :=
        ⟨_, by rw [SearchPayload.ofEntries, hread']⟩
      obtain ⟨hresult, hindex', _⟩ := ofEntries_eq_ok read'
      have hsame : payload'.filters = payload.filters := by
        rw [hread'] at hresult
        cases hresult
        exact (Except.ok.inj hfilters).symm
      have hname : payload'.index = payload.index := by rw [hindex', hindex, halike.index]
      have hdirect : escapesOf engine payload' = false := by
        rw [← Bool.not_eq_true, escapes_iff halike.distinct' read',
          ← leadsAround_congr halike, ← escapes_iff halike.distinct read, direct]
        exact Bool.false_ne_true
      exact .unsupported read' configured (hname ▸ named) (hname ▸ known) hdirect
        (hsame ▸ obstructed)

/-- **The search that a query becomes is planned to fail as the query is by itself.** -/
theorem fatal?_entry {searcher : Searcher} {schema? : Option Schema} {entries others : Fields}
    (halike : Federation.Alike entries others) :
    (searcher.payloadPlan schema? others).fatal?
      = (searcher.payloadPlan schema? entries).fatal? := by
  apply Option.ext
  intro failure
  exact fatal?_payloadPlan.trans
    (Iff.trans ⟨Rejects.of_alike halike.symm, Rejects.of_alike halike⟩ fatal?_payloadPlan.symm)

/-! ## The fan-out -/

theorem errorOf?_poolOf (minimum : Float) (entry : Federation.Entry)
    (result : Except Failure (List Hit)) :
    errorOf? (Federation.poolOf minimum entry result)
      = (errorOf? result).filter Failure.isFatal := by
  cases result with
  | ok hits => rfl
  | error failure =>
    cases hfatal : failure.isFatal <;> simp [Federation.poolOf, Option.filter, hfatal]

/-- Pools come together up to the first fatal failure. -/
theorem errorOf?_poolsOf (minimum : Float)
    (results : List (Federation.Entry × Except Failure (List Hit))) :
    errorOf? (Federation.poolsOf minimum results)
      = results.findSome? fun result => (errorOf? result.2).filter Failure.isFatal := by
  induction results with
  | nil => rfl
  | cons first rest ih =>
    obtain ⟨entry, result⟩ := first
    rw [Federation.poolsOf, errorOf?_bind, List.findSome?_cons, ← errorOf?_poolOf minimum entry]
    cases Federation.poolOf minimum entry result with
    | error failure => rfl
    | ok pool => exact (errorOf?_map _ _).trans ih

/-- **Of several plans the first that fails is reported**, whatever is answered to those before
it and however late. -/
theorem findSome?_runAll {transport : Transport} (h : transport.Harmless) (deadline : Nat)
    (plan : Federation.Entry → Plan) (entries : List Federation.Entry) (sent : Nat) :
    (entries.zip ((Plan.runAll (entries.map plan) transport sent).map
        (Timed.within deadline))).findSome?
      (fun result => (errorOf? result.2).filter Failure.isFatal)
      = entries.findSome? fun entry => (plan entry).fatal? := by
  induction entries generalizing sent with
  | nil => rfl
  | cons entry rest ih =>
    rw [List.map_cons, Plan.runAll, List.map_cons, List.zip_cons_cons, List.findSome?_cons,
      List.findSome?_cons, ih, Plan.fatal_within_run h]

theorem errorOf?_gather (minimum : Float) (payload : FederatedPayload)
    (results : List (Federation.Entry × Except Failure (List Hit))) :
    errorOf? (Federation.gather minimum payload results)
      = results.findSome? fun result => (errorOf? result.2).filter Failure.isFatal := by
  unfold Federation.gather
  split
  · next hempty => rw [List.isEmpty_iff.mp hempty]; rfl
  · rw [errorOf?_map, errorOf?_poolsOf]

/-! ## The four searches -/

namespace Searcher

variable {transport : Transport} (searcher : Searcher) (schema? : Option Schema) (sent : Nat)

theorem fatal?_searchPlan (index query : String) (params : Fields) (limit : Nat) :
    (searcher.searchPlan index query params limit).fatal? = none := by
  unfold searchPlan
  split <;> rfl

theorem fatal?_multiSearchPlan (queries : List Fields) (query : String)
    (federation : FederationSpec) (limit : Nat) :
    (searcher.multiSearchPlan queries query federation limit).fatal? = none := by
  unfold multiSearchPlan
  split
  · simp only [Meilisearch.multiSearch, apply_ite Plan.fatal?]
    exact ite_self none
  · simp only [Algolia.multiSearch, apply_ite Plan.fatal?]
    exact ite_self none

theorem fatal?_jsonPlan (payload : Json) (failure : Failure) :
    (searcher.jsonPlan schema? payload).fatal? = some failure ↔
      ∃ entries, payload = .object entries
        ∧ Rejects searcher.engine schema? entries failure := by
  cases payload with
  | object entries =>
    rw [jsonPlan, fatal?_payloadPlan]
    simp
  | _ => simp [jsonPlan, Plan.fatal?_fail, Option.filter, Failure.isFatal]

/-- The first of the entries that is planned to fail comes from the first query with an index
that is. -/
theorem findSome?_entriesOf {federated : FederatedPayload}
    (hdistinct : ∀ query ∈ federated.queries, Fields.Distinct query) :
    (Federation.entriesOf federated).findSome?
        (fun entry => (searcher.payloadPlan schema? entry.payload).fatal?)
      = (federated.queries.filter fun query => Alias.indexOf query ≠ "").findSome?
          fun query => (searcher.payloadPlan schema? query).fatal? := by
  have hentry : ∀ query ∈ federated.queries,
      ((Federation.entryOf? federated query).bind
          fun entry => (searcher.payloadPlan schema? entry.payload).fatal?)
        = if Alias.indexOf query ≠ "" then (searcher.payloadPlan schema? query).fatal?
          else none := by
    intro query hquery
    cases hentry : Federation.entryOf? federated query with
    | none => rw [if_neg fun hne => hne (Federation.entryOf?_eq_none_iff.mp hentry)]; rfl
    | some entry =>
      have hnamed : Alias.indexOf query ≠ "" := fun hempty => by
        rw [Federation.entryOf?_eq_none_iff.mpr hempty] at hentry
        cases hentry
      rw [if_pos hnamed]
      exact fatal?_entry (Federation.alike_of_entryOf? (hdistinct query hquery) hentry)
  apply findSome?_filterMap_eq
  simpa only [decide_eq_true_eq] using hentry

/-- A fan-out reports what the first entry in their order would be rejected with by itself. -/
theorem errorOf?_multiSearchFromJson (h : transport.Harmless) {payload : Json}
    {federated : FederatedPayload} (hread : FederatedPayload.ofJson payload = .ok federated)
    (hdistinct : ∀ query ∈ federated.queries, Fields.Distinct query) :
    errorOf? (searcher.multiSearchFromJson schema? transport sent payload).result
      = (federated.queries.filter fun query => Alias.indexOf query ≠ "").findSome?
          fun query => (searcher.payloadPlan schema? query).fatal? := by
  have hfatal : ∀ failure,
      (Federation.entriesOf federated).findSome?
        (fun entry => (searcher.payloadPlan schema? entry.payload).fatal?) = some failure →
      failure.isFatal = true := by
    intro failure hfailure
    obtain ⟨entry, _, hentry⟩ := List.exists_of_findSome?_eq_some hfailure
    exact (fatal?_payloadPlan.mp hentry).isFatal
  simp only [multiSearchFromJson, hread]
  rw [errorOf?_degrade, errorOf?_gather,
    findSome?_runAll h searcher.timeout fun entry => searcher.payloadPlan schema? entry.payload,
    ← searcher.findSome?_entriesOf schema? hdistinct]
  cases hfailure : (Federation.entriesOf federated).findSome?
      fun entry => (searcher.payloadPlan schema? entry.payload).fatal? with
  | none => rfl
  | some failure => rw [Option.filter, hfatal failure hfailure]; rfl

/-- **Failures come before requests.** Whatever two transports answer, as long as neither adds
a fatal failure of its own:

* a search by parameters, in one index or several, has no failure;
* a declarative search fails with both or with none, and with one failure; it fails exactly if
  the payload is an object that is rejected, and then it has sent nothing;
* a declarative search over several indexes fails exactly if some query with an index would by
  itself, and with the failure of the first such query. -/
theorem failures_precede_requests {transport transport' : Transport}
    (h : transport.Harmless) (h' : transport'.Harmless) (sent' : Nat) :
    (∀ index query params limit, ∃ hits,
      (searcher.search transport sent index query params limit).result = .ok hits)
    ∧ (∀ queries query federation limit, ∃ hits,
      (searcher.multiSearch transport sent queries query federation limit).result = .ok hits)
    ∧ (∀ payload failure,
      let outcome := searcher.searchFromJson schema? transport sent payload
      let outcome' := searcher.searchFromJson schema? transport' sent' payload
      (outcome.result = .error failure ↔ outcome'.result = .error failure)
        ∧ (outcome.result = .error failure → outcome.calls = [])
        ∧ (outcome.result = .error failure ↔ ∃ entries, payload = .object entries
            ∧ Rejects searcher.engine schema? entries failure))
    ∧ (∀ payload federated, FederatedPayload.ofJson payload = .ok federated →
      (∀ query ∈ federated.queries, Fields.Distinct query) →
      errorOf? (searcher.multiSearchFromJson schema? transport sent payload).result
        = (federated.queries.filter fun query => Alias.indexOf query ≠ "").findSome?
            fun query => errorOf?
              (searcher.searchFromJson schema? transport' sent' (.object query)).result) := by
  -- each outcome is that of a plan, and reports what its plan does
  have herror : ∀ {transport : Transport}, transport.Harmless → ∀ sent payload failure,
      (searcher.searchFromJson schema? transport sent payload).result = .error failure ↔
        (searcher.jsonPlan schema? payload).fatal? = some failure := by
    intro transport h sent payload failure
    rw [← errorOf?_eq_some, ← Plan.errorOf?_run h _ sent]
    rfl
  refine ⟨fun index query params limit => ?_, fun queries query federation limit => ?_,
    fun payload failure => ⟨?_, fun hfails => ?_, ?_⟩, fun payload federated hread hdistinct => ?_⟩
  · exact errorOf?_eq_none.mp ((Plan.errorOf?_run h _ sent).trans (searcher.fatal?_searchPlan ..))
  · exact errorOf?_eq_none.mp
      ((Plan.errorOf?_run h _ sent).trans (searcher.fatal?_multiSearchPlan ..))
  · exact (herror h sent payload failure).trans (herror h' sent' payload failure).symm
  · exact Plan.calls_of_fatal? ((herror h sent payload failure).mp hfails)
  · exact (herror h sent payload failure).trans (searcher.fatal?_jsonPlan schema? payload failure)
  · rw [searcher.errorOf?_multiSearchFromJson schema? sent h hread hdistinct]
    exact findSome?_congr fun query _ => (Plan.errorOf?_run h' _ sent').symm

/-! ### A fan-out with two queries that are rejected -/

/-- A transport that gives every call the same answer at once. -/
def answering (answer : Except Failure Json) : Transport := fun _ _ => ⟨0, answer⟩

/-- One query that is carried out and two that are rejected. -/
def twoRejectedQueries : List Fields :=
  [[("index", .string "books")],
    [("index", .string "books"), ("filters", .number (.integer 5))],
    [("index", .string "books"), ("filter", .bool true)]]

def twoRejected : Fields := [("queries", .array (twoRejectedQueries.map .object))]

/-- The engine does not answer, and still it is the first of the two that is reported. -/
theorem first_rejected_is_reported :
    (answering (.error (.connection "refused"))).Harmless ∧ (answering (.ok .null)).Harmless
      ∧ ((searcherOf .algolia).multiSearchFromJson (some bookshelf)
          (answering (.error (.connection "refused"))) 0 (.object twoRejected)).result
        = .error (.invalidFilter (.notAFilter "filters" (.number (.integer 5)))) := by
  have hbroken : (answering (.error (.connection "refused"))).Harmless := by
    rintro number call failure ⟨⟩
    rfl
  have hsilent : (answering (.ok .null)).Harmless := by
    rintro number call failure ⟨⟩
  refine ⟨hbroken, hsilent, ?_⟩
  obtain ⟨_, _, _, hfirst⟩ := failures_precede_requests (searcherOf .algolia) (some bookshelf) 0
    hbroken hsilent 0
  have hdistinct : ∀ query ∈ twoRejectedQueries, Fields.Distinct query := by decide
  rw [← errorOf?_eq_some, hfirst (.object twoRejected) _ rfl hdistinct]
  rfl

end Searcher

end Metasearch
