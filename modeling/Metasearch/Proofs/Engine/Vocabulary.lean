import Metasearch.Proofs.Engine.RawFilters
import Metasearch.Proofs.Engine.RequestBodies
import Metasearch.Proofs.Engine.NamelessQueries

set_option autoImplicit false

/-! # The names that requests use

Callers name the index and the query text in the words of any engine, and an engine knows its own
words alone. So every request is put together in two moves: the callers' names are taken out
(`namedBy_nil_stripped`) or left behind, and what they resolve to is set under the engine's own.
What is added afterwards keeps the names as they are (`NamedBy.insertAllNew`), as long as it has
none itself.

This is so for what is passed on from a payload and for what is forwarded by a list, but not for the
shared defaults of a search over several indexes. Algolia is sent them as they are, behind the
finished request, and a name among them that is not the engine's own stays there
(`namedBy_own_iff`).
-/

namespace Metasearch

/-- The names of the index and of the query text in the words of any engine. -/
def nameKeys : List String := Alias.indexKeys ++ Alias.queryKeys

/-- Of the names for the index and the query text, an object has those of `names`, with what they
have there, and no others. -/
def NamedBy (names entries : Fields) : Prop :=
  ∀ key ∈ nameKeys, Fields.get? entries key = Fields.get? names key

/-! ## What keeps the names -/

namespace NamedBy

variable {names entries others : Fields}

theorem refl (names : Fields) : NamedBy names names := fun _ _ => rfl

theorem of_keys {allowed : List String} (h : (Fields.keys entries).Sublist allowed)
    (hallowed : ∀ key ∈ nameKeys, key ∉ allowed) : NamedBy [] entries := fun key hkey =>
  Fields.get?_eq_none.mpr fun hmem => hallowed key hkey (h.subset hmem)

theorem append (h : NamedBy names entries) {more : Fields} (hothers : NamedBy more others) :
    NamedBy (names ++ more) (entries ++ others) := fun key hkey => by
  rw [Fields.get?_append, Fields.get?_append, h key hkey, hothers key hkey]

/-- Appended entries without names keep the names. -/
theorem append_nil (h : NamedBy names entries) (hothers : NamedBy [] others) :
    NamedBy names (entries ++ others) := by
  simpa using h.append hothers

theorem insertAllNew (h : NamedBy names entries) (hothers : NamedBy [] others) :
    NamedBy names (Fields.insertAllNew entries others) := fun key hkey => by
  rw [Fields.get?_insertAllNew, h key hkey, hothers key hkey, Fields.get?_nil, Option.or_none]

theorem insertAll (h : NamedBy names entries) (hdistinct : Fields.Distinct others)
    (hothers : NamedBy [] others) : NamedBy names (Fields.insertAll entries others) :=
  fun key hkey => by
    rw [Fields.get?_insertAll hdistinct, h key hkey, hothers key hkey, Fields.get?_nil,
      Option.none_or]

/-- Setting a name sets it among the names. -/
theorem insert (h : NamedBy names entries) (key : String) (value : Json) :
    NamedBy (Fields.insert names key value) (Fields.insert entries key value) :=
  fun name hname => by
    rw [Fields.get?_insert, Fields.get?_insert, h name hname]

end NamedBy

/-- **Without the callers' names** there are none. -/
theorem namedBy_nil_stripped {entries : Fields} (hdistinct : Fields.Distinct entries) :
    NamedBy [] (Fields.eraseAll (Fields.eraseAll entries Alias.indexKeys) Alias.queryKeys) := by
  intro key hkey
  rw [Fields.eraseAll_append, Fields.get?_eraseAll hdistinct]
  exact if_pos hkey

/-! ## Names by engine -/

/-- An index and a query text under the engine's own names. -/
def ownNames (engine : Engine) (index text : String) : Fields :=
  [(engine.indexKey, .string index), (engine.textKey, .string text)]

/-- The names in a search of one index, which Meilisearch has in the path. -/
def singleNames : Engine → String → String → Fields
  | .meilisearch, _, text => [("q", .string text)]
  | .algolia, index, text => ownNames .algolia index text

/-! ## Searches by parameters -/

theorem namedBy_search (searcher : Searcher) (index query : String) {params : Fields}
    (hdistinct : Fields.Distinct params) (limit : Nat) :
    ∃ request, (searcher.searchPlan index query params limit).calls
        = [callFor searcher.engine index request]
      ∧ NamedBy (singleNames searcher.engine index
          (if query = "" then Alias.queryOf params else query)) request := by
  have hstripped := namedBy_nil_stripped hdistinct
  rw [Searcher.searchPlan]
  cases searcher.engine with
  | meilisearch =>
    refine ⟨_, rfl, fun key hkey => ?_⟩
    have hlimit : "limit" ≠ key := fun heq => absurd (heq ▸ hkey) (by decide)
    rw [Fields.get?_insertNew, if_neg hlimit, Option.or_none]
    exact hstripped.insert "q" _ key hkey
  | algolia =>
    have hpage : NamedBy [] [("hitsPerPage", .ofNat limit)] :=
      .of_keys (List.Sublist.refl ["hitsPerPage"]) (by decide)
    exact ⟨_, rfl, ((NamedBy.refl (ownNames .algolia index _)).append_nil hpage).insertAll
      (Fields.distinct_eraseAll (Fields.distinct_eraseAll hdistinct _) _) hstripped⟩

/-! ## Searches over several indexes -/

theorem Meilisearch.namedBy_bodyOf (federation : FederationSpec) (query : String)
    (entry : Fields) :
    NamedBy (ownNames .meilisearch (Alias.indexOf entry)
        (if Alias.queryOf entry = "" then query else Alias.queryOf entry))
      (bodyOf federation query entry) := by
  refine (NamedBy.append_nil (.append_nil (.refl _) ?_) ?_)
  · exact .of_keys (keys_forwarded _) (by decide)
  · cases federation.isNative
    · exact .refl _
    · exact .of_keys (List.Sublist.refl ["federationOptions"]) (by decide)

theorem Algolia.namedBy_named {entry : Fields} (hdistinct : Fields.Distinct entry)
    (query : String) :
    NamedBy (ownNames .algolia (Alias.indexOf entry)
        (if Alias.queryOf entry = "" then query else Alias.queryOf entry)) (named query entry) :=
  ((namedBy_nil_stripped hdistinct).insert "indexName" _).insert "query" _

/-- What the shared defaults have under a name shows in the request, unless it is one of the
engine's own. -/
theorem Algolia.namedBy_requestOf {entry : Fields} (hdistinct : Fields.Distinct entry)
    (federation : FederationSpec) (query : String) (limit : Nat) :
    NamedBy (ownNames .algolia (Alias.indexOf entry)
          (if Alias.queryOf entry = "" then query else Alias.queryOf entry) ++ federation.extra)
      (requestOf federation query limit entry) := by
  intro key hkey
  have hlimit : key ≠ "limit" := fun heq => absurd (heq ▸ hkey) (by decide)
  have hpage : key ≠ "hitsPerPage" := fun heq => absurd (heq ▸ hkey) (by decide)
  rw [get?_requestOf_of_ne hdistinct federation query limit hlimit hpage,
    namedBy_named hdistinct query key hkey, Fields.get?_append]

/-- The names that are not an engine's own. -/
def foreignKeys (engine : Engine) : List String :=
  nameKeys.filter fun key => key ≠ engine.indexKey ∧ key ≠ engine.textKey

/-- The shared defaults that an engine is sent as they are. Meilisearch is sent what is forwarded of
them, and no name is. -/
def sharedDefaults (federation : FederationSpec) : Engine → Fields
  | .meilisearch => []
  | .algolia => federation.extra

theorem get?_ownNames_of_foreign {engine : Engine} {key : String} (hkey : key ∈ foreignKeys engine)
    (index text : String) : Fields.get? (ownNames engine index text) key = none := by
  obtain ⟨_, hforeign⟩ := List.mem_filter.mp hkey
  obtain ⟨hindex, htext⟩ := of_decide_eq_true hforeign
  rw [ownNames, Fields.get?_cons, if_neg hindex.symm, Fields.get?_cons, if_neg htext.symm,
    Fields.get?_nil]

/-- **Only the engine's own names** are used exactly if the defaults behind them have no others. -/
theorem namedBy_own_iff {engine : Engine} {index text : String} {shared request : Fields}
    (h : NamedBy (ownNames engine index text ++ shared) request) :
    NamedBy (ownNames engine index text) request
      ↔ ∀ key ∈ foreignKeys engine, Fields.get? shared key = none := by
  constructor
  · intro hown key hkey
    obtain ⟨hname, _⟩ := List.mem_filter.mp hkey
    have hnone := get?_ownNames_of_foreign hkey index text
    have hboth := h key hname
    rw [hown key hname, Fields.get?_append, hnone, Option.none_or] at hboth
    exact hboth.symm
  · intro hshared key hname
    rw [h key hname, Fields.get?_append]
    by_cases hkey : key ∈ foreignKeys engine
    · rw [hshared key hkey, Option.or_none]
    · have hown : ¬ (key ≠ engine.indexKey ∧ key ≠ engine.textKey) := fun hforeign =>
        hkey (List.mem_filter.mpr ⟨hname, decide_eq_true hforeign⟩)
      have hsome : (Fields.get? (ownNames engine index text) key).isSome := by
        rw [ownNames, Fields.get?_cons, Fields.get?_cons]
        grind
      obtain ⟨value, hvalue⟩ := Option.isSome_iff_exists.mp hsome
      rw [hvalue, Option.some_or]

/-- **The names in the request for a query**: the engine's own for its index and its text, and
behind them what the shared defaults have. So they are the engine's own alone exactly if the
defaults have no others. -/
structure NamesQuery (engine : Engine) (federation : FederationSpec) (query : String)
    (entry request : Fields) : Prop where
  names : NamedBy (ownNames engine (Alias.indexOf entry)
      (if Alias.queryOf entry = "" then query else Alias.queryOf entry)
    ++ sharedDefaults federation engine) request
  own_iff : NamedBy (ownNames engine (Alias.indexOf entry)
      (if Alias.queryOf entry = "" then query else Alias.queryOf entry)) request
    ↔ ∀ key ∈ foreignKeys engine, Fields.get? (sharedDefaults federation engine) key = none

theorem namesQuery_multiSearch (searcher : Searcher) {queries : List Fields}
    (hdistinct : ∀ entry ∈ queries, Fields.Distinct entry) (query : String)
    (federation : FederationSpec) (limit : Nat) :
    List.Forall₂ (NamesQuery searcher.engine federation query) (indexed queries)
      ((searcher.multiSearchPlan queries query federation limit).calls.flatMap
        (requestsIn searcher.engine)) := by
  rw [Searcher.multiSearchPlan]
  cases searcher.engine with
  | meilisearch =>
    rw [Meilisearch.requests_multiSearch, List.forall₂_map_right_iff, List.forall₂_same]
    intro entry _
    have hnames : NamedBy (ownNames .meilisearch (Alias.indexOf entry)
          (if Alias.queryOf entry = "" then query else Alias.queryOf entry)
        ++ sharedDefaults federation .meilisearch) (Meilisearch.bodyOf federation query entry) := by
      rw [sharedDefaults, List.append_nil]
      exact Meilisearch.namedBy_bodyOf federation query entry
    exact ⟨hnames, namedBy_own_iff hnames⟩
  | algolia =>
    rw [Algolia.requests_multiSearch, List.forall₂_map_right_iff, List.forall₂_same]
    intro entry hentry
    have hnames := Algolia.namedBy_requestOf
      (hdistinct entry (List.mem_of_mem_filter hentry)) federation query limit
    exact ⟨hnames, namedBy_own_iff hnames⟩

/-! ## Searches by a payload -/

theorem SearchPayload.query_of_ofEntries {entries : Fields} {payload : SearchPayload}
    (h : ofEntries entries = .ok payload) : payload.query = Alias.queryOf entries := by
  unfold ofEntries at h
  split at h
  · cases h
  · cases h
    rfl

/-- Nothing is passed on under a name. -/
theorem namedBy_extra {entries : Fields} (hdistinct : Fields.Distinct entries)
    {payload : SearchPayload} (hread : SearchPayload.ofEntries entries = .ok payload) :
    NamedBy [] payload.extra := by
  obtain ⟨hfilters, _, _⟩ := ofEntries_eq_ok hread
  intro key hkey
  have hplain : ∀ key ∈ nameKeys, key ∉ SearchPayload.filterKeys := by decide
  have hknown : key ∈ Alias.indexKeys ++ Alias.queryKeys ++ Alias.scoreKeys
      ++ SearchPayload.declarativeKeys :=
    List.mem_append_left _ (List.mem_append_left _ hkey)
  have hextra := SearchPayload.get?_extra hdistinct hfilters key
  rwa [if_neg (hplain key hkey), if_pos hknown] at hextra

/-- The names that are asked for by a payload: around the compiler those that the payload has
itself; else the index, or its replica for the first sort key, and the words of the payload and of
the searches among its filters. -/
def askedNames (engine : Engine) (payload : SearchPayload) : Fields :=
  let request := SearchRequest.ofPayload payload.index payload
  if escapesOf engine payload then singleNames engine payload.index payload.query
  else singleNames engine (Algolia.indexNameOf request) request.queryText

theorem askedNames_of_escapes {engine : Engine} {payload : SearchPayload}
    (h : escapesOf engine payload = true) :
    askedNames engine payload = singleNames engine payload.index payload.query := if_pos h

/-- A descriptor is found by its name, so the request is made of the index of the payload. -/
theorem askedNames_of_direct {engine : Engine} {schema? : Option Schema} {payload : SearchPayload}
    {descriptor : IndexDescriptor} (h : escapesOf engine payload = false)
    (hknown : (schema?.bind fun schema => schema.index? payload.index) = some descriptor) :
    askedNames engine payload
      = singleNames engine (Algolia.indexNameOf (.ofPayload descriptor.name payload))
          (SearchRequest.ofPayload descriptor.name payload).queryText := by
  obtain ⟨schema, _, hfound⟩ := Option.bind_eq_some_iff.mp hknown
  have hname : descriptor.name = payload.index := by
    rw [Schema.index?] at hfound
    simpa using List.find?_some hfound
  rw [askedNames, h, hname]
  rfl

/-- A body that the compiler has written has the names of its request. -/
theorem Meilisearch.namedBy_requestBody {identifier : String} {request : SearchRequest}
    {body : Fields} (h : requestBody identifier request = .ok body) (index : String) :
    NamedBy (singleNames .meilisearch index request.queryText) body := by
  obtain ⟨predicates, hcompiled, rfl⟩ := requestBody_eq_ok.mp h
  rw [SearchRequest.queryText, ← queryWords_eq hcompiled]
  exact (NamedBy.refl _).append_nil
    (.of_keys (Body.keys_append (keys_textList _ _) (keys_otherParts request)) (by decide))

theorem Algolia.namedBy_requestBody {request : SearchRequest} {body : Fields}
    (h : requestBody request = .ok body) :
    NamedBy (singleNames .algolia (indexNameOf request) request.queryText) body := by
  obtain ⟨predicates, hcompiled, _⟩ := requestBody_eq_ok.mp h
  have hstart : NamedBy (singleNames .algolia (indexNameOf request) request.queryText)
      (startOf request predicates) := by
    rw [SearchRequest.queryText, ← queryWords_eq hcompiled]
    refine (NamedBy.refl _).append_nil ?_
    split
    · exact .refl _
    · exact .of_keys (List.Sublist.refl ["filters"]) (by decide)
  have hother : NamedBy [] (otherParts request) := .of_keys (keys_otherParts request) (by decide)
  have hplaces : ∀ key ∈ nameKeys, key ∉ placeKeys := by decide
  intro key hkey
  rw [get?_of_not_place hcompiled h (hplaces key hkey), hstart key hkey, hother key hkey,
    Fields.get?_nil, Option.or_none]

theorem Algolia.namedBy_escapedRequest {entries : Fields} (hdistinct : Fields.Distinct entries)
    {payload : SearchPayload} (hread : SearchPayload.ofEntries entries = .ok payload) :
    NamedBy (singleNames .algolia payload.index payload.query) (escapedRequest payload) := by
  obtain ⟨hfilters, _, _⟩ := ofEntries_eq_ok hread
  have hstart : NamedBy (singleNames .algolia payload.index payload.query)
      (escapedStart payload) := by
    refine (NamedBy.append_nil (.append_nil (.refl _) ?_) ?_)
    · exact .of_keys (keys_paging _ _) (by decide)
    · exact .of_keys (Body.keys_switch _ _) (by decide)
  rw [escapedRequest_eq]
  refine hstart.insertAllNew fun key hkey => ?_
  have hfilter : ∀ key ∈ nameKeys, key ≠ "filters" ∧ key ≠ "filter" := by decide
  obtain ⟨hfilters', hfilter'⟩ := hfilter key hkey
  rw [get?_map_ownKey hdistinct hfilters, if_neg hfilters', if_neg hfilter']
  exact namedBy_extra hdistinct hread key hkey

section Payload

variable {policy : Federation.Policy} {schema? : Option Schema} {entries : Fields}
  (hdistinct : Fields.Distinct entries) {payload : SearchPayload}
  (hread : SearchPayload.ofEntries entries = .ok payload) {call : Call}

include hdistinct hread

theorem Meilisearch.namedBy_searchPayload
    (h : call ∈ (searchPayload policy schema? entries payload).calls) :
    ∃ request, call = callFor .meilisearch payload.index request
      ∧ NamedBy (askedNames .meilisearch payload) request := by
  have hbecomes := becomes_searchPayload policy schema? entries payload
  generalize searchPayload policy schema? entries payload = plan at h hbecomes
  cases hbecomes with
  | settled result => cases h
  | around escaped =>
    have hescapes : escapesOf .meilisearch payload = true := escaped
    refine ⟨_, List.mem_singleton.mp h, ?_⟩
    rw [askedNames_of_escapes hescapes]
    exact (NamedBy.refl _).append_nil (.of_keys (keys_forwarded _) (by decide))
  | written direct known compiled =>
    have hdirect : escapesOf .meilisearch payload = false := direct
    refine ⟨_, List.mem_singleton.mp h, ?_⟩
    rw [askedNames_of_direct hdirect known]
    exact (namedBy_requestBody compiled _).insertAllNew (namedBy_extra hdistinct hread)

theorem Algolia.namedBy_searchPayload
    (h : call ∈ (searchPayload policy schema? payload).calls) :
    ∃ request, call = callFor .algolia payload.index request
      ∧ NamedBy (askedNames .algolia payload) request := by
  have hbecomes := becomes_searchPayload policy schema? payload
  generalize searchPayload policy schema? payload = plan at h hbecomes
  cases hbecomes with
  | settled result => cases h
  | around escaped =>
    have hescapes : escapesOf .algolia payload = true := escaped
    refine ⟨_, List.mem_singleton.mp h, ?_⟩
    rw [askedNames_of_escapes hescapes]
    exact namedBy_escapedRequest hdistinct hread
  | written direct known compiled =>
    have hdirect : escapesOf .algolia payload = false := direct
    refine ⟨_, List.mem_singleton.mp h, ?_⟩
    rw [askedNames_of_direct hdirect known]
    exact (namedBy_requestBody compiled).insertAllNew (namedBy_extra hdistinct hread)

end Payload

theorem namedBy_payloadPlan (searcher : Searcher) (schema? : Option Schema) {entries : Fields}
    (hdistinct : Fields.Distinct entries) {call : Call}
    (h : call ∈ (searcher.payloadPlan schema? entries).calls) :
    ∃ payload request, SearchPayload.ofEntries entries = .ok payload
      ∧ call = callFor searcher.engine payload.index request
      ∧ NamedBy (askedNames searcher.engine payload) request := by
  rw [Searcher.payloadPlan] at h
  cases hread : SearchPayload.ofEntries entries with
  | error failure =>
    rw [hread] at h
    cases h
  | ok payload =>
    rw [hread] at h
    generalize searcher.engine = engine at h ⊢
    cases engine with
    | meilisearch =>
      obtain ⟨request, hcall, hnames⟩ := Meilisearch.namedBy_searchPayload hdistinct hread h
      exact ⟨payload, request, rfl, hcall, hnames⟩
    | algolia =>
      obtain ⟨request, hcall, hnames⟩ := Algolia.namedBy_searchPayload hdistinct hread h
      exact ⟨payload, request, rfl, hcall, hnames⟩

/-! ## All searches -/

/-- **Requests name the index and the query text in the engine's own words**, with one exception.

* A search by parameters sends one request, for the index given, and with the text given or else
  that of the parameters.
* A search over several indexes sends a request for each query with an index, in their order, for
  its index and its text. Beside them there is what the shared defaults have under other names, with
  Algolia; with Meilisearch there is nothing.
* A search by a payload sends its request for the index and the text that the payload asks for.

In none of them anything else stands under a name, and what is passed on or shared does not replace
what does. -/
theorem requests_name_index_and_query (searcher : Searcher) (transport : Transport) (sent : Nat) :
    (∀ index query params limit, Fields.Distinct params →
      ∃ request, (searcher.search transport sent index query params limit).calls
          = [callFor searcher.engine index request]
        ∧ NamedBy (singleNames searcher.engine index
            (if query = "" then Alias.queryOf params else query)) request)
    ∧ (∀ queries query federation limit, (∀ entry ∈ queries, Fields.Distinct entry) →
      List.Forall₂ (NamesQuery searcher.engine federation query) (indexed queries)
        ((searcher.multiSearch transport sent queries query federation limit).calls.flatMap
          (requestsIn searcher.engine)))
    ∧ ∀ schema? json, (∀ entries, json = .object entries → Fields.Distinct entries) →
      ∀ call ∈ (searcher.searchFromJson schema? transport sent json).calls,
        ∃ entries payload request, json = .object entries
          ∧ SearchPayload.ofEntries entries = .ok payload
          ∧ payload.index = Alias.indexOf entries ∧ payload.query = Alias.queryOf entries
          ∧ call = callFor searcher.engine payload.index request
          ∧ NamedBy (askedNames searcher.engine payload) request := by
  refine ⟨fun index query params limit hdistinct =>
      namedBy_search searcher index query hdistinct limit,
    fun queries query federation limit hdistinct =>
      namesQuery_multiSearch searcher hdistinct query federation limit,
    fun schema? json hdistinct call hcall => ?_⟩
  match json with
  | .object entries =>
    obtain ⟨payload, request, hread, hsent, hnames⟩ :=
      namedBy_payloadPlan searcher schema? (hdistinct entries rfl) hcall
    obtain ⟨_, hindex, _⟩ := ofEntries_eq_ok hread
    exact ⟨entries, payload, request, rfl, hread, hindex, SearchPayload.query_of_ofEntries hread,
      hsent, hnames⟩
  | .null | .bool _ | .number _ | .string _ | .array _ => cases hcall

/-! ### A text for all queries -/

/-- A query for books in the callers' names. -/
def seaQuery : Fields := [("index", .string "books"), ("term", .string "sea")]

/-- The same as a payload, with a sort order. -/
def sortedSea : Fields := seaQuery ++ [("sort", .ofStrings ["year:desc"])]

/-- Options with a text that is meant for all queries. -/
def bootsForAll : FederationSpec := { FederationSpec.empty with extra := [("q", .string "boots")] }

/-- What is sent for the query with these options. -/
def callsForSea (engine : Engine) : List Call :=
  ((searcherOf engine).multiSearch (fun _ _ => ⟨0, .ok .null⟩) 0 [seaQuery] "" bootsForAll 20).calls

/-- With Meilisearch the query has its own text and no other, and with Algolia a payload is sent for
the replica under the engine's name. -/
theorem sea_is_named :
    (∃ request, (callsForSea .meilisearch).flatMap (requestsIn .meilisearch) = [request]
        ∧ NamedBy (ownNames .meilisearch "books" "sea") request)
      ∧ ∃ request, bookCalls .algolia sortedSea = [callFor .algolia "books" request]
        ∧ NamedBy (ownNames .algolia "books__year_desc" "sea") request := by
  constructor
  · obtain ⟨_, hqueries, _⟩ := requests_name_index_and_query (searcherOf .meilisearch)
      (fun _ _ => ⟨0, .ok .null⟩) 0
    have hnames := hqueries [seaQuery] "" bootsForAll 20 (by decide)
    rw [show indexed [seaQuery] = [seaQuery] from rfl] at hnames
    obtain ⟨request, _, hsea, hnone, hrequests⟩ := List.forall₂_cons_left_iff.mp hnames
    rw [List.forall₂_nil_left_iff.mp hnone] at hrequests
    exact ⟨request, hrequests, hsea.own_iff.mpr fun _ _ => rfl⟩
  · obtain ⟨_, _, hpayloads⟩ := requests_name_index_and_query (searcherOf .algolia)
      (fun _ _ => ⟨0, .ok .null⟩) 0
    have hdistinct : ∀ entries, Json.object sortedSea = .object entries →
        Fields.Distinct entries := by
      rintro entries ⟨⟩
      decide
    have hcall : bookCalls .algolia sortedSea = [callFor .algolia "books"
        [("indexName", .string "books__year_desc"), ("query", .string "sea")]] := rfl
    obtain ⟨entries, payload, request, hentries, hread, hindex, _, hsent, hnames⟩ :=
      hpayloads (some bookshelf) (.object sortedSea) hdistinct _
        (hcall ▸ List.mem_singleton.mpr rfl)
    cases hentries
    cases hread
    exact ⟨request, hcall.trans (congrArg (fun call => [call]) hsent), hnames⟩

/-- **A shared name leaks.** The text for all queries is sent to Algolia under a name that is not
the engine's, beside the text of the query. -/
theorem shared_text_leaks :
    FederationSpec.ofEntries [("q", .string "boots")] = .ok bootsForAll
      ∧ ∃ request, callsForSea .algolia = [Algolia.callOf [request]]
        ∧ Fields.get? request "q" = some (.string "boots")
        ∧ ¬ NamedBy (ownNames .algolia "books" "sea") request := by
  refine ⟨rfl, [("indexName", .string "books"), ("query", .string "sea"), ("q", .string "boots"),
    ("hitsPerPage", .ofNat 20)], rfl, rfl, fun hnames => ?_⟩
  cases hnames "q" (by decide)

end Metasearch
