import Metasearch.Proofs.Engine.KeyOrder
import Metasearch.Proofs.Engine.Sources

set_option autoImplicit false

/-! # Filter texts on their way to an engine

A text under one of the two filter keys is a filter in the language of the engine. Each engine
reads filters under one key (`filterKey`), and what stands there is one value. So of two texts at
most one is heard (`heardFilter?`): with Meilisearch that under `filter`, and with Algolia that
under `filters`, or that under `filter` if there is no other. It leads around the compiler and is
the filter of the only request.

The other text is lost. The request may show it under the other key (`strayKey`), which the engine
does not read, and apart from this it is the request for the payload without the text
(`filter_texts_in_requests`).
-/

namespace Metasearch

open List (Forall₂)
open SearchPayload (filterKeys rawFilter? rawFilters Listless)

/-! ## Requests and their filters -/

/-- The key of the filter in a request. -/
def filterKey : Engine → String
  | .meilisearch => "filter"
  | .algolia => "filters"

/-- The filter key of payloads that an engine does not read. -/
def strayKey : Engine → String
  | .meilisearch => "filters"
  | .algolia => "filter"

/-- The call that asks an engine for a search. -/
def callFor : Engine → String → Fields → Call
  | .meilisearch, index, request => ⟨Meilisearch.searchPath index, .object request⟩
  | .algolia, _, request => Algolia.callOf [request]

/-- The filter text of a payload that becomes the filter of the request. -/
def heardFilter? (engine : Engine) (entries : Fields) : Option Json :=
  match engine with
  | .meilisearch => rawFilter? entries "filter"
  | .algolia => (rawFilter? entries "filters").or (rawFilter? entries "filter")

/-- Two objects hold the same under every key but one. -/
def SameBut (key : String) (entries others : Fields) : Prop :=
  ∀ name ≠ key, Fields.get? others name = Fields.get? entries name

/-- Two calls ask for the same but for what stands under the key that is not read. -/
def AskAlike (engine : Engine) (index : String) (call call' : Call) : Prop :=
  ∃ request other, call = callFor engine index request ∧ call' = callFor engine index other
    ∧ SameBut (strayKey engine) request other

theorem eq_string_of_rawFilter? {entries : Fields} {key : String} {value : Json}
    (h : rawFilter? entries key = some value) :
    ∃ text, Fields.get? entries key = some (.string text) ∧ value = .string text := by
  unfold rawFilter? at h
  split at h
  · next text hvalue => exact ⟨text, hvalue, (Option.some.inj h).symm⟩
  · cases h

/-- A text that is heard leads around the compiler. -/
theorem leadsAround_of_heard {engine : Engine} {entries : Fields} {value : Json}
    (h : heardFilter? engine entries = some value) : LeadsAround engine entries := by
  obtain ⟨key, hkey, hraw⟩ : ∃ key ∈ textKeys engine, rawFilter? entries key = some value := by
    cases engine with
    | meilisearch => exact ⟨"filter", by decide, h⟩
    | algolia =>
      rcases Option.or_eq_some_iff.mp h with hfilters | ⟨_, hfilter⟩
      · exact ⟨"filters", by decide, hfilters⟩
      · exact ⟨"filter", by decide, hfilter⟩
  obtain ⟨text, htext, _⟩ := eq_string_of_rawFilter? hraw
  exact Or.inr (Or.inl ⟨key, hkey, text, htext⟩)

/-! ## The way around the compiler -/

/-- What is sent for a payload that leads around the compiler. -/
def aroundRequest (entries : Fields) (payload : SearchPayload) : Engine → Fields
  | .meilisearch => ("q", .string payload.query) :: Meilisearch.forwarded entries
  | .algolia => Algolia.escapedRequest payload

theorem calls_around (searcher : Searcher) (schema : Schema) {entries : Fields}
    (hdistinct : Fields.Distinct entries) (hindex : Alias.indexOf entries ≠ "")
    {payload : SearchPayload} (hread : SearchPayload.ofEntries entries = .ok payload)
    (hleads : LeadsAround searcher.engine entries) :
    (searcher.payloadPlan (some schema) entries).calls
      = [callFor searcher.engine (Alias.indexOf entries)
          (aroundRequest entries payload searcher.engine)] := by
  have hescapes := (escapes_iff hdistinct hread).mpr hleads
  obtain ⟨_, hname, _⟩ := ofEntries_eq_ok hread
  rw [← hname] at hindex ⊢
  rw [Searcher.payloadPlan, hread]
  generalize searcher.engine = engine at hescapes ⊢
  cases engine with
  | meilisearch =>
    have hescapes : Meilisearch.escapes payload = true := hescapes
    simp only [Meilisearch.searchPayload, if_neg hindex, if_pos hescapes]
    rfl
  | algolia =>
    have hescapes : Algolia.escapes payload = true := hescapes
    simp only [Algolia.searchPayload, if_neg hindex, if_pos hescapes]
    rfl

/-- The filter texts of a payload under Algolia's names for them. -/
theorem Algolia.get?_rawFilters (entries : Fields) (name : String) :
    Fields.get? ((rawFilters entries).map fun (key, value) => (ownKey key, value)) name
      = if name = "filters" then heardFilter? .algolia entries else none := by
  have hraw : rawFilters entries
      = ((rawFilter? entries "filters").map fun value => ("filters", value)).toList
        ++ ((rawFilter? entries "filter").map fun value => ("filter", value)).toList := by
    cases hfilters : rawFilter? entries "filters" <;>
      cases hfilter : rawFilter? entries "filter" <;>
      simp [rawFilters, filterKeys, hfilters, hfilter]
  rw [hraw, heardFilter?]
  by_cases hname : "filters" = name
  · subst hname
    cases rawFilter? entries "filters" <;> cases rawFilter? entries "filter" <;>
      simp [ownKey, Fields.get?_cons]
  · cases rawFilter? entries "filters" <;> cases rawFilter? entries "filter" <;>
      simp [ownKey, Fields.get?_cons, hname, Ne.symm hname]

/-- **What is passed on under Algolia's names**: of two filter texts the one under `filters` comes
first and takes the place. -/
theorem Algolia.get?_map_ownKey {entries : Fields} (hdistinct : Fields.Distinct entries)
    {result : List Condition × Fields} (hread : SearchPayload.readFilters entries = .ok result)
    (name : String) :
    Fields.get? (result.2.map fun (key, value) => (ownKey key, value)) name
      = if name = "filters" then heardFilter? .algolia entries
        else if name = "filter" then none else Fields.get? result.2 name := by
  have hsubset : filterKeys ⊆ SearchPayload.declarativeKeys := by decide
  have hplain : ∀ key ∈ filterKeys, Fields.get? (SearchPayload.passthrough entries) key = none :=
    fun key hkey => SearchPayload.get?_passthrough hdistinct (hsubset hkey)
  have hraw : name ∉ filterKeys →
      Fields.get? (rawFilters entries) name = none := fun hname => by
    rw [rawFilters, Fields.get?_filterMap_keys, if_neg hname]
  rw [SearchPayload.extra_eq hdistinct hread, List.map_append,
    map_ownKey (hplain "filter" (by decide)), Fields.get?_append, get?_rawFilters,
    Fields.get?_append]
  by_cases hfilters : name = "filters"
  · rw [hfilters, hplain "filters" (by decide), if_pos rfl, if_pos rfl, Option.none_or]
  · by_cases hfilter : name = "filter"
    · rw [hfilter, hplain "filter" (by decide), if_neg (by decide), if_neg (by decide), if_pos rfl,
        Option.none_or]
    · rw [if_neg hfilters, if_neg hfilters, if_neg hfilter,
        hraw (by simp [filterKeys, hfilters, hfilter])]

/-- The first entries of a request have no filter. -/
theorem Algolia.get?_escapedRequest {payload : SearchPayload} {name : String}
    (hname : name ∈ filterKeys) :
    Fields.get? (escapedRequest payload) name
      = Fields.get? (payload.extra.map fun (key, value) => (ownKey key, value)) name := by
  have hnot : ∀ name ∈ filterKeys, name ∉
      ["indexName", "query"] ++ ["offset", "length", "hitsPerPage"] ++ ["getRankingInfo"] := by
    decide
  have hstart : Fields.get? (escapedStart payload) name = none :=
    Fields.get?_eq_none.mpr fun hmem => hnot name hname ((keys_escapedStart payload).subset hmem)
  rw [escapedRequest_eq, Fields.get?_insertAllNew, hstart, Option.none_or]

section Around

variable {engine : Engine} {entries : Fields} (hdistinct : Fields.Distinct entries)
  {payload : SearchPayload} (hread : SearchPayload.ofEntries entries = .ok payload)

include hdistinct hread

/-- **The text that is heard is the filter of the request.** -/
theorem get?_filterKey_around {value : Json} (h : heardFilter? engine entries = some value) :
    Fields.get? (aroundRequest entries payload engine) (filterKey engine) = some value := by
  cases engine with
  | meilisearch =>
    obtain ⟨text, htext, rfl⟩ := eq_string_of_rawFilter? h
    have hset : Fields.getSet? entries "filter" = some (.string text) := by
      rw [Fields.getSet?, htext]
      rfl
    show Fields.get? (("q", .string payload.query) :: Meilisearch.forwarded entries) "filter" = _
    rw [Fields.get?_cons, if_neg (by decide), Meilisearch.get?_forwarded, if_pos (by decide), hset]
  | algolia =>
    obtain ⟨hfilters, _, _⟩ := ofEntries_eq_ok hread
    show Fields.get? (Algolia.escapedRequest payload) "filters" = _
    rw [Algolia.get?_escapedRequest (by decide), Algolia.get?_map_ownKey hdistinct hfilters,
      if_pos rfl, h]

/-- Around the compiler nothing is sent under the key that is not read. -/
theorem get?_strayKey_around :
    Fields.get? (aroundRequest entries payload engine) (strayKey engine) = none := by
  cases engine with
  | meilisearch =>
    show Fields.get? (("q", .string payload.query) :: Meilisearch.forwarded entries) "filters" = _
    rw [Fields.get?_cons, if_neg (by decide), Meilisearch.get?_forwarded, if_neg (by decide)]
  | algolia =>
    obtain ⟨hfilters, _, _⟩ := ofEntries_eq_ok hread
    show Fields.get? (Algolia.escapedRequest payload) "filter" = _
    rw [Algolia.get?_escapedRequest (by decide), Algolia.get?_map_ownKey hdistinct hfilters,
      if_neg (by decide), if_pos rfl]

end Around

/-! ## The compiler's way -/

/-- The body that the compiler writes for a payload. -/
def compiledBody (engine : Engine) (descriptor : IndexDescriptor) (payload : SearchPayload) :
    Except Obstacle Fields :=
  match engine with
  | .meilisearch =>
    Meilisearch.requestBody descriptor.identifier (.ofPayload descriptor.name payload)
  | .algolia => Algolia.requestBody (.ofPayload descriptor.name payload)

theorem distinct_compiledBody {engine : Engine} {descriptor : IndexDescriptor}
    {payload : SearchPayload} {compiled : Fields}
    (h : compiledBody engine descriptor payload = .ok compiled) : Fields.Distinct compiled := by
  cases engine with
  | meilisearch => exact Meilisearch.distinct_requestBody h
  | algolia => exact Algolia.distinct_requestBody h

/-- A payload is compiled: it names an index with a descriptor, and a body is written for it. -/
def CompilesTo (engine : Engine) (schema? : Option Schema) (payload : SearchPayload)
    (compiled : Fields) : Prop :=
  payload.index ≠ "" ∧ ∃ descriptor,
    (schema?.bind fun schema => schema.index? payload.index) = some descriptor
      ∧ compiledBody engine descriptor payload = .ok compiled

section Direct

variable {searcher : Searcher} {schema? : Option Schema} {entries : Fields}
  {payload : SearchPayload} (hdistinct : Fields.Distinct entries)
  (hread : SearchPayload.ofEntries entries = .ok payload)
  (hdirect : ¬ LeadsAround searcher.engine entries)

include hdistinct hread hdirect

/-- A payload that is compiled is sent, with what is passed on behind it. -/
theorem calls_of_compilesTo {compiled : Fields}
    (h : CompilesTo searcher.engine schema? payload compiled) :
    (searcher.payloadPlan schema? entries).calls
      = [callFor searcher.engine payload.index (Fields.insertAllNew compiled payload.extra)] := by
  have hescapes : ¬ escapesOf searcher.engine payload = true :=
    mt (escapes_iff hdistinct hread).mp hdirect
  obtain ⟨hindex, descriptor, hknown, hcompiled⟩ := h
  obtain ⟨schema, rfl, hdescriptor⟩ := Option.bind_eq_some_iff.mp hknown
  rw [Searcher.payloadPlan, hread]
  generalize searcher.engine = engine at hescapes hcompiled ⊢
  cases engine with
  | meilisearch =>
    have hescapes : ¬ Meilisearch.escapes payload = true := hescapes
    have hcompiled : Meilisearch.requestBody descriptor.identifier
      (.ofPayload descriptor.name payload) = .ok compiled := hcompiled
    simp only [Meilisearch.searchPayload, if_neg hindex, if_neg hescapes, hdescriptor, hcompiled]
    rfl
  | algolia =>
    have hescapes : ¬ Algolia.escapes payload = true := hescapes
    have hcompiled : Algolia.requestBody (.ofPayload descriptor.name payload) = .ok compiled :=
      hcompiled
    simp only [Algolia.searchPayload, if_neg hindex, if_neg hescapes, hdescriptor, hcompiled]
    rfl

/-- Nothing else is sent. -/
theorem compilesTo_of_call {call : Call} (h : call ∈ (searcher.payloadPlan schema? entries).calls) :
    ∃ compiled, CompilesTo searcher.engine schema? payload compiled := by
  have hescapes : ¬ escapesOf searcher.engine payload = true :=
    mt (escapes_iff hdistinct hread).mp hdirect
  rw [Searcher.payloadPlan, hread] at h
  generalize searcher.engine = engine at h hescapes ⊢
  cases engine with
  | meilisearch =>
    have hbecomes := Meilisearch.becomes_searchPayload searcher.policy schema? entries payload
    have hindex : payload.index ≠ "" := by
      intro hempty
      cases schema? <;> simp [Meilisearch.searchPayload, hempty, Plan.nothing, Plan.calls] at h
    dsimp only at h
    generalize Meilisearch.searchPayload searcher.policy schema? entries payload = plan
      at h hbecomes
    cases hbecomes with
    | settled result => cases h
    | around escaped => exact absurd escaped hescapes
    | written direct known compiled => exact ⟨_, hindex, _, known, compiled⟩
  | algolia =>
    have hbecomes := Algolia.becomes_searchPayload searcher.policy schema? payload
    have hindex : payload.index ≠ "" := by
      intro hempty
      cases schema? <;> simp [Algolia.searchPayload, hempty, Plan.nothing, Plan.calls] at h
    dsimp only at h
    generalize Algolia.searchPayload searcher.policy schema? payload = plan at h hbecomes
    cases hbecomes with
    | settled result => cases h
    | around escaped => exact absurd escaped hescapes
    | written direct known compiled => exact ⟨_, hindex, _, known, compiled⟩

end Direct

/-- A body that the compiler has written has nothing under the key that is not read. -/
theorem Meilisearch.get?_filters {identifier : String} {request : SearchRequest} {body : Fields}
    (h : requestBody identifier request = .ok body) : Fields.get? body "filters" = none :=
  Fields.get?_eq_none.mpr fun hmem => absurd ((keys_requestBody h).subset hmem) (by decide)

theorem Algolia.get?_filter {request : SearchRequest} {body : Fields}
    (h : requestBody request = .ok body) : Fields.get? body "filter" = none := by
  obtain ⟨predicates, hcompiled, _⟩ := requestBody_eq_ok.mp h
  have hstart : Fields.get? (startOf request predicates) "filter" = none :=
    Fields.get?_eq_none.mpr fun hmem =>
      absurd ((keys_startOf request predicates).subset hmem) (by decide)
  have hother : Fields.get? (otherParts request) "filter" = none :=
    Fields.get?_eq_none.mpr fun hmem => absurd ((keys_otherParts request).subset hmem) (by decide)
  rw [get?_of_not_place hcompiled h (by decide), hstart, hother, Option.none_or]

theorem get?_strayKey_compiledBody {engine : Engine} {descriptor : IndexDescriptor}
    {payload : SearchPayload} {compiled : Fields}
    (h : compiledBody engine descriptor payload = .ok compiled) :
    Fields.get? compiled (strayKey engine) = none := by
  cases engine with
  | meilisearch => exact Meilisearch.get?_filters h
  | algolia => exact Algolia.get?_filter h

/-- What is sent for a payload on the compiler's way: what the compiler has written, and what is
passed on under keys that are not in it. -/
theorem request_of_written {searcher : Searcher} {schema? : Option Schema} {entries : Fields}
    (hdistinct : Fields.Distinct entries) {payload : SearchPayload}
    (hread : SearchPayload.ofEntries entries = .ok payload)
    (hdirect : ¬ LeadsAround searcher.engine entries) {call : Call}
    (h : call ∈ (searcher.payloadPlan schema? entries).calls) :
    ∃ body, Fields.get? body (strayKey searcher.engine) = none
      ∧ call = callFor searcher.engine (Alias.indexOf entries)
          (Fields.insertAllNew body payload.extra) := by
  obtain ⟨compiled, hcompiles⟩ := compilesTo_of_call hdistinct hread hdirect h
  rw [calls_of_compilesTo hdistinct hread hdirect hcompiles] at h
  obtain ⟨_, hname, _⟩ := ofEntries_eq_ok hread
  obtain ⟨_, _, _, hcompiled⟩ := hcompiles
  rw [← hname]
  exact ⟨compiled, get?_strayKey_compiledBody hcompiled, List.mem_singleton.mp h⟩

/-- **What is under the key that is not read**: around the compiler nothing, and else the text that
the payload has there. -/
theorem stray_of_call (searcher : Searcher) (schema : Schema) {entries : Fields}
    (hdistinct : Fields.Distinct entries) (hindex : Alias.indexOf entries ≠ "") {call : Call}
    (h : call ∈ (searcher.payloadPlan (some schema) entries).calls) :
    ∃ request, call = callFor searcher.engine (Alias.indexOf entries) request
      ∧ (LeadsAround searcher.engine entries →
        Fields.get? request (strayKey searcher.engine) = none)
      ∧ (¬ LeadsAround searcher.engine entries →
        Fields.get? request (strayKey searcher.engine)
          = rawFilter? entries (strayKey searcher.engine)) := by
  obtain ⟨payload, hread⟩ : ∃ payload, SearchPayload.ofEntries entries = .ok payload := by
    cases hread : SearchPayload.ofEntries entries with
    | ok payload => exact ⟨payload, rfl⟩
    | error failure =>
      rw [Searcher.payloadPlan, hread] at h
      cases h
  by_cases hleads : LeadsAround searcher.engine entries
  · rw [calls_around searcher schema hdistinct hindex hread hleads] at h
    exact ⟨_, List.mem_singleton.mp h, fun _ => get?_strayKey_around hdistinct hread,
      fun hdirect => absurd hleads hdirect⟩
  · obtain ⟨body, hbody, hcall⟩ := request_of_written hdistinct hread hleads h
    refine ⟨_, hcall, fun hleads' => absurd hleads' hleads, fun _ => ?_⟩
    obtain ⟨hfilters, _, _⟩ := ofEntries_eq_ok hread
    have hkey : strayKey searcher.engine ∈ filterKeys := by
      cases searcher.engine <;> decide
    rw [Fields.get?_insertAllNew, hbody, Option.none_or,
      SearchPayload.get?_extra hdistinct hfilters, if_pos hkey]

/-! ## Texts that are lost -/

/-- Two payloads that differ at most in a text that is lost. With Algolia this is one that stands
beside another under `filters`. -/
structure SameButLost (engine : Engine) (entries others : Fields) : Prop where
  elsewhere : SameBut (strayKey engine) entries others
  lost : Listless entries (strayKey engine)
  lost' : Listless others (strayKey engine)
  preferred : engine = .algolia → ∃ text, Fields.get? entries "filters" = some (.string text)

section Lost

variable {engine : Engine} {entries others : Fields} (h : SameButLost engine entries others)
  (hdistinct : Fields.Distinct entries) (hdistinct' : Fields.Distinct others)

include h

theorem SameButLost.get?_eq {name : String} (hname : name ∉ filterKeys) :
    Fields.get? others name = Fields.get? entries name := by
  apply h.elsewhere
  rintro rfl
  have hkey : strayKey engine ∈ filterKeys := by cases engine <;> decide
  exact hname hkey

include hdistinct hdistinct'

/-- The two are read alike, but for what is passed on under the key that is not read. -/
theorem SameButLost.ofEntries :
    (∃ failure, SearchPayload.ofEntries entries = .error failure
        ∧ SearchPayload.ofEntries others = .error failure)
      ∨ ∃ payload extra, SearchPayload.ofEntries entries = .ok payload
        ∧ SearchPayload.ofEntries others = .ok { payload with extra := extra }
        ∧ SameBut (strayKey engine) payload.extra extra := by
  have hdeclared : ∀ key ∈ filterKeys,
      SearchPayload.DeclaredAlike entries others key := by
    intro key _
    by_cases hkey : key = strayKey engine
    · rw [hkey]
      exact .inr ⟨h.lost, h.lost'⟩
    · exact .inl (h.elsewhere key hkey).symm
  rcases SearchPayload.ofEntries_agree hdeclared fun key hkey => (h.get?_eq hkey).symm with
    hfailure | ⟨payload, extra, hread, hread', hfilters, hfilters'⟩
  · exact .inl hfailure
  · refine .inr ⟨payload, extra, hread, hread', fun name hname => ?_⟩
    have hget := SearchPayload.get?_extra hdistinct hfilters name
    have hget' := SearchPayload.get?_extra hdistinct' hfilters' name
    rw [hget, hget', rawFilter?, rawFilter?, h.elsewhere name hname]

end Lost

/-- With Meilisearch what stands under `filters` in `extra` shows nowhere else. -/
theorem Meilisearch.askAlike (policy : Federation.Policy) (schema? : Option Schema)
    {entries others : Fields} (hentries : SameBut "filters" entries others)
    {payload : SearchPayload} {extra : Fields} (hextra : SameBut "filters" payload.extra extra) :
    Forall₂ (AskAlike .meilisearch payload.index)
      (searchPayload policy schema? entries payload).calls
      (searchPayload policy schema? others { payload with extra := extra }).calls := by
  have hescapes : escapes { payload with extra := extra } = escapes payload := by
    have hvectors := Fields.getSet?_congr (hextra "retrieveVectors" (by decide))
    have hfilter := Fields.getSet?_congr (hextra "filter" (by decide))
    simp only [escapes, SearchPayload.hasAny, escapeKeys, List.any_cons,
      List.any_nil, hvectors, hfilter]
  have hforwarded : forwarded others = forwarded entries :=
    List.filterMap_congr fun key hkey => by
      rw [Fields.getSet?_congr (hentries key ((by decide :
        ∀ key ∈ forwardedKeys, key ≠ "filters") key hkey))]
  unfold searchPayload
  cases schema? with
  | none => exact .nil
  | some schema =>
    dsimp only
    rw [hescapes, hforwarded]
    split
    · exact .nil
    · split
      · exact .cons ⟨_, _, rfl, rfl, fun _ _ => rfl⟩ .nil
      · cases schema.index? payload.index with
        | none => exact .nil
        | some descriptor =>
          have hrequest : SearchRequest.ofPayload descriptor.name { payload with extra := extra }
              = SearchRequest.ofPayload descriptor.name payload := rfl
          dsimp only
          rw [hrequest]
          cases requestBody descriptor.identifier (.ofPayload descriptor.name payload) with
          | error obstacle => exact .nil
          | ok body =>
            refine .cons ⟨Fields.insertAllNew body payload.extra, Fields.insertAllNew body extra,
              rfl, rfl, fun name hname => ?_⟩ .nil
            rw [Fields.get?_insertAllNew, Fields.get?_insertAllNew, hextra name hname]

/-- With Algolia a text under `filter` shows nowhere beside one under `filters`. -/
theorem Algolia.sameBut_escapedRequest {entries others : Fields}
    (h : SameButLost .algolia entries others) (hdistinct : Fields.Distinct entries)
    (hdistinct' : Fields.Distinct others) {payload : SearchPayload} {extra : Fields}
    (hread : SearchPayload.ofEntries entries = .ok payload)
    (hread' : SearchPayload.ofEntries others = .ok { payload with extra := extra })
    (hextra : SameBut "filter" payload.extra extra) :
    SameBut "filter" (escapedRequest payload)
      (escapedRequest { payload with extra := extra }) := by
  intro name hname
  obtain ⟨hfilters, _, _⟩ := ofEntries_eq_ok hread
  obtain ⟨hfilters', _, _⟩ := ofEntries_eq_ok hread'
  have hheard : heardFilter? .algolia others = heardFilter? .algolia entries := by
    obtain ⟨text, htext⟩ := h.preferred rfl
    have htext' : Fields.get? others "filters" = some (.string text) := by
      rw [h.elsewhere "filters" (by decide), htext]
    simp only [heardFilter?, rawFilter?, htext, htext', Option.some_or]
  have hpassed := get?_map_ownKey hdistinct hfilters name
  have hpassed' := get?_map_ownKey hdistinct' hfilters' name
  rw [if_neg hname] at hpassed hpassed'
  have hstart : escapedStart { payload with extra := extra } = escapedStart payload := rfl
  rw [escapedRequest_eq, escapedRequest_eq, Fields.get?_insertAllNew, Fields.get?_insertAllNew,
    hpassed, hpassed', hheard, hextra name hname, hstart]

/-- **A text that is lost has no effect**: the same is asked for as without it. -/
theorem SameButLost.askAlike {searcher : Searcher} {schema : Schema} {entries others : Fields}
    (h : SameButLost searcher.engine entries others) (hdistinct : Fields.Distinct entries)
    (hdistinct' : Fields.Distinct others) (hindex : Alias.indexOf entries ≠ "") :
    Forall₂ (AskAlike searcher.engine (Alias.indexOf entries))
      (searcher.payloadPlan (some schema) entries).calls
      (searcher.payloadPlan (some schema) others).calls := by
  rcases h.ofEntries hdistinct hdistinct' with
    ⟨failure, hread, hread'⟩ | ⟨payload, extra, hread, hread', hextra⟩
  · rw [Searcher.payloadPlan, Searcher.payloadPlan, hread, hread']
    exact .nil
  · obtain ⟨_, hname, _⟩ := ofEntries_eq_ok hread
    obtain ⟨_, hname', _⟩ := ofEntries_eq_ok hread'
    have hsame : Alias.indexOf others = Alias.indexOf entries := hname'.symm.trans hname
    cases hengine : searcher.engine with
    | meilisearch =>
      rw [hengine] at h hextra
      rw [Searcher.payloadPlan, Searcher.payloadPlan, hread, hread', hengine, ← hname]
      exact Meilisearch.askAlike searcher.policy (some schema) h.elsewhere hextra
    | algolia =>
      rw [hengine] at h hextra
      -- both lead around the compiler, by the text under `filters`
      obtain ⟨text, htext⟩ := h.preferred rfl
      have htext' : Fields.get? others "filters" = some (.string text) := by
        rw [h.elsewhere "filters" (by decide), htext]
      have hleads : ∀ payload, Fields.get? payload "filters" = some (.string text) →
          LeadsAround searcher.engine payload := fun payload hpayload => by
        rw [hengine]
        exact .inr (.inl ⟨"filters", by decide, text, hpayload⟩)
      rw [calls_around searcher schema hdistinct hindex hread (hleads _ htext),
        calls_around searcher schema hdistinct' (by rwa [hsame]) hread' (hleads _ htext'), hsame,
        hengine]
      exact .cons ⟨_, _, rfl, rfl,
        Algolia.sameBut_escapedRequest h hdistinct hdistinct' hread hread' hextra⟩ .nil

/-- **Filter texts in the requests for a payload.** A payload that names an index is searched for
with a configured schema. If a filter text is heard and the payload can be read, there is one
request, and the text is its filter. The other text is lost: a request has it at most under the key
that the engine does not read, and this only on the compiler's way; and every other key of the
request is as for the payload with another text in its place, or with none. -/
theorem filter_texts_in_requests (searcher : Searcher) (schema : Schema) (transport : Transport)
    (sent : Nat) {entries : Fields} (hdistinct : Fields.Distinct entries)
    (hindex : Alias.indexOf entries ≠ "") :
    let calls := fun entries =>
      (searcher.searchFromJson (some schema) transport sent (.object entries)).calls
    (∀ value, heardFilter? searcher.engine entries = some value →
      (SearchPayload.ofEntries entries).isOk →
      ∃ request, calls entries = [callFor searcher.engine (Alias.indexOf entries) request]
        ∧ Fields.get? request (filterKey searcher.engine) = some value)
    ∧ (∀ call ∈ calls entries,
      ∃ request, call = callFor searcher.engine (Alias.indexOf entries) request
        ∧ (LeadsAround searcher.engine entries →
          Fields.get? request (strayKey searcher.engine) = none)
        ∧ (¬ LeadsAround searcher.engine entries →
          Fields.get? request (strayKey searcher.engine)
            = rawFilter? entries (strayKey searcher.engine)))
    ∧ (∀ others, Fields.Distinct others → SameButLost searcher.engine entries others →
      Forall₂ (AskAlike searcher.engine (Alias.indexOf entries))
        (calls entries) (calls others)) := by
  intro calls
  refine ⟨fun value hheard hok => ?_, fun call hcall => ?_, fun others hdistinct' hlost => ?_⟩
  · cases hread : SearchPayload.ofEntries entries with
    | error failure =>
      rw [hread] at hok
      cases hok
    | ok payload =>
      have hleads := leadsAround_of_heard hheard
      exact ⟨_, calls_around searcher schema hdistinct hindex hread hleads,
        get?_filterKey_around hdistinct hread hheard⟩
  · exact stray_of_call searcher schema hdistinct hindex hcall
  · exact hlost.askAlike hdistinct hdistinct' hindex

/-! ### Two filter texts for books -/

/-- A payload with a filter text under `filters`. -/
def yearAlone : Fields := [("index", .string "books"), ("filters", .string "year > 2000")]

/-- A payload with one under each key. -/
def yearAndGenre : Fields := yearAlone ++ [("filter", .string "genre:novel")]

/-- The calls for a payload, whatever is answered. -/
def bookCalls (engine : Engine) (entries : Fields) : List Call :=
  ((searcherOf engine).searchFromJson (some bookshelf) (fun _ _ => ⟨0, .ok .null⟩) 0
    (.object entries)).calls

/-- Algolia hears the year, and would ask for the same without the genre. -/
theorem year_is_heard :
    Fields.Distinct yearAndGenre ∧ Alias.indexOf yearAndGenre ≠ ""
      ∧ (∃ request, bookCalls .algolia yearAndGenre = [callFor .algolia "books" request]
        ∧ Fields.get? request "filters" = some (.string "year > 2000"))
      ∧ (∀ call ∈ bookCalls .algolia yearAndGenre, ∃ request,
        call = callFor .algolia "books" request ∧ Fields.get? request "filter" = none)
      ∧ Forall₂ (AskAlike .algolia "books") (bookCalls .algolia yearAndGenre)
        (bookCalls .algolia yearAlone) := by
  have hdistinct : Fields.Distinct yearAndGenre := by decide
  have hindex : Alias.indexOf yearAndGenre ≠ "" := by decide
  obtain ⟨hheard, hstray, hlost⟩ := filter_texts_in_requests (searcherOf .algolia) bookshelf
    (fun _ _ => ⟨0, .ok .null⟩) 0 hdistinct hindex
  refine ⟨hdistinct, hindex, hheard _ rfl rfl, fun call hcall => ?_, hlost yearAlone (by decide) ?_⟩
  · obtain ⟨request, hrequest, haround, _⟩ := hstray call hcall
    exact ⟨request, hrequest, haround (leadsAround_of_heard rfl)⟩
  · refine ⟨fun name hname => ?_, .inr (.inr ⟨_, rfl⟩), .inl rfl, fun _ => ⟨_, rfl⟩⟩
    have hother : "filter" ≠ name := Ne.symm hname
    have hnone : Fields.get? [("filter", Json.string "genre:novel")] name = none := by
      rw [Fields.get?_cons, if_neg hother]
      rfl
    rw [yearAndGenre, Fields.get?_append, hnone, Option.or_none]

/-- **A filter text can be lost.** For Meilisearch a text under `filters` stays under this key, and
the request has no filter. For Algolia the filter of the request is the text under `filters`, and
the one under `filter` is not in it. -/
theorem filter_texts_are_lost :
    (∃ request, bookCalls .meilisearch yearAlone = [callFor .meilisearch "books" request]
        ∧ Fields.get? request "filters" = some (.string "year > 2000")
        ∧ Fields.get? request "filter" = none)
      ∧ ∃ request, bookCalls .algolia yearAndGenre = [callFor .algolia "books" request]
        ∧ Fields.get? request "filters" = some (.string "year > 2000")
        ∧ ¬ "genre:novel".toList <:+: "year > 2000".toList := by
  constructor
  · exact ⟨[("q", .string ""), ("filters", .string "year > 2000")], rfl, rfl, rfl⟩
  · exact ⟨[("indexName", .string "books"), ("query", .string ""),
      ("filters", .string "year > 2000")], rfl, rfl, by decide +kernel⟩

end Metasearch
