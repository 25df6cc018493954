import Metasearch.Proofs.Engine.Failures
import Metasearch.Proofs.Federation.Merge
import Metasearch.Proofs.Federation.Runs

set_option autoImplicit false

/-! # The searches of a fan-out do not disturb each other

A fan-out asks one provider for several things at once. What an entry asks for depends on the entry
and on what all entries share, not on the other entries (`entriesOf_without`). An entry that fails
or comes too late has an empty pool, and an empty pool leaves no trace in a blend
(`blend_filter`). So the page is that of the payload without such entries, unless a failure is
fatal: of the fatal ones the first in the order of the entries is reported.
-/

namespace Metasearch

namespace Federation

/-! ## What is gathered -/

/-- The hits of a result. A failure has none. -/
def found : Except Failure (List Hit) → List Hit
  | .ok hits => hits
  | .error _ => []

/-- The pool of a search: the hits found that pass the floor. -/
def flooredPool (minimum : Float) (search : Entry × Except Failure (List Hit)) : RankedPool :=
  ⟨search.1.index, applyFloor minimum search.1.showScores (found search.2)⟩

theorem eq_flooredPool_of_poolOf {minimum : Float} {entry : Entry}
    {result : Except Failure (List Hit)} {pool : RankedPool}
    (h : poolOf minimum entry result = .ok pool) : pool = flooredPool minimum (entry, result) := by
  cases result with
  | ok hits => exact (Except.ok.inj h).symm
  | error failure =>
    rw [poolOf] at h
    split at h
    · cases h
    · exact (Except.ok.inj h).symm

theorem eq_map_of_poolsOf {minimum : Float} {results : List (Entry × Except Failure (List Hit))}
    {pools : List RankedPool} (h : poolsOf minimum results = .ok pools) :
    pools = results.map (flooredPool minimum) := by
  have hpools := (itemwise_eq_ok (fun result => poolOf minimum result.1 result.2)
    (poolsOf minimum) rfl fun _ _ => rfl).mp h
  exact eq_map_of_forall₂ (hpools.flip.imp fun _ _ => eq_flooredPool_of_poolOf)

theorem blend_nil (spec : FederationSpec) (fallback : Nat) : blend spec fallback [] = [] := by
  simp [blend, merged]

/-- **What is gathered, if it is not a failure, is the blend of the pools** of all searches. -/
theorem eq_blend_of_gather {minimum : Float} {payload : FederatedPayload}
    {results : List (Entry × Except Failure (List Hit))} {hits : List Hit}
    (h : gather minimum payload results = .ok hits) :
    hits = blend payload.federation payload.limit (results.map (flooredPool minimum)) := by
  unfold gather at h
  split at h
  · next hempty =>
    cases h
    rw [List.isEmpty_iff.mp hempty, List.map_nil, blend_nil]
  · cases hpools : poolsOf minimum results with
    | error failure =>
      rw [hpools] at h
      cases h
    | ok pools =>
      rw [hpools] at h
      rw [← eq_map_of_poolsOf hpools]
      exact (Except.ok.inj h).symm

/-- The failure that fails the whole fan-out, if a search has one. -/
def fatalOf (result : Except Failure (List Hit)) : Option Failure :=
  (errorOf? result).filter Failure.isFatal

theorem gather_of_not_fatal {minimum : Float} {payload : FederatedPayload}
    {results : List (Entry × Except Failure (List Hit))}
    (h : ∀ result ∈ results, fatalOf result.2 = none) :
    gather minimum payload results
      = .ok (blend payload.federation payload.limit (results.map (flooredPool minimum))) := by
  have hnone : errorOf? (gather minimum payload results) = none := by
    rw [errorOf?_gather]
    exact List.findSome?_eq_none_iff.mpr h
  obtain ⟨hits, hhits⟩ := errorOf?_eq_none.mp hnone
  rw [hhits, eq_blend_of_gather hhits]

/-! ## Searches that bring nothing -/

theorem flatMap_filter_of_nil {α β : Type} {f : α → List β} {p : α → Bool} {items : List α}
    (h : ∀ item ∈ items, p item = false → f item = []) :
    (items.filter p).flatMap f = items.flatMap f := by
  induction items with
  | nil => rfl
  | cons item items ih =>
    obtain ⟨hitem, hitems⟩ := List.forall_mem_cons.mp h
    cases hp : p item with
    | true => rw [List.filter_cons_of_pos hp, List.flatMap_cons, List.flatMap_cons, ih hitems]
    | false =>
      rw [List.filter_cons_of_neg (by simp [hp]), List.flatMap_cons, hitem hp, List.nil_append,
        ih hitems]

/-- **An empty pool leaves no trace in a blend.** -/
theorem blend_filter {α : Type} {spec : FederationSpec} {fallback : Nat} {make : α → RankedPool}
    {p : α → Bool} {items : List α} (h : ∀ item ∈ items, p item = false → (make item).hits = []) :
    blend spec fallback ((items.filter p).map make) = blend spec fallback (items.map make) := by
  have hscored : ((items.filter p).map make).flatMap (scoredPool spec)
      = (items.map make).flatMap (scoredPool spec) := by
    rw [List.flatMap_map, List.flatMap_map]
    exact flatMap_filter_of_nil fun item hitem hp => by rw [scoredPool, h item hitem hp, scoreFrom]
  rw [blend, merged, hscored, blend, merged]

end Federation

/-! ## Payloads without some of their queries -/

/-- Items can be taken out by what becomes of them, before or after. -/
theorem filterMap_filter_not_any {α β : Type} (f : α → Option β) (p : β → Bool)
    (items : List α) :
    (items.filter fun item => !(f item).any p).filterMap f
      = (items.filterMap f).filter fun made => !p made := by
  rw [List.filterMap_filter, List.filter_filterMap]
  congr 1
  funext item
  cases f item with
  | none => simp
  | some made => cases hp : p made <;> simp [Option.filter, hp]

/-- A payload without some of its queries. -/
def FederatedPayload.without (payload : FederatedPayload) (gone : Fields → Bool) :
    FederatedPayload :=
  { payload with queries := payload.queries.filter fun query => !gone query }

/-- A list without some of its objects. -/
def Json.withoutObjects (gone : Fields → Bool) : Json → Json
  | .array items => .array (items.filter fun item => !item.object?.any gone)
  | other => other

/-- A federated payload, as it is given, without some of its queries. -/
def Json.withoutQueries (gone : Fields → Bool) : Json → Json
  | .object entries => .object (entries.map fun entry =>
      if entry.1 = "queries" then (entry.1, entry.2.withoutObjects gone) else entry)
  | other => other

namespace FederatedPayload

/-- The queries among the items of a list. -/
def queriesIn : Option Json → List Fields
  | some (.array items) => items.filterMap Json.object?
  | _ => []

/-- The options for merging, if there are any. -/
def optionsIn : Option Json → Except Failure FederationSpec
  | some (.object options) => (FederationSpec.ofEntries options).mapError .malformed
  | _ => .ok .empty

/-- A payload is read from three parts, and only the options can fail. -/
theorem ofJson_object (entries : Fields) :
    ofJson (.object entries) = (optionsIn (Fields.get? entries "federation")).map
      fun federation =>
        ⟨Alias.queryOf entries, queriesIn (Fields.get? entries "queries"), federation⟩ := by
  rw [ofJson]
  cases Fields.get? entries "federation" with
  | none => rfl
  | some options =>
    cases options with
    | object options =>
      dsimp only [optionsIn]
      cases FederationSpec.ofEntries options <;> rfl
    | _ => rfl

theorem queriesIn_withoutObjects (gone : Fields → Bool) (value? : Option Json) :
    queriesIn (value?.map (Json.withoutObjects gone))
      = (queriesIn value?).filter fun query => !gone query := by
  cases value? with
  | none => rfl
  | some value =>
    cases value with
    | array items => exact filterMap_filter_not_any Json.object? gone items
    | _ => rfl

/-- Queries can be taken out before a payload is read or after. -/
theorem ofJson_withoutQueries (gone : Fields → Bool) (json : Json) :
    ofJson (json.withoutQueries gone) = (ofJson json).map fun payload => payload.without gone := by
  cases json with
  | object entries =>
    have hget := Fields.get?_map_at entries "queries" (Json.withoutObjects gone)
    have hquery : Alias.queryOf (entries.map fun entry =>
        if entry.1 = "queries" then (entry.1, entry.2.withoutObjects gone) else entry)
        = Alias.queryOf entries := by
      have hplain : ∀ key ∈ Alias.queryKeys, key ≠ "queries" := by decide
      exact Alias.firstText_congr fun key hkey => by rw [hget, if_neg (hplain key hkey)]
    rw [Json.withoutQueries, ofJson_object, ofJson_object, hquery, hget "queries", if_pos rfl,
      hget "federation", if_neg (by decide), queriesIn_withoutObjects]
    cases optionsIn (Fields.get? entries "federation") <;> rfl
  | _ => rfl

end FederatedPayload

namespace Federation

variable {search : Fields → Timed (List Hit)} {deadline : Nat} {payload : FederatedPayload}

/-! ## The searches of the entries -/

/-- The search that a query stands for by itself: the query as it is expanded, asking for scores
if the options do and it mentions none. -/
def ExpandsTo (payload : FederatedPayload) (query : Fields) (entry : Entry) : Prop :=
  ∃ single, payload.expand query = some (entry.index, single)
    ∧ entry.payload = if Alias.wantsScores payload.federation.extra then requestScores single
        else single

/-- Each query with an index has a search, in the order of the queries. -/
theorem expandsTo_entriesOf (payload : FederatedPayload) :
    List.Forall₂ (ExpandsTo payload) (indexed payload.queries) (entriesOf payload) := by
  unfold entriesOf indexed
  induction payload.queries with
  | nil => exact .nil
  | cons query queries ih =>
    cases hentry : entryOf? payload query with
    | none =>
      have hindex := entryOf?_eq_none_iff.mp hentry
      rw [List.filterMap_cons_none hentry, List.filter_cons_of_neg (by simp [hindex])]
      exact ih
    | some entry =>
      have hindex : Alias.indexOf query ≠ "" := fun hempty => by
        rw [entryOf?_eq_none_iff.mpr hempty] at hentry
        cases hentry
      rw [List.filterMap_cons_some hentry, List.filter_cons_of_pos (by simp [hindex])]
      obtain ⟨⟨index, single⟩, hexpand, rfl⟩ := Option.map_eq_some_iff.mp hentry
      exact .cons ⟨single, hexpand, rfl⟩ ih

/-- In time, the search of an entry ends in a failure that fails the whole fan-out. -/
structure FailsAll (search : Fields → Timed (List Hit)) (deadline : Nat) (entry : Entry)
    (failure : Failure) : Prop where
  inTime : (search entry.payload).delay ≤ deadline
  fails : (search entry.payload).result = .error failure
  fatal : failure.isFatal = true

theorem fatalOf_eq_some {entry : Entry} {failure : Failure} :
    fatalOf ((search entry.payload).within deadline) = some failure ↔
      FailsAll search deadline entry failure := by
  rw [fatalOf, Option.filter_eq_some_iff, errorOf?_eq_some, Timed.within]
  split
  · next hlate =>
    constructor
    · rintro ⟨h, hfatal⟩
      cases h
      cases hfatal
    · intro h
      exact absurd hlate (Nat.not_lt.mpr h.inTime)
  · next hinTime =>
    exact ⟨fun ⟨hfails, hfatal⟩ => ⟨Nat.not_lt.mp hinTime, hfails, hfatal⟩,
      fun h => ⟨h.fails, h.fatal⟩⟩

theorem fatalOf_eq_none {entry : Entry} :
    fatalOf ((search entry.payload).within deadline) = none ↔
      ∀ failure, ¬ FailsAll search deadline entry failure := by
  rw [Option.eq_none_iff_forall_ne_some]
  exact forall_congr' fun failure => not_congr fatalOf_eq_some

/-- The search of an entry has failed or come too late. -/
def lost (search : Fields → Timed (List Hit)) (deadline : Nat) (entry : Entry) : Bool :=
  (errorOf? ((search entry.payload).within deadline)).isSome

/-- The search of a query has failed or come too late. -/
def lostQuery (search : Fields → Timed (List Hit)) (deadline : Nat) (payload : FederatedPayload)
    (query : Fields) : Bool :=
  (entryOf? payload query).any (lost search deadline)

/-- **What an entry asks for does not depend on the other entries**: those that are left ask for
what they asked for before. -/
theorem entriesOf_without (search : Fields → Timed (List Hit)) (deadline : Nat)
    (payload : FederatedPayload) :
    entriesOf (payload.without (lostQuery search deadline payload))
      = (entriesOf payload).filter fun entry => !lost search deadline entry :=
  filterMap_filter_not_any (entryOf? payload) (lost search deadline) payload.queries

theorem found_of_lost {entry : Entry} (h : lost search deadline entry = true) :
    found ((search entry.payload).within deadline) = [] := by
  obtain ⟨failure, hfailure⟩ := Option.isSome_iff_exists.mp h
  rw [errorOf?_eq_some.mp hfailure, found]

/-- **Entries that come to nothing leave no trace.** -/
theorem federatePayload_without (minimum : Float)
    (htolerable : ∀ entry ∈ entriesOf payload, ∀ failure,
      ¬ FailsAll search deadline entry failure) :
    ∃ hits, federatePayload search deadline minimum payload = .ok hits
      ∧ federatePayload search deadline minimum
          (payload.without (lostQuery search deadline payload)) = .ok hits := by
  -- the payload without the lost queries has the same options, so one statement serves both
  have hgather : ∀ entries ⊆ entriesOf payload,
      gather minimum payload (entries.map fun entry =>
          (entry, (search entry.payload).within deadline))
        = .ok (blend payload.federation payload.limit (entries.map fun entry =>
            flooredPool minimum (entry, (search entry.payload).within deadline))) := by
    intro entries hentries
    rw [gather_of_not_fatal, List.map_map]
    · rfl
    · intro result hresult
      obtain ⟨entry, hentry, rfl⟩ := List.mem_map.mp hresult
      exact fatalOf_eq_none.mpr (htolerable entry (hentries hentry))
  refine ⟨_, hgather _ (List.Subset.refl _), ?_⟩
  rw [federatePayload, entriesOf_without]
  refine (hgather _ (List.filter_subset_self _)).trans (congrArg Except.ok (blend_filter ?_))
  intro entry _ hlost
  rw [Bool.not_eq_false'] at hlost
  rw [flooredPool, found_of_lost hlost]
  rfl

/-- Two providers agree on which searches come in time and on what those find. -/
def AgreeInTime (search search' : Fields → Timed (List Hit)) (deadline : Nat)
    (entries : List Entry) : Prop :=
  ∀ entry ∈ entries,
    ((search entry.payload).delay ≤ deadline ↔ (search' entry.payload).delay ≤ deadline)
    ∧ ((search entry.payload).delay ≤ deadline →
      (search entry.payload).result = (search' entry.payload).result)

theorem within_of_agreeInTime {search' : Fields → Timed (List Hit)} {entries : List Entry}
    (h : AgreeInTime search search' deadline entries) {entry : Entry} (hentry : entry ∈ entries) :
    (search entry.payload).within deadline = (search' entry.payload).within deadline := by
  obtain ⟨hdelay, hresult⟩ := h entry hentry
  rw [Timed.within, Timed.within]
  by_cases hinTime : (search entry.payload).delay ≤ deadline
  · rw [if_neg (Nat.not_lt.mpr hinTime), if_neg (Nat.not_lt.mpr (hdelay.mp hinTime)),
      hresult hinTime]
  · rw [if_pos (Nat.not_le.mp hinTime), if_pos (Nat.not_le.mp (mt hdelay.mpr hinTime))]

/-- **The first fatal failure in the order of the entries is reported.** -/
theorem federatePayload_of_failsAll (minimum : Float) {before after : List Entry} {entry : Entry}
    (hentries : entriesOf payload = before ++ entry :: after) {failure : Failure}
    (hbefore : ∀ earlier ∈ before, ∀ failure, ¬ FailsAll search deadline earlier failure)
    (h : FailsAll search deadline entry failure) :
    federatePayload search deadline minimum payload = .error failure := by
  rw [← errorOf?_eq_some, federatePayload, errorOf?_gather, List.findSome?_map, hentries,
    List.findSome?_append]
  have hnone : before.findSome? (fun earlier =>
      fatalOf ((search earlier.payload).within deadline)) = none :=
    List.findSome?_eq_none_iff.mpr fun earlier hearlier =>
      fatalOf_eq_none.mpr (hbefore earlier hearlier)
  have hentry : (entry :: after).findSome? (fun later =>
      fatalOf ((search later.payload).within deadline)) = some failure := by
    rw [List.findSome?_cons, fatalOf_eq_some.mpr h]
  exact congrArg₂ Option.or hnone hentry

/-- **The searches of a fan-out do not disturb each other.** For every provider, deadline, minimum
and payload that can be read:

* however its steps are ordered, a run can be finished, and a finished run has asked the provider
  once for each entry and has the outcome of the payload; the entries are the queries with an
  index, each expanded by itself;
* of the delays it matters only which searches come in time;
* if none of these fails all, the page is that of the payload without the queries that failed or
  came too late;
* else the first of the failures that fail all, in the order of the entries, is the outcome. -/
theorem siblings_are_isolated (search : Fields → Timed (List Hit)) (deadline : Nat)
    (minimum : Float) {json : Json} {payload : FederatedPayload}
    (hread : FederatedPayload.ofJson json = .ok payload) :
    (∀ run, Run.Reaches search deadline (.initial (entriesOf payload)) run →
      (∃ last, Run.Reaches search deadline run last ∧ last.Finished)
      ∧ (run.Finished → run.log.Perm ((entriesOf payload).map Entry.payload)
        ∧ run.outcome minimum payload = federate search deadline minimum json))
    ∧ List.Forall₂ (ExpandsTo payload) (indexed payload.queries) (entriesOf payload)
    ∧ (∀ search', AgreeInTime search search' deadline (entriesOf payload) →
      federate search deadline minimum json = federate search' deadline minimum json)
    ∧ ((∀ entry ∈ entriesOf payload, ∀ failure, ¬ FailsAll search deadline entry failure) →
      ∃ hits, federate search deadline minimum json = .ok hits
        ∧ federate search deadline minimum
            (json.withoutQueries (lostQuery search deadline payload)) = .ok hits)
    ∧ (∀ before entry after failure, entriesOf payload = before ++ entry :: after →
      (∀ earlier ∈ before, ∀ failure, ¬ FailsAll search deadline earlier failure) →
      FailsAll search deadline entry failure →
      federate search deadline minimum json = .error failure) := by
  have hfederate : ∀ search', federate search' deadline minimum json
      = federatePayload search' deadline minimum payload := fun search' => by
    rw [federate, hread]
  refine ⟨fun run hrun => ⟨Run.exists_finished search deadline run, fun hfinished => ?_⟩,
    expandsTo_entriesOf payload, fun search' hagree => ?_, fun htolerable => ?_,
    fun before entry after failure hentries hbefore hfails => ?_⟩
  · rw [hfederate]
    exact Run.outcome_of_finished hrun hfinished minimum
  · rw [hfederate, hfederate, federatePayload, federatePayload]
    exact congrArg _ (List.map_congr_left fun entry hentry =>
      congrArg _ (within_of_agreeInTime hagree hentry))
  · have hwithout : federate search deadline minimum
        (json.withoutQueries (lostQuery search deadline payload))
        = federatePayload search deadline minimum
            (payload.without (lostQuery search deadline payload)) := by
      rw [federate, FederatedPayload.ofJson_withoutQueries, hread]
      rfl
    rw [hfederate, hwithout]
    exact federatePayload_without minimum htolerable
  · rw [hfederate]
    exact federatePayload_of_failsAll minimum hentries hbefore hfails

/-! ### Books beside films that fail and music that comes late -/

/-- A provider that finds books, has no films, is slow with music and does not accept the
conditions on maps. -/
def moody (payload : Fields) : Timed (List Hit) :=
  let index := Alias.indexOf payload
  if index = "books" then ⟨5, .ok [hitOf "first", hitOf "second"]⟩
  else if index = "films" then ⟨3, .error (.connection "refused")⟩
  else if index = "music" then ⟨900, .ok [hitOf "song"]⟩
  else ⟨8, .error (.invalidFilter (.missingField "type"))⟩

/-- The same provider on another day: slower, but with the same searches in time. -/
def moodier (payload : Fields) : Timed (List Hit) :=
  { moody payload with delay := 60 * (moody payload).delay }

def askingFor (names : List String) : Json :=
  .object [("queries", .array (names.map fun name => .object [("indexUid", .string name)]))]

def payloadFor (names : List String) : FederatedPayload :=
  ⟨"", names.map fun name => [("indexUid", .string name)], .empty⟩

/-- The two books with their scores. -/
def bookPage : List Hit := [(hitOf "first").setScore 1.0, (hitOf "second").setScore 0.5]

theorem federate_books : federate moody 500 0 (askingFor ["books"]) = .ok bookPage := by
  have hblend : federate moody 500 0 (askingFor ["books"])
      = .ok (blend .empty FederatedPayload.defaultLimit
        [⟨"books", [hitOf "first", hitOf "second"]⟩]) := rfl
  rw [hblend, blend, merged_pair rfl]
  rfl

/-- The page is that of books alone, on either day. Maps fail all, and films before them do not
matter. -/
theorem books_are_undisturbed :
    (federate moody 500 0 (askingFor ["films", "books", "music"]) = .ok bookPage
        ∧ federate moodier 500 0 (askingFor ["films", "books", "music"]) = .ok bookPage
        ∧ federate moody 500 0 (askingFor ["books"]) = .ok bookPage)
      ∧ federate moody 500 0 (askingFor ["films", "maps", "books"])
        = .error (.invalidFilter (.missingField "type"))
      ∧ ∃ run, Run.Reaches moody 500
          (.initial (entriesOf (payloadFor ["films", "maps", "books"]))) run
        ∧ run.Finished ∧ run.log.length = 3 := by
  have hread : FederatedPayload.ofJson (askingFor ["films", "books", "music"])
      = .ok (payloadFor ["films", "books", "music"]) := rfl
  have hreadMaps : FederatedPayload.ofJson (askingFor ["films", "maps", "books"])
      = .ok (payloadFor ["films", "maps", "books"]) := rfl
  obtain ⟨_, _, hdelays, hlost, _⟩ := siblings_are_isolated moody 500 0 hread
  obtain ⟨hruns, _, _, _, hfirst⟩ := siblings_are_isolated moody 500 0 hreadMaps
  refine ⟨?_, ?_, ?_⟩
  · have htolerable : ∀ entry ∈ entriesOf (payloadFor ["films", "books", "music"]),
        (fatalOf ((moody entry.payload).within 500)).isNone = true := by decide
    have hagree : AgreeInTime moody moodier 500
        (entriesOf (payloadFor ["films", "books", "music"])) := by
      have hdelay : ∀ entry ∈ entriesOf (payloadFor ["films", "books", "music"]),
          (moody entry.payload).delay ≤ 500 ↔ (moodier entry.payload).delay ≤ 500 := by decide
      exact fun entry hentry => ⟨hdelay entry hentry, fun _ => rfl⟩
    obtain ⟨hits, hhits, hbooks⟩ := hlost fun entry hentry =>
      fatalOf_eq_none.mp (Option.isNone_iff_eq_none.mp (htolerable entry hentry))
    obtain rfl : hits = bookPage := Except.ok.inj (hbooks.symm.trans federate_books)
    exact ⟨hhits, (hdelays moodier hagree).symm.trans hhits, federate_books⟩
  · have hentries : ∃ films maps books,
        entriesOf (payloadFor ["films", "maps", "books"]) = [films] ++ maps :: [books]
          ∧ (fatalOf ((moody films.payload).within 500)).isNone = true
          ∧ FailsAll moody 500 maps (.invalidFilter (.missingField "type")) :=
      ⟨_, _, _, rfl, rfl, by decide, rfl, rfl⟩
    obtain ⟨films, maps, books, hentries, hfilms, hmaps⟩ := hentries
    refine hfirst [films] maps [books] _ hentries ?_ hmaps
    intro earlier hearlier
    rw [List.mem_singleton.mp hearlier]
    exact fatalOf_eq_none.mp (Option.isNone_iff_eq_none.mp hfilms)
  · obtain ⟨last, hreaches, hfinished⟩ := Run.exists_finished moody 500
      (.initial (entriesOf (payloadFor ["films", "maps", "books"])))
    obtain ⟨_, houtcome⟩ := hruns last hreaches
    exact ⟨last, hreaches, hfinished, (houtcome hfinished).1.length_eq⟩

end Federation

end Metasearch
