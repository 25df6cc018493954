import Metasearch.Proofs.Engine.DeclaredFilters
import Metasearch.Proofs.Engine.Sources

set_option autoImplicit false

/-! # Scores that are judged and scores that are asked for

The ranking floor drops hits with a low score, and a hit without a score counts as zero. An
engine sends scores only if the request has the engine's own switch for them. So a request
whose hits are judged should have it: else a positive minimum drops whatever was found
(`applyFloor_unscored`).

Callers may wish for scores in the words of either engine, and `Judges` says which requests of
a plan are judged on that account. Whether the switch is in the request is another matter. A
body that is written from a payload has it. A search by parameters passes the caller's own keys
on, and so does the way around Meilisearch's compiler: there, a wish in the other engine's word
is taken for a wish, but not translated (`judged_without_asking`).
-/

namespace Metasearch

/-- The engine's own word for the wish for scores. -/
def Engine.scoreKey : Engine → String
  | .meilisearch => "showRankingScore"
  | .algolia => "getRankingInfo"

/-- The engine's own switch for scores is on. -/
def SwitchedOn (engine : Engine) (entries : Fields) : Prop :=
  (Fields.get? entries engine.scoreKey).any Alias.isOn = true

instance (engine : Engine) (entries : Fields) : Decidable (SwitchedOn engine entries) :=
  inferInstanceAs (Decidable ((Fields.get? entries engine.scoreKey).any Alias.isOn = true))

theorem Engine.scoreKey_mem (engine : Engine) : engine.scoreKey ∈ Alias.scoreKeys := by
  cases engine <;> decide

theorem switchedOn_congr {engine : Engine} {entries others : Fields}
    (h : Fields.get? entries engine.scoreKey = Fields.get? others engine.scoreKey) :
    SwitchedOn engine entries ↔ SwitchedOn engine others := by
  rw [SwitchedOn, h, SwitchedOn]

/-- A switch that is `null` is off. -/
theorem any_getSet? (entries : Fields) (key : String) :
    (Fields.getSet? entries key).any Alias.isOn = (Fields.get? entries key).any Alias.isOn := by
  rw [Fields.getSet?]
  cases Fields.get? entries key with
  | none => rfl
  | some value => cases value <;> rfl

/-- So it makes no difference to the switch if `null` is not passed on. -/
theorem switchedOn_of_getSet? {engine : Engine} {entries others : Fields}
    (h : Fields.get? entries engine.scoreKey = Fields.getSet? others engine.scoreKey) :
    SwitchedOn engine entries ↔ SwitchedOn engine others := by
  rw [SwitchedOn, h, any_getSet?, SwitchedOn]

/-- **A caller who uses the engine's own word only** wishes for scores exactly if the switch is
on. -/
theorem wantsScores_iff_switchedOn {engine : Engine} {entries : Fields}
    (hother : ∀ key ∈ Alias.scoreKeys, key ≠ engine.scoreKey →
      Fields.getSet? entries key = none) :
    Alias.wantsScores entries = true ↔ SwitchedOn engine entries := by
  have hfirst : Alias.scoreKeys.findSome? (Fields.getSet? entries)
      = Fields.getSet? entries engine.scoreKey := by
    simp only [Alias.scoreKeys, List.forall_mem_cons] at hother
    obtain ⟨hshow, hinfo, _⟩ := hother
    simp only [Alias.scoreKeys, List.findSome?_cons, List.findSome?_nil]
    cases engine with
    | meilisearch =>
      rw [hinfo (by decide)]
      cases hvalue : Fields.getSet? entries "showRankingScore" <;> exact hvalue.symm
    | algolia =>
      rw [hshow (by decide)]
      cases hvalue : Fields.getSet? entries "getRankingInfo" <;> exact hvalue.symm
  rw [Alias.wantsScores, hfirst, SwitchedOn, ← any_getSet?]
  cases Fields.getSet? entries engine.scoreKey <;> simp

/-! ## Written switches -/

/-- A switch that is written where scores are asked for. -/
theorem switchedOn_of_written {engine : Engine} {entries : Fields} {wanted : Bool}
    (h : Fields.get? entries engine.scoreKey = if wanted then some (.bool true) else none) :
    SwitchedOn engine entries ↔ wanted = true := by
  rw [SwitchedOn, h]
  cases wanted <;> simp [Alias.isOn]

/-- The flag of a payload is its wish for scores. -/
theorem showScores_of_ofEntries {entries : Fields} {payload : SearchPayload}
    (h : SearchPayload.ofEntries entries = .ok payload) :
    payload.showScores = Alias.wantsScores entries := by
  unfold SearchPayload.ofEntries at h
  split at h <;> cases h
  rfl

/-- What is read of a payload that has to do with scores: whether they are wished for, and that
no name for the wish is passed on. -/
theorem scores_of_ofEntries {entries : Fields} (hdistinct : Fields.Distinct entries)
    {payload : SearchPayload} (h : SearchPayload.ofEntries entries = .ok payload) :
    payload.showScores = Alias.wantsScores entries
      ∧ ∀ key ∈ Alias.scoreKeys, Fields.get? payload.extra key = none := by
  refine ⟨showScores_of_ofEntries h, fun key hkey => ?_⟩
  have hnames : ∀ key ∈ Alias.scoreKeys, key ∉ SearchPayload.filterKeys := by decide
  rw [SearchPayload.get?_extra hdistinct (ofEntries_eq_ok h).1, if_neg (hnames key hkey),
    if_pos (by simp [hkey])]

/-- **Bodies that are written from a payload have the switch** exactly if scores are wished
for. -/
theorem switchedOn_insertAllNew {engine : Engine} {body extra : Fields} {wanted : Bool}
    (hbody : Fields.get? body engine.scoreKey = if wanted then some (.bool true) else none)
    (hextra : Fields.get? extra engine.scoreKey = none) :
    SwitchedOn engine (Fields.insertAllNew body extra) ↔ wanted = true := by
  apply switchedOn_of_written
  rw [Fields.get?_insertAllNew, hbody, hextra, Option.or_none]

/-! ## Which requests are judged -/

/-- The requests of a plan, each with the flag that the floor gets for its hits. A plan with a
request is one for a single search or one for several, with either engine; after several
searches the hits are judged by query, and not again when they have come together. -/
inductive Judges (policy : Federation.Policy) : Plan → List (Fields × Bool) → Prop where
  | known (result : Except Failure (List Hit)) : Judges policy (.done result) []
  | meilisearch (index : String) (body : Fields) (query : String) (judged : Bool) :
    Judges policy (Meilisearch.searchWith policy index body query judged) [(body, judged)]
  | algolia (request : Fields) (query : String) (judged : Bool) :
    Judges policy (Algolia.searchWith policy request query judged) [(request, judged)]
  | meilisearchSeveral (federation : FederationSpec) (query : String) (limit : Nat)
      (sources : List Meilisearch.SourceQuery) :
    Judges policy
      (.ask ⟨Meilisearch.multiSearchPath,
          .object (Meilisearch.multiSearchBody federation sources)⟩ fun answer =>
        policy.refine query false
          (if federation.isNative then Meilisearch.mergedHits policy sources answer
           else Meilisearch.blendedHits policy federation limit sources answer))
      (sources.map fun source => (source.body, source.showScores))
  | algoliaSeveral (federation : FederationSpec) (query : String) (limit : Nat)
      (sources : List Algolia.SourceQuery) :
    Judges policy
      (.ask (Algolia.callOf (sources.map Algolia.SourceQuery.request)) fun answer =>
        policy.refine query false
          (Federation.blend federation limit
            (List.zipWith (Algolia.poolOf policy) sources (Algolia.resultsOf answer))))
      (sources.map fun source => (source.request, source.showScores))

/-- No request is made if there is nothing to ask for. -/
theorem Judges.unlessEmpty {policy : Federation.Policy} {α β : Type} {items : List α}
    {plan : Plan} {pair : α → Fields × Bool} (make : α → β)
    (h : Judges policy plan (items.map pair)) :
    Judges policy (if (items.map make).isEmpty then .nothing else plan) (items.map pair) := by
  cases items with
  | nil => exact .known _
  | cons item items => exact h

/-- **Where hits without scores are judged, none is left.** -/
theorem applyFloor_unscored {minimum : Float} (hminimum : ¬ minimum ≤ 0) {hits : List Hit}
    (hunscored : ∀ hit ∈ hits, hit.ranking = none) :
    Federation.applyFloor minimum true hits = [] := by
  apply List.filter_eq_nil_iff.mpr
  intro hit hhit
  simp [Federation.admits, hunscored hit hhit, hminimum]

/-! ## One search by parameters -/

/-- The hits that a search in one index reads off an answer. -/
def hitsOf : Engine → Json → List Hit
  | .meilisearch => Hit.listOfAnswer Meilisearch.rankingOf
  | .algolia => Algolia.firstHits

namespace Searcher

theorem judges_search (searcher : Searcher) (index query : String) {params : Fields}
    (hdistinct : Fields.Distinct params) (limit : Nat) :
    ∃ request, Judges searcher.policy (searcher.searchPlan index query params limit)
        [(request, Alias.wantsScores params)]
      ∧ (SwitchedOn searcher.engine request ↔ SwitchedOn searcher.engine params) := by
  obtain ⟨engine, policy, timeout⟩ := searcher
  cases engine with
  | meilisearch =>
    refine ⟨_, .meilisearch index _ _ _, switchedOn_congr ?_⟩
    rw [Fields.get?_insertNew, Fields.get?_insert, Fields.eraseAll_append,
      Fields.get?_eraseAll hdistinct]
    exact Option.or_none
  | algolia =>
    refine ⟨_, .algolia _ _ _, switchedOn_congr ?_⟩
    rw [Fields.eraseAll_append, Fields.get?_insertAll (Fields.distinct_eraseAll hdistinct _),
      Fields.get?_eraseAll hdistinct]
    exact Option.or_none

/-- **A wish that the engine does not hear costs all hits**: if the answer has no scores, a
positive minimum leaves nothing of it. -/
theorem search_unscored (searcher : Searcher) {transport : Transport} {sent : Nat} {answer : Json}
    (hanswer : ∀ call, (transport sent call).result = .ok answer)
    (hunscored : ∀ hit ∈ hitsOf searcher.engine answer, hit.ranking = none)
    (hminimum : ¬ searcher.policy.minimum ≤ 0) (hplain : searcher.policy.advanced = false)
    (index query : String) {params : Fields} (hwants : Alias.wantsScores params = true)
    (limit : Nat) :
    (searcher.search transport sent index query params limit).result = .ok [] := by
  obtain ⟨engine, policy, timeout⟩ := searcher
  have hrefine : ∀ words, policy.refine words true (hitsOf engine answer) = [] := fun words => by
    rw [Federation.Policy.refine, applyFloor_unscored hminimum hunscored, hplain]
    rfl
  cases engine with
  | meilisearch =>
    show ((Meilisearch.search policy index query params limit).run transport sent).result = _
    rw [Meilisearch.search, Meilisearch.searchWith, Plan.run, hanswer, hwants]
    exact congrArg Except.ok (hrefine _)
  | algolia =>
    show ((Algolia.search policy index query params limit).run transport sent).result = _
    rw [Algolia.search, Algolia.searchWith, Plan.run, hanswer, hwants]
    exact congrArg Except.ok (hrefine _)

/-! ## Several searches by parameters -/

theorem judges_multiSearch (searcher : Searcher) {queries : List Fields}
    (hdistinct : ∀ entry ∈ queries, Fields.Distinct entry) (query : String)
    (federation : FederationSpec) (limit : Nat) :
    ∃ request : Fields → Fields,
      Judges searcher.policy (searcher.multiSearchPlan queries query federation limit)
        ((indexed queries).map fun entry =>
          (request entry, Alias.wantsScores (federation.applyDefaults entry)))
      ∧ ∀ entry ∈ queries, SwitchedOn searcher.engine (request entry) ↔
          SwitchedOn searcher.engine (federation.applyDefaults entry) := by
  obtain ⟨engine, policy, timeout⟩ := searcher
  cases engine with
  | meilisearch =>
    have hforwarded : Engine.meilisearch.scoreKey ∈ Meilisearch.forwardedKeys := by decide
    refine ⟨Meilisearch.bodyOf federation query, ?_, fun entry _ =>
      switchedOn_of_getSet? (Meilisearch.get?_bodyOf federation query entry hforwarded)⟩
    show Judges policy (Meilisearch.multiSearch policy queries query federation limit) _
    rw [Meilisearch.multiSearch, Meilisearch.filterMap_sourceQuery?]
    have hsources : Judges policy _ _ := .meilisearchSeveral federation query limit
      ((indexed queries).map (Meilisearch.sourceOf federation query))
    rw [List.map_map] at hsources
    exact hsources.unlessEmpty (Meilisearch.sourceOf federation query)
  | algolia =>
    have hkey : ∀ key ∈ Alias.scoreKeys,
        key ∉ Alias.indexKeys ++ Alias.queryKeys ++ ["limit", "hitsPerPage"] := by decide
    have hget : ∀ entry ∈ queries, ∀ key ∈ Alias.scoreKeys,
        Fields.get? (Algolia.requestOf federation query limit entry) key
          = Fields.get? (federation.applyDefaults entry) key := fun entry hentry key hscore =>
      Algolia.get?_requestOf (hdistinct entry hentry) federation query limit (hkey key hscore)
    refine ⟨Algolia.requestOf federation query limit, ?_, fun entry hentry =>
      switchedOn_congr (hget entry hentry _ (Engine.scoreKey_mem .algolia))⟩
    show Judges policy (Algolia.multiSearch policy queries query federation limit) _
    rw [Algolia.multiSearch, Algolia.filterMap_sourceQuery?]
    have hsources : Judges policy _ _ := .algoliaSeveral federation query limit
      ((indexed queries).map (Algolia.sourceOf federation query limit))
    have hpairs : ((indexed queries).map (Algolia.sourceOf federation query limit)).map
          (fun source => (source.request, source.showScores))
        = (indexed queries).map fun entry => (Algolia.requestOf federation query limit entry,
            Alias.wantsScores (federation.applyDefaults entry)) := by
      rw [List.map_map]
      refine List.map_congr_left fun entry hentry => ?_
      exact congrArg _ (Alias.wantsScores_congr (hget entry (List.mem_of_mem_filter hentry)))
    rw [hpairs] at hsources
    exact hsources.unlessEmpty (Algolia.sourceOf federation query limit)

/-! ## Declarative searches -/

/-- A payload that leads around Meilisearch's compiler has its own switch passed on; of any
other the switch is written. -/
theorem judges_meilisearch (policy : Federation.Policy) (schema? : Option Schema)
    (source : Fields) {payload : SearchPayload}
    (hextra : ∀ key ∈ Alias.scoreKeys, Fields.get? payload.extra key = none) :
    ∃ requests,
      Judges policy (Meilisearch.searchPayload policy schema? source payload) requests
      ∧ ∀ request judged, (request, judged) ∈ requests → judged = payload.showScores
        ∧ (Meilisearch.escapes payload = true →
          (SwitchedOn .meilisearch request ↔ SwitchedOn .meilisearch source))
        ∧ (Meilisearch.escapes payload = false →
          (SwitchedOn .meilisearch request ↔ judged = true)) := by
  have hbecomes := Meilisearch.becomes_searchPayload policy schema? source payload
  generalize Meilisearch.searchPayload policy schema? source payload = plan at hbecomes
  cases hbecomes with
  | settled result => exact ⟨[], .known result, fun _ _ hmem => absurd hmem List.not_mem_nil⟩
  | around escaped =>
    refine ⟨_, .meilisearch _ _ _ _, fun request judged hmem => ?_⟩
    obtain ⟨rfl, rfl⟩ := Prod.mk.inj (List.mem_singleton.mp hmem)
    refine ⟨rfl, fun _ => switchedOn_of_getSet? ?_, fun direct => ?_⟩
    · rw [Fields.get?_cons, if_neg (by decide), Meilisearch.get?_forwarded, if_pos (by decide)]
    · rw [escaped] at direct
      cases direct
  | written direct known compiled =>
    refine ⟨_, .meilisearch _ _ _ _, fun request judged hmem => ?_⟩
    obtain ⟨rfl, rfl⟩ := Prod.mk.inj (List.mem_singleton.mp hmem)
    refine ⟨rfl, fun escaped => ?_, fun _ => ?_⟩
    · rw [direct] at escaped
      cases escaped
    · exact switchedOn_insertAllNew (Meilisearch.get?_showRankingScore compiled)
        (hextra _ (Engine.scoreKey_mem .meilisearch))

/-- With Algolia the switch is written on both ways. -/
theorem judges_algolia (policy : Federation.Policy) (schema? : Option Schema)
    {payload : SearchPayload}
    (hextra : ∀ key ∈ Alias.scoreKeys, Fields.get? payload.extra key = none) :
    ∃ requests, Judges policy (Algolia.searchPayload policy schema? payload) requests
      ∧ ∀ request judged, (request, judged) ∈ requests → judged = payload.showScores
        ∧ (SwitchedOn .algolia request ↔ judged = true) := by
  have hbecomes := Algolia.becomes_searchPayload policy schema? payload
  generalize Algolia.searchPayload policy schema? payload = plan at hbecomes
  cases hbecomes with
  | settled result => exact ⟨[], .known result, fun _ _ hmem => absurd hmem List.not_mem_nil⟩
  | around escaped =>
    refine ⟨_, .algolia _ _ _, fun request judged hmem => ?_⟩
    obtain ⟨rfl, rfl⟩ := Prod.mk.inj (List.mem_singleton.mp hmem)
    refine ⟨rfl, switchedOn_insertAllNew ?_ ?_⟩
    · have hpaging : Fields.get? (Algolia.paging payload.limit payload.offset) "getRankingInfo"
          = none := Fields.get?_eq_none.mpr fun hmem =>
        absurd ((Algolia.keys_paging _ _).subset hmem) (by decide)
      rw [Engine.scoreKey, Fields.get?_append, Fields.get?_append, hpaging, Body.get?_switch]
      rfl
    · -- renaming a filter gives no other key the name of the switch
      refine Fields.get?_eq_none.mpr fun hmem => ?_
      simp only [Fields.keys, List.map_map, List.mem_map, Function.comp_apply] at hmem
      obtain ⟨⟨key, value⟩, hentry, hname⟩ := hmem
      have hkey : key = Engine.algolia.scoreKey := by
        unfold Algolia.ownKey at hname
        split at hname
        · exact absurd hname (by decide)
        · exact hname
      subst hkey
      exact Fields.get?_eq_none.mp (hextra _ (Engine.scoreKey_mem .algolia))
        (List.mem_map_of_mem hentry)
  | written direct known compiled =>
    refine ⟨_, .algolia _ _ _, fun request judged hmem => ?_⟩
    obtain ⟨rfl, rfl⟩ := Prod.mk.inj (List.mem_singleton.mp hmem)
    exact ⟨rfl, switchedOn_insertAllNew (Algolia.get?_getRankingInfo compiled)
      (hextra _ (Engine.scoreKey_mem .algolia))⟩

/-- What comes of the wish for scores in a payload. -/
theorem judges_payload (searcher : Searcher) (schema? : Option Schema) {entries : Fields}
    (hdistinct : Fields.Distinct entries) :
    ∃ requests, Judges searcher.policy (searcher.payloadPlan schema? entries) requests
      ∧ ∀ request judged, (request, judged) ∈ requests → judged = Alias.wantsScores entries
        ∧ (searcher.engine = .algolia ∨ ¬ LeadsAround searcher.engine entries →
          (SwitchedOn searcher.engine request ↔ judged = true))
        ∧ (searcher.engine = .meilisearch → LeadsAround .meilisearch entries →
          (SwitchedOn .meilisearch request ↔ SwitchedOn .meilisearch entries)) := by
  obtain ⟨engine, policy, timeout⟩ := searcher
  unfold payloadPlan
  cases hread : SearchPayload.ofEntries entries with
  | error failure => exact ⟨[], .known _, fun _ _ hmem => absurd hmem List.not_mem_nil⟩
  | ok payload =>
    obtain ⟨hshow, hextra⟩ := scores_of_ofEntries hdistinct hread
    cases engine with
    | meilisearch =>
      have hescapes : escapesOf .meilisearch payload = true ↔ LeadsAround .meilisearch entries :=
        escapes_iff hdistinct hread
      obtain ⟨requests, hjudges, hrequests⟩ := judges_meilisearch policy schema? entries hextra
      refine ⟨requests, hjudges, fun request judged hmem => ?_⟩
      obtain ⟨hjudged, haround, hdirect⟩ := hrequests request judged hmem
      refine ⟨hjudged.trans hshow, fun hwritten => ?_, fun _ hleads =>
        haround (hescapes.mpr hleads)⟩
      have hnot : ¬ LeadsAround .meilisearch entries :=
        hwritten.resolve_left fun hengine => by cases hengine
      exact hdirect (Bool.eq_false_iff.mpr (mt hescapes.mp hnot))
    | algolia =>
      obtain ⟨requests, hjudges, hrequests⟩ := judges_algolia policy schema? hextra
      refine ⟨requests, hjudges, fun request judged hmem => ?_⟩
      obtain ⟨hjudged, hwritten⟩ := hrequests request judged hmem
      exact ⟨hjudged.trans hshow, fun _ => hwritten, fun hengine => by cases hengine⟩

/-! ## The three searches -/

/-- **Which requests are judged, and which ask for scores.** A caller wishes for scores under a
name of either engine; this says for every search what comes of the wish.

* In a search by parameters the hits are judged if the parameters wish for scores, and the
  request asks for them if they have the *engine's own* switch on.
* In a search over several indexes the same holds for each query that names an index, with the
  shared defaults.
* In a declarative search the hits are judged if the payload wishes for scores. The request then
  asks for them, too, with Algolia and on the compiler's way; but around Meilisearch's compiler
  it does so if the payload has Meilisearch's own switch on.

So judged scores are asked for by callers who keep to the engine's own word
(`wantsScores_iff_switchedOn`), and not only by them where the switch is written. -/
theorem wishes_for_scores (searcher : Searcher) :
    (∀ index query params limit, Fields.Distinct params →
      ∃ request, Judges searcher.policy (searcher.searchPlan index query params limit)
          [(request, Alias.wantsScores params)]
        ∧ (SwitchedOn searcher.engine request ↔ SwitchedOn searcher.engine params))
    ∧ (∀ queries query federation limit, (∀ entry ∈ queries, Fields.Distinct entry) →
      ∃ request : Fields → Fields,
        Judges searcher.policy (searcher.multiSearchPlan queries query federation limit)
          ((indexed queries).map fun entry =>
            (request entry, Alias.wantsScores (federation.applyDefaults entry)))
        ∧ ∀ entry ∈ queries, SwitchedOn searcher.engine (request entry) ↔
            SwitchedOn searcher.engine (federation.applyDefaults entry))
    ∧ (∀ schema? payload, (∀ entries, payload = .object entries → Fields.Distinct entries) →
      ∃ requests, Judges searcher.policy (searcher.jsonPlan schema? payload) requests
        ∧ ∀ request judged, (request, judged) ∈ requests →
          ∃ entries, payload = .object entries ∧ judged = Alias.wantsScores entries
            ∧ (searcher.engine = .algolia ∨ ¬ LeadsAround searcher.engine entries →
              (SwitchedOn searcher.engine request ↔ judged = true))
            ∧ (searcher.engine = .meilisearch → LeadsAround .meilisearch entries →
              (SwitchedOn .meilisearch request ↔ SwitchedOn .meilisearch entries))) := by
  refine ⟨fun index query params limit hdistinct =>
      searcher.judges_search index query hdistinct limit,
    fun queries query federation limit hdistinct =>
      searcher.judges_multiSearch hdistinct query federation limit,
    fun schema? payload hdistinct => ?_⟩
  have hnone : ∀ result : Except Failure (List Hit), Judges searcher.policy (.done result) [] :=
    .known
  match payload with
  | .object entries =>
    obtain ⟨requests, hjudges, hrequests⟩ :=
      searcher.judges_payload schema? (hdistinct entries rfl)
    exact ⟨requests, hjudges, fun request judged hmem =>
      ⟨entries, rfl, hrequests request judged hmem⟩⟩
  | .null | .bool _ | .number _ | .string _ | .array _ =>
    exact ⟨[], hnone _, fun _ _ hmem => absurd hmem List.not_mem_nil⟩

/-! ### Wishes in one's own words and in another's -/

/-- A searcher that drops hits with a score below one half. -/
def halfFloor (engine : Engine) : Searcher :=
  ⟨engine, ⟨0.5, false, Federation.termOverlap⟩, 1000⟩

/-- A wish for scores under a name. -/
def wishFor (key : String) : Fields := [("index", .string "books"), (key, .bool true)]

/-- A book without a score. -/
def unscoredBook : Fields := [("id", .string "a")]

/-- The answer of an engine that has found the book and was not asked for scores. -/
def unscoredAnswer : Engine → Json
  | .meilisearch => .object [("hits", .array [.object unscoredBook])]
  | .algolia =>
    .object [("results", .array [.object [("hits", .array [.object unscoredBook])]])]

/-- What a searcher finds by parameters with the wish. -/
def foundFor (searcher : Searcher) (key : String) : Except Failure (List Hit) :=
  (searcher.search (fun _ _ => ⟨0, .ok (unscoredAnswer searcher.engine)⟩) 0 "books" ""
    (wishFor key) 20).result

/-- The floor drops the book, whatever the name of the wish. -/
theorem foundFor_halfFloor (engine : Engine) {key : String} (hkey : key ∈ Alias.scoreKeys) :
    foundFor (halfFloor engine) key = .ok [] := by
  have hunscored : ∀ hit ∈ hitsOf engine (unscoredAnswer engine), hit.ranking = none := by
    cases engine <;> exact List.forall_mem_singleton.mpr rfl
  have hwants : ∀ key ∈ Alias.scoreKeys, Alias.wantsScores (wishFor key) = true := by decide
  have hminimum : ¬ (halfFloor engine).policy.minimum ≤ 0 := by
    show ¬ (0.5 : Float) ≤ 0
    decide
  exact (halfFloor engine).search_unscored (fun _ => rfl) hunscored hminimum rfl "books" ""
    (hwants key hkey) 20

/-- A wish in Meilisearch's own word is asked for. -/
theorem own_word_asks_for_scores : Fields.Distinct (wishFor "showRankingScore")
    ∧ ∃ request, Judges (halfFloor .meilisearch).policy
        ((halfFloor .meilisearch).searchPlan "books" "" (wishFor "showRankingScore") 20)
        [(request, true)]
      ∧ SwitchedOn .meilisearch request := by
  have hdistinct : Fields.Distinct (wishFor "showRankingScore") := by decide
  have hown : ∀ key ∈ Alias.scoreKeys, key ≠ Engine.meilisearch.scoreKey →
      Fields.getSet? (wishFor "showRankingScore") key = none := by decide
  have hon : SwitchedOn .meilisearch (wishFor "showRankingScore") :=
    (wantsScores_iff_switchedOn hown).mp (by decide)
  obtain ⟨hsearch, _⟩ := wishes_for_scores (halfFloor .meilisearch)
  obtain ⟨request, hjudges, hswitch⟩ :=
    hsearch "books" "" (wishFor "showRankingScore") 20 hdistinct
  exact ⟨hdistinct, request, hjudges, hswitch.mpr hon⟩

/-- A plan has one request, whose hits are judged without asking for their scores. -/
def JudgesUnasked (searcher : Searcher) (plan : Plan) : Prop :=
  ∃ request, Judges searcher.policy plan [(request, true)] ∧ ¬ SwitchedOn searcher.engine request

/-- **Hits can be judged without asking for their scores**, if the wish is in the other engine's
word: by a search in one index, where the only book is dropped that is found without a floor,
by one in several, and around Meilisearch's compiler. -/
theorem judged_without_asking :
    JudgesUnasked (halfFloor .meilisearch)
        ((halfFloor .meilisearch).searchPlan "books" "" (wishFor "getRankingInfo") 20)
      ∧ foundFor (halfFloor .meilisearch) "getRankingInfo" = .ok []
      ∧ foundFor (searcherOf .meilisearch) "getRankingInfo" = .ok [⟨unscoredBook, none, none⟩]
    ∧ JudgesUnasked (halfFloor .algolia)
        ((halfFloor .algolia).multiSearchPlan [wishFor "showRankingScore"] "" .empty 20)
    ∧ JudgesUnasked (halfFloor .meilisearch)
        ((halfFloor .meilisearch).jsonPlan (some bookshelf)
          (.object (("filter", .string "year > 2000") :: wishFor "getRankingInfo"))) := by
  refine ⟨?_, foundFor_halfFloor .meilisearch (by decide), rfl, ?_, ?_⟩
  · obtain ⟨request, hjudges, hswitch⟩ := (halfFloor .meilisearch).judges_search "books" ""
      (by decide : Fields.Distinct (wishFor "getRankingInfo")) 20
    exact ⟨request, hjudges, hswitch.not.mpr (by decide)⟩
  · have hdistinct : ∀ entry ∈ [wishFor "showRankingScore"], Fields.Distinct entry := by decide
    obtain ⟨request, hjudges, hswitch⟩ :=
      (halfFloor .algolia).judges_multiSearch hdistinct "" .empty 20
    exact ⟨_, hjudges, (hswitch _ List.mem_cons_self).not.mpr (by decide)⟩
  · exact ⟨_, .meilisearch _ _ _ _, by decide⟩

end Searcher

end Metasearch
