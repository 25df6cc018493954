import Metasearch.Engine.Searcher
import Metasearch.Proofs.Engine.AlgoliaBody
import Metasearch.Proofs.Engine.MeilisearchBody
import Metasearch.Proofs.Engine.PayloadPlans
import Metasearch.Proofs.Payload.Filters

set_option autoImplicit false

/-! # Declared filters reach the engine

A condition that is dropped on the way to the engine costs no error: the engine just answers
with documents that nobody asked for. So it matters that a list of conditions in a payload is
in every request that is made for it.

There are two ways from a payload to a request. The compiler's way carries every condition
(`declared_filters_are_sent`). The other way leads around the compiler: it is taken when the
payload asks for something in the engine's own words (`LeadsAround`), and then only those words
are sent. `declared_filters_are_lost` shows both this and that a later place on the map
overwrites an earlier one of its kind.
-/

namespace Metasearch

open SearchPayload (Declares)

/-! ## The two ways -/

/-- The keys that lead around the compiler when they have a value. -/
def ownWords : Engine → List String
  | .meilisearch => ["retrieveVectors"]
  | .algolia => ["facetFilters", "numericFilters", "aroundLatLng", "insideBoundingBox"]

/-- The filter keys whose text is a filter in the engine's language. -/
def textKeys : Engine → List String
  | .meilisearch => ["filter"]
  | .algolia => ["filter", "filters"]

/-- A payload asks for something in the engine's own words: under a key of the engine, by a
filter text, or with Meilisearch by a query vector. -/
def LeadsAround (engine : Engine) (entries : Fields) : Prop :=
  (∃ key ∈ ownWords engine, (Fields.getSet? entries key).isSome = true)
    ∨ (∃ key ∈ textKeys engine, ∃ text, Fields.get? entries key = some (.string text))
    ∨ engine = .meilisearch ∧ ((Fields.get? entries "vector").bind Json.reals?).isSome = true

/-- Whether a payload that has been read leads around the compiler. -/
def escapesOf : Engine → SearchPayload → Bool
  | .meilisearch => Meilisearch.escapes
  | .algolia => Algolia.escapes

theorem ofEntries_eq_ok {entries : Fields} {payload : SearchPayload}
    (h : SearchPayload.ofEntries entries = .ok payload) :
    SearchPayload.readFilters entries = .ok (payload.filters, payload.extra)
      ∧ payload.index = Alias.indexOf entries
      ∧ payload.vector = (Fields.get? entries "vector").bind Json.reals? := by
  unfold SearchPayload.ofEntries at h
  split at h
  · cases h
  · next filters extra hread =>
    cases h
    exact ⟨hread, rfl, rfl⟩

/-- **A payload that is read leads around the compiler exactly when its entries say so.** -/
theorem escapes_iff {engine : Engine} {entries : Fields} (hdistinct : Fields.Distinct entries)
    {payload : SearchPayload} (h : SearchPayload.ofEntries entries = .ok payload) :
    escapesOf engine payload = true ↔ LeadsAround engine entries := by
  obtain ⟨hread, _, hvector⟩ := ofEntries_eq_ok h
  have hextra := SearchPayload.get?_extra hdistinct hread
  -- keys without a meaning of their own are passed on as they are
  have hown : ∀ key ∈ ownWords engine,
      Fields.getSet? payload.extra key = Fields.getSet? entries key := by
    intro key hkey
    have hplain : ∀ key ∈ ownWords engine, key ∉ SearchPayload.filterKeys ∧
        key ∉ Alias.indexKeys ++ Alias.queryKeys ++ Alias.scoreKeys
          ++ SearchPayload.declarativeKeys := by
      cases engine <;> decide
    obtain ⟨hfilter, hother⟩ := hplain key hkey
    rw [Fields.getSet?, Fields.getSet?, hextra key, if_neg hfilter, if_neg hother]
  -- under a filter key only a text is passed on, and a list of conditions is not
  have htext : ∀ key ∈ textKeys engine, (Fields.getSet? payload.extra key).isSome = true ↔
      ∃ text, Fields.get? entries key = some (.string text) := by
    intro key hkey
    have hfilter : key ∈ SearchPayload.filterKeys := by
      have hkeys : ∀ key ∈ textKeys engine, key ∈ SearchPayload.filterKeys := by
        cases engine <;> decide
      exact hkeys key hkey
    rw [Fields.getSet?, hextra key, if_pos hfilter, SearchPayload.rawFilter?]
    split
    · next text hvalue => simp [hvalue, Json.isNull]
    · next hvalue => simpa using hvalue
  have hany : ∀ keys : List String,
      (∀ key, key ∈ keys ↔ key ∈ ownWords engine ∨ key ∈ textKeys engine) →
        (payload.hasAny keys = true ↔
          (∃ key ∈ ownWords engine, (Fields.getSet? entries key).isSome = true)
            ∨ ∃ key ∈ textKeys engine, ∃ text, Fields.get? entries key = some (.string text)) := by
    intro keys hkeys
    rw [SearchPayload.hasAny, List.any_eq_true]
    simp only [hkeys, or_and_right, exists_or]
    apply or_congr
    · exact exists_congr fun key => and_congr_right fun hkey => by rw [hown key hkey]
    · exact exists_congr fun key => and_congr_right fun hkey => htext key hkey
  cases engine with
  | meilisearch =>
    have hkeys := hany (ownWords .meilisearch ++ textKeys .meilisearch)
      fun key => List.mem_append
    show (payload.vector.isSome
      || payload.hasAny (ownWords .meilisearch ++ textKeys .meilisearch)) = true ↔ _
    rw [Bool.or_eq_true, hkeys, hvector, or_comm, or_assoc]
    simp [LeadsAround]
  | algolia =>
    have hkeys := hany (textKeys .algolia ++ ownWords .algolia)
      fun key => List.mem_append.trans or_comm
    show payload.hasAny (textKeys .algolia ++ ownWords .algolia) = true ↔ _
    rw [hkeys]
    simp [LeadsAround]

/-! ## Requests of the compiler's way -/

theorem filters_suffix (payload : SearchPayload) :
    payload.filters <:+ SearchRequest.filtersOf payload := by
  unfold SearchRequest.filtersOf
  split
  · exact List.suffix_refl _
  · exact List.suffix_cons _ _

/-- What it means that a call carries the filters of some conditions. -/
def Carries (engine : Engine) (schema? : Option Schema) (index : String)
    (conditions : List Condition) (call : Call) : Prop :=
  match engine with
  | .meilisearch =>
    ∃ descriptor body, (schema?.bind fun schema => schema.index? index) = some descriptor
      ∧ call = ⟨Meilisearch.searchPath index, .object body⟩
      ∧ Meilisearch.Filtered descriptor.identifier conditions body
  | .algolia => ∃ body, call = Algolia.callOf [body] ∧ Algolia.Filtered conditions body

theorem carries_of_meilisearch {policy : Federation.Policy} {schema? : Option Schema}
    {entries : Fields} {payload : SearchPayload} (hdirect : Meilisearch.escapes payload = false)
    {call : Call}
    (h : call ∈ (Meilisearch.searchPayload policy schema? entries payload).calls) :
    Carries .meilisearch schema? payload.index payload.filters call := by
  have hbecomes := Meilisearch.becomes_searchPayload policy schema? entries payload
  generalize Meilisearch.searchPayload policy schema? entries payload = plan at h hbecomes
  cases hbecomes with
  | settled result => cases h
  | around escaped =>
    rw [hdirect] at escaped
    cases escaped
  | @written descriptor body _ known compiled =>
    -- the request has one more condition than the payload if there is a query text
    have hcall := List.mem_singleton.mp h
    have hfiltered := (Meilisearch.filtered_requestBody compiled).insertAllNew payload.extra
    exact ⟨descriptor, _, known, hcall, hfiltered.of_suffix (filters_suffix payload)⟩

theorem carries_of_algolia {policy : Federation.Policy} {schema? : Option Schema}
    {payload : SearchPayload} (hdirect : Algolia.escapes payload = false) {call : Call}
    (h : call ∈ (Algolia.searchPayload policy schema? payload).calls) :
    Carries .algolia schema? payload.index payload.filters call := by
  have hbecomes := Algolia.becomes_searchPayload policy schema? payload
  generalize Algolia.searchPayload policy schema? payload = plan at h hbecomes
  cases hbecomes with
  | settled result => cases h
  | around escaped =>
    rw [hdirect] at escaped
    cases escaped
  | written _ known compiled =>
    have hcall := List.mem_singleton.mp h
    have hfiltered := (Algolia.filtered_requestBody compiled).insertAllNew payload.extra
    exact ⟨_, hcall, hfiltered.of_suffix (filters_suffix payload)⟩

/-- **Declared filters reach the engine**: every request that is made for a payload carries
every condition of the list it declares, unless the payload leads around the compiler. -/
theorem declared_filters_are_sent (searcher : Searcher) (schema? : Option Schema)
    (transport : Transport) (sent : Nat) {entries : Fields}
    (hdistinct : Fields.Distinct entries) {items : List Json} (hdeclares : Declares entries items)
    (hdirect : ¬ LeadsAround searcher.engine entries) :
    ∀ call ∈ (searcher.searchFromJson schema? transport sent (.object entries)).calls,
      ∃ conditions, Condition.parseList (.array items) = .ok conditions
        ∧ Carries searcher.engine schema? (Alias.indexOf entries) conditions call := by
  intro call hcall
  have hplan : call ∈ (searcher.payloadPlan schema? entries).calls := hcall
  unfold Searcher.payloadPlan at hplan
  split at hplan
  · cases hplan
  · next payload hread =>
    obtain ⟨hfilters, hindex, _⟩ := ofEntries_eq_ok hread
    have hparse := SearchPayload.filters_of_declares hdeclares hfilters
    have hescapes : escapesOf searcher.engine payload = false := by
      rw [← Bool.not_eq_true]
      exact fun hescapes => hdirect ((escapes_iff hdistinct hread).mp hescapes)
    refine ⟨payload.filters, hparse, ?_⟩
    rw [← hindex]
    -- which of the two plans it is shows only in the engine
    split at hplan
    · next hengine =>
      rw [hengine] at hescapes ⊢
      exact carries_of_meilisearch hescapes hplan
    · next hengine =>
      rw [hengine] at hescapes ⊢
      exact carries_of_algolia hescapes hplan

/-! ## Payloads that keep and lose a filter -/

/-- A list of conditions that asks for novels. -/
def novels : List Json :=
  [.object [("type", .string "equal"), ("field", .string "genre"), ("value", .string "novel")]]

/-- A payload that declares `novels` and gives a query vector. -/
def novelsNear (vector : Json) : Fields :=
  [("index", .string "books"), ("q", .string "sea"), ("filters", .array novels),
    ("vector", vector)]

/-- A schema with one index. -/
def bookshelf : Schema := ⟨[⟨"books", "id", []⟩]⟩

/-- A searcher without a floor for scores. -/
def searcherOf (engine : Engine) : Searcher := ⟨engine, ⟨0, false, Federation.termOverlap⟩, 1000⟩

/-- The calls for the payload, whatever is answered. -/
def novelCalls (vector : Json) : List Call :=
  ((searcherOf .meilisearch).searchFromJson (some bookshelf) (fun _ _ => ⟨0, .ok .null⟩) 0
    (.object (novelsNear vector))).calls

theorem distinct_novelsNear (vector : Json) : Fields.Distinct (novelsNear vector) := by
  simp [novelsNear, Fields.Distinct, Fields.keys]

theorem declares_novelsNear (vector : Json) : Declares (novelsNear vector) novels :=
  ⟨List.cons_ne_nil _ _, Or.inl rfl⟩

/-- Without a vector there is one request, and it carries the condition. -/
theorem declared_novels_are_sent :
    (novelCalls .null).length = 1 ∧
      ∀ call ∈ novelCalls .null, ∃ conditions,
        Condition.parseList (.array novels) = .ok conditions
          ∧ Carries .meilisearch (some bookshelf) "books" conditions call := by
  refine ⟨rfl, ?_⟩
  apply declared_filters_are_sent (searcherOf .meilisearch) (some bookshelf) _ 0
    (distinct_novelsNear .null) (declares_novelsNear .null)
  rintro (⟨key, hkey, hvalue⟩ | ⟨key, hkey, text, htext⟩ | ⟨_, hvector⟩)
  · obtain rfl := List.mem_singleton.mp hkey
    cases hvalue
  · obtain rfl := List.mem_singleton.mp hkey
    cases htext
  · cases hvector

/-- A square on the map, as a condition. -/
def squareCondition (low high : Int) : Json :=
  .object [("type", .string "geo_bounding_box"), ("north", .number (.integer high)),
    ("east", .number (.integer high)), ("south", .number (.integer low)),
    ("west", .number (.integer low))]

/-- Two squares apart from each other. -/
def squares : List Json := [squareCondition 1 2, squareCondition 3 4]

def inSquares : Fields := [("index", .string "books"), ("filters", .array squares)]

/-- The first number of the first box in a list of boxes. -/
def firstNumber? (boxes : Json) : Option Float :=
  ((boxes.array?.bind List.head?).bind fun box => box.array?.bind List.head?).bind Json.float?

/-- **A declared condition can be lost**, although a request is made. With a vector no filter
is sent; and of two boxes on the map only the second is, also on the compiler's way. -/
theorem declared_filters_are_lost :
    (Fields.Distinct (novelsNear (.array [.number (.integer 1)]))
      ∧ Declares (novelsNear (.array [.number (.integer 1)])) novels
      ∧ ∃ call ∈ novelCalls (.array [.number (.integer 1)]), ¬ ∃ conditions,
          Condition.parseList (.array novels) = .ok conditions
            ∧ Carries .meilisearch (some bookshelf) "books" conditions call)
    ∧ Fields.Distinct inSquares ∧ Declares inSquares squares ∧ ¬ LeadsAround .algolia inSquares
      ∧ ∃ conditions, Condition.parseList (.array squares) = .ok conditions
        ∧ ∃ c ∈ conditions, ∃ parameters, Filter.Algolia.compile c = .ok (.geo parameters)
          ∧ ∃ body, ((searcherOf .algolia).searchFromJson (some bookshelf)
              (fun _ _ => ⟨0, .ok .null⟩) 0 (.object inSquares)).calls = [Algolia.callOf [body]]
            ∧ ∃ entry ∈ parameters, Fields.get? body entry.1 ≠ some entry.2 := by
  constructor
  · refine ⟨distinct_novelsNear _, declares_novelsNear _,
      ⟨Meilisearch.searchPath "books",
        .object [("q", .string "sea"), ("vector", .array [.number (.integer 1)])]⟩,
      List.mem_singleton.mpr rfl, ?_⟩
    rintro ⟨conditions, hparse, descriptor, body, _, hcall, hfiltered⟩
    have hconditions : conditions = [.compare "genre" .equal (.string "novel")] := by
      cases hparse
      rfl
    subst hconditions
    obtain ⟨_, texts, _, hfilter, _⟩ := hfiltered _ List.mem_cons_self rfl
    cases hcall
    cases hfilter
  · have hdirect : ¬ LeadsAround .algolia inSquares := by
      simp [LeadsAround, ownWords, textKeys, inSquares, Fields.getSet?, Fields.get?_cons]
    refine ⟨by simp [inSquares, Fields.Distinct, Fields.keys],
      ⟨List.cons_ne_nil _ _, Or.inl rfl⟩, hdirect, ?_⟩
    -- the parameters of the first square, and what the body has under their key
    refine ⟨_, rfl, _, List.mem_cons_self, _, rfl, _, rfl, _, List.mem_cons_self, ?_⟩
    intro h
    have hnumbers : some (Number.integer 4).toFloat = some (Number.integer 2).toFloat :=
      congrArg (Option.bind · firstNumber?) h
    exact absurd hnumbers (by decide)

end Metasearch
