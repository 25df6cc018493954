import Metasearch.Engine.Algolia
import Metasearch.Proofs.Engine.BodyParts
import Metasearch.Proofs.Filter.Algolia.Compiled
import Metasearch.Proofs.Json.Unordered

set_option autoImplicit false

/-! # Where filters stand in a body for Algolia

The body of a compiled request is put together from parts. Two of them carry the filters: the
text under `filters`, and the search parameters of places. The other parts keep to keys of
their own (`otherKeys`), so that a look-up under a filter key never meets them. The last part is
the switch for scores.
-/

namespace Metasearch.Algolia

open Filter.Algolia (Predicate)

/-- The parts of a body that carry no filter. -/
def otherParts (request : SearchRequest) : Fields :=
  paging request.limit request.offset
    ++ Body.highlight request.highlight
    ++ Body.switch "distinct" request.distinct.isSome
    ++ Body.facets request.facets
    ++ Body.switch "getRankingInfo" request.showScores

/-- The first entries of a body: the index, the query words and the filter text. -/
def startOf (request : SearchRequest) (predicates : List Predicate) : Fields :=
  [("indexName", .string (indexNameOf request)),
    ("query", .string (" ".intercalate (queryWords predicates)))]
    ++ (if (filterClauses predicates).isEmpty then []
        else [("filters", .string (" AND ".intercalate (filterClauses predicates)))])

theorem requestBody_eq_ok {request : SearchRequest} {body : Fields} :
    requestBody request = .ok body ↔
      ∃ predicates, Filter.Algolia.compileAll request.filters = .ok predicates
        ∧ body = Fields.insertAll (startOf request predicates) (geoParameters predicates)
            ++ otherParts request := by
  have hbody : ∀ predicates, Fields.insertAll (startOf request predicates)
      (geoParameters predicates) ++ otherParts request = body ↔
        body = Fields.insertAll (startOf request predicates) (geoParameters predicates)
          ++ otherParts request := fun _ => eq_comm
  simp only [requestBody, bind_eq_ok, pure_eq_ok, ← hbody]
  simp only [otherParts, startOf, List.append_assoc]

/-! ## Keys -/

/-- The parts between the filters and the switch for scores. -/
def plainParts (request : SearchRequest) : Fields :=
  paging request.limit request.offset
    ++ Body.highlight request.highlight
    ++ Body.switch "distinct" request.distinct.isSome
    ++ Body.facets request.facets

theorem otherParts_eq (request : SearchRequest) :
    otherParts request
      = plainParts request ++ Body.switch "getRankingInfo" request.showScores := rfl

theorem keys_paging (limit offset : Option Nat) :
    (Fields.keys (paging limit offset)).Sublist ["offset", "length", "hitsPerPage"] := by
  cases offset <;> cases limit <;> simp [paging, Fields.keys]

/-- The keys of those parts. -/
def plainKeys : List String :=
  ["offset", "length", "hitsPerPage", "attributesToHighlight", "highlightPreTag",
    "highlightPostTag", "distinct", "facets"]

theorem keys_plainParts (request : SearchRequest) :
    (Fields.keys (plainParts request)).Sublist plainKeys :=
  Body.keys_append (Body.keys_append (Body.keys_append (keys_paging _ _)
    (Body.keys_highlight _)) (Body.keys_switch _ _)) (Body.keys_facets _)

/-- The keys of the parts that carry no filter. -/
def otherKeys : List String :=
  ["offset", "length", "hitsPerPage", "attributesToHighlight", "highlightPreTag",
    "highlightPostTag", "distinct", "facets", "getRankingInfo"]

theorem keys_otherParts (request : SearchRequest) :
    (Fields.keys (otherParts request)).Sublist otherKeys :=
  Body.keys_append (keys_plainParts request) (Body.keys_switch _ _)

/-- The first entries of a request that leads around the compiler. -/
def escapedStart (payload : SearchPayload) : Fields :=
  [("indexName", .string payload.index), ("query", .string payload.query)]
    ++ paging payload.limit payload.offset
    ++ Body.switch "getRankingInfo" payload.showScores

theorem keys_escapedStart (payload : SearchPayload) :
    (Fields.keys (escapedStart payload)).Sublist
      (["indexName", "query"] ++ ["offset", "length", "hitsPerPage"] ++ ["getRankingInfo"]) :=
  Body.keys_append (Body.keys_append (.refl _) (keys_paging _ _)) (Body.keys_switch _ _)

theorem escapedRequest_eq (payload : SearchPayload) :
    escapedRequest payload = Fields.insertAllNew (escapedStart payload)
      (payload.extra.map fun (key, value) => (ownKey key, value)) := rfl

/-! ## Places -/

/-- The search parameters of a condition: those of a place, and none of any other. -/
def placeParameters : Condition → Fields
  | .near _ lat lng distance => Filter.Algolia.nearParameters lat lng distance
  | .within _ box => Filter.Algolia.boxParameters box
  | _ => []

theorem geoParameters_cons {c : Condition} {p : Predicate}
    (h : Filter.Algolia.compile c = .ok p) (predicates : List Predicate) :
    geoParameters (p :: predicates) = placeParameters c ++ geoParameters predicates := by
  cases c with
  | group connective members =>
    have hshape := Filter.Algolia.shape_of_compile h
    cases p with
    | geo parameters => cases connective <;> cases hshape
    | _ => rfl
  | _ => cases Filter.Algolia.fromLeaf_of_compile (by rintro _ _ ⟨⟩) h <;> rfl

/-- **The places of a request reach its body**: their parameters one after the other. -/
theorem geoParameters_eq {conditions : List Condition} {predicates : List Predicate}
    (h : Filter.Algolia.compileAll conditions = .ok predicates) :
    geoParameters predicates = conditions.flatMap placeParameters := by
  have hall := Filter.Algolia.compileAll_eq_ok.mp h
  clear h
  induction hall with
  | nil => rfl
  | cons hp _ ih => rw [geoParameters_cons hp, ih, List.flatMap_cons]

/-- The keys that a place may set. -/
def placeKeys : List String := ["aroundLatLng", "aroundRadius", "insideBoundingBox"]

theorem keys_placeParameters (c : Condition) :
    ∀ key ∈ Fields.keys (placeParameters c), key ∈ placeKeys := by
  unfold placeParameters
  split <;>
    simp [Filter.Algolia.nearParameters, Filter.Algolia.boxParameters, Fields.keys, placeKeys]

theorem distinct_placeParameters (c : Condition) : Fields.Distinct (placeParameters c) := by
  unfold placeParameters
  split <;>
    simp [Filter.Algolia.nearParameters, Filter.Algolia.boxParameters, Fields.Distinct,
      Fields.keys]

/-- Places that set the same key are asked for in the same way. -/
theorem tag_eq_of_keys {c d : Condition} {key : String}
    (hc : key ∈ Fields.keys (placeParameters c)) (hd : key ∈ Fields.keys (placeParameters d)) :
    c.tag = d.tag := by
  cases c <;> cases d <;>
    simp_all [placeParameters, Filter.Algolia.nearParameters, Filter.Algolia.boxParameters,
      Fields.keys, Condition.tag]

theorem keys_flatMap_placeParameters (conditions : List Condition) :
    ∀ key ∈ Fields.keys (conditions.flatMap placeParameters), key ∈ placeKeys := by
  intro key hkey
  obtain ⟨entry, hentry, rfl⟩ := List.mem_map.mp hkey
  obtain ⟨c, _, hmem⟩ := List.mem_flatMap.mp hentry
  exact keys_placeParameters c entry.1 (List.mem_map_of_mem hmem)

/-! ## No key twice -/

theorem keys_startOf (request : SearchRequest) (predicates : List Predicate) :
    (Fields.keys (startOf request predicates)).Sublist ["indexName", "query", "filters"] := by
  unfold startOf
  split
  · exact Body.keys_append (.refl _) (List.nil_sublist ["filters"])
  · exact .refl _

/-- **No key occurs twice in a body**, however many places set the same parameters. -/
theorem distinct_requestBody {request : SearchRequest} {body : Fields}
    (h : requestBody request = .ok body) : Fields.Distinct body := by
  obtain ⟨predicates, hcompiled, rfl⟩ := requestBody_eq_ok.mp h
  have hstart : Fields.Distinct (startOf request predicates) :=
    List.Nodup.sublist (keys_startOf request predicates) (by decide)
  have hother : Fields.Distinct (otherParts request) :=
    List.Nodup.sublist (keys_otherParts request) (by decide)
  refine Fields.distinct_append (Fields.distinct_insertAll hstart _) hother fun key hkey => ?_
  have hnew : ∀ key ∈ otherKeys, key ∉ ["indexName", "query", "filters"] ∧ key ∉ placeKeys := by
    decide
  obtain ⟨hfirst, hplaces⟩ := hnew key ((keys_otherParts request).subset hkey)
  have hplace : key ∉ Fields.keys (geoParameters predicates) := fun hmem =>
    hplaces (keys_flatMap_placeParameters _ _ (geoParameters_eq hcompiled ▸ hmem))
  rw [← Fields.get?_eq_none, Fields.get?_insertAll_of_not_mem hplace, Fields.get?_eq_none]
  exact fun hmem => hfirst ((keys_startOf request predicates).subset hmem)

/-! ## Looking up filters -/

section Body

variable {request : SearchRequest} {predicates : List Predicate}
  (hcompiled : Filter.Algolia.compileAll request.filters = .ok predicates) {body : Fields}
  (hbody : requestBody request = .ok body)

include hcompiled hbody

theorem eq_of_requestBody :
    body = Fields.insertAll (startOf request predicates)
      (request.filters.flatMap placeParameters) ++ otherParts request := by
  obtain ⟨ps, hps, rfl⟩ := requestBody_eq_ok.mp hbody
  have heq : predicates = ps := by
    rw [hcompiled] at hps
    exact Except.ok.inj hps
  subst heq
  rw [geoParameters_eq hcompiled]

/-- Under a key that no place sets, a body has what its other parts have there. -/
theorem get?_of_not_place {key : String} (hkey : key ∉ placeKeys) :
    Fields.get? body key = (Fields.get? (startOf request predicates) key).or
      (Fields.get? (otherParts request) key) := by
  have hplaces : key ∉ Fields.keys (request.filters.flatMap placeParameters) :=
    fun hmem => hkey (keys_flatMap_placeParameters _ _ hmem)
  rw [eq_of_requestBody hcompiled hbody, Fields.get?_append,
    Fields.get?_insertAll_of_not_mem hplaces]

/-- **The filter text of a body** is there when a condition has one. -/
theorem get?_filters : Fields.get? body "filters"
    = if filterClauses predicates = [] then none
      else some (.string (" AND ".intercalate (filterClauses predicates))) := by
  have hother : Fields.get? (otherParts request) "filters" = none :=
    Fields.get?_eq_none.mpr fun hmem => absurd ((keys_otherParts request).subset hmem) (by decide)
  rw [get?_of_not_place hcompiled hbody (by decide), hother, Option.or_none]
  by_cases hempty : filterClauses predicates = [] <;> simp [startOf, Fields.get?_cons, hempty]

/-- The parameters of a place are there if no later condition asks for a place in the same
way: a later one overwrites them. -/
theorem get?_place {before after : List Condition} {c : Condition}
    (hsplit : request.filters = before ++ c :: after) (hlast : ∀ d ∈ after, d.tag ≠ c.tag)
    {key : String} {value : Json} (h : (key, value) ∈ placeParameters c) :
    Fields.get? body key = some value := by
  -- a later place with this key would be asked for in the same way
  have hlater : key ∉ Fields.keys (after.flatMap placeParameters) := by
    intro hmem
    obtain ⟨entry, hentry, hkey⟩ := List.mem_map.mp hmem
    obtain ⟨d, hd, hentry⟩ := List.mem_flatMap.mp hentry
    have hlater : entry.1 ∈ Fields.keys (placeParameters d) := List.mem_map_of_mem hentry
    rw [show entry.1 = key from hkey] at hlater
    exact hlast d hd (tag_eq_of_keys hlater (List.mem_map_of_mem h))
  have hplaces : Fields.get? (Fields.insertAll (startOf request predicates)
      (request.filters.flatMap placeParameters)) key = some value := by
    rw [hsplit, List.flatMap_append, List.flatMap_cons, Fields.insertAll_append,
      Fields.insertAll_append, Fields.get?_insertAll_of_not_mem hlater]
    exact Fields.get?_insertAll_of_mem (distinct_placeParameters c) h
  rw [eq_of_requestBody hcompiled hbody, Fields.get?_append, hplaces]
  rfl

end Body

/-- **The switch for scores** is in a body exactly if scores are asked for. -/
theorem get?_getRankingInfo {request : SearchRequest} {body : Fields}
    (hbody : requestBody request = .ok body) :
    Fields.get? body "getRankingInfo"
      = if request.showScores then some (.bool true) else none := by
  obtain ⟨predicates, hcompiled, _⟩ := requestBody_eq_ok.mp hbody
  have hstart : Fields.get? (startOf request predicates) "getRankingInfo" = none := by
    unfold startOf
    split <;> rfl
  have hplain : Fields.get? (plainParts request) "getRankingInfo" = none :=
    Fields.get?_eq_none.mpr fun hmem => absurd ((keys_plainParts request).subset hmem) (by decide)
  rw [get?_of_not_place hcompiled hbody (by decide), hstart, otherParts_eq, Fields.get?_append,
    hplain, Body.get?_switch]
  rfl

/-! ## Bodies that carry filters -/

/-- The filters of some conditions stand in a body. Of several places that are asked for in
the same way, this says something of the last only. -/
structure Filtered (conditions : List Condition) (body : Fields) : Prop where
  /-- The expression of a condition is one of the clauses under `filters`. -/
  clauses : ∀ c ∈ conditions, c.isSearch = false → c.isGeo = false →
    ∃ predicate clause clauses, Filter.Algolia.compile c = .ok predicate
      ∧ predicate.expression? = some clause ∧ clause ∈ clauses
      ∧ Fields.get? body "filters" = some (.string (" AND ".intercalate clauses))
  /-- The parameters of a place are entries of their own. -/
  places : ∀ before c after, conditions = before ++ c :: after → c.isGeo = true →
    (∀ d ∈ after, d.tag ≠ c.tag) →
    ∃ parameters, Filter.Algolia.compile c = .ok (.geo parameters)
      ∧ ∀ entry ∈ parameters, Fields.get? body entry.1 = some entry.2

/-- **The body of a request carries its filters.** -/
theorem filtered_requestBody {request : SearchRequest} {body : Fields}
    (h : requestBody request = .ok body) : Filtered request.filters body := by
  obtain ⟨predicates, hcompiled, _⟩ := requestBody_eq_ok.mp h
  have hall := Filter.Algolia.compileAll_eq_ok.mp hcompiled
  constructor
  · intro c hc hsearch hgeo
    obtain ⟨p, hp, hcompile⟩ := forall₂_exists_right hall c hc
    obtain ⟨clause, hclause⟩ :=
      (Filter.Algolia.expression?_isSome_iff hcompile).mpr ⟨hsearch, hgeo⟩
    have hmem : clause ∈ filterClauses predicates := List.mem_filterMap.mpr ⟨p, hp, hclause⟩
    have hne : filterClauses predicates ≠ [] := List.ne_nil_of_mem hmem
    refine ⟨p, clause, filterClauses predicates, hcompile, hclause, hmem, ?_⟩
    rw [get?_filters hcompiled h, if_neg hne]
  · intro before c after hsplit hgeo hlast
    have hcompile : Filter.Algolia.compile c = .ok (.geo (placeParameters c)) := by
      cases c with
      | near field lat lng distance => rfl
      | within field box => rfl
      | _ => cases hgeo
    exact ⟨_, hcompile, fun entry hentry => get?_place hcompiled h hsplit hlast hentry⟩

/-- Adding entries under new keys leaves the filters where they are. -/
theorem Filtered.insertAllNew {conditions : List Condition} {body : Fields}
    (h : Filtered conditions body) (others : Fields) :
    Filtered conditions (Fields.insertAllNew body others) where
  clauses := by
    intro c hc hsearch hgeo
    obtain ⟨p, clause, clauses, hcompile, hclause, hmem, hfilters⟩ := h.clauses c hc hsearch hgeo
    exact ⟨p, clause, clauses, hcompile, hclause, hmem,
      Fields.get?_insertAllNew_of_some others hfilters⟩
  places := by
    intro before c after hsplit hgeo hlast
    obtain ⟨parameters, hcompile, hentries⟩ := h.places before c after hsplit hgeo hlast
    exact ⟨parameters, hcompile, fun entry hentry =>
      Fields.get?_insertAllNew_of_some others (hentries entry hentry)⟩

/-- What comes before some conditions does not overwrite their places. -/
theorem Filtered.of_suffix {conditions others : List Condition} {body : Fields}
    (h : Filtered conditions body) (hsuffix : others <:+ conditions) : Filtered others body where
  clauses := fun c hc => h.clauses c (hsuffix.mem hc)
  places := by
    intro before c after hsplit
    obtain ⟨first, rfl⟩ := hsuffix
    refine h.places (first ++ before) c after ?_
    rw [hsplit, List.append_assoc]

end Metasearch.Algolia
