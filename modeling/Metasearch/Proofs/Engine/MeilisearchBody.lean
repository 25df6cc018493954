import Metasearch.Engine.Meilisearch
import Metasearch.Proofs.Engine.BodyParts
import Metasearch.Proofs.Filter.Meilisearch.Compiled
import Metasearch.Proofs.Json.Unordered

set_option autoImplicit false

/-! # Where filters stand in a body for Meilisearch

The expressions of all compiled conditions stand in one list under `filter`, each for itself.
The parts around it keep to keys of their own (`otherKeys`), and the list is left out when
there is no expression. The last part is the switch for scores.
-/

namespace Metasearch.Meilisearch

open Filter.Meilisearch (Predicate)

/-- The parts of a body behind the filters. -/
def otherParts (request : SearchRequest) : Fields :=
  textList "sort" (request.sort.map SortKey.text)
    ++ Body.optional "limit" .ofNat request.limit
    ++ Body.optional "offset" .ofNat request.offset
    ++ Body.highlight request.highlight
    ++ Body.optional "distinct" .string request.distinct
    ++ Body.facets request.facets
    ++ Body.switch "showRankingScore" request.showScores

theorem requestBody_eq_ok {identifier : String} {request : SearchRequest} {body : Fields} :
    requestBody identifier request = .ok body ↔
      ∃ predicates, Filter.Meilisearch.compileAll identifier request.filters = .ok predicates
        ∧ body = [("q", .string (" ".intercalate (queryWords predicates)))]
            ++ (textList "filter" (filterExpressions predicates) ++ otherParts request) := by
  have hbody : ∀ predicates, [("q", .string (" ".intercalate (queryWords predicates)))]
      ++ (textList "filter" (filterExpressions predicates) ++ otherParts request) = body ↔
        body = [("q", .string (" ".intercalate (queryWords predicates)))]
          ++ (textList "filter" (filterExpressions predicates) ++ otherParts request) :=
    fun _ => eq_comm
  simp only [requestBody, bind_eq_ok, pure_eq_ok, ← hbody]
  simp only [otherParts, List.append_assoc]

/-! ## Keys -/

/-- The parts between the filters and the switch for scores. -/
def plainParts (request : SearchRequest) : Fields :=
  textList "sort" (request.sort.map SortKey.text)
    ++ Body.optional "limit" .ofNat request.limit
    ++ Body.optional "offset" .ofNat request.offset
    ++ Body.highlight request.highlight
    ++ Body.optional "distinct" .string request.distinct
    ++ Body.facets request.facets

theorem otherParts_eq (request : SearchRequest) :
    otherParts request
      = plainParts request ++ Body.switch "showRankingScore" request.showScores := rfl

/-- The keys of those parts. -/
def plainKeys : List String :=
  ["sort", "limit", "offset", "attributesToHighlight", "highlightPreTag", "highlightPostTag",
    "distinct", "facets"]

theorem keys_textList (name : String) (texts : List String) :
    (Fields.keys (textList name texts)).Sublist [name] := by
  unfold textList
  split
  · exact List.nil_sublist _
  · exact .refl _

theorem keys_plainParts (request : SearchRequest) :
    (Fields.keys (plainParts request)).Sublist plainKeys :=
  Body.keys_append (Body.keys_append (Body.keys_append (Body.keys_append (Body.keys_append
    (keys_textList _ _) (Body.keys_optional _ _ _)) (Body.keys_optional _ _ _))
    (Body.keys_highlight _)) (Body.keys_optional _ _ _)) (Body.keys_facets _)

/-- The keys of the parts behind the filters. -/
def otherKeys : List String :=
  ["sort", "limit", "offset", "attributesToHighlight", "highlightPreTag", "highlightPostTag",
    "distinct", "facets", "showRankingScore"]

theorem keys_otherParts (request : SearchRequest) :
    (Fields.keys (otherParts request)).Sublist otherKeys :=
  Body.keys_append (keys_plainParts request) (Body.keys_switch _ _)

/-- A body keeps to the keys of its parts. -/
theorem keys_requestBody {identifier : String} {request : SearchRequest} {body : Fields}
    (h : requestBody identifier request = .ok body) :
    (Fields.keys body).Sublist (["q"] ++ (["filter"] ++ otherKeys)) := by
  obtain ⟨predicates, _, rfl⟩ := requestBody_eq_ok.mp h
  exact Body.keys_append (.refl _) (Body.keys_append (keys_textList _ _) (keys_otherParts request))

/-- **No key occurs twice in a body.** -/
theorem distinct_requestBody {identifier : String} {request : SearchRequest} {body : Fields}
    (h : requestBody identifier request = .ok body) : Fields.Distinct body :=
  List.Nodup.sublist (keys_requestBody h) (by decide)

/-- What is forwarded keeps to the forwarded keys. -/
theorem keys_forwarded (entries : Fields) :
    (Fields.keys (forwarded entries)).Sublist forwardedKeys :=
  Fields.keys_filterMap_keys _ _

/-! ## Looking up filters -/

/-- **The filters of a body** are there when a condition has an expression. -/
theorem get?_filter {identifier : String} {request : SearchRequest}
    {predicates : List Predicate}
    (hcompiled : Filter.Meilisearch.compileAll identifier request.filters = .ok predicates)
    {body : Fields} (hbody : requestBody identifier request = .ok body) :
    Fields.get? body "filter"
      = if filterExpressions predicates = [] then none
        else some (.ofStrings (filterExpressions predicates)) := by
  obtain ⟨ps, hps, rfl⟩ := requestBody_eq_ok.mp hbody
  have heq : predicates = ps := by
    rw [hcompiled] at hps
    exact Except.ok.inj hps
  subst heq
  have hother : Fields.get? (otherParts request) "filter" = none :=
    Fields.get?_eq_none.mpr fun hmem => absurd ((keys_otherParts request).subset hmem) (by decide)
  rw [Fields.get?_append, Fields.get?_append, hother, Option.or_none]
  by_cases hempty : filterExpressions predicates = [] <;>
    simp [textList, Fields.get?_cons, hempty]

/-- **The switch for scores** is in a body exactly if scores are asked for. -/
theorem get?_showRankingScore {identifier : String} {request : SearchRequest} {body : Fields}
    (hbody : requestBody identifier request = .ok body) :
    Fields.get? body "showRankingScore"
      = if request.showScores then some (.bool true) else none := by
  obtain ⟨predicates, _, rfl⟩ := requestBody_eq_ok.mp hbody
  have hfilter : Fields.get? (textList "filter" (filterExpressions predicates))
      "showRankingScore" = none := by
    unfold textList
    split <;> rfl
  have hplain : Fields.get? (plainParts request) "showRankingScore" = none :=
    Fields.get?_eq_none.mpr fun hmem => absurd ((keys_plainParts request).subset hmem) (by decide)
  rw [Fields.get?_append, Fields.get?_append, otherParts_eq, Fields.get?_append, hfilter, hplain,
    Body.get?_switch]
  rfl

/-! ## Bodies that carry filters -/

/-- The filters of some conditions stand in a body: that of every condition which is no search
for words is in the list under `filter`. -/
def Filtered (identifier : String) (conditions : List Condition) (body : Fields) : Prop :=
  ∀ c ∈ conditions, c.isSearch = false →
    ∃ expression texts, Filter.Meilisearch.compile identifier c = .ok (.filter expression)
      ∧ Fields.get? body "filter" = some (.ofStrings texts) ∧ expression ∈ texts

/-- **The body of a request carries its filters.** -/
theorem filtered_requestBody {identifier : String} {request : SearchRequest} {body : Fields}
    (h : requestBody identifier request = .ok body) :
    Filtered identifier request.filters body := by
  obtain ⟨predicates, hcompiled, _⟩ := requestBody_eq_ok.mp h
  have hall := Filter.Meilisearch.compileAll_eq_ok.mp hcompiled
  intro c hc hsearch
  obtain ⟨p, hp, hcompile⟩ := forall₂_exists_right hall c hc
  obtain ⟨expression, rfl⟩ := Filter.Meilisearch.expression_of_compile hcompile hsearch
  have hmem : expression ∈ filterExpressions predicates :=
    List.mem_filterMap.mpr ⟨.filter expression, hp, rfl⟩
  have hne : filterExpressions predicates ≠ [] := List.ne_nil_of_mem hmem
  refine ⟨expression, filterExpressions predicates, hcompile, ?_, hmem⟩
  rw [get?_filter hcompiled h, if_neg hne]

/-- Adding entries under new keys leaves the filters where they are. -/
theorem Filtered.insertAllNew {identifier : String} {conditions : List Condition}
    {body : Fields} (h : Filtered identifier conditions body) (others : Fields) :
    Filtered identifier conditions (Fields.insertAllNew body others) := by
  intro c hc hsearch
  obtain ⟨expression, texts, hcompile, hfilter, hmem⟩ := h c hc hsearch
  exact ⟨expression, texts, hcompile, Fields.get?_insertAllNew_of_some others hfilter, hmem⟩

theorem Filtered.of_suffix {identifier : String} {conditions others : List Condition}
    {body : Fields} (h : Filtered identifier conditions body) (hsuffix : others <:+ conditions) :
    Filtered identifier others body :=
  fun c hc => h c (hsuffix.mem hc)

end Metasearch.Meilisearch
