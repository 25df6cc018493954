import Metasearch.Proofs.Engine.FloorSafety

set_option autoImplicit false

/-! # How long a page can be

A page that is blended here is cut to its length as the last thing but for the relevance filter,
which adds nothing: so it is never too long, whatever the engine answers.

A page that Meilisearch merges is left to the engine. Where the federation options have a length,
the request has it too, and what the engine answers is returned as it is, but for the floor and
the relevance filter (`LeftToEngine`). So the page keeps to the length if the engine does.
-/

namespace Metasearch

open Federation (Policy found termOverlap)

/-! ## Pages that are cut -/

/-- A blend is cut to the length of a page. -/
theorem Federation.length_blend_le (spec : FederationSpec) (fallback : Nat)
    (pools : List RankedPool) : (blend spec fallback pools).length ≤ spec.pageSize fallback :=
  List.length_take_le _ _

/-- Neither the floor nor a judgement by common terms adds hits. -/
theorem Federation.length_refine_le {policy : Policy} (hrelevance : policy.relevance = termOverlap)
    (query : String) (showScores : Bool) (hits : List Hit) :
    (policy.refine query showScores hits).length ≤ hits.length := by
  have hrefined := (refine_subperm hrelevance query showScores hits).length_le
  have hfloor : (applyFloor policy.minimum showScores hits).length ≤ hits.length :=
    List.length_filter_le _ _
  omega

/-- A bound for the hits of a search is one for what it finds: a failure has none. -/
theorem Federation.length_found_le {result : Except Failure (List Hit)} {bound : Nat}
    (h : ∀ hits, result = .ok hits → hits.length ≤ bound) : (found result).length ≤ bound := by
  cases result with
  | ok hits => exact h hits rfl
  | error failure => exact Nat.zero_le bound

namespace Searcher

variable {searcher : Searcher} (hrelevance : searcher.policy.relevance = termOverlap)
  {transport : Transport} {sent : Nat} {queries : List Fields} {query : String}
  {federation : FederationSpec} {limit : Nat}

include hrelevance

/-- **What is blended here is a blend**, refined. -/
theorem eq_refine_blend (hlocal : searcher.engine = .meilisearch → federation.isNative = false)
    {hits : List Hit}
    (h : (searcher.multiSearch transport sent queries query federation limit).result = .ok hits) :
    ∃ pools, hits = searcher.policy.refine query false
      (Federation.blend federation limit pools) := by
  obtain ⟨engine, policy, timeout⟩ := searcher
  cases engine with
  | meilisearch =>
    have hhits := hits_of_meilisearch hrelevance h
    rw [hlocal rfl] at hhits
    exact ⟨_, hhits⟩
  | algolia => exact ⟨_, hits_of_algolia hrelevance h⟩

theorem length_of_blended (hlocal : searcher.engine = .meilisearch → federation.isNative = false) :
    (found (searcher.multiSearch transport sent queries query federation limit).result).length
      ≤ federation.pageSize limit := by
  apply Federation.length_found_le
  intro hits hresult
  obtain ⟨pools, rfl⟩ := eq_refine_blend hrelevance hlocal hresult
  calc (searcher.policy.refine query false (Federation.blend federation limit pools)).length
      ≤ (Federation.blend federation limit pools).length :=
        Federation.length_refine_le hrelevance query false _
    _ ≤ federation.pageSize limit := Federation.length_blend_le federation limit pools

end Searcher

/-! ## Pages that are not -/

/-- The options that the engine carries out hold the length of a page where the federation options
do. -/
theorem Meilisearch.get?_nativeOptions_limit {federation : FederationSpec} {size : Nat}
    (hsize : federation.limit = some size) :
    Fields.get? (nativeOptions federation) "limit" = some (.ofNat size) := by
  simp [nativeOptions, Fields.get?_append, Body.get?_optional, hsize]

/-- **What is known of a page of a given length that the engine merges.** The request has the
length in the federation options, and the page keeps to it if the engine's answer does. Without a
floor and further judgement it is the page of the answer. -/
structure LeftToEngine (searcher : Searcher) (transport : Transport) (sent : Nat)
    (queries : List Fields) (query : String) (federation : FederationSpec) (limit size : Nat) :
    Prop where
  asked : ∀ call ∈ (searcher.multiSearchPlan queries query federation limit).calls,
    ∃ body options, call.body = .object body
      ∧ Fields.get? body "federation" = some (.object options)
      ∧ Fields.get? options "limit" = some (.ofNat size)
  kept : (hitsOf .meilisearch
        ((searcher.multiSearchPlan queries query federation limit).answer transport sent)).length
      ≤ size →
    (found (searcher.multiSearch transport sent queries query federation limit).result).length
      ≤ size
  whole : searcher.policy.advanced = false → searcher.policy.minimum ≤ 0 →
    ∀ hits, (searcher.multiSearch transport sent queries query federation limit).result = .ok hits →
      hits = hitsOf .meilisearch
        ((searcher.multiSearchPlan queries query federation limit).answer transport sent)

namespace Searcher

variable {searcher : Searcher} (hrelevance : searcher.policy.relevance = termOverlap)
  {transport : Transport} {sent : Nat} {queries : List Fields} {query : String}
  {federation : FederationSpec} {limit : Nat} (hengine : searcher.engine = .meilisearch)

include hrelevance hengine

/-- What the engine merges does not grow here. -/
theorem length_of_merged (hnative : federation.isNative = true) :
    (found (searcher.multiSearch transport sent queries query federation limit).result).length
      ≤ (hitsOf .meilisearch ((searcher.multiSearchPlan queries query federation limit).answer
          transport sent)).length := by
  apply Federation.length_found_le
  intro hits hresult
  rw [merge_of_multiSearch hrelevance hengine hnative hresult]
  apply Nat.le_trans (Federation.length_refine_le hrelevance query false _)
  exact List.length_filter_le _ _

theorem leftToEngine {size : Nat} (hsize : federation.limit = some size) :
    LeftToEngine searcher transport sent queries query federation limit size := by
  have hnative : federation.isNative = true := by simp [FederationSpec.isNative, hsize]
  constructor
  · intro call hcall
    simp only [multiSearchPlan, hengine, Meilisearch.multiSearch] at hcall
    split at hcall
    · cases hcall
    · obtain rfl := List.mem_singleton.mp hcall
      refine ⟨_, Meilisearch.nativeOptions federation, rfl, ?_,
        Meilisearch.get?_nativeOptions_limit hsize⟩
      simp [Meilisearch.multiSearchBody, hnative, Fields.get?_cons]
  · exact fun hanswer => Nat.le_trans (length_of_merged hrelevance hengine hnative) hanswer
  · intro hplain hminimum hits hresult
    rw [merge_of_multiSearch hrelevance hengine hnative hresult, Federation.refine_of_plain hplain,
      Federation.applyFloor_of_hidden]
    apply List.filter_eq_self.mpr
    intro hit _
    simp [Federation.admits, hminimum]

end Searcher

/-- **A page that is blended here is never too long.** For every engine, transport, list of
queries, federation options and length asked for: what is blended here has at most the length in
the options, or else the one asked for. What Meilisearch merges does not grow here, and a page
with a length in the options is left to it. -/
theorem pages_are_cut_here {searcher : Searcher} {config : Config}
    (hpolicy : searcher.policy = .ofConfig config) (transport : Transport) (sent : Nat)
    (queries : List Fields) (query : String) (federation : FederationSpec) (limit : Nat) :
    ((searcher.engine = .meilisearch → federation.isNative = false) →
        (found (searcher.multiSearch transport sent queries query federation limit).result).length
          ≤ federation.pageSize limit)
      ∧ (searcher.engine = .meilisearch → federation.isNative = true →
        (found (searcher.multiSearch transport sent queries query federation limit).result).length
          ≤ (hitsOf .meilisearch ((searcher.multiSearchPlan queries query federation limit).answer
              transport sent)).length)
      ∧ (searcher.engine = .meilisearch → ∀ size, federation.limit = some size →
        LeftToEngine searcher transport sent queries query federation limit size) := by
  have hrelevance : searcher.policy.relevance = termOverlap := by
    rw [hpolicy]
    rfl
  refine ⟨?_, ?_, ?_⟩
  · intro hlocal
    exact Searcher.length_of_blended hrelevance hlocal
  · intro hengine hnative
    exact Searcher.length_of_merged hrelevance hengine hnative
  · intro hengine size hsize
    exact Searcher.leftToEngine hrelevance hengine hsize

/-! ### Pages of one hit -/

/-- A configuration that sets nothing. -/
def bareConfig : Config := ⟨none, []⟩

def bareSearcher : Searcher := ⟨.meilisearch, .ofConfig bareConfig, 1000⟩

/-- Options with which Meilisearch merges a page of one hit. -/
def oneMerged : FederationSpec := { FederationSpec.empty with limit := some 1 }

/-- Two documents, as one list and as the result of one query. -/
def twoDocuments : Transport := fun _ _ =>
  let documents : Json := .array [.object [("id", .string "a")], .object [("id", .string "b")]]
  ⟨0, .ok (.object [("hits", documents), ("results", .array [.object [("hits", documents)]])])⟩

def booksOnly : List Fields := [[("index", .string "books")]]

/-- The number of books found, if one is asked for. -/
def booksFound (federation : FederationSpec) : Nat :=
  (found (bareSearcher.multiSearch twoDocuments 0 booksOnly "" federation 1).result).length

theorem booksFound_empty : booksFound .empty = 1 := by
  have hresult : (bareSearcher.multiSearch twoDocuments 0 booksOnly "" .empty 1).result
      = .ok (bareSearcher.policy.refine "" false (Federation.blend .empty 1
          [⟨"books", [Federation.hitOf "a", Federation.hitOf "b"]⟩])) := rfl
  rw [booksFound, hresult, Federation.blend, Federation.merged_pair rfl]
  rfl

/-- Without options the page has the first book and no other; with options that the engine carries
out it has what the engine answers. -/
theorem page_of_one_is_cut :
    bareSearcher.policy = .ofConfig bareConfig
      ∧ (booksFound .empty = 1 ∧ booksFound .empty ≤ FederationSpec.empty.pageSize 1)
      ∧ booksFound oneMerged ≤ 2
      ∧ LeftToEngine bareSearcher twoDocuments 0 booksOnly "" oneMerged 1 1 := by
  have hpolicy : bareSearcher.policy = .ofConfig bareConfig := rfl
  obtain ⟨hcut, _, _⟩ := pages_are_cut_here hpolicy twoDocuments 0 booksOnly "" .empty 1
  obtain ⟨_, hmerged, hleft⟩ := pages_are_cut_here hpolicy twoDocuments 0 booksOnly "" oneMerged 1
  exact ⟨hpolicy, ⟨booksFound_empty, hcut fun _ => rfl⟩, hmerged rfl rfl, hleft rfl 1 rfl⟩

/-- **A merged page can be longer than a page**: the engine answers with two books where the
options ask it for one. -/
theorem merged_page_is_too_long :
    bareSearcher.policy = .ofConfig bareConfig
      ∧ ¬ booksFound oneMerged ≤ oneMerged.pageSize 1 := by
  have hmerged : booksFound oneMerged = 2 := rfl
  have hpage : oneMerged.pageSize 1 = 1 := rfl
  refine ⟨rfl, ?_⟩
  omega

end Metasearch
