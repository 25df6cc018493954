import Metasearch.Engine.Searcher
import Metasearch.Proofs.Engine.AlgoliaBody
import Metasearch.Proofs.Engine.DeclaredFilters
import Metasearch.Proofs.Engine.MeilisearchBody
import Metasearch.Proofs.Payload.KeyOrder

set_option autoImplicit false

/-! # The order of keys in a payload

A payload is an object, and the order in which its keys were written means nothing. Still the
order is there, in the payload and in what is sent, and searching moves entries about: names
are removed, the last entry fills each hole, and what is left is added to a body where its key
is missing. None of this reaches the meaning of a request (`Call.Reordered`), and so nothing
of it reaches the hits where requests of one meaning are answered alike
(`Transport.IgnoresOrder`). A transport that looks at the order can tell it.

The argument compares plans (`Plan.Reordered`). Of the entries that are passed on, two compete
for one key only where an engine has another name for it; these are the filters in the engine's
words, and their order is not the caller's.
-/

namespace Metasearch

open List (Forall₂)
open Federation (Policy)
open SearchPayload (Shuffled)

/-! ## Calls and plans up to order -/

/-- The same request but for the order of the keys of the search in it. The search is the body
for one engine, and the only one of a list for the other. -/
inductive Call.Reordered : Call → Call → Prop where
  | body (path : String) {entries others : Fields} (order : Fields.Reordered entries others) :
      Call.Reordered ⟨path, .object entries⟩ ⟨path, .object others⟩
  | request {entries others : Fields} (order : Fields.Reordered entries others) :
      Call.Reordered (Algolia.callOf [entries]) (Algolia.callOf [others])

/-- A transport to which objects are unordered, as they are in JSON: requests that are the same
but for the order of keys are answered alike. Nothing but the engine behind it can promise this,
since what is sent is a text. -/
def Transport.IgnoresOrder (transport : Transport) : Prop :=
  ∀ number call call', Call.Reordered call call' → transport number call = transport number call'

namespace Plan

/-- The same plan but for the order of keys in its call. -/
inductive Reordered : Plan → Plan → Prop where
  | done (result : Except Failure (List Hit)) : Reordered (.done result) (.done result)
  | ask {call call' : Call} (read : Json → List Hit) (order : Call.Reordered call call') :
      Reordered (.ask call read) (.ask call' read)

theorem Reordered.calls {plan other : Plan} (h : Reordered plan other) :
    Forall₂ Call.Reordered plan.calls other.calls := by
  cases h with
  | done result => exact .nil
  | ask read order => exact .cons order .nil

theorem Reordered.run {plan other : Plan} (h : Reordered plan other) {transport : Transport}
    (htransport : transport.IgnoresOrder) (sent : Nat) :
    plan.run transport sent = other.run transport sent := by
  cases h with
  | done result => rfl
  | ask read order => rw [Plan.run, Plan.run, htransport sent _ _ order]

end Plan

/-! ## Plans of payloads -/

section Sent

variable (policy : Policy) {entries others : Fields} (order : Fields.Reordered entries others)
  (query : String) (showScores : Bool)

include order

theorem Meilisearch.searchWith_reordered (index : String) :
    Plan.Reordered (searchWith policy index entries query showScores)
      (searchWith policy index others query showScores) :=
  .ask _ (.body _ order)

theorem Algolia.searchWith_reordered :
    Plan.Reordered (searchWith policy entries query showScores)
      (searchWith policy others query showScores) :=
  .ask _ (.request order)

end Sent

/-- Keys other than `filter` go by their own names. -/
theorem Algolia.map_ownKey {entries : Fields} (hplain : Fields.get? entries "filter" = none) :
    (entries.map fun (key, value) => (ownKey key, value)) = entries := by
  refine (List.map_congr_left fun entry hentry => ?_).trans (List.map_id entries)
  have hkey : entry.1 ≠ "filter" := fun heq =>
    Fields.get?_eq_none.mp hplain (heq ▸ List.mem_map_of_mem hentry)
  simp [ownKey, hkey]

section Planned

variable (policy : Policy) (schema? : Option Schema) {payload shuffled : SearchPayload}
  (h : Shuffled payload shuffled)

include h

theorem Meilisearch.searchPayload_reordered {entries others : Fields}
    (hentries : Fields.Reordered entries others) :
    Plan.Reordered (searchPayload policy schema? entries payload)
      (searchPayload policy schema? others shuffled) := by
  have hescapes : escapes shuffled = escapes payload := by
    rw [escapes, escapes, h.hasAny, h.eq]
  unfold searchPayload
  cases schema? with
  | none => exact .done _
  | some schema =>
    dsimp only
    rw [h.index, h.query, h.showScores, hescapes]
    split
    · exact .done _
    · split
      · -- what is forwarded is looked up key by key, so the order is not the caller's
        have hforwarded : forwarded others = forwarded entries :=
          List.filterMap_congr fun key _ => by
            rw [Fields.getSet?_congr (hentries.get?_eq key)]
        have hdistinct : Fields.Distinct (("q", .string payload.query) :: forwarded entries) :=
          List.Nodup.sublist ((keys_forwarded entries).cons_cons "q") (by decide)
        rw [hforwarded]
        exact searchWith_reordered policy ⟨hdistinct, .refl _⟩ _ _ _
      · cases schema.index? payload.index with
        | none => exact .done _
        | some descriptor =>
          dsimp only
          rw [h.ofPayload]
          cases hbody : requestBody descriptor.identifier (.ofPayload descriptor.name payload) with
          | error obstacle => exact .done _
          | ok body =>
            have order := h.insertAllNew (distinct_requestBody hbody)
            dsimp only
            rw [queryOfBody, queryOfBody, order.get?_eq]
            exact searchWith_reordered policy order _ _ _

namespace Algolia

/-- **Renaming makes no difference**: the two filters that compete for one name come in the
same order. -/
theorem escapedRequest_reordered :
    Fields.Reordered (escapedRequest payload) (escapedRequest shuffled) := by
  cases h with
  | @intro payload rest others raw order plain =>
    have hstart : Fields.Distinct (escapedStart payload) :=
      List.Nodup.sublist (keys_escapedStart payload) (by decide)
    refine Fields.reordered_insertAllNew hstart fun key => ?_
    have hrest : Fields.get? rest "filter" = none := plain "filter" (by decide)
    have hothers : Fields.get? others "filter" = none := by rw [← order.get?_eq, hrest]
    rw [List.map_append, List.map_append, map_ownKey hrest, map_ownKey hothers,
      Fields.get?_append, Fields.get?_append, order.get?_eq]

theorem searchPayload_reordered :
    Plan.Reordered (searchPayload policy schema? payload)
      (searchPayload policy schema? shuffled) := by
  have hescapes : escapes shuffled = escapes payload := (h.hasAny escapeKeys).symm
  unfold searchPayload
  cases schema? with
  | none => exact .done _
  | some schema =>
    dsimp only
    rw [h.index, h.query, h.showScores, hescapes]
    split
    · exact .done _
    · split
      · exact searchWith_reordered policy (escapedRequest_reordered h) _ _
      · cases schema.index? payload.index with
        | none => exact .done _
        | some descriptor =>
          dsimp only
          rw [h.ofPayload]
          cases hbody : requestBody (.ofPayload descriptor.name payload) with
          | error obstacle => exact .done _
          | ok body =>
            have order := h.insertAllNew (distinct_requestBody hbody)
            dsimp only
            rw [queryOfBody, queryOfBody, order.get?_eq]
            exact searchWith_reordered policy order _ _

end Algolia

end Planned

/-! ## Searches -/

namespace Searcher

theorem jsonPlan_reordered (searcher : Searcher) (schema? : Option Schema)
    {entries others : Fields} (h : Fields.Reordered entries others) :
    Plan.Reordered (searcher.jsonPlan schema? (.object entries))
      (searcher.jsonPlan schema? (.object others)) := by
  show Plan.Reordered (searcher.payloadPlan schema? entries)
    (searcher.payloadPlan schema? others)
  rcases SearchPayload.ofEntries_reordered h with
    ⟨failure, hread, hread'⟩ | ⟨payload, shuffled, hread, hread', hshuffled⟩
  · rw [payloadPlan, payloadPlan, hread, hread']
    exact .done _
  · rw [payloadPlan, payloadPlan, hread, hread']
    cases searcher.engine with
    | meilisearch => exact Meilisearch.searchPayload_reordered searcher.policy schema? hshuffled h
    | algolia => exact Algolia.searchPayload_reordered searcher.policy schema? hshuffled

/-- **The order of keys in a payload does not matter.** However the keys of a payload are
ordered, the same requests are sent, but for the order of the keys in them; and if the transport
ignores that order, the hits or the failure are the same. -/
theorem key_order_is_irrelevant (searcher : Searcher) (schema? : Option Schema)
    (transport : Transport) (sent : Nat) {entries others : Fields}
    (hdistinct : Fields.Distinct entries) (hperm : entries.Perm others) :
    Forall₂ Call.Reordered
        (searcher.searchFromJson schema? transport sent (.object entries)).calls
        (searcher.searchFromJson schema? transport sent (.object others)).calls
      ∧ (transport.IgnoresOrder →
          (searcher.searchFromJson schema? transport sent (.object entries)).result
            = (searcher.searchFromJson schema? transport sent (.object others)).result) := by
  have hplan := searcher.jsonPlan_reordered schema? ⟨hdistinct, hperm⟩
  exact ⟨hplan.calls, fun htransport => congrArg Timed.result (hplan.run htransport sent)⟩

end Searcher

/-! ## Two filters that compete for one name -/

/-- A payload with two filters in the engine's words, among keys that are passed on. -/
def twoFilters : Fields :=
  [("color", .string "red"), ("filter", .string "year < 1900"), ("index", .string "books"),
    ("limit", .ofNat 3), ("filters", .string "year > 1990"), ("size", .string "big")]

/-- The entries of the first request in a call. -/
def requestIn (call : Call) : Fields :=
  ((((call.body.object?.bind (Fields.get? · "requests")).bind Json.array?).bind List.head?).bind
    Json.object?).getD []

/-- An answer with one hit, which tells one thing. -/
def tell (key : String) (value : Json) : Timed Json :=
  let hit : Json := .object [(key, value)]
  ⟨0, .ok (.object [("results", .array [.object [("hits", .array [hit])]])])⟩

/-- A transport that tells the filter that was asked for. -/
def echo : Transport := fun _ call =>
  tell "asked" ((Fields.get? (requestIn call) "filters").getD .null)

theorem echo_ignoresOrder : echo.IgnoresOrder := by
  intro number call call' h
  have hasked : Fields.get? (requestIn call) "filters"
      = Fields.get? (requestIn call') "filters" := by
    cases h with
    | body path order => simp only [requestIn, Json.object?, Option.bind_some, order.get?_eq]
    | request order => exact order.get?_eq "filters"
  rw [echo, echo, hasked]

/-- What a search with a payload leads to. -/
def outcomeOf (transport : Transport) (entries : Fields) : Outcome :=
  (searcherOf .algolia).searchFromJson (some bookshelf) transport 0 (.object entries)

/-- The documents that it finds. -/
def documentsOf (transport : Transport) (entries : Fields) : Option (List Fields) :=
  (outcomeOf transport entries).result.toOption.map (List.map Hit.fields)

/-- One request is sent in either order, and `filters` goes before `filter` in both. -/
theorem key_order_is_irrelevant_twoFilters :
    Fields.Distinct twoFilters ∧ twoFilters.Perm twoFilters.reverse ∧ echo.IgnoresOrder
      ∧ (outcomeOf echo twoFilters).calls.length = 1
      ∧ Forall₂ Call.Reordered (outcomeOf echo twoFilters).calls
          (outcomeOf echo twoFilters.reverse).calls
      ∧ (outcomeOf echo twoFilters).result = (outcomeOf echo twoFilters.reverse).result
      ∧ documentsOf echo twoFilters = some [[("asked", .string "year > 1990")]] := by
  have hdistinct : Fields.Distinct twoFilters := by decide
  have hperm : twoFilters.Perm twoFilters.reverse := (List.reverse_perm twoFilters).symm
  obtain ⟨hcalls, hresult⟩ := (searcherOf .algolia).key_order_is_irrelevant (some bookshelf) echo
    0 hdistinct hperm
  exact ⟨hdistinct, hperm, echo_ignoresOrder, rfl, hcalls, hresult echo_ignoresOrder, rfl⟩

/-! ## A transport that looks at the order -/

/-- A transport that tells which key was sent last. -/
def tellLast : Transport := fun _ call =>
  tell "last" (((requestIn call).getLast?.map fun entry => .string entry.1).getD .null)

def redAndBig : Fields :=
  [("index", .string "books"), ("color", .string "red"), ("size", .string "big")]

def bigAndRed : Fields :=
  [("index", .string "books"), ("size", .string "big"), ("color", .string "red")]

/-- **Not every transport ignores the order of keys.** Where the hits tell which key was sent
last, two payloads that are the same but for the order of their keys find different hits. -/
theorem last_key_is_told :
    Fields.Distinct redAndBig ∧ redAndBig.Perm bigAndRed
      ∧ documentsOf tellLast redAndBig = some [[("last", .string "color")]]
      ∧ documentsOf tellLast bigAndRed = some [[("last", .string "size")]]
      ∧ (outcomeOf tellLast redAndBig).result ≠ (outcomeOf tellLast bigAndRed).result := by
  have hcolor : documentsOf tellLast redAndBig = some [[("last", .string "color")]] := rfl
  have hsize : documentsOf tellLast bigAndRed = some [[("last", .string "size")]] := rfl
  refine ⟨by decide, .cons _ (.swap _ _ _), hcolor, hsize, fun hresult => ?_⟩
  have hsame : documentsOf tellLast redAndBig = documentsOf tellLast bigAndRed := by
    rw [documentsOf, hresult, documentsOf]
  rw [hcolor, hsize] at hsame
  simp at hsame

end Metasearch
