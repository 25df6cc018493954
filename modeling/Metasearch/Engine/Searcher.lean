import Metasearch.Engine.Algolia
import Metasearch.Engine.Meilisearch
import Metasearch.Federation.Fanout
import Metasearch.Schema.Cache

set_option autoImplicit false

/-! # Searchers

A searcher is one engine with a policy for its hits. It offers four searches: one index or
several, by parameters in the engine's words or by a declarative payload. Each is a function of
what the schema holds and of what the engine answers; `sent` is the number of calls made
before.
-/

namespace Metasearch

structure Searcher where
  engine : Engine
  policy : Federation.Policy
  /-- The time allowed for each search of a fan-out, in milliseconds. -/
  timeout : Nat

/-- What a search has sent and found. -/
structure Outcome where
  calls : List Call
  result : Except Failure (List Hit)

/-- Carries out a plan. -/
def Plan.outcome (plan : Plan) (transport : Transport) (sent : Nat) : Outcome :=
  ⟨plan.calls, (plan.run transport sent).result⟩

namespace Searcher

/-- The plan of a search in one index. -/
def searchPlan (searcher : Searcher) (index query : String) (params : Fields) (limit : Nat) :
    Plan :=
  match searcher.engine with
  | .meilisearch => Meilisearch.search searcher.policy index query params limit
  | .algolia => Algolia.search searcher.policy index query params limit

/-- The plan of a search in several indexes. -/
def multiSearchPlan (searcher : Searcher) (queries : List Fields) (query : String)
    (federation : FederationSpec) (limit : Nat) : Plan :=
  match searcher.engine with
  | .meilisearch => Meilisearch.multiSearch searcher.policy queries query federation limit
  | .algolia => Algolia.multiSearch searcher.policy queries query federation limit

/-- The plan of a declarative search. -/
def payloadPlan (searcher : Searcher) (schema? : Option Schema) (entries : Fields) : Plan :=
  match SearchPayload.ofEntries entries with
  | .error failure => .fail failure
  | .ok payload =>
    match searcher.engine with
    | .meilisearch => Meilisearch.searchPayload searcher.policy schema? entries payload
    | .algolia => Algolia.searchPayload searcher.policy schema? payload

/-- The plan of a declarative search whose payload may be any value. -/
def jsonPlan (searcher : Searcher) (schema? : Option Schema) (payload : Json) : Plan :=
  match payload with
  | .object entries => searcher.payloadPlan schema? entries
  | _ => .fail (.refused .searchPayload)

/-- Searches one index. -/
def search (searcher : Searcher) (transport : Transport) (sent : Nat) (index query : String)
    (params : Fields) (limit : Nat) : Outcome :=
  (searcher.searchPlan index query params limit).outcome transport sent

/-- Searches several indexes. -/
def multiSearch (searcher : Searcher) (transport : Transport) (sent : Nat)
    (queries : List Fields) (query : String) (federation : FederationSpec) (limit : Nat) :
    Outcome :=
  (searcher.multiSearchPlan queries query federation limit).outcome transport sent

/-- Searches one index by a declarative payload. -/
def searchFromJson (searcher : Searcher) (schema? : Option Schema) (transport : Transport)
    (sent : Nat) (payload : Json) : Outcome :=
  (searcher.jsonPlan schema? payload).outcome transport sent

/-- Searches several indexes by a declarative payload. -/
def multiSearchFromJson (searcher : Searcher) (schema? : Option Schema) (transport : Transport)
    (sent : Nat) (payload : Json) : Outcome :=
  match FederatedPayload.ofJson payload with
  | .error failure => ⟨[], degrade [] (.error failure)⟩
  | .ok payload =>
    let entries := Federation.entriesOf payload
    let plans := entries.map fun entry => searcher.payloadPlan schema? entry.payload
    let results := (Plan.runAll plans transport sent).map (Timed.within searcher.timeout)
    ⟨plans.flatMap Plan.calls,
      degrade [] (Federation.gather searcher.policy.minimum payload (entries.zip results))⟩

/-! ## When the schema is asked for

The schema is loaded by the first declarative search whose payload can be read. -/

/-- Whether a declarative search asks for the schema. -/
def asksSchema (payload : Json) : Bool := (SearchPayload.ofJson payload).isOk

/-- Whether a declarative search over several indexes asks for the schema. -/
def multiAsksSchema (payload : Json) : Bool :=
  match FederatedPayload.ofJson payload with
  | .error _ => false
  | .ok payload =>
    (Federation.entriesOf payload).any fun entry => asksSchema (.object entry.payload)

end Searcher

end Metasearch
