import Metasearch.Engine.Plan
import Metasearch.Federation.Blend
import Metasearch.Federation.Floor
import Metasearch.Federation.Payload

set_option autoImplicit false

/-! # The fan-out

A federated payload is carried out by one search per entry, all started at once. Each has its
own deadline; a search that fails or comes too late adds no hits. Only a fatal failure fails
the whole, and of several the first in the order of the entries.

Scores may be asked for by an entry itself or by the federation options for all entries that
do not mention them. The ranking floor applies to the entries that asked.
-/

namespace Metasearch.Federation

/-- One search of a fan-out. -/
structure Entry where
  index : String
  payload : Fields
  showScores : Bool

/-- Asks for scores in a payload that does not mention them. -/
def requestScores (payload : Fields) : Fields :=
  if Alias.scoreKeys.all fun key => !Fields.contains payload key then
    Fields.insert payload "showRankingScore" (.bool true)
  else payload

/-- The search of a query, unless it names no index. -/
def entryOf? (payload : FederatedPayload) (query : Fields) : Option Entry :=
  (payload.expand query).map fun (index, single) =>
    let single :=
      if Alias.wantsScores payload.federation.extra then requestScores single else single
    ⟨index, single, Alias.wantsScores single⟩

/-- The searches of a payload. -/
def entriesOf (payload : FederatedPayload) : List Entry :=
  payload.queries.filterMap (entryOf? payload)

/-- The pool of an entry by the result of its search. -/
def poolOf (minimum : Float) (entry : Entry) (result : Except Failure (List Hit)) :
    Except Failure RankedPool :=
  match result with
  | .ok hits => .ok ⟨entry.index, applyFloor minimum entry.showScores hits⟩
  | .error failure => if failure.isFatal then .error failure else .ok ⟨entry.index, []⟩

/-- The pools of some entries by the results of their searches, up to the first fatal
failure. -/
def poolsOf (minimum : Float) : List (Entry × Except Failure (List Hit)) →
    Except Failure (List RankedPool)
  | [] => .ok []
  | (entry, result) :: rest => do
    let pool ← poolOf minimum entry result
    let pools ← poolsOf minimum rest
    return pool :: pools

/-- The page of a payload by the results of its searches. -/
def gather (minimum : Float) (payload : FederatedPayload)
    (results : List (Entry × Except Failure (List Hit))) : Except Failure (List Hit) :=
  if results.isEmpty then .ok []
  else (poolsOf minimum results).map (blend payload.federation payload.limit)

/-- Carries out a payload. `search` answers the single searches. -/
def federatePayload (search : Fields → Timed (List Hit)) (deadline : Nat) (minimum : Float)
    (payload : FederatedPayload) : Except Failure (List Hit) :=
  gather minimum payload
    ((entriesOf payload).map fun entry => (entry, (search entry.payload).within deadline))

/-- Reads and carries out a payload. -/
def federate (search : Fields → Timed (List Hit)) (deadline : Nat) (minimum : Float)
    (payload : Json) : Except Failure (List Hit) :=
  match FederatedPayload.ofJson payload with
  | .error failure => .error failure
  | .ok payload => federatePayload search deadline minimum payload

end Metasearch.Federation
