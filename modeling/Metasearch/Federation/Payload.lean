import Metasearch.Federation.Spec
import Metasearch.Payload.Basic

set_option autoImplicit false

/-! # Payloads over several indexes

A federated payload lists one query per index, with a query text they may share and options
for merging what they find. Each entry is turned into the payload of a single search by
`entry?`, which settles its index, query text and page size and leaves the rest alone.
-/

namespace Metasearch

structure FederatedPayload where
  /-- The query text of entries that have none of their own. -/
  query : String
  queries : List Fields
  federation : FederationSpec

namespace FederatedPayload

/-- The page size when the options name none. -/
def defaultLimit : Nat := 100

/-- Reads a federated payload. Queries that are no objects are passed over, and so are options
that are none. -/
def ofJson : Json → Except Failure FederatedPayload
  | .object entries =>
    let queries :=
      match Fields.get? entries "queries" with
      | some (.array items) => items.filterMap Json.object?
      | _ => []
    match Fields.get? entries "federation" with
    | some (.object options) =>
      match FederationSpec.ofEntries options with
      | .error mistake => .error (.malformed mistake)
      | .ok federation => .ok ⟨Alias.queryOf entries, queries, federation⟩
    | _ => .ok ⟨Alias.queryOf entries, queries, .empty⟩
  | _ => .error (.refused .federatedPayload)

/-- The page size. -/
def limit (payload : FederatedPayload) : Nat := payload.federation.pageSize defaultLimit

/-- The page size of an entry: its own under either name, else that of the whole. -/
def entryLimit (payload : FederatedPayload) (query : Fields) : Nat :=
  (((Fields.get? query "limit").bind Json.count?).or
    ((Fields.get? query "hitsPerPage").bind Json.count?)).getD payload.limit

/-- The query text of an entry, or the shared one. -/
def entryQuery (payload : FederatedPayload) (query : Fields) : String :=
  let own := Alias.queryOf query
  if own = "" then payload.query else own

/-- The single search that an entry stands for, and its index. An entry without an index
stands for none. -/
def expand (payload : FederatedPayload) (query : Fields) : Option (String × Fields) :=
  let index := Alias.indexOf query
  if index = "" then none
  else
    let single := Fields.eraseAll (Fields.eraseAll query Alias.indexKeys) Alias.queryKeys
    let single := Fields.insert single "index" (.string index)
    let single := Fields.insert single "q" (.string (payload.entryQuery query))
    some (index, Fields.insert single "limit" (.ofNat (payload.entryLimit query)))

/-- The single search of the entry at a position. -/
def entry? (payload : FederatedPayload) (position : Nat) : Option (String × Fields) :=
  payload.queries[position]?.bind payload.expand

end FederatedPayload

end Metasearch
