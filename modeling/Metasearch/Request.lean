import Metasearch.Payload.Basic

set_option autoImplicit false

/-! # Search requests

A request is a payload brought into the form from which the body for an engine is written:
the query text of the payload has become one more condition in front of the others, and the
keys that are passed on are no longer part of it.
-/

namespace Metasearch

structure SearchRequest where
  index : String
  filters : List Condition
  sort : List SortKey
  limit : Option Nat
  offset : Option Nat
  highlight : Option Highlight
  distinct : Option String
  facets : List Facet
  vector : Option (List Float)
  showScores : Bool

namespace SearchRequest

/-- The conditions of a payload with its query text in front. -/
def filtersOf (payload : SearchPayload) : List Condition :=
  if payload.query = "" then payload.filters else .search payload.query :: payload.filters

/-- The request that a payload makes of an index. -/
def ofPayload (index : String) (payload : SearchPayload) : SearchRequest where
  index := index
  filters := filtersOf payload
  sort := payload.sort
  limit := payload.limit
  offset := payload.offset
  highlight := payload.highlight
  distinct := payload.distinct
  facets := payload.facets
  vector := payload.vector
  showScores := payload.showScores

/-- The words of a search condition, if it has any. -/
def searchText? : Condition → Option String
  | .search query => if query = "" then none else some query
  | _ => none

/-- The words of all searches outside groups, in their order. -/
def queryText (request : SearchRequest) : String :=
  " ".intercalate (request.filters.filterMap searchText?)

/-- The conditions that are no search for words. -/
def predicates (request : SearchRequest) : List Condition :=
  request.filters.filter fun condition => !condition.isSearch

end SearchRequest

end Metasearch
