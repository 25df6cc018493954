import Metasearch.Alias
import Metasearch.Condition.Reader
import Metasearch.Decimal.Numeral
import Metasearch.Failure
import Metasearch.Payload.Facet
import Metasearch.Payload.Highlight
import Metasearch.Payload.Sort

set_option autoImplicit false

/-! # Search payloads

A payload is the declarative form of a search in one index. Its known keys are read into the
fields of `SearchPayload`; every other key is passed on to the engine in `extra`.

Only the filters can make a payload invalid. Any other part that is not as it should be is
taken as absent, so that a slip in a sort order or a page size costs that part and no more.

A filter is a list of conditions under `filters` or `filter`. A text under either key is a
filter in the language of the engine: it is passed on in `extra`.
-/

namespace Metasearch

/-- A count given as a number or as a text. Fractions are cut off, and what exceeds the range
is held at its end. -/
def Json.count? : Json → Option Nat
  | .number (.integer value) => if value < 0 then none else some value.toNat
  | .number (.real value) => if 0 ≤ value then some value.toUInt64.toNat else none
  | .string text => Decimal.wholeOfChars? wordBound (Text.trim text.toList)
  | _ => none

/-- The numbers of a list that holds nothing else. -/
def Json.reals? : Json → Option (List Float)
  | .array items => items.mapM Json.float?
  | _ => none

/-- A search in one index. -/
structure SearchPayload where
  index : String
  query : String
  filters : List Condition
  sort : List SortKey
  limit : Option Nat
  offset : Option Nat
  highlight : Option Highlight
  distinct : Option String
  facets : List Facet
  /-- An embedding of the query, for engines that search by vectors. -/
  vector : Option (List Float)
  showScores : Bool
  /-- All keys without a meaning of their own, and filters in the engine's language. -/
  extra : Fields

namespace SearchPayload

/-- The keys that have a meaning of their own, besides the aliases. -/
def declarativeKeys : List String :=
  ["filters", "sort", "limit", "offset", "highlight", "distinct", "facets", "filter", "vector"]

/-- The keys a filter may stand under. The first list of conditions counts. -/
def filterKeys : List String := ["filters", "filter"]

/-- The keys without a meaning of their own. -/
def passthrough (entries : Fields) : Fields :=
  let entries := Fields.eraseAll entries Alias.indexKeys
  let entries := Fields.eraseAll entries Alias.queryKeys
  let entries := Fields.eraseAll entries Alias.scoreKeys
  Fields.eraseAll entries declarativeKeys

/-- Reads what stands under one filter key, after the conditions and engine filters that the
keys before have given. -/
def readFilter (entries : Fields) (before : List Condition × Fields) (key : String) :
    Except Mistake (List Condition × Fields) :=
  match Fields.get? entries key with
  | none => .ok before
  | some .null => .ok before
  | some (.string text) => .ok (before.1, Fields.insert before.2 key (.string text))
  | some (.array items) =>
    if before.1.isEmpty then
      (Condition.parseList (.array items)).map fun conditions => (conditions, before.2)
    else .ok before
  | some other => .error (.notAFilter key other)

/-- The conditions of a payload, and its passed-on keys with the engine filters added. -/
def readFilters (entries : Fields) : Except Mistake (List Condition × Fields) :=
  filterKeys.foldlM (readFilter entries) ([], passthrough entries)

/-- Reads the entries of a payload. -/
def ofEntries (entries : Fields) : Except Failure SearchPayload :=
  match readFilters entries with
  | .error mistake => .error (.invalidFilter mistake)
  | .ok (filters, extra) =>
    .ok {
      index := Alias.indexOf entries
      query := Alias.queryOf entries
      filters := filters
      sort := ((Fields.get? entries "sort").map SortKey.listOfJson).getD []
      limit := (Fields.get? entries "limit").bind Json.count?
      offset := (Fields.get? entries "offset").bind Json.count?
      highlight := ((Fields.get? entries "highlight").bind Highlight.ofJson?).filter
        fun highlight => !highlight.fields.isEmpty
      distinct := ((Fields.get? entries "distinct").bind Json.string?).filter
        fun field => field ≠ ""
      facets := ((Fields.get? entries "facets").map Facet.listOfJson).getD []
      vector := (Fields.get? entries "vector").bind Json.reals?
      showScores := Alias.wantsScores entries
      extra := extra }

/-- Reads a payload. -/
def ofJson : Json → Except Failure SearchPayload
  | .object entries => ofEntries entries
  | _ => .error (.refused .searchPayload)

/-- Whether any of `keys` is passed on with a value. -/
def hasAny (payload : SearchPayload) (keys : List String) : Bool :=
  keys.any fun key => (Fields.getSet? payload.extra key).isSome

end SearchPayload

end Metasearch
