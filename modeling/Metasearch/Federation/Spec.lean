import Metasearch.Json.Mistake

set_option autoImplicit false

/-! # Federation options

A search over several indexes is merged into one page. The options say how long the page is,
where it starts, and how much an index counts. Some of them an engine can carry out itself
(`isNative`). All other keys are defaults for the searches in the single indexes.
-/

namespace Metasearch

structure FederationSpec where
  limit : Option Nat
  offset : Option Nat
  weights : List (String × Float)
  facetsByIndex : Option Json
  mergeFacets : Option Json
  /-- Defaults for the single searches. -/
  extra : Fields

namespace FederationSpec

/-- No options. -/
def empty : FederationSpec := ⟨none, none, [], none, none, []⟩

/-- The keys with a meaning of their own. -/
def ownKeys : List String := ["limit", "offset", "weights", "facetsByIndex", "mergeFacets"]

/-- A count, or `null` for none. -/
def optionalNatural : Json → Except Mistake (Option Nat)
  | .null => .ok none
  | value => value.expectNatural.map some

/-- Weights by index. -/
def weightsOf : List (String × Json) → Except Mistake (List (String × Float))
  | [] => .ok []
  | (index, value) :: rest => do
    let weight ← value.expectReal
    let weights ← weightsOf rest
    return (index, weight) :: weights

/-- Takes in one option after those before it. -/
def readOption (spec : FederationSpec) (entry : String × Json) :
    Except Mistake FederationSpec :=
  let (key, value) := entry
  if key = "limit" then do
    let limit ← optionalNatural value
    return { spec with limit := limit }
  else if key = "offset" then do
    let offset ← optionalNatural value
    return { spec with offset := offset }
  else if key = "weights" then do
    let entries ← value.expectMap
    let weights ← weightsOf entries
    return { spec with weights := weights }
  else if key = "facetsByIndex" then
    .ok { spec with facetsByIndex := if value.isNull then none else some value }
  else if key = "mergeFacets" then
    .ok { spec with mergeFacets := if value.isNull then none else some value }
  else .ok { spec with extra := spec.extra ++ [(key, value)] }

/-- Reads the options in their order, up to the first that is not as it should be. -/
def ofEntries (entries : Fields) : Except Mistake FederationSpec :=
  entries.foldlM readOption empty

def ofJson : Json → Except Mistake FederationSpec
  | .object entries => ofEntries entries
  | other => .error (.mistyped other .federation)

/-- The weight of an index that is given none. -/
def defaultWeight : Float := 1.0

def weight (spec : FederationSpec) (index : String) : Float :=
  (spec.weights.lookup index).getD defaultWeight

/-- Whether an option is set that the engine carries out itself. -/
def isNative (spec : FederationSpec) : Bool :=
  spec.limit.isSome || spec.offset.isSome || spec.facetsByIndex.isSome
    || spec.mergeFacets.isSome

/-- The length of the page. -/
def pageSize (spec : FederationSpec) (fallback : Nat) : Nat := spec.limit.getD fallback

/-- A single search with the defaults it does not set itself. -/
def applyDefaults (spec : FederationSpec) (entry : Fields) : Fields :=
  Fields.insertAllNew entry spec.extra

end FederationSpec

end Metasearch
