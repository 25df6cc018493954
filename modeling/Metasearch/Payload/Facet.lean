import Metasearch.Json.Basic

set_option autoImplicit false

/-! # Facets

A facet request asks how the values of a field are distributed over the documents found: how
often each occurs, or between which two they lie. It is an object, or the list of its three
values.
-/

namespace Metasearch

inductive FacetKind where
  | count
  | minMax
  deriving Repr, DecidableEq

def FacetKind.name : FacetKind → String
  | .count => "count"
  | .minMax => "minmax"

def FacetKind.ofName? (name : String) : Option FacetKind :=
  if name = "count" then some .count
  else if name = "minmax" then some .minMax
  else none

/-- A kind is given by its name, or by an object whose only key is the name and whose value
is `null`. -/
def FacetKind.ofJson? : Json → Option FacetKind
  | .string name => FacetKind.ofName? name
  | .object [(name, .null)] => FacetKind.ofName? name
  | _ => none

structure Facet where
  kind : FacetKind
  field : String
  options : Fields

namespace Facet

/-- How often each value of a field occurs. -/
def count (field : String) : Facet := ⟨.count, field, []⟩

def ofParts? (kind field : Json) (options : Option Json) : Option Facet := do
  let kind ← FacetKind.ofJson? kind
  let field ← field.string?
  let options ←
    match options with
    | none => some []
    | some value => value.object?
  some ⟨kind, field, options⟩

def ofJson? : Json → Option Facet
  | .object entries => do
    let kind ← Fields.get? entries "type"
    let field ← Fields.get? entries "field"
    ofParts? kind field (Fields.get? entries "options")
  | .array [kind, field] => ofParts? kind field none
  | .array [kind, field, options] => ofParts? kind field (some options)
  | _ => none

/-- The facets of a list; items that are none are passed over. -/
def listOfJson : Json → List Facet
  | .array items => items.filterMap ofJson?
  | _ => []

def toJson (facet : Facet) : Json :=
  .object [("type", .string facet.kind.name), ("field", .string facet.field),
    ("options", .object facet.options)]

/-- The fields of some facets, each once, in the order in which they first occur. -/
def distinctFields (facets : List Facet) : List String :=
  facets.foldl (fun fields facet =>
    if facet.field ∈ fields then fields else fields ++ [facet.field]) []

end Facet

end Metasearch
