import Metasearch.Request

set_option autoImplicit false

/-! # Parts that request bodies share

The engines agree on the words for highlighting and facets. A part that was not asked for adds
no entries.
-/

namespace Metasearch.Body

/-- The entry of an optional value. -/
def optional {α : Type} (key : String) (write : α → Json) : Option α → Fields
  | none => []
  | some value => [(key, write value)]

def highlight : Option Highlight → Fields
  | none => []
  | some highlight =>
    [("attributesToHighlight", .ofStrings highlight.fields),
      ("highlightPreTag", .string highlight.preTag),
      ("highlightPostTag", .string highlight.postTag)]

/-- The fields to count, each once. -/
def facets (requested : List Facet) : Fields :=
  if requested.isEmpty then []
  else [("facets", .ofStrings (Facet.distinctFields requested))]

/-- The entry of a switch that is on. -/
def switch (key : String) (on : Bool) : Fields := if on then [(key, .bool true)] else []

end Metasearch.Body
