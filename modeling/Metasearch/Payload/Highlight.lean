import Metasearch.Json.Basic

set_option autoImplicit false

/-! # Highlighting

Which fields of a hit show the words that were found, and between which tags. The request for
it is an object, or the list of its three values; anything else asks for nothing.
-/

namespace Metasearch

structure Highlight where
  fields : List String
  preTag : String
  postTag : String
  deriving Repr, DecidableEq

namespace Highlight

def defaultPreTag : String := "<mark>"

def defaultPostTag : String := "</mark>"

/-- The texts of a list that holds nothing else. -/
def texts? : Json → Option (List String)
  | .array items => items.mapM Json.string?
  | _ => none

/-- The text of an optional value; a value that is no text is an error. -/
def tag? (fallback : String) : Option Json → Option String
  | none => some fallback
  | some value => value.string?

def ofParts? (fields : Json) (preTag postTag : Option Json) : Option Highlight := do
  let fields ← texts? fields
  let preTag ← tag? defaultPreTag preTag
  let postTag ← tag? defaultPostTag postTag
  some ⟨fields, preTag, postTag⟩

def ofJson? : Json → Option Highlight
  | .object entries => do
    let fields ← Fields.get? entries "fields"
    ofParts? fields (Fields.get? entries "preTag") (Fields.get? entries "postTag")
  | .array [fields] => ofParts? fields none none
  | .array [fields, preTag] => ofParts? fields (some preTag) none
  | .array [fields, preTag, postTag] => ofParts? fields (some preTag) (some postTag)
  | _ => none

end Highlight

end Metasearch
