import Metasearch.Json.Basic
import Metasearch.Text.Blank
import Metasearch.Text.Case

set_option autoImplicit false

/-! # Sort orders

A sort order is a list of fields with directions, the first being the most significant. It is
written as a list of texts `field:direction`, or as an object from fields to directions. A
field may itself contain colons, so the *last* colon of a text separates the direction.
-/

namespace Metasearch

inductive Direction where
  | ascending
  | descending
  deriving Repr, DecidableEq

namespace Direction

def name : Direction → String
  | .ascending => "asc"
  | .descending => "desc"

/-- Only the word `asc`, in any case, means ascending. -/
def ofText (text : String) : Direction :=
  if Text.lowercaseAscii (String.ofList (Text.trim text.toList)) = "asc" then .ascending
  else .descending

end Direction

/-- A field and the direction it is sorted in. -/
structure SortKey where
  field : String
  direction : Direction
  deriving Repr, DecidableEq

namespace SortKey

/-- The parts of a text before and after its last colon, if it has one. -/
def splitLastColon? (text : List Char) : Option (List Char × List Char) :=
  let reversed := text.reverse
  match reversed.dropWhile (· ≠ ':') with
  | [] => none
  | _ :: before => some (before.reverse, (reversed.takeWhile (· ≠ ':')).reverse)

/-- A sort key from a text. Without a colon the whole text is the field. -/
def ofText (text : String) : SortKey :=
  match splitLastColon? text.toList with
  | some (field, direction) => ⟨String.ofList field, .ofText (String.ofList direction)⟩
  | none => ⟨text, .ascending⟩

/-- The text of a sort key. -/
def text (key : SortKey) : String := key.field ++ ":" ++ key.direction.name

/-- The sort order that a value stands for. Items that are no text are passed over. -/
def listOfJson : Json → List SortKey
  | .object entries => entries.map fun (field, value) => ⟨field, .ofText (value.string?.getD "")⟩
  | .array items => (items.filterMap Json.string?).map ofText
  | _ => []

end SortKey

end Metasearch
