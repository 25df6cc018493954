import Metasearch.Json.Basic

set_option autoImplicit false

/-! # Wrapped values

A document may wrap a value in a table, which leaves room for a tag beside it. Such a table
stands for the value in it, and whatever else it holds is dropped. Tags are unsigned numbers,
which no document can write, so a document that has a tag is refused as a whole. The names at
the top level of a document are keys like all others.
-/

namespace Metasearch.Config

/-- The name of the value in a table that wraps it. -/
def wrappedName : String := "___figment_value_value"

/-- The name of the tag beside a wrapped value. -/
def tagName : String := "___figment_value_id"

/-- The value that a table stands for, whose own entries are unwrapped already. -/
def unwrapTable (entries : Fields) : Json :=
  match Fields.get? entries wrappedName with
  | some value => value
  | none => .object entries

mutual

/-- Unwraps a value and everything in it, unless there is a tag. -/
def unwrap? : Json → Option Json
  | .array items => (unwrapItems? items).map .array
  | .object entries =>
    if (Fields.get? entries tagName).isSome then none
    else (unwrapEntries? entries).map unwrapTable
  | value => some value

def unwrapItems? : List Json → Option (List Json)
  | [] => some []
  | item :: rest => do
    let item ← unwrap? item
    let rest ← unwrapItems? rest
    some (item :: rest)

/-- Unwraps the values of a table. -/
def unwrapEntries? : List (String × Json) → Option (List (String × Json))
  | [] => some []
  | (name, value) :: rest => do
    let value ← unwrap? value
    let rest ← unwrapEntries? rest
    some ((name, value) :: rest)

end

end Metasearch.Config
