set_option autoImplicit false

/-! # Quoted literals

Both filter languages write a text between double quotes. A backslash inside takes the next
character literally, so only the quote and the backslash need one.
-/

namespace Metasearch.Text

/-- The characters of a literal between its quotes. -/
def escapeQuotes : List Char → List Char
  | [] => []
  | c :: rest =>
    if c = '"' ∨ c = '\\' then '\\' :: c :: escapeQuotes rest else c :: escapeQuotes rest

/-- A text as a quoted literal. -/
def quote (text : String) : String :=
  String.ofList ('"' :: (escapeQuotes text.toList ++ ['"']))

end Metasearch.Text
