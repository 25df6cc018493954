import Metasearch.Decimal.Layout
import Metasearch.Json.Basic

set_option autoImplicit false

/-! # Writing JSON

`Json.compact` writes a value without any space, entries in their order. `Json.pretty` sets
every item and entry on a line of its own, indented by two spaces a level. Strings are kept
as they are, except for the quote, the backslash and the control characters below U+0020.
-/

namespace Metasearch

/-- An integer in decimal digits, a floating-point number by its shortest digits. A number
that is not finite has no numeral in JSON. -/
def Number.text : Number → String
  | .integer value => toString value
  | .real value =>
    if value.isNaN || value.isInf then "null" else Decimal.Layout.json.text value

namespace Json

/-- The two hexadecimal digits of a number below 256. -/
def hexPair (n : Nat) : List Char := [Nat.digitChar (n / 16 % 16), Nat.digitChar (n % 16)]

/-- How a character is written inside a JSON string. -/
def escapeChar (c : Char) : List Char :=
  if c = '"' then ['\\', '"']
  else if c = '\\' then ['\\', '\\']
  else if c = '\x08' then ['\\', 'b']
  else if c = '\t' then ['\\', 't']
  else if c = '\n' then ['\\', 'n']
  else if c = '\x0c' then ['\\', 'f']
  else if c = '\r' then ['\\', 'r']
  else if c.toNat < 32 then '\\' :: 'u' :: '0' :: '0' :: hexPair c.toNat
  else [c]

/-- A text as a JSON string. -/
def stringText (text : String) : String :=
  String.ofList ('"' :: (text.toList.flatMap escapeChar ++ ['"']))

mutual

/-- The text of a value without spaces. -/
def compact : Json → String
  | .null => "null"
  | .bool value => if value then "true" else "false"
  | .number value => value.text
  | .string text => stringText text
  | .array items => "[" ++ ",".intercalate (compactItems items) ++ "]"
  | .object entries => "\x7b" ++ ",".intercalate (compactEntries entries) ++ "\x7d"

def compactItems : List Json → List String
  | [] => []
  | item :: rest => compact item :: compactItems rest

def compactEntries : List (String × Json) → List String
  | [] => []
  | (key, value) :: rest => (stringText key ++ ":" ++ compact value) :: compactEntries rest

end

/-- A line break followed by `depth` levels of indentation. -/
def newline (depth : Nat) : String :=
  String.ofList ('\n' :: List.replicate (2 * depth) ' ')

/-- The given pieces between two brackets, each on a line of its own. -/
def bracketed (depth : Nat) (opening closing : String) (pieces : List String) : String :=
  if pieces.isEmpty then opening ++ closing
  else
    opening ++ newline (depth + 1) ++ ("," ++ newline (depth + 1)).intercalate pieces
      ++ newline depth ++ closing

mutual

/-- The text of a value whose first line is already indented by `depth` levels. -/
def prettyAt (depth : Nat) : Json → String
  | .null => "null"
  | .bool value => if value then "true" else "false"
  | .number value => value.text
  | .string text => stringText text
  | .array items => bracketed depth "[" "]" (prettyItems (depth + 1) items)
  | .object entries => bracketed depth "\x7b" "\x7d" (prettyEntries (depth + 1) entries)

def prettyItems (depth : Nat) : List Json → List String
  | [] => []
  | item :: rest => prettyAt depth item :: prettyItems depth rest

def prettyEntries (depth : Nat) : List (String × Json) → List String
  | [] => []
  | (key, value) :: rest =>
    (stringText key ++ ": " ++ prettyAt depth value) :: prettyEntries depth rest

end

/-- The text of a value over several lines. -/
def pretty (value : Json) : String := prettyAt 0 value

end Json

end Metasearch
