import Metasearch.Json.Printer
import Metasearch.Text.Escaped

set_option autoImplicit false

/-! # What can be wrong with a JSON value

Payloads are read with an expectation for every place in them. A `Mistake` tells which
expectation a value missed, and `Mistake.message` words it. The readers at the end of the file
cover the places that hold a single text or number.
-/

namespace Metasearch

/-- What a place in a JSON value is expected to hold. -/
inductive Shape where
  | text
  | real
  | natural
  | sequence
  | map
  /-- The name of a kind of condition. -/
  | tag
  | condition
  | federation
  deriving Repr, DecidableEq

/-- The name of a shape in messages. -/
def Shape.name : Shape → String
  | .text => "a string"
  | .real => "f64"
  | .natural => "usize"
  | .sequence => "a sequence"
  | .map => "a map"
  | .tag => "variant identifier"
  | .condition => "internally tagged enum Condition"
  | .federation => "struct FederationSpec"

/-- A JSON value that is not what it should be. -/
inductive Mistake where
  /-- A field that has no default is absent. -/
  | missingField (name : String)
  /-- A kind of condition that does not exist; the existing ones are named. -/
  | unknownTag (name : String) (known : List String)
  /-- A kind of condition given by a number beyond the last one. -/
  | tagOutOfRange (position count : Nat)
  | mistyped (got : Json) (expected : Shape)
  /-- A number of the right kind that is out of range. -/
  | outOfRange (got : Int) (expected : Shape)
  /-- A list of fields that ends too early. -/
  | tooShort (given : Nat) (kind : String) (size : Nat)
  /-- A list with more items than there are fields. -/
  | tooLong (given size : Nat)
  /-- A document identifier that is neither a text nor a number. -/
  | notAnIdentifier (got : Json)
  /-- A filter that is neither a list of conditions nor a text. -/
  | notAFilter (key : String) (got : Json)

/-- A count of elements in words. -/
def countElements (count : Nat) : String :=
  toString count ++ if count = 1 then " element" else " elements"

/-- How a message shows a value: scalars in full, containers by their kind. -/
def Json.described : Json → String
  | .null => "null"
  | .bool value => "boolean `" ++ (if value then "true" else "false") ++ "`"
  | .number (.integer value) => "integer `" ++ toString value ++ "`"
  | .number (.real value) => "floating point `" ++ (Number.real value).text ++ "`"
  | .string text => "string " ++ Text.escaped text
  | .array _ => "sequence"
  | .object _ => "map"

/-- Names set in grave accents and separated by commas. -/
def listNames (names : List String) : String :=
  ", ".intercalate (names.map fun name => "`" ++ name ++ "`")

/-- The wording of a mistake. -/
def Mistake.message : Mistake → String
  | .missingField name => "missing field `" ++ name ++ "`"
  | .unknownTag name known =>
    "unknown variant `" ++ name ++ "`, expected one of " ++ listNames known
  | .tagOutOfRange position count =>
    "invalid value: integer `" ++ toString position ++ "`, expected variant index 0 <= i < "
      ++ toString count
  | .mistyped got expected => "invalid type: " ++ got.described ++ ", expected " ++ expected.name
  | .outOfRange got expected =>
    "invalid value: integer `" ++ toString got ++ "`, expected " ++ expected.name
  | .tooShort given kind size =>
    "invalid length " ++ toString given ++ ", expected " ++ kind ++ " with " ++ countElements size
  | .tooLong given size =>
    "invalid length " ++ toString given ++ ", expected " ++ countElements size ++ " in sequence"
  | .notAnIdentifier got => "expected string or number, got " ++ got.compact
  | .notAFilter key got =>
    "`" ++ key ++ "` must be a list of conditions or a filter string, got " ++ got.compact

namespace Json

/-! ## Places that hold one value -/

def expectText : Json → Except Mistake String
  | .string text => .ok text
  | other => .error (.mistyped other .text)

/-- Integers count as floating-point numbers. -/
def expectReal : Json → Except Mistake Float
  | .number value => .ok value.toFloat
  | other => .error (.mistyped other .real)

/-- A negative integer is of the right kind but out of range. -/
def expectNatural : Json → Except Mistake Nat
  | .number (.integer value) =>
    if value < 0 then .error (.outOfRange value .natural) else .ok value.toNat
  | other => .error (.mistyped other .natural)

def expectMap : Json → Except Mistake Fields
  | .object entries => .ok entries
  | other => .error (.mistyped other .map)

/-- A document identifier: a text, or a number by its text. -/
def expectIdentifier : Json → Except Mistake String
  | .string text => .ok text
  | .number value => .ok value.text
  | other => .error (.notAnIdentifier other)

/-- One value or many: a scalar stands for the list of itself, and `null` for no value. -/
def oneOrMany : Json → List Json
  | .array items => items
  | .null => []
  | scalar => [scalar]

end Json

end Metasearch
