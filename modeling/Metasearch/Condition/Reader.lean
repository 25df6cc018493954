import Metasearch.Condition.Basic
import Metasearch.Json.Mistake

set_option autoImplicit false

/-! # Reading conditions

A condition is read from an object with a `type` and the fields of that kind, or from a list
that starts with the type and goes on with the fields in their order. The two forms meet in
one reading (`leafOf`): the values given are checked in the order in which they are given, and
only then are the fields looked up in their own order. So the first bad value is reported
before any missing field, while acceptance does not depend on the order of keys.

A condition inside a group may give its kind by position instead of by name; one at the top of
a filter list may not.
-/

namespace Metasearch.Condition

/-- What a field of a leaf holds. -/
inductive Slot where
  | text
  | identifier
  | value
  | values
  | real
  deriving Repr, DecidableEq

/-- Whether a value fits a slot. -/
def Slot.check (slot : Slot) (value : Json) : Except Mistake Unit :=
  match slot with
  | .text => do let _ ← value.expectText
  | .identifier => do let _ ← value.expectIdentifier
  | .value => .ok ()
  | .values => .ok ()
  | .real => do let _ ← value.expectReal

/-- The fields of a leaf in their order. A group has none: its conditions are read apart. -/
def Tag.slots : Tag → List (String × Slot)
  | .search => [("query", .text)]
  | .identifier => [("id", .identifier)]
  | .compare _ => [("field", .text), ("value", .value)]
  | .member _ => [("field", .text), ("values", .values)]
  | .near => [("field", .text), ("lat", .real), ("lng", .real), ("distance", .real)]
  | .within =>
    [("field", .text), ("north", .real), ("east", .real), ("south", .real), ("west", .real)]
  | .group _ => []

/-- The number of fields of a kind. -/
def Tag.size (tag : Tag) : Nat :=
  match tag with
  | .group _ => 1
  | tag => tag.slots.length

/-- The slot of the field with a given name. -/
def Tag.slot? (tag : Tag) (name : String) : Option Slot :=
  (tag.slots.find? fun slot => slot.1 == name).map Prod.snd

/-- Checks the given values in the order in which they are given. Names that are no field of
the kind are passed over. -/
def checkEntries (tag : Tag) : List (String × Json) → Except Mistake Unit
  | [] => .ok ()
  | (name, value) :: rest => do
    match tag.slot? name with
    | some slot => slot.check value
    | none => pure ()
    checkEntries tag rest

/-- The value of a field that has no default. `absent` is the complaint about the field. -/
def require (absent : String → Mistake) (entries : Fields) (name : String) :
    Except Mistake Json :=
  match Fields.get? entries name with
  | some value => .ok value
  | none => .error (absent name)

/-- The field a geographic condition reads. -/
def geoField (entries : Fields) : Except Mistake String :=
  match Fields.get? entries "field" with
  | some value => value.expectText
  | none => .ok defaultGeoField

/-- A leaf of the given kind. A group is left without conditions. -/
def leafOf (absent : String → Mistake) (tag : Tag) (entries : Fields) :
    Except Mistake Condition := do
  checkEntries tag entries
  match tag with
  | .search => do
    let query ← (← require absent entries "query").expectText
    return .search query
  | .identifier => do
    let id ← (← require absent entries "id").expectIdentifier
    return .identifier id
  | .compare comparison => do
    let field ← (← require absent entries "field").expectText
    let value ← require absent entries "value"
    return .compare field comparison value
  | .member membership => do
    let field ← (← require absent entries "field").expectText
    let values ← require absent entries "values"
    return .member field membership values.oneOrMany
  | .near => do
    let field ← geoField entries
    let lat ← (← require absent entries "lat").expectReal
    let lng ← (← require absent entries "lng").expectReal
    let distance ← (← require absent entries "distance").expectReal
    return .near field lat lng distance
  | .within => do
    let field ← geoField entries
    let north ← (← require absent entries "north").expectReal
    let east ← (← require absent entries "east").expectReal
    let south ← (← require absent entries "south").expectReal
    let west ← (← require absent entries "west").expectReal
    return .within field ⟨north, east, south, west⟩
  | .group connective => return .group connective []

/-- The kind that a `type` value names. Inside a group (`nested`) a position will do. -/
def tagOf (nested : Bool) : Json → Except Mistake Tag
  | .string name =>
    match Tag.ofName? name with
    | some tag => .ok tag
    | none => .error (.unknownTag name (Tag.all.map Tag.name))
  | .number (.integer position) =>
    if nested && 0 ≤ position then
      match Tag.all[position.toNat]? with
      | some tag => .ok tag
      | none => .error (.tagOutOfRange position.toNat Tag.all.length)
    else .error (.mistyped (.number (.integer position)) .tag)
  | other => .error (.mistyped other .tag)

/-- The kind of a condition given as an object. -/
def tagOfEntries (nested : Bool) (entries : Fields) : Except Mistake Tag :=
  match Fields.get? entries "type" with
  | some value => tagOf nested value
  | none => .error (.missingField "type")

/-- The complaint about a field that a list is too short to give. -/
def tooShortFor (tag : Tag) (name : String) : Mistake :=
  .tooShort ((tag.slots.map Prod.fst).idxOf name) ("struct variant Condition::" ++ tag.title)
    tag.size

/-- A leaf from the values of its fields in order. -/
def leafOfItems (tag : Tag) (items : List Json) : Except Mistake Condition := do
  let leaf ← leafOf (tooShortFor tag) tag ((tag.slots.map Prod.fst).zip items)
  if tag.size < items.length then throw (.tooLong items.length tag.size)
  return leaf

/-- A group from the reading of its conditions, which may be left out. -/
def groupOf (connective : Connective) (conditions? : Option (Except Mistake (List Condition))) :
    Except Mistake Condition :=
  match conditions? with
  | none => .ok (.group connective [])
  | some conditions => conditions.map fun conditions => .group connective conditions

mutual

/-- Reads a condition. -/
def ofJson (nested : Bool) : Json → Except Mistake Condition
  | .object entries => do
    match ← tagOfEntries nested entries with
    | .group connective => groupOf connective (conditionsOfEntries entries)
    | tag => leafOf .missingField tag entries
  | .array [] => .error (.missingField "type")
  | .array (first :: items) => do
    match ← tagOf nested first with
    | .group connective =>
      let group ← groupOf connective (conditionsOfItems items)
      if 1 < items.length then throw (.tooLong items.length 1)
      return group
    | tag => leafOfItems tag items
  | other => .error (.mistyped other .condition)

/-- The reading of the `conditions` of an object, if it has any. -/
def conditionsOfEntries :
    List (String × Json) → Option (Except Mistake (List Condition))
  | [] => none
  | (name, value) :: rest =>
    if name = "conditions" then some (listOf true value) else conditionsOfEntries rest

/-- The reading of the first item of a list as conditions, if there is one. -/
def conditionsOfItems : List Json → Option (Except Mistake (List Condition))
  | [] => none
  | value :: _ => some (listOf true value)

/-- Reads a list of conditions. -/
def listOf (nested : Bool) : Json → Except Mistake (List Condition)
  | .array items => allOf nested items
  | other => .error (.mistyped other .sequence)

/-- Reads each item as a condition, up to the first that is none. -/
def allOf (nested : Bool) : List Json → Except Mistake (List Condition)
  | [] => .ok []
  | item :: rest => do
    let condition ← ofJson nested item
    let conditions ← allOf nested rest
    return condition :: conditions

end

/-- Reads the entries of a filter list. A missing list is an empty one. -/
def parseList : Json → Except Mistake (List Condition)
  | .null => .ok []
  | value => listOf false value

end Metasearch.Condition
