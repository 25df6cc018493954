import Metasearch.Schema.Settings
import Metasearch.Text.Case

set_option autoImplicit false

/-! # Index descriptors

A descriptor lists the fields of an index with what each can do. The fields are those that the
settings mention, in the order in which they are first mentioned, and the identifier. Hints
give the fields types; the type of the identifier is fixed.
-/

namespace Metasearch

inductive FieldType where
  | identifier
  | text
  | int
  | float
  | bool
  | datetime
  deriving Repr, DecidableEq

def FieldType.name : FieldType → String
  | .identifier => "identifier"
  | .text => "text"
  | .int => "int"
  | .float => "float"
  | .bool => "bool"
  | .datetime => "datetime"

/-- The type that a hint names. Unknown hints mean text. -/
def FieldType.ofHint (hint : String) : FieldType :=
  let word := Text.lowercaseAscii (String.ofList (Text.trim hint.toList))
  if word = "int" ∨ word = "integer" then .int
  else if word = "float" ∨ word = "double" ∨ word = "number" then .float
  else if word = "bool" ∨ word = "boolean" then .bool
  else if word = "datetime" ∨ word = "date" then .datetime
  else .text

structure FieldDescriptor where
  name : String
  type : FieldType
  searchable : Bool
  filterable : Bool
  sortable : Bool
  distinct : Bool
  facet : Bool
  deriving Repr, DecidableEq

structure IndexDescriptor where
  name : String
  identifier : String
  /-- The fields in the order of first mention, the identifier always among them. -/
  fields : List FieldDescriptor
  deriving Repr, DecidableEq

/-- Each name once, in the order in which the names first occur. -/
def firstOccurrences (names : List String) : List String :=
  names.foldl (fun seen name => if name ∈ seen then seen else seen ++ [name]) []

/-- The identifier as a field: it has no part in searching. -/
def FieldDescriptor.ofIdentifier (name : String) : FieldDescriptor where
  name := name
  type := .identifier
  searchable := false
  filterable := false
  sortable := false
  distinct := false
  facet := false

/-- The type of a field by its hint. -/
def FieldType.ofHints (hints : Fields) (name : String) : FieldType :=
  (((Fields.get? hints name).bind Json.string?).map FieldType.ofHint).getD .text

/-- The descriptor of a field. Dates are not searched for words. -/
def FieldDescriptor.build (settings : IndexSettings) (hints : Fields) (name : String) :
    FieldDescriptor :=
  if name = settings.identifier then .ofIdentifier name
  else
    let type := FieldType.ofHints hints name
    { name := name
      type := type
      searchable := type ≠ .datetime ∧ name ∈ settings.searchable
      filterable := name ∈ settings.filterable
      sortable := name ∈ settings.sortable
      distinct := settings.distinct = some name
      facet := name ∈ settings.facet }

namespace IndexDescriptor

/-- All names that the settings mention, and the identifier. -/
def mentioned (settings : IndexSettings) : List String :=
  settings.searchable ++ settings.filterable ++ settings.sortable ++ settings.facet
    ++ [settings.identifier]

def build (name : String) (settings : IndexSettings) (hints : Fields) : IndexDescriptor where
  name := name
  identifier := settings.identifier
  fields := (firstOccurrences (mentioned settings)).map (FieldDescriptor.build settings hints)

/-- The field with a given name. -/
def field? (descriptor : IndexDescriptor) (name : String) : Option FieldDescriptor :=
  descriptor.fields.find? fun field => field.name == name

def isFilterable (descriptor : IndexDescriptor) (name : String) : Bool :=
  name = descriptor.identifier
    || ((descriptor.field? name).map FieldDescriptor.filterable).getD false

def isSortable (descriptor : IndexDescriptor) (name : String) : Bool :=
  ((descriptor.field? name).map FieldDescriptor.sortable).getD false

/-- The field that keeps hits apart. -/
def distinctField? (descriptor : IndexDescriptor) : Option String :=
  (descriptor.fields.find? FieldDescriptor.distinct).map FieldDescriptor.name

end IndexDescriptor

/-! ## As JSON -/

def FieldDescriptor.toJson (field : FieldDescriptor) : Json :=
  .object [("name", .string field.name), ("type", .string field.type.name),
    ("searchable", .bool field.searchable), ("filterable", .bool field.filterable),
    ("sortable", .bool field.sortable), ("distinct", .bool field.distinct),
    ("facet", .bool field.facet)]

def IndexDescriptor.toJson (descriptor : IndexDescriptor) : Json :=
  .object [("name", .string descriptor.name), ("identifier", .string descriptor.identifier),
    ("fields", .array (descriptor.fields.map FieldDescriptor.toJson))]

end Metasearch
