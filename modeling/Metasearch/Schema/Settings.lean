import Metasearch.Engine.Basic
import Metasearch.Json.Basic
import Metasearch.Text.Blank

set_option autoImplicit false

/-! # Index settings

What an index can do follows from its settings, which the engines keep in different words. The
settings are read into one form: lists of the fields that can be searched, filtered, sorted
and counted, the field that keeps hits apart, and the field that identifies a document.

An attribute may be wrapped in modifiers such as `searchable(brand)`; the field is what stands
inside the outermost parentheses.
-/

namespace Metasearch

structure IndexSettings where
  searchable : List String
  filterable : List String
  sortable : List String
  facet : List String
  distinct : Option String
  identifier : String
  deriving Repr, DecidableEq

namespace IndexSettings

/-- The texts of a list, or a single text. -/
def texts (value? : Option Json) : List String :=
  match value? with
  | some (.array items) => items.filterMap Json.string?
  | some (.string text) => [text]
  | _ => []

/-- The attribute inside the outermost parentheses, if the text ends with a closing one. -/
def unwrap (text : List Char) : List Char :=
  if '(' ∈ text ∧ text.getLast? = some ')' then
    ((text.dropWhile (· ≠ '(')).drop 1).dropLast
  else text

/-- The attributes of a list separated by commas, without modifiers. -/
def attributesOf (entry : String) : List String :=
  let attributes := (Text.splitOn ',' entry.toList).map fun part => unwrap (Text.trim part)
  (attributes.filter fun name => !name.isEmpty).map String.ofList

/-- Settings in the words of Meilisearch, where every filterable field can be counted. -/
def ofMeilisearch (raw : Fields) : IndexSettings :=
  let filterable := texts (Fields.get? raw "filterableAttributes")
  { searchable := texts (Fields.get? raw "searchableAttributes")
    filterable := filterable
    sortable := texts (Fields.get? raw "sortableAttributes")
    facet := filterable
    distinct := (Fields.get? raw "distinctAttribute").bind Json.string?
    identifier :=
      ((Fields.get? raw "primaryKey").bind Json.string?).getD
        Engine.meilisearch.defaultIdentifier }

/-- Settings in the words of Algolia. Sorting is the matter of replicas there, so no field is
sortable. -/
def ofAlgolia (raw : Fields) : IndexSettings :=
  let facets := (texts (Fields.get? raw "attributesForFaceting")).map
    fun entry => String.ofList (unwrap entry.toList)
  { searchable := (texts (Fields.get? raw "searchableAttributes")).flatMap attributesOf
    filterable := facets
    sortable := []
    facet := facets
    distinct := (Fields.get? raw "attributeForDistinct").bind Json.string?
    identifier := Engine.algolia.defaultIdentifier }

/-- Reads settings in the words of an engine. -/
def ofRaw (engine : Engine) (raw : Fields) : IndexSettings :=
  match engine with
  | .meilisearch => ofMeilisearch raw
  | .algolia => ofAlgolia raw

end IndexSettings

end Metasearch
