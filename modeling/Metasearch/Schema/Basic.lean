import Metasearch.Schema.Descriptor

set_option autoImplicit false

/-! # Schemas

A schema is a set of index descriptors, kept in the order of their names. It is built from
the settings and the type hints of several indexes. Where an index has several settings, the
last counts; an index without settings has no descriptor, whatever its hints.
-/

namespace Metasearch

structure Schema where
  indexes : List IndexDescriptor
  deriving Repr, DecidableEq

namespace Schema

/-- The last of the values that belong to an index. -/
def lastOf? (index : String) (values : List (String × Fields)) : Option Fields :=
  (values.filter fun value => value.1 == index).getLast?.map Prod.snd

/-- The names that have a value, each once, in ascending order. -/
def indexNames (values : List (String × Fields)) : List String :=
  (firstOccurrences (values.map Prod.fst)).mergeSort fun a b => a ≤ b

def build (engine : Engine) (settings hints : List (String × Fields)) : Schema where
  indexes := (indexNames settings).map fun index =>
    IndexDescriptor.build index (IndexSettings.ofRaw engine ((lastOf? index settings).getD []))
      ((lastOf? index hints).getD [])

/-- The descriptor of an index. -/
def index? (schema : Schema) (name : String) : Option IndexDescriptor :=
  schema.indexes.find? fun descriptor => descriptor.name == name

def size (schema : Schema) : Nat := schema.indexes.length

def isEmpty (schema : Schema) : Bool := schema.indexes.isEmpty

def toJson (schema : Schema) : Json :=
  .object [("indexes",
    .object (schema.indexes.map fun descriptor => (descriptor.name, descriptor.toJson)))]

end Schema

end Metasearch
