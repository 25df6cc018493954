set_option autoImplicit false

/-! # Search engines

The two engines a search can be sent to. They differ in their filter language, in the shape of
their requests and answers, and in the vocabulary of their index settings.
-/

namespace Metasearch

inductive Engine where
  | meilisearch
  | algolia
  deriving Repr, DecidableEq

/-- The name of an engine, as messages give it. -/
def Engine.name : Engine → String
  | .meilisearch => "meilisearch"
  | .algolia => "algolia"

/-- The field that identifies a document when the settings of an index name none. -/
def Engine.defaultIdentifier : Engine → String
  | .meilisearch => "id"
  | .algolia => "objectID"

end Metasearch
