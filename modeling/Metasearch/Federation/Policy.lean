import Metasearch.Config.Basic
import Metasearch.Federation.Floor
import Metasearch.Federation.Relevance

set_option autoImplicit false

/-! # What happens to hits after a search

Hits pass the ranking floor first. Then, where advanced search is switched on and the query
has text, they are judged once more by a relevance filter.
-/

namespace Metasearch.Federation

structure Policy where
  /-- The ranking score below which hits are dropped. -/
  minimum : Float
  /-- Whether the relevance filter is used. -/
  advanced : Bool
  relevance : RelevanceFilter

namespace Policy

/-- The policy that a configuration sets, with the judgement by common terms. -/
def ofConfig (config : Config) : Policy := ⟨config.minimumScore, config.advanced, termOverlap⟩

/-- The hits that remain, in their final order. -/
def refine (policy : Policy) (query : String) (showScores : Bool) (hits : List Hit) : List Hit :=
  let admitted := applyFloor policy.minimum showScores hits
  if policy.advanced && !Text.allBlank query.toList then policy.relevance query admitted
  else admitted

end Policy

end Metasearch.Federation
