import Metasearch.Condition.Basic
import Metasearch.Json.Printer

set_option autoImplicit false

/-! # Why a condition cannot be expressed

A well-formed condition may still have no counterpart in the filter language of an engine. An
`Obstacle` names the reason.
-/

namespace Metasearch

inductive Obstacle where
  | emptyGroup (connective : Connective)
  | searchInGroup
  | geoInGroup
  | conjunctionInDisjunction
  /-- A disjunction of terms of different kinds. -/
  | mixedKinds
  | noValues (field : String)
  /-- An ordering with a value that is no number. -/
  | notNumeric (field : String) (value : Json)

def Obstacle.message : Obstacle → String
  | .emptyGroup connective => "empty " ++ connective.name ++ " group"
  | .searchInGroup => "search inside a filter group"
  | .geoInGroup => "geo condition inside a filter group"
  | .conjunctionInDisjunction => "AND inside an OR group"
  | .mixedKinds => "OR across facet and numeric filters"
  | .noValues field => "empty value list for " ++ field
  | .notNumeric field value => "non-numeric comparison on " ++ field ++ ": " ++ value.compact

end Metasearch
