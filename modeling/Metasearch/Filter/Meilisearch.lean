import Metasearch.Decimal.Layout
import Metasearch.Filter.Literal
import Metasearch.Filter.Obstacle

set_option autoImplicit false

/-! # Filters for Meilisearch

The filter language has comparisons, lists of values and two functions of position, joined by
`AND` and `OR` with parentheses around every group. So a condition of any depth has a filter,
as long as no group is empty and no search for words stands inside a group: words go into the
query text instead.
-/

namespace Metasearch.Filter.Meilisearch

/-- A condition compiled for the engine. -/
inductive Predicate where
  /-- Words for the query text. -/
  | query (text : String)
  /-- A filter expression. -/
  | filter (expression : String)
  deriving Repr, DecidableEq

/-- The text of a coordinate or distance. -/
def coordinate (x : Float) : String := Decimal.Layout.plain.text x

def membershipWord : Membership → String
  | .among => "IN"
  | .notAmong => "NOT IN"

/-- The word between the members of a group. -/
def connectiveWord : Connective → String
  | .conjunction => "AND"
  | .disjunction => "OR"

def comparisonExpression (field : String) (comparison : Comparison) (value : Json) : String :=
  field ++ " " ++ comparison.symbol ++ " " ++ literal value

def memberExpression (field : String) (membership : Membership) (values : List Json) : String :=
  field ++ " " ++ membershipWord membership ++ " [" ++ ", ".intercalate (values.map literal) ++ "]"

def nearExpression (lat lng distance : Float) : String :=
  "_geoRadius(" ++ coordinate lat ++ ", " ++ coordinate lng ++ ", " ++ coordinate distance ++ ")"

def boxExpression (box : BoundingBox) : String :=
  "_geoBoundingBox([" ++ coordinate box.north ++ ", " ++ coordinate box.east ++ "], ["
    ++ coordinate box.south ++ ", " ++ coordinate box.west ++ "])"

def groupExpression (connective : Connective) (parts : List String) : String :=
  "(" ++ (" " ++ connectiveWord connective ++ " ").intercalate parts ++ ")"

/-- The expressions of the members of a group. -/
def expressions : List Predicate → Except Obstacle (List String)
  | [] => .ok []
  | .query _ :: _ => .error .searchInGroup
  | .filter expression :: rest => do
    let parts ← expressions rest
    return expression :: parts

/-- A group of compiled conditions. -/
def group (connective : Connective) (members : List Predicate) : Except Obstacle Predicate := do
  if members.isEmpty then throw (.emptyGroup connective)
  let parts ← expressions members
  return .filter (groupExpression connective parts)

mutual

/-- Compiles a condition. `identifier` is the field that identifies a document; positions
always refer to the one geographic field of the engine. -/
def compile (identifier : String) : Condition → Except Obstacle Predicate
  | .search query => .ok (.query query)
  | .identifier id => .ok (.filter (identifier ++ " = " ++ Text.quote id))
  | .compare field comparison value => .ok (.filter (comparisonExpression field comparison value))
  | .member field membership values => .ok (.filter (memberExpression field membership values))
  | .near _ lat lng distance => .ok (.filter (nearExpression lat lng distance))
  | .within _ box => .ok (.filter (boxExpression box))
  | .group connective conditions => do
    let members ← compileAll identifier conditions
    group connective members

/-- Compiles each condition, up to the first that has no filter. -/
def compileAll (identifier : String) : List Condition → Except Obstacle (List Predicate)
  | [] => .ok []
  | condition :: rest => do
    let predicate ← compile identifier condition
    let predicates ← compileAll identifier rest
    return predicate :: predicates

end

end Metasearch.Filter.Meilisearch
