import Metasearch.Json.Basic

set_option autoImplicit false

/-! # Filter conditions

A condition is a tree. Its leaves compare a field of a document with values, name a document,
or ask for a place on the map; its inner nodes are groups. A search for words counts as a
condition too, because it is written in the same list; the filter languages admit it only
outside every group.
-/

namespace Metasearch

/-- How a field is compared with a value. -/
inductive Comparison where
  | equal
  | notEqual
  | greater
  | greaterEqual
  | less
  | lessEqual
  deriving Repr, DecidableEq

/-- The sign of a comparison in both filter languages. -/
def Comparison.symbol : Comparison → String
  | .equal => "="
  | .notEqual => "!="
  | .greater => ">"
  | .greaterEqual => ">="
  | .less => "<"
  | .lessEqual => "<="

/-- Whether a field must be, or must not be, one of several values. -/
inductive Membership where
  | among
  | notAmong
  deriving Repr, DecidableEq

/-- How a group joins its conditions. -/
inductive Connective where
  | conjunction
  | disjunction
  deriving Repr, DecidableEq

/-- The word for a connective in the condition vocabulary. -/
def Connective.name : Connective → String
  | .conjunction => "and"
  | .disjunction => "or"

/-- A rectangle on the map by its four edges, in degrees. -/
structure BoundingBox where
  north : Float
  east : Float
  south : Float
  west : Float

/-- A filter condition. -/
inductive Condition where
  /-- Words to search for. -/
  | search (query : String)
  /-- The document with this identifier. -/
  | identifier (id : String)
  | compare (field : String) (comparison : Comparison) (value : Json)
  | member (field : String) (membership : Membership) (values : List Json)
  /-- Within `distance` metres of a point. -/
  | near (field : String) (lat lng distance : Float)
  | within (field : String) (box : BoundingBox)
  | group (connective : Connective) (conditions : List Condition)
  deriving Inhabited

namespace Condition

/-- The field that a geographic condition reads when it names none. -/
def defaultGeoField : String := "_geo"

/-- Whether a condition is a search for words. -/
def isSearch : Condition → Bool
  | .search _ => true
  | _ => false

/-- The document field that a leaf reads, if it reads one. -/
def field? : Condition → Option String
  | .compare field _ _ => some field
  | .member field _ _ => some field
  | .near field _ _ _ => some field
  | .within field _ => some field
  | .search _ => none
  | .identifier _ => none
  | .group _ _ => none

mutual

/-- The fields read anywhere in a condition, from left to right. -/
def fields : Condition → List String
  | .group _ conditions => fieldsOfAll conditions
  | .compare field _ _ => [field]
  | .member field _ _ => [field]
  | .near field _ _ _ => [field]
  | .within field _ => [field]
  | .search _ => []
  | .identifier _ => []

def fieldsOfAll : List Condition → List String
  | [] => []
  | condition :: rest => fields condition ++ fieldsOfAll rest

end

/-! ## Kinds of condition -/

/-- The kind of a condition. Its name is the `type` of a written condition. -/
inductive Tag where
  | search
  | identifier
  | compare (comparison : Comparison)
  | member (membership : Membership)
  | near
  | within
  | group (connective : Connective)
  deriving Repr, DecidableEq

/-- All kinds, in the order in which messages name them. -/
def Tag.all : List Tag :=
  [.search, .identifier, .compare .equal, .compare .notEqual, .compare .greater,
    .compare .greaterEqual, .compare .less, .compare .lessEqual, .member .among,
    .member .notAmong, .near, .within, .group .conjunction, .group .disjunction]

def Tag.name : Tag → String
  | .search => "search"
  | .identifier => "identifier"
  | .compare .equal => "equal"
  | .compare .notEqual => "not_equal"
  | .compare .greater => "gt"
  | .compare .greaterEqual => "gte"
  | .compare .less => "lt"
  | .compare .lessEqual => "lte"
  | .member .among => "in"
  | .member .notAmong => "not_in"
  | .near => "geo_distance"
  | .within => "geo_bounding_box"
  | .group connective => connective.name

/-- The name of a kind in messages about its fields. -/
def Tag.title : Tag → String
  | .search => "Search"
  | .identifier => "Identifier"
  | .compare .equal => "Equal"
  | .compare .notEqual => "NotEqual"
  | .compare .greater => "GreaterThan"
  | .compare .greaterEqual => "GreaterThanEqual"
  | .compare .less => "LessThan"
  | .compare .lessEqual => "LessThanEqual"
  | .member .among => "In"
  | .member .notAmong => "NotIn"
  | .near => "GeoDistance"
  | .within => "GeoBoundingBox"
  | .group .conjunction => "And"
  | .group .disjunction => "Or"

/-- The kind with a given name. -/
def Tag.ofName? (name : String) : Option Tag := Tag.all.find? fun tag => tag.name == name

theorem Tag.ofName?_name (tag : Tag) : Tag.ofName? tag.name = some tag := by
  cases tag with
  | search => decide
  | identifier => decide
  | compare comparison => cases comparison <;> decide
  | member membership => cases membership <;> decide
  | near => decide
  | within => decide
  | group connective => cases connective <;> decide

/-- The kind of a condition. -/
def tag : Condition → Tag
  | .search _ => .search
  | .identifier _ => .identifier
  | .compare _ comparison _ => .compare comparison
  | .member _ membership _ => .member membership
  | .near _ _ _ _ => .near
  | .within _ _ => .within
  | .group connective _ => .group connective

end Condition

end Metasearch
