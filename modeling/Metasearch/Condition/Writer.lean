import Metasearch.Condition.Basic

set_option autoImplicit false

/-! # Writing conditions

A condition is written as an object: first its `type`, then its fields in a fixed order, with
no field left out.
-/

namespace Metasearch.Condition

mutual

/-- A condition as a JSON object. -/
def toJson : Condition → Json
  | .search query => .object [("type", .string Tag.search.name), ("query", .string query)]
  | .identifier id => .object [("type", .string Tag.identifier.name), ("id", .string id)]
  | .compare field comparison value =>
    .object [("type", .string (Tag.compare comparison).name), ("field", .string field),
      ("value", value)]
  | .member field membership values =>
    .object [("type", .string (Tag.member membership).name), ("field", .string field),
      ("values", .array values)]
  | .near field lat lng distance =>
    .object [("type", .string Tag.near.name), ("field", .string field), ("lat", .ofFloat lat),
      ("lng", .ofFloat lng), ("distance", .ofFloat distance)]
  | .within field box =>
    .object [("type", .string Tag.within.name), ("field", .string field),
      ("north", .ofFloat box.north), ("east", .ofFloat box.east),
      ("south", .ofFloat box.south), ("west", .ofFloat box.west)]
  | .group connective conditions =>
    .object [("type", .string (Tag.group connective).name),
      ("conditions", .array (toJsonAll conditions))]

def toJsonAll : List Condition → List Json
  | [] => []
  | condition :: rest => toJson condition :: toJsonAll rest

end

end Metasearch.Condition
