import Metasearch.Decimal.Layout
import Metasearch.Decimal.Numeral
import Metasearch.Filter.Literal
import Metasearch.Filter.Obstacle
import Metasearch.Text.Blank

set_option autoImplicit false

/-! # Filters for Algolia

The filter language is a conjunction of clauses, each an atom or a disjunction of atoms in
parentheses. Two rules restrict it: the atoms of one disjunction are all facet filters or all
numeric filters, and no conjunction stands inside a disjunction. Positions are no filters at
all but parameters of the search.

A compiled condition therefore keeps its shape (`Predicate`) until it is placed, so that a
group the language cannot express is noticed while compiling and not by the engine.
-/

namespace Metasearch.Filter.Algolia

inductive Kind where
  | facet
  | numeric
  deriving Repr, DecidableEq

/-- A condition compiled for the engine. -/
inductive Predicate where
  /-- Words for the query text. -/
  | query (text : String)
  /-- One facet or numeric filter. -/
  | atom (kind : Kind) (expression : String)
  /-- Filters of one kind, of which one must hold. -/
  | anyOf (kind : Kind) (terms : List String)
  /-- Clauses that must all hold. -/
  | allOf (clauses : List String)
  /-- Parameters of the search. -/
  | geo (parameters : List (String × Json))

def identifierField : String := "objectID"

/-- The filter text of a predicate, if it has one. -/
def Predicate.expression? : Predicate → Option String
  | .query _ => none
  | .atom _ expression => some expression
  | .anyOf _ terms => some ("(" ++ " OR ".intercalate terms ++ ")")
  | .allOf clauses => some (" AND ".intercalate clauses)
  | .geo _ => none

/-! ## Atoms -/

/-- The filter that a field has a value. Numbers are compared; anything else is a facet value,
lists and objects by their JSON text. -/
def equality (field : String) : Json → Kind × String
  | .number value => (.numeric, field ++ " = " ++ value.text)
  | .bool value => (.facet, field ++ ":" ++ (Json.bool value).compact)
  | .string text => (.facet, field ++ ":" ++ Text.quote text)
  | other => (.facet, field ++ ":" ++ Text.quote other.compact)

/-- The filter that a field does not have a value. -/
def inequality (field : String) (value : Json) : Kind × String :=
  match equality field value with
  | (.numeric, _) => (.numeric, field ++ " != " ++ literal value)
  | (.facet, expression) => (.facet, "NOT " ++ expression)

/-- The text of a value in an ordering: a number, or a string that reads as one. -/
def numericText? : Json → Option String
  | .number value => some value.text
  | .string text =>
    let trimmed := Text.trim text.toList
    if Decimal.readsAsFloat trimmed then some (String.ofList trimmed) else none
  | _ => none

def ordering (field : String) (comparison : Comparison) (value : Json) :
    Except Obstacle (Kind × String) :=
  match numericText? value with
  | some number => .ok (.numeric, field ++ " " ++ comparison.symbol ++ " " ++ number)
  | none => .error (.notNumeric field value)

def comparisonAtom (field : String) (comparison : Comparison) (value : Json) :
    Except Obstacle (Kind × String) :=
  match comparison with
  | .equal => .ok (equality field value)
  | .notEqual => .ok (inequality field value)
  | comparison => ordering field comparison value

/-! ## Disjunctions -/

/-- The common kind of some terms, starting from the kind of those before them. -/
def commonKind (kind? : Option Kind) : List (Kind × String) → Except Obstacle (Option Kind)
  | [] => .ok kind?
  | (kind, _) :: rest =>
    if kind? = none ∨ kind? = some kind then commonKind (some kind) rest else .error .mixedKinds

/-- A disjunction of terms of one kind. -/
def disjunction (terms : List (Kind × String)) : Except Obstacle Predicate := do
  let kind? ← commonKind none terms
  return .anyOf (kind?.getD .facet) (terms.map Prod.snd)

def memberPredicate (field : String) (membership : Membership) (values : List Json) :
    Except Obstacle Predicate :=
  match membership, values with
  | _, [] => .error (.noValues field)
  | .notAmong, [value] =>
    let (kind, expression) := inequality field value
    .ok (.atom kind expression)
  | .notAmong, values => .ok (.allOf (values.map fun value => (inequality field value).2))
  | .among, values => disjunction (values.map (equality field))

/-! ## Positions -/

/-- The text of a coordinate. -/
def coordinate (x : Float) : String := Decimal.Layout.plain.text x

/-- A radius in whole metres, at least one. -/
def wholeRadius (distance : Float) : Nat :=
  let rounded := distance.round
  if 1 ≤ rounded then rounded.toUInt64.toNat else 1

def nearParameters (lat lng distance : Float) : List (String × Json) :=
  [("aroundLatLng", .string (coordinate lat ++ ", " ++ coordinate lng)),
    ("aroundRadius", .ofNat (wholeRadius distance))]

def boxParameters (box : BoundingBox) : List (String × Json) :=
  [("insideBoundingBox",
    .array [.array [.ofFloat box.north, .ofFloat box.east, .ofFloat box.south,
      .ofFloat box.west]])]

/-! ## Groups -/

/-- The clauses of the members of a conjunction. A conjunction inside is dissolved. -/
def clauses : List Predicate → Except Obstacle (List String)
  | [] => .ok []
  | .query _ :: _ => .error .searchInGroup
  | .geo _ :: _ => .error .geoInGroup
  | .allOf inner :: rest => do
    let outer ← clauses rest
    return inner ++ outer
  | member :: rest => do
    let outer ← clauses rest
    return member.expression?.toList ++ outer

/-- The terms of a member of a disjunction. A disjunction inside is dissolved. -/
def termsOf : Predicate → Except Obstacle (List (Kind × String))
  | .query _ => .error .searchInGroup
  | .geo _ => .error .geoInGroup
  | .allOf _ => .error .conjunctionInDisjunction
  | .atom kind expression => .ok [(kind, expression)]
  | .anyOf kind terms => .ok (terms.map fun term => (kind, term))

/-- The terms of the members of a disjunction, checked to be of one kind as they come. -/
def terms (kind? : Option Kind) : List Predicate → Except Obstacle (List (Kind × String))
  | [] => .ok []
  | member :: rest => do
    let first ← termsOf member
    let kind? ← commonKind kind? first
    let others ← terms kind? rest
    return first ++ others

/-- A group of compiled conditions. -/
def group (connective : Connective) (members : List Predicate) : Except Obstacle Predicate :=
  if members.isEmpty then .error (.emptyGroup connective)
  else
    match connective with
    | .conjunction => do
      let clauses ← clauses members
      return .allOf clauses
    | .disjunction => do
      let terms ← terms none members
      disjunction terms

mutual

/-- Compiles a condition. -/
def compile : Condition → Except Obstacle Predicate
  | .search query => .ok (.query query)
  | .identifier id => .ok (.atom .facet (identifierField ++ ":" ++ Text.quote id))
  | .compare field comparison value => do
    let (kind, expression) ← comparisonAtom field comparison value
    return .atom kind expression
  | .member field membership values => memberPredicate field membership values
  | .near _ lat lng distance => .ok (.geo (nearParameters lat lng distance))
  | .within _ box => .ok (.geo (boxParameters box))
  | .group connective conditions => do
    let members ← compileAll conditions
    group connective members

/-- Compiles each condition, up to the first that has no filter. -/
def compileAll : List Condition → Except Obstacle (List Predicate)
  | [] => .ok []
  | condition :: rest => do
    let predicate ← compile condition
    let predicates ← compileAll rest
    return predicate :: predicates

end

end Metasearch.Filter.Algolia
