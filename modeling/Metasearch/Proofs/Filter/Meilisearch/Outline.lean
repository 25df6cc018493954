import Metasearch.Filter.Meilisearch
import Metasearch.Proofs.Condition.Tree
import Metasearch.Proofs.Decimal.Figures
import Metasearch.Proofs.Stepwise

set_option autoImplicit false

/-! # What a filter text tells of its condition

A filter for Meilisearch is a text, and not everything of a condition is in it. The `outline`
of a condition is what there is to be read: the groups, their connectives, and each leaf with
its field, its operator and its literals. Three things are lost. An identifier reads as
equality with the field that identifies a document, a position does not name its field, and a
group of one member shows no connective.

`normal` makes exactly these differences disappear from a condition, and
`normal_eq_of_outline_eq` says that nothing else is lost: conditions with the same outline are
the same up to them.
-/

namespace Metasearch.Filter.Meilisearch

open Condition (Occurs)

/-! ## Outlines -/

/-- A value in a filter text: a quoted text, or a bare word. -/
inductive Literal where
  | text (content : String)
  | bare (word : String)
  deriving Repr, DecidableEq

/-- The parts of a filter text. A search for words has none, and an outline only so that every
condition has one. -/
inductive Outline where
  | words (query : String)
  | comparison (field : String) (comparison : Comparison) (literal : Literal)
  | membership (field : String) (membership : Membership) (literals : List Literal)
  | near (lat lng distance : String)
  | within (north east south west : String)
  | group (connective? : Option Connective) (members : List Outline)

def literalOf : Json → Literal
  | .string text => .text text
  | other => .bare other.compact

/-- The connective of a group, if two members show it. -/
def shownConnective (connective : Connective) (count : Nat) : Option Connective :=
  if 2 ≤ count then some connective else none

mutual

def outline (identifier : String) : Condition → Outline
  | .search query => .words query
  | .identifier id => .comparison identifier .equal (.text id)
  | .compare field comparison value => .comparison field comparison (literalOf value)
  | .member field membership values => .membership field membership (values.map literalOf)
  | .near _ lat lng distance => .near (coordinate lat) (coordinate lng) (coordinate distance)
  | .within _ box =>
    .within (coordinate box.north) (coordinate box.east) (coordinate box.south)
      (coordinate box.west)
  | .group connective members =>
    .group (shownConnective connective members.length) (outlineAll identifier members)

def outlineAll (identifier : String) : List Condition → List Outline
  | [] => []
  | c :: members => outline identifier c :: outlineAll identifier members

end

theorem outlineAll_eq_map (identifier : String) (members : List Condition) :
    outlineAll identifier members = members.map (outline identifier) := by
  induction members with
  | nil => rfl
  | cons c members ih => rw [outlineAll, ih, List.map_cons]

theorem outline_group (identifier : String) (connective : Connective)
    (members : List Condition) :
    outline identifier (.group connective members)
      = .group (shownConnective connective members.length)
          (members.map (outline identifier)) := by
  rw [outline, outlineAll_eq_map]

/-! ## Conditions up to what is lost -/

mutual

/-- A condition without the differences that its filter text does not show. -/
def normal (identifier : String) : Condition → Condition
  | .search query => .search query
  | .identifier id => .compare identifier .equal (.string id)
  | .compare field comparison value => .compare field comparison value
  | .member field membership values => .member field membership values
  | .near _ lat lng distance => .near Condition.defaultGeoField lat lng distance
  | .within _ box => .within Condition.defaultGeoField box
  | .group connective members =>
    .group ((shownConnective connective members.length).getD .conjunction)
      (normalAll identifier members)

def normalAll (identifier : String) : List Condition → List Condition
  | [] => []
  | c :: members => normal identifier c :: normalAll identifier members

end

theorem normalAll_eq_map (identifier : String) (members : List Condition) :
    normalAll identifier members = members.map (normal identifier) := by
  induction members with
  | nil => rfl
  | cons c members ih => rw [normalAll, ih, List.map_cons]

/-! ## Values -/

/-- The values that a leaf compares with. -/
def leafValues : Condition → List Json
  | .compare _ _ value => [value]
  | .member _ _ values => values
  | _ => []

/-- The numbers that place a leaf on the map. -/
def leafCoordinates : Condition → List Float
  | .near _ lat lng distance => [lat, lng, distance]
  | .within _ box => [box.north, box.east, box.south, box.west]
  | _ => []

/-- A value that a filter can compare with as it is: a text, a number or a truth value. -/
def IsScalar : Json → Prop
  | .string _ => True
  | .number _ => True
  | .bool _ => True
  | _ => False

/-- All values in a condition are scalar. -/
def Scalars (c : Condition) : Prop := ∀ leaf, Occurs leaf c → ∀ v ∈ leafValues leaf, IsScalar v

/-- The numbers in two conditions can be told apart by their texts. -/
structure Told (c d : Condition) : Prop where
  numbers : ∀ leaf, Occurs leaf c → ∀ other, Occurs other d → ∀ m, .number m ∈ leafValues leaf →
    ∀ n, .number n ∈ leafValues other → m.text = n.text → m = n
  coordinates : ∀ leaf, Occurs leaf c → ∀ other, Occurs other d → ∀ x ∈ leafCoordinates leaf,
    ∀ y ∈ leafCoordinates other, coordinate x = coordinate y → x = y

section Members

variable {connective : Connective} {members : List Condition} {c : Condition} (hc : c ∈ members)

include hc

theorem occurs_member {leaf : Condition} (h : Occurs leaf c) :
    Occurs leaf (.group connective members) :=
  Condition.occurs_group.mpr (Or.inr ⟨c, hc, h⟩)

theorem Scalars.member (h : Scalars (.group connective members)) : Scalars c :=
  fun leaf hleaf => h leaf (occurs_member hc hleaf)

theorem Told.member {connective' : Connective} {members' : List Condition} {d : Condition}
    (hd : d ∈ members') (h : Told (.group connective members) (.group connective' members')) :
    Told c d where
  numbers := fun leaf hleaf other hother =>
    h.numbers leaf (occurs_member hc hleaf) other (occurs_member hd hother)
  coordinates := fun leaf hleaf other hother =>
    h.coordinates leaf (occurs_member hc hleaf) other (occurs_member hd hother)

end Members

/-- The words for truth values are no figures. -/
theorem compact_bool_ne_number (value : Bool) (n : Number) :
    (Json.bool value).compact ≠ n.text := by
  intro heq
  have hfigures := Decimal.inFigures_numberText n
  rw [← heq] at hfigures
  cases value with
  | true => exact absurd hfigures (by simp [Json.compact]; decide)
  | false => exact absurd hfigures (by simp [Json.compact]; decide)

/-- **A literal tells its value**, if it tells its numbers. -/
theorem literalOf_injective {v w : Json} (hv : IsScalar v) (hw : IsScalar w)
    (hnumbers : ∀ m, v = .number m → ∀ n, w = .number n → m.text = n.text → m = n)
    (h : literalOf v = literalOf w) : v = w := by
  cases v with
  | string text =>
    cases w with
    | string text' =>
      cases h
      rfl
    | number n => cases h
    | bool value => cases h
    | _ => exact absurd hw id
  | number m =>
    cases w with
    | string text => cases h
    | number n =>
      have htext : m.text = n.text := by simpa [literalOf, Json.compact] using h
      rw [hnumbers m rfl n rfl htext]
    | bool value =>
      have htext : (Json.bool value).compact = m.text := (Literal.bare.inj h).symm
      exact absurd htext (compact_bool_ne_number value m)
    | _ => exact absurd hw id
  | bool value =>
    cases w with
    | string text => cases h
    | number n => exact absurd (Literal.bare.inj h) (compact_bool_ne_number value n)
    | bool value' =>
      cases value <;> cases value' <;> first | rfl | simp [literalOf, Json.compact] at h
    | _ => exact absurd hw id
  | _ => exact absurd hv id

theorem eq_string_of_literalOf {v : Json} {text : String} (h : literalOf v = .text text) :
    v = .string text := by
  cases v with
  | string text' =>
    cases h
    rfl
  | _ => cases h

/-! ## Nothing else is lost -/

section Same

variable {identifier : String} {c d : Condition}

theorem normal_compare {field : String} {comparison : Comparison} {value : Json}
    (hscalars : Scalars (.compare field comparison value)) (hscalars' : Scalars d)
    (htold : Told (.compare field comparison value) d)
    (h : outline identifier (.compare field comparison value) = outline identifier d) :
    normal identifier (.compare field comparison value) = normal identifier d := by
  cases d with
  | identifier id =>
    obtain ⟨rfl, rfl, hvalue⟩ := Outline.comparison.inj h
    rw [eq_string_of_literalOf hvalue]
    rfl
  | compare field' comparison' value' =>
    obtain ⟨rfl, rfl, hvalue⟩ := Outline.comparison.inj h
    have hself : Occurs (.compare field comparison value) (.compare field comparison value) :=
      Condition.occurs_self _
    have hself' : Occurs (.compare field comparison value') (.compare field comparison value') :=
      Condition.occurs_self _
    have heq : value = value' := by
      refine literalOf_injective (hscalars _ hself value List.mem_cons_self)
        (hscalars' _ hself' value' List.mem_cons_self) ?_ hvalue
      rintro m rfl n rfl
      exact htold.numbers _ hself _ hself' m List.mem_cons_self n List.mem_cons_self
    rw [heq]
  | _ => cases h

theorem normal_member {field : String} {membership : Membership} {values : List Json}
    (hscalars : Scalars (.member field membership values)) (hscalars' : Scalars d)
    (htold : Told (.member field membership values) d)
    (h : outline identifier (.member field membership values) = outline identifier d) :
    normal identifier (.member field membership values) = normal identifier d := by
  cases d with
  | member field' membership' values' =>
    obtain ⟨rfl, rfl, hvalues⟩ := Outline.membership.inj h
    have heq : values.map id = values'.map id := by
      refine map_eq_map_of_determines hvalues fun v hv w hw hliteral => ?_
      refine literalOf_injective (hscalars _ (Condition.occurs_self _) v hv)
        (hscalars' _ (Condition.occurs_self _) w hw) ?_ hliteral
      rintro m rfl n rfl
      exact htold.numbers _ (Condition.occurs_self _) _ (Condition.occurs_self _) m hv n hw
    rw [List.map_id, List.map_id] at heq
    rw [heq]
  | _ => cases h

theorem normal_near {field : String} {lat lng distance : Float}
    (htold : Told (.near field lat lng distance) d)
    (h : outline identifier (.near field lat lng distance) = outline identifier d) :
    normal identifier (.near field lat lng distance) = normal identifier d := by
  cases d with
  | near field' lat' lng' distance' =>
    obtain ⟨hlat, hlng, hdistance⟩ := Outline.near.inj h
    have htell := htold.coordinates _ (Condition.occurs_self _) _ (Condition.occurs_self _)
    rw [htell lat (by simp [leafCoordinates]) lat' (by simp [leafCoordinates]) hlat,
      htell lng (by simp [leafCoordinates]) lng' (by simp [leafCoordinates]) hlng,
      htell distance (by simp [leafCoordinates]) distance' (by simp [leafCoordinates]) hdistance]
    rfl
  | _ => cases h

theorem normal_within {field : String} {box : BoundingBox} (htold : Told (.within field box) d)
    (h : outline identifier (.within field box) = outline identifier d) :
    normal identifier (.within field box) = normal identifier d := by
  cases d with
  | within field' box' =>
    obtain ⟨north, east, south, west⟩ := box
    obtain ⟨north', east', south', west'⟩ := box'
    obtain ⟨hnorth, heast, hsouth, hwest⟩ := Outline.within.inj h
    have htell := htold.coordinates _ (Condition.occurs_self _) _ (Condition.occurs_self _)
    rw [htell north (by simp [leafCoordinates]) north' (by simp [leafCoordinates]) hnorth,
      htell east (by simp [leafCoordinates]) east' (by simp [leafCoordinates]) heast,
      htell south (by simp [leafCoordinates]) south' (by simp [leafCoordinates]) hsouth,
      htell west (by simp [leafCoordinates]) west' (by simp [leafCoordinates]) hwest]
    rfl
  | _ => cases h

end Same

/-- **Conditions with the same outline are the same** up to what no filter text shows. The
induction is on the first of them; the outline of a group can only be that of a group. -/
theorem normal_eq_of_outline_eq {identifier : String} (c : Condition) :
    ∀ d, Scalars c → Scalars d → Told c d → outline identifier c = outline identifier d →
      normal identifier c = normal identifier d := by
  induction c using Condition.induction with
  | leaf c hleaf =>
    intro d hscalars hscalars' htold h
    cases c with
    | search query =>
      cases d with
      | search query' =>
        cases h
        rfl
      | _ => cases h
    | identifier id =>
      cases d with
      | identifier id' =>
        cases h
        rfl
      | compare field comparison value =>
        obtain ⟨rfl, rfl, hvalue⟩ := Outline.comparison.inj h
        rw [normal, normal, eq_string_of_literalOf hvalue.symm]
      | _ => cases h
    | compare field comparison value => exact normal_compare hscalars hscalars' htold h
    | member field membership values => exact normal_member hscalars hscalars' htold h
    | near field lat lng distance => exact normal_near htold h
    | within field box => exact normal_within htold h
    | group connective members => exact absurd rfl (hleaf connective members)
  | group connective members ih =>
    intro d hscalars hscalars' htold h
    cases d with
    | group connective' members' =>
      -- the lists have one length, so that both groups show a connective or neither does
      rw [outline_group, outline_group] at h
      obtain ⟨hconnective, hmembers⟩ := Outline.group.inj h
      have hnormal : members.map (normal identifier) = members'.map (normal identifier) := by
        refine map_eq_map_of_determines hmembers fun c hc d hd heq => ?_
        exact ih c hc d (hscalars.member hc) (hscalars'.member hd) (htold.member hc hd) heq
      rw [normal, normal, normalAll_eq_map, normalAll_eq_map, hnormal, hconnective]
    | _ => cases h

end Metasearch.Filter.Meilisearch
