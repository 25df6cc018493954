import Metasearch.Engine.Body

set_option autoImplicit false

/-! # The keys of shared body parts

A body is a list of parts, and a look-up passes over the parts that do not have its key. Each
part keeps to the keys named here and to their order, whatever was asked for. So no key occurs
twice in a body whose parts keep to different ones.
-/

namespace Metasearch.Body

open List (Sublist)

theorem keys_optional {α : Type} (name : String) (write : α → Json) (value : Option α) :
    Sublist (Fields.keys (optional name write value)) [name] := by
  cases value with
  | none => exact List.nil_sublist _
  | some value => exact .refl _

theorem keys_highlight (requested : Option Highlight) :
    Sublist (Fields.keys (highlight requested))
      ["attributesToHighlight", "highlightPreTag", "highlightPostTag"] := by
  cases requested with
  | none => exact List.nil_sublist _
  | some requested => exact .refl _

theorem keys_facets (requested : List Facet) :
    Sublist (Fields.keys (facets requested)) ["facets"] := by
  unfold facets
  split
  · exact List.nil_sublist _
  · exact .refl _

theorem keys_switch (name : String) (on : Bool) :
    Sublist (Fields.keys (switch name on)) [name] := by
  cases on with
  | false => exact List.nil_sublist _
  | true => exact .refl _

/-- Parts behind one another keep to their keys behind one another. -/
theorem keys_append {part other : Fields} {names others : List String}
    (h : Sublist (Fields.keys part) names) (hother : Sublist (Fields.keys other) others) :
    Sublist (Fields.keys (part ++ other)) (names ++ others) := by
  rw [Fields.keys, List.map_append]
  exact h.append hother

/-- An optional value is there under its key, if there is one. -/
theorem get?_optional {α : Type} (name : String) (write : α → Json) (value : Option α)
    (key : String) :
    Fields.get? (optional name write value) key = if name = key then value.map write else none := by
  cases value <;> simp [optional, Fields.get?_cons]

/-- A switch is there exactly if it is on. -/
theorem get?_switch (name : String) (on : Bool) :
    Fields.get? (switch name on) name = if on then some (.bool true) else none := by
  cases on <;> simp [switch, Fields.get?_cons]

end Metasearch.Body
