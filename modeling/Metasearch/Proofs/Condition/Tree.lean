import Metasearch.Condition.Basic

set_option autoImplicit false

/-! # Places in a condition

What a filter language admits often depends on where in the tree something stands: an engine
may take a position at the top and refuse it inside a group. `Below` and `Occurs` speak of
such places without reference to any compiler. Both unfold one level at a time
(`below_group`, `occurs_group`), which is how an induction over the tree uses them. What occurs
and is no group is a leaf, and the leaves have an order (`leaves`).
-/

namespace Metasearch.Condition

/-- **Induction over a condition**: a group may be taken to have members of which the
statement holds already. -/
theorem induction {P : Condition → Prop}
    (leaf : ∀ c, (∀ connective members, c ≠ .group connective members) → P c)
    (group : ∀ connective members, (∀ c ∈ members, P c) → P (.group connective members))
    (c : Condition) : P c := by
  -- the statement about a list of members is the statement about each of them
  refine @Condition.rec P (fun members => ∀ c ∈ members, P c) ?_ ?_ ?_ ?_ ?_ ?_ ?_ ?_ ?_ c
  · exact fun query => leaf _ (by simp)
  · exact fun id => leaf _ (by simp)
  · exact fun field comparison value => leaf _ (by simp)
  · exact fun field membership values => leaf _ (by simp)
  · exact fun field lat lng distance => leaf _ (by simp)
  · exact fun field box => leaf _ (by simp)
  · exact fun connective members ih => group connective members ih
  · intro c hc
    cases hc
  · intro c members hc hmembers d hd
    rcases List.mem_cons.mp hd with rfl | hd
    · exact hc
    · exact hmembers d hd

/-- Whether a condition asks for a place on the map. -/
def isGeo : Condition → Bool
  | .near _ _ _ _ => true
  | .within _ _ => true
  | _ => false

/-- `d` is a member of the group `c`, or a member of a member, and so on. -/
inductive Below (d : Condition) : Condition → Prop
  | member {connective : Connective} {members : List Condition} :
      d ∈ members → Below d (.group connective members)
  | deeper {connective : Connective} {members : List Condition} {c : Condition} :
      c ∈ members → Below d c → Below d (.group connective members)

/-- `d` is `c` itself or lies below it. -/
def Occurs (d c : Condition) : Prop := d = c ∨ Below d c

theorem occurs_self (c : Condition) : Occurs c c := Or.inl rfl

theorem below_group {d : Condition} {connective : Connective} {members : List Condition} :
    Below d (.group connective members) ↔ ∃ c ∈ members, Occurs d c := by
  constructor
  · intro h
    cases h with
    | member hd => exact ⟨d, hd, occurs_self d⟩
    | deeper hc hd => exact ⟨_, hc, Or.inr hd⟩
  · rintro ⟨c, hc, rfl | hd⟩
    · exact .member hc
    · exact .deeper hc hd

theorem occurs_group {d : Condition} {connective : Connective} {members : List Condition} :
    Occurs d (.group connective members) ↔
      d = .group connective members ∨ ∃ c ∈ members, Occurs d c := by
  rw [Occurs, below_group]

/-- Nothing lies below a condition that is no group. -/
theorem not_below_of_leaf {c : Condition}
    (hleaf : ∀ connective members, c ≠ .group connective members) (d : Condition) :
    ¬ Below d c := by
  intro h
  cases h with
  | member _ => exact hleaf _ _ rfl
  | deeper _ _ => exact hleaf _ _ rfl

theorem occurs_of_leaf {c d : Condition}
    (hleaf : ∀ connective members, c ≠ .group connective members) : Occurs d c ↔ d = c :=
  or_iff_left (not_below_of_leaf hleaf d)

/-! ## The leaves of a tree -/

mutual

/-- The conditions in a tree that are no groups, from left to right. -/
def leaves : Condition → List Condition
  | .group _ conditions => leavesOfAll conditions
  | leaf => [leaf]

def leavesOfAll : List Condition → List Condition
  | [] => []
  | condition :: rest => leaves condition ++ leavesOfAll rest

end

theorem leaves_group (connective : Connective) (members : List Condition) :
    leaves (.group connective members) = members.flatMap leaves := by
  rw [leaves]
  induction members with
  | nil => rfl
  | cons c members ih => rw [leavesOfAll, ih, List.flatMap_cons]

theorem leaves_of_leaf {c : Condition}
    (hleaf : ∀ connective members, c ≠ .group connective members) : leaves c = [c] := by
  cases c with
  | group connective members => exact absurd rfl (hleaf connective members)
  | _ => rfl

/-- The leaves are what occurs in a tree and is no group. -/
theorem mem_leaves {d c : Condition} :
    d ∈ leaves c ↔ Occurs d c ∧ ∀ connective members, d ≠ .group connective members := by
  induction c using Condition.induction with
  | leaf c hleaf =>
    rw [leaves_of_leaf hleaf, List.mem_singleton, occurs_of_leaf hleaf]
    constructor
    · rintro rfl
      exact ⟨rfl, hleaf⟩
    · exact And.left
  | group connective members ih =>
    rw [leaves_group, List.mem_flatMap, occurs_group]
    constructor
    · rintro ⟨c, hc, hd⟩
      obtain ⟨hoccurs, hleaf⟩ := (ih c hc).mp hd
      exact ⟨Or.inr ⟨c, hc, hoccurs⟩, hleaf⟩
    · rintro ⟨rfl | ⟨c, hc, hoccurs⟩, hleaf⟩
      · exact absurd rfl (hleaf connective members)
      · exact ⟨c, hc, (ih c hc).mpr ⟨hoccurs, hleaf⟩⟩

/-! ## The fields of a tree -/

theorem mem_fieldsOfAll {field : String} {conditions : List Condition} :
    field ∈ fieldsOfAll conditions ↔ ∃ c ∈ conditions, field ∈ c.fields := by
  induction conditions with
  | nil => simp [fieldsOfAll]
  | cons c conditions ih => simp [fieldsOfAll, ih]

theorem fields_group (connective : Connective) (members : List Condition) :
    fields (.group connective members) = fieldsOfAll members := by
  rw [fields]

end Metasearch.Condition
