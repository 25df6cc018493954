import Mathlib.Logic.Relation
import Metasearch.Proofs.Condition.Reading
import Metasearch.Proofs.Json.Unordered

set_option autoImplicit false

/-! # The keys of entries

An entry of a filter list is an object, and its keys may stand in any order and beside keys that are
no fields of its kind. The reader goes over them as they stand and reports the first mistake that it
meets, so which mistake is reported depends on their order. Whether there is one does not, and
neither does what is read: the values that are given are all checked, and the fields are looked up
by their names (`agree_leafOf`).

An entry may be a group with entries of its own, so a change to the keys of one is a change inside
others (`Rekeys`). Two readings are compared by what they accept (`Agree`), and groups and lists
carry this over from their entries.
-/

namespace Metasearch

/-- Two results are the same if one of them is a success. -/
def Agree {ε α : Type} (x y : Except ε α) : Prop := ∀ a, x = .ok a ↔ y = .ok a

namespace Agree

variable {ε α β : Type} {x y : Except ε α}

theorem refl (x : Except ε α) : Agree x x := fun _ => .rfl

theorem bind (h : Agree x y) {f g : α → Except ε β} (hstep : ∀ a, Agree (f a) (g a)) :
    Agree (x >>= f) (y >>= g) := fun b => by
  rw [bind_eq_ok, bind_eq_ok]
  exact exists_congr fun a => and_congr (h a) (hstep a b)

theorem map (h : Agree x y) (f : α → β) : Agree (x.map f) (y.map f) := fun b => by
  rw [map_eq_ok, map_eq_ok]
  exact exists_congr fun a => and_congr_left fun _ => h a

end Agree

namespace Condition

/-! ## Leaves -/

/-- What is read of a leaf depends on whether its values fit and on what stands under the names of
its fields. -/
theorem agree_leafOf {absent : String → Mistake} {tag : Tag} {entries others : Fields}
    (hcheck : checkEntries tag entries = .ok () ↔ checkEntries tag others = .ok ())
    (hget : ∀ name ∈ tag.slots.map Prod.fst, Fields.get? entries name = Fields.get? others name) :
    Agree (leafOf absent tag entries) (leafOf absent tag others) := by
  unfold leafOf
  refine Agree.bind (fun _ => hcheck) fun _ => ?_
  cases tag with
  | group connective => exact .refl _
  | _ =>
    simp only [Tag.slots, List.map_cons, List.map_nil, List.forall_mem_cons] at hget
    simp only [require, geoField, hget]
    exact .refl _

/-! ## Groups and lists -/

/-- An object is read as its kind has it. -/
theorem agree_ofJson_object {nested : Bool} {entries others : Fields}
    (htype : tagOfEntries nested entries = tagOfEntries nested others)
    (hgroup : ∀ connective, tagOfEntries nested entries = .ok (.group connective) →
      Agree (groupOf connective (conditionsOfEntries entries))
        (groupOf connective (conditionsOfEntries others)))
    (hleaf : ∀ tag, tagOfEntries nested entries = .ok tag →
      (∀ connective, tag ≠ .group connective) →
      Agree (leafOf .missingField tag entries) (leafOf .missingField tag others)) :
    Agree (ofJson nested (.object entries)) (ofJson nested (.object others)) := by
  cases htag : tagOfEntries nested entries with
  | error mistake =>
    rw [ofJson_object_of_error htag, ofJson_object_of_error (htype ▸ htag)]
    exact .refl _
  | ok tag =>
    rcases tag.group_or_leaf with ⟨connective, rfl⟩ | hplain
    · rw [ofJson_object_of_group htag, ofJson_object_of_group (htype ▸ htag)]
      exact hgroup connective htag
    · rw [ofJson_object_of_leaf htag hplain, ofJson_object_of_leaf (htype ▸ htag) hplain]
      exact hleaf tag htag hplain

/-- A list is read as its items are. -/
theorem agree_allOf {nested : Bool} {item item' : Json}
    (h : Agree (ofJson nested item) (ofJson nested item')) (earlier later : List Json) :
    Agree (allOf nested (earlier ++ item :: later)) (allOf nested (earlier ++ item' :: later)) := by
  induction earlier with
  | nil => exact h.bind fun _ => .refl _
  | cons first earlier ih => exact (Agree.refl _).bind fun _ => ih.bind fun _ => .refl _

/-! ## Changes to keys -/

/-- The names of the fields of a kind. -/
def Tag.fieldNames : Tag → List String
  | .group _ => ["conditions"]
  | tag => tag.slots.map Prod.fst

/-- A key that is neither the type of an entry nor a field of its kind. An entry without a kind has
no fields. -/
def Unknown (nested : Bool) (entries : Fields) (key : String) : Prop :=
  key ≠ "type" ∧ ∀ tag, tagOfEntries nested entries = .ok tag → key ∉ tag.fieldNames

/-- **One change to the keys of an entry**: they are put in another order, one that is unknown is
added, or an entry inside the conditions is changed. A group may also be given as a list, with its
conditions in the second place. -/
inductive Rekeys : Bool → Json → Json → Prop where
  | reorder {nested : Bool} {entries others : Fields} (order : Fields.Reordered entries others) :
      Rekeys nested (.object entries) (.object others)
  | add {nested : Bool} {entries : Fields} {key : String} (value : Json)
      (fresh : key ∉ Fields.keys entries) (unknown : Unknown nested entries key) :
      Rekeys nested (.object entries) (.object (entries ++ [(key, value)]))
  | inside {nested : Bool} (before after : Fields) (earlier later : List Json) {item item' : Json}
      (change : Rekeys true item item') :
      Rekeys nested
        (.object (before ++ ("conditions", .array (earlier ++ item :: later)) :: after))
        (.object (before ++ ("conditions", .array (earlier ++ item' :: later)) :: after))
  | listed {nested : Bool} {type : Json} {connective : Connective}
      (group : tagOf nested type = .ok (.group connective)) (earlier later rest : List Json)
      {item item' : Json} (change : Rekeys true item item') :
      Rekeys nested (.array (type :: .array (earlier ++ item :: later) :: rest))
        (.array (type :: .array (earlier ++ item' :: later) :: rest))

theorem tagOfEntries_congr {entries others : Fields}
    (h : Fields.get? entries "type" = Fields.get? others "type") (nested : Bool) :
    tagOfEntries nested entries = tagOfEntries nested others := by
  rw [tagOfEntries, h, tagOfEntries]

/-- No leaf has a field for conditions. -/
theorem conditions_not_mem_slots (tag : Tag) : "conditions" ∉ tag.slots.map Prod.fst := by
  cases tag <;> simp [Tag.slots]

/-- Another value under the conditions is seen under no other name. -/
theorem get?_inside {name : String} (h : name ≠ "conditions") (before after : Fields)
    (value value' : Json) :
    Fields.get? (before ++ ("conditions", value) :: after) name
      = Fields.get? (before ++ ("conditions", value') :: after) name := by
  rw [Fields.get?_append, Fields.get?_append, Fields.get?_cons, Fields.get?_cons, if_neg h.symm,
    if_neg h.symm]

theorem agree_reorder {nested : Bool} {entries others : Fields}
    (order : Fields.Reordered entries others) :
    Agree (ofJson nested (.object entries)) (ofJson nested (.object others)) := by
  refine agree_ofJson_object (tagOfEntries_congr (order.get?_eq "type") nested) ?_ ?_
  · intro connective _
    rw [conditionsOfEntries_eq, conditionsOfEntries_eq, order.get?_eq]
    exact .refl _
  · intro tag _ _
    refine agree_leafOf ?_ fun name _ => order.get?_eq name
    rw [checkEntries_eq_ok, checkEntries_eq_ok]
    exact forall_congr' fun entry => imp_congr_left order.perm.mem_iff

theorem agree_add {nested : Bool} {entries : Fields} {key : String} (value : Json)
    (unknown : Unknown nested entries key) :
    Agree (ofJson nested (.object entries))
      (ofJson nested (.object (entries ++ [(key, value)]))) := by
  obtain ⟨htype, hfields⟩ := unknown
  have hget : ∀ name ≠ key,
      Fields.get? entries name = Fields.get? (entries ++ [(key, value)]) name := by
    intro name hname
    rw [Fields.get?_append, Fields.get?_cons, if_neg hname.symm, Fields.get?_nil, Option.or_none]
  refine agree_ofJson_object (tagOfEntries_congr (hget "type" htype.symm) nested) ?_ ?_
  · intro connective htag
    have hkey : "conditions" ≠ key := fun heq => hfields _ htag (heq ▸ List.mem_singleton.mpr rfl)
    rw [conditionsOfEntries_eq, conditionsOfEntries_eq, hget _ hkey]
    exact .refl _
  · intro tag htag hleaf
    have hkey : key ∉ tag.slots.map Prod.fst := by
      cases tag with
      | group connective => exact absurd rfl (hleaf connective)
      | _ => exact hfields _ htag
    refine agree_leafOf ?_ fun name hname => hget name fun heq => hkey (heq ▸ hname)
    rw [checkEntries_of_no_field hkey, List.append_nil]

theorem agree_inside {nested : Bool} (before after : Fields) (earlier later : List Json)
    {item item' : Json} (h : Agree (ofJson true item) (ofJson true item')) :
    Agree
      (ofJson nested (.object
        (before ++ ("conditions", .array (earlier ++ item :: later)) :: after)))
      (ofJson nested (.object
        (before ++ ("conditions", .array (earlier ++ item' :: later)) :: after))) := by
  refine agree_ofJson_object
    (tagOfEntries_congr (get?_inside (by decide) before after _ _) nested) ?_ ?_
  · intro connective _
    rw [conditionsOfEntries_eq, conditionsOfEntries_eq, Fields.get?_append, Fields.get?_append,
      Fields.get?_cons, Fields.get?_cons, if_pos rfl, if_pos rfl]
    cases Fields.get? before "conditions" with
    | some _ => exact .refl _
    | none => exact (agree_allOf h earlier later).map _
  · intro tag _ _
    have hconditions := conditions_not_mem_slots tag
    refine agree_leafOf ?_ fun name hname =>
      get?_inside (fun heq => hconditions (heq ▸ hname)) before after _ _
    rw [checkEntries_of_no_field hconditions, checkEntries_of_no_field hconditions]

theorem agree_listed {nested : Bool} {type : Json} {connective : Connective}
    (group : tagOf nested type = .ok (.group connective)) (earlier later rest : List Json)
    {item item' : Json} (h : Agree (ofJson true item) (ofJson true item')) :
    Agree (ofJson nested (.array (type :: .array (earlier ++ item :: later) :: rest)))
      (ofJson nested (.array (type :: .array (earlier ++ item' :: later) :: rest))) := by
  intro c
  rw [ofJson_list_of_group group, ofJson_list_of_group group]
  exact and_congr_left fun _ => (agree_allOf h earlier later).map _ c

/-- **One change** to the keys of an entry leaves its reading alone. -/
theorem Rekeys.agree {nested : Bool} {entry entry' : Json} (h : Rekeys nested entry entry') :
    Agree (ofJson nested entry) (ofJson nested entry') := by
  induction h with
  | reorder order => exact agree_reorder order
  | add value _ unknown => exact agree_add value unknown
  | inside before after earlier later _ ih => exact agree_inside before after earlier later ih
  | listed group earlier later rest _ ih => exact agree_listed group earlier later rest ih

/-! ## Filter lists -/

/-- One change to the keys of an entry of a filter list. -/
inductive RekeysList : Json → Json → Prop where
  | entry (earlier later : List Json) {item item' : Json} (change : Rekeys false item item') :
      RekeysList (.array (earlier ++ item :: later)) (.array (earlier ++ item' :: later))

/-- A filter list after any number of changes to the keys of its entries. -/
def Rekeyed : Json → Json → Prop := Relation.ReflTransGen RekeysList

theorem RekeysList.agree {list list' : Json} (h : RekeysList list list') :
    Agree (parseList list) (parseList list') := by
  cases h with
  | entry earlier later change => exact agree_allOf change.agree earlier later

/-- **Any number of changes** to the keys of entries leaves the reading of a list alone. -/
theorem agree_of_rekeyed {list list' : Json} (h : Rekeyed list list') :
    Agree (parseList list) (parseList list') := by
  induction h with
  | refl => exact .refl _
  | tail _ change ih => exact fun conditions => (ih conditions).trans (change.agree conditions)

end Condition

end Metasearch
