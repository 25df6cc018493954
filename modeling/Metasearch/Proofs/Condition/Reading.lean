import Metasearch.Condition.Reader
import Metasearch.Proofs.Json.Fields
import Metasearch.Proofs.Stepwise

set_option autoImplicit false

/-! # Reading one entry

An entry is read by its kind: a leaf from the values of its fields, a group from the entries inside
it. Each step of the reader is described here once, by what it accepts. So nothing later has to
follow the order in which the reader goes over an entry.
-/

namespace Metasearch.Condition

/-! ## Kinds -/

theorem Tag.group_or_leaf (tag : Tag) :
    (∃ connective, tag = .group connective) ∨ ∀ connective, tag ≠ .group connective :=
  (em _).imp_right fun hnone connective heq => hnone ⟨connective, heq⟩

/-- The kind of an entry with its type in front. -/
theorem tagOfEntries_type (nested : Bool) (tag : Tag) (entries : Fields) :
    tagOfEntries nested (("type", .string tag.name) :: entries) = .ok tag := by
  rw [tagOfEntries, Fields.get?_cons, if_pos rfl]
  show tagOf nested (.string tag.name) = .ok tag
  rw [tagOf, Tag.ofName?_name]

section Kinds

variable {nested : Bool} {tag : Tag} {connective : Connective}

theorem ofJson_object_of_error {entries : Fields} {mistake : Mistake}
    (h : tagOfEntries nested entries = .error mistake) :
    ofJson nested (.object entries) = .error mistake := by
  rw [ofJson, h]
  rfl

theorem ofJson_object_of_leaf {entries : Fields} (kind : tagOfEntries nested entries = .ok tag)
    (hleaf : ∀ connective, tag ≠ .group connective) :
    ofJson nested (.object entries) = leafOf .missingField tag entries := by
  rw [ofJson, kind]
  cases tag with
  | group connective => exact absurd rfl (hleaf connective)
  | _ => rfl

theorem ofJson_object_of_group {entries : Fields}
    (kind : tagOfEntries nested entries = .ok (.group connective)) :
    ofJson nested (.object entries) = groupOf connective (conditionsOfEntries entries) := by
  rw [ofJson, kind]
  rfl

theorem ofJson_list_of_error {type : Json} {items : List Json} {mistake : Mistake}
    (h : tagOf nested type = .error mistake) :
    ofJson nested (.array (type :: items)) = .error mistake := by
  rw [ofJson, h]
  rfl

theorem ofJson_list_of_leaf {type : Json} {items : List Json} (kind : tagOf nested type = .ok tag)
    (hleaf : ∀ connective, tag ≠ .group connective) :
    ofJson nested (.array (type :: items)) = leafOfItems tag items := by
  rw [ofJson, kind]
  cases tag with
  | group connective => exact absurd rfl (hleaf connective)
  | _ => rfl

/-- A group that is given as a list has its conditions in the second place, and nothing behind
them. -/
theorem ofJson_list_of_group {type : Json} {items : List Json}
    (kind : tagOf nested type = .ok (.group connective)) {c : Condition} :
    ofJson nested (.array (type :: items)) = .ok c
      ↔ groupOf connective (conditionsOfItems items) = .ok c ∧ items.length ≤ 1 := by
  rw [ofJson, kind]
  show (groupOf connective (conditionsOfItems items) >>= _) = .ok c ↔ _
  simp only [bind_eq_ok, guarded_eq_ok, Nat.not_lt]
  exact ⟨fun ⟨_, hgroup, hshort, heq⟩ => ⟨heq ▸ hgroup, hshort⟩,
    fun ⟨hgroup, hshort⟩ => ⟨c, hgroup, hshort, rfl⟩⟩

theorem leafOfItems_eq_ok {items : List Json} {c : Condition} :
    leafOfItems tag items = .ok c
      ↔ leafOf (tooShortFor tag) tag ((tag.slots.map Prod.fst).zip items) = .ok c
        ∧ items.length ≤ tag.size := by
  unfold leafOfItems
  simp only [bind_eq_ok, guarded_eq_ok, Nat.not_lt]
  exact ⟨fun ⟨_, hleaf, hshort, heq⟩ => ⟨heq ▸ hleaf, hshort⟩,
    fun ⟨hleaf, hshort⟩ => ⟨c, hleaf, hshort, rfl⟩⟩

end Kinds

/-! ## The values of a leaf -/

theorem slot?_eq_none {tag : Tag} {key : String} (h : key ∉ tag.slots.map Prod.fst) :
    tag.slot? key = none := by
  have hnone : (tag.slots.find? fun slot => slot.1 == key) = none :=
    List.find?_eq_none.mpr fun slot hslot heq =>
      h (List.mem_map.mpr ⟨slot, hslot, beq_iff_eq.mp heq⟩)
  rw [Tag.slot?, hnone]
  rfl

/-- **All values that are given for fields must fit**, in whatever order they are given. -/
theorem checkEntries_eq_ok {tag : Tag} {entries : Fields} :
    checkEntries tag entries = .ok ()
      ↔ ∀ entry ∈ entries, ∀ slot, tag.slot? entry.1 = some slot → slot.check entry.2 = .ok () := by
  induction entries with
  | nil => simp [checkEntries]
  | cons entry rest ih =>
    obtain ⟨name, value⟩ := entry
    rw [checkEntries, List.forall_mem_cons, ← ih]
    cases hslot : tag.slot? name with
    | none => simp
    | some slot =>
      rw [bind_eq_ok]
      constructor
      · rintro ⟨⟨⟩, hfirst, hrest⟩
        refine ⟨fun other hother => ?_, hrest⟩
        obtain rfl := Option.some.inj hother
        exact hfirst
      · rintro ⟨hfirst, hrest⟩
        exact ⟨(), hfirst slot rfl, hrest⟩

/-- A value under a name that is no field is not checked. -/
theorem checkEntries_of_no_field {tag : Tag} {key : String} (h : key ∉ tag.slots.map Prod.fst)
    (value : Json) (before after : Fields) :
    checkEntries tag (before ++ (key, value) :: after) = .ok ()
      ↔ checkEntries tag (before ++ after) = .ok () := by
  have hfree : ∀ slot, tag.slot? key = some slot → slot.check value = .ok () := fun slot hslot => by
    rw [slot?_eq_none h] at hslot
    cases hslot
  rw [checkEntries_eq_ok, checkEntries_eq_ok, List.forall_mem_append, List.forall_mem_append,
    List.forall_mem_cons]
  exact and_congr_right fun _ => and_iff_right hfree

theorem require_eq_ok {absent : String → Mistake} {entries : Fields} {name : String}
    {value : Json} :
    require absent entries name = .ok value ↔ Fields.get? entries name = some value := by
  rw [require]
  cases Fields.get? entries name <;> simp

/-! ## The entries of a group -/

theorem conditionsOfEntries_eq (entries : Fields) :
    conditionsOfEntries entries = (Fields.get? entries "conditions").map (listOf true) := by
  induction entries with
  | nil => rfl
  | cons entry rest ih =>
    obtain ⟨name, value⟩ := entry
    rw [conditionsOfEntries, Fields.get?_cons, ih]
    split <;> rfl

theorem conditionsOfItems_eq (items : List Json) :
    conditionsOfItems items = items.head?.map (listOf true) := by
  cases items <;> rfl

/-- Only a list is read as conditions. -/
theorem listOf_eq_ok {nested : Bool} {value : Json} {conditions : List Condition} :
    listOf nested value = .ok conditions
      ↔ ∃ items, value = .array items ∧ allOf nested items = .ok conditions := by
  cases value <;> simp [listOf]

/-- A list is read item by item. -/
theorem allOf_eq_ok {nested : Bool} {items : List Json} {conditions : List Condition} :
    allOf nested items = .ok conditions
      ↔ List.Forall₂ (fun item c => ofJson nested item = .ok c) items conditions :=
  itemwise_eq_ok (ofJson nested) (allOf nested) rfl fun _ _ => rfl

/-- **A list is read if all its items are.** -/
theorem allOf_isOk_iff {nested : Bool} {items : List Json} :
    (∃ conditions, allOf nested items = .ok conditions)
      ↔ ∀ item ∈ items, ∃ c, ofJson nested item = .ok c := by
  simp only [allOf_eq_ok]
  constructor
  · rintro ⟨conditions, hread⟩ item hitem
    obtain ⟨c, _, hc⟩ := forall₂_exists_right hread item hitem
    exact ⟨c, hc⟩
  · exact exists_forall₂

end Metasearch.Condition
