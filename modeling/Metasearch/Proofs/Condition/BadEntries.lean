import Metasearch.Proofs.Condition.KeyOrder
import Metasearch.Proofs.Json.Sound
import Metasearch.Proofs.Payload.Filters

set_option autoImplicit false

/-! # Entries that cannot be read

What is wrong with an entry can be said without the reader: it has no kind that is known, a value
that is given for a field does not fit, a field without a default is missing, or what stands for the
conditions of a group is no list (`Bad`). Of a group nothing else is asked but that its own entries
are as they should be.

So a list is read exactly if there is no bad entry in it, at any depth (`readable_iff`): one costs
the group around it, and at last the list.
-/

namespace Metasearch.Condition

/-! ## Bad entries -/

/-- The fields of a kind that have no default: all but the field of a place. -/
def Tag.required : Tag → List String
  | .near => ["lat", "lng", "distance"]
  | .within => ["north", "east", "south", "west"]
  | tag => tag.slots.map Prod.fst

/-- What can be wrong with the values for the fields of a leaf. -/
inductive Defective (tag : Tag) (entries : Fields) : Prop where
  | misfit {name : String} {value : Json} {slot : Slot} {mistake : Mistake}
      (given : (name, value) ∈ entries) (field : tag.slot? name = some slot)
      (misfit : slot.check value = .error mistake)
  | missing {name : String} (required : name ∈ tag.required)
      (absent : Fields.get? entries name = none)

/-- **What can be wrong with an entry**, be it an object or a list. -/
inductive Bad (nested : Bool) : Json → Prop where
  | scalar {value : Json} (noList : ∀ items, value ≠ .array items)
      (noObject : ∀ entries, value ≠ .object entries) : Bad nested value
  | unknown {entries : Fields} {mistake : Mistake}
      (kind : tagOfEntries nested entries = .error mistake) : Bad nested (.object entries)
  | fields {entries : Fields} {tag : Tag} (kind : tagOfEntries nested entries = .ok tag)
      (defective : Defective tag entries) : Bad nested (.object entries)
  | conditions {entries : Fields} {connective : Connective} {value : Json}
      (kind : tagOfEntries nested entries = .ok (.group connective))
      (given : Fields.get? entries "conditions" = some value)
      (noList : ∀ items, value ≠ .array items) : Bad nested (.object entries)
  | empty : Bad nested (.array [])
  | unknownList {type : Json} {items : List Json} {mistake : Mistake}
      (kind : tagOf nested type = .error mistake) : Bad nested (.array (type :: items))
  | fieldsList {type : Json} {items : List Json} {tag : Tag} (kind : tagOf nested type = .ok tag)
      (defective : Defective tag ((tag.slots.map Prod.fst).zip items)) :
      Bad nested (.array (type :: items))
  | conditionsList {type value : Json} {items : List Json} {connective : Connective}
      (kind : tagOf nested type = .ok (.group connective))
      (noList : ∀ items, value ≠ .array items) : Bad nested (.array (type :: value :: items))
  | tooLong {type : Json} {items : List Json} {tag : Tag} (kind : tagOf nested type = .ok tag)
      (long : tag.size < items.length) : Bad nested (.array (type :: items))

/-! ## Leaves -/

section Leaf

variable {tag : Tag} {entries : Fields}

/-- A value that was given for a field and fits it is read, if its slot is checked by reading. -/
theorem exists_required {α : Type} (absent : String → Mistake) {name : String} {slot : Slot}
    {read : Json → Except Mistake α} (hcheck : checkEntries tag entries = .ok ())
    (hslot : tag.slot? name = some slot)
    (hread : ∀ value, slot.check value = (do let _ ← read value))
    (hgiven : ∃ value, Fields.get? entries name = some value) :
    ∃ value, require absent entries name = .ok value ∧ ∃ a, read value = .ok a := by
  obtain ⟨value, hvalue⟩ := hgiven
  have hfits := checkEntries_eq_ok.mp hcheck _ (Fields.mem_of_get? hvalue) _ hslot
  rw [hread] at hfits
  obtain ⟨a, ha, _⟩ := bind_eq_ok.mp hfits
  exact ⟨value, require_eq_ok.mpr hvalue, a, ha⟩

/-- The field of a place has a default. -/
theorem exists_geoField (hcheck : checkEntries tag entries = .ok ())
    (hslot : tag.slot? "field" = some .text) : ∃ field, geoField entries = .ok field := by
  rw [geoField]
  cases hvalue : Fields.get? entries "field" with
  | none => exact ⟨_, rfl⟩
  | some value =>
    have hfits := checkEntries_eq_ok.mp hcheck _ (Fields.mem_of_get? hvalue) _ hslot
    obtain ⟨field, hfield, _⟩ := bind_eq_ok.mp hfits
    exact ⟨field, hfield⟩

/-- Without defects the values fit, and there is one for each field without a default. -/
theorem checked_of_not_defective (h : ¬ Defective tag entries) :
    checkEntries tag entries = .ok ()
      ∧ ∀ name ∈ tag.required, ∃ value, Fields.get? entries name = some value := by
  constructor
  · refine checkEntries_eq_ok.mpr fun entry hentry slot hslot => ?_
    cases hcheck : slot.check entry.2 with
    | ok _ => rfl
    | error mistake => exact absurd (.misfit hentry hslot hcheck) h
  · intro name hname
    exact Option.ne_none_iff_exists'.mp fun hnone => h (.missing hname hnone)

variable {absent : String → Mistake}

theorem leafOf_of_not_defective (hleaf : ∀ connective, tag ≠ .group connective)
    (h : ¬ Defective tag entries) : ∃ c, leafOf absent tag entries = .ok c := by
  obtain ⟨hcheck, hgiven⟩ := checked_of_not_defective h
  -- each field in its turn, as the reader takes them
  cases tag with
  | search =>
    obtain ⟨_, hquery, query, hquery'⟩ :=
      exists_required absent hcheck rfl (fun _ => rfl) (hgiven "query" (by decide))
    simp only [leafOf, bind_eq_ok, pure_eq_ok]
    exact ⟨_, _, hcheck, _, hquery, _, hquery', rfl⟩
  | identifier =>
    obtain ⟨_, hid, id, hid'⟩ :=
      exists_required absent hcheck rfl (fun _ => rfl) (hgiven "id" (by decide))
    simp only [leafOf, bind_eq_ok, pure_eq_ok]
    exact ⟨_, _, hcheck, _, hid, _, hid', rfl⟩
  | compare comparison =>
    obtain ⟨_, hfield, field, hfield'⟩ := exists_required absent hcheck rfl (fun _ => rfl)
      (hgiven "field" (by simp [Tag.required, Tag.slots]))
    obtain ⟨_, hvalue⟩ := hgiven "value" (by simp [Tag.required, Tag.slots])
    simp only [leafOf, bind_eq_ok, pure_eq_ok]
    exact ⟨_, _, hcheck, _, hfield, _, hfield', _, require_eq_ok.mpr hvalue, rfl⟩
  | member membership =>
    obtain ⟨_, hfield, field, hfield'⟩ := exists_required absent hcheck rfl (fun _ => rfl)
      (hgiven "field" (by simp [Tag.required, Tag.slots]))
    obtain ⟨_, hvalues⟩ := hgiven "values" (by simp [Tag.required, Tag.slots])
    simp only [leafOf, bind_eq_ok, pure_eq_ok]
    exact ⟨_, _, hcheck, _, hfield, _, hfield', _, require_eq_ok.mpr hvalues, rfl⟩
  | near =>
    obtain ⟨field, hfield⟩ := exists_geoField hcheck rfl
    obtain ⟨_, hlat, lat, hlat'⟩ :=
      exists_required absent hcheck rfl (fun _ => rfl) (hgiven "lat" (by decide))
    obtain ⟨_, hlng, lng, hlng'⟩ :=
      exists_required absent hcheck rfl (fun _ => rfl) (hgiven "lng" (by decide))
    obtain ⟨_, hdistance, distance, hdistance'⟩ :=
      exists_required absent hcheck rfl (fun _ => rfl) (hgiven "distance" (by decide))
    simp only [leafOf, bind_eq_ok, pure_eq_ok]
    exact ⟨_, _, hcheck, _, hfield, _, hlat, _, hlat', _, hlng, _, hlng', _, hdistance, _,
      hdistance', rfl⟩
  | within =>
    obtain ⟨field, hfield⟩ := exists_geoField hcheck rfl
    obtain ⟨_, hnorth, north, hnorth'⟩ :=
      exists_required absent hcheck rfl (fun _ => rfl) (hgiven "north" (by decide))
    obtain ⟨_, heast, east, heast'⟩ :=
      exists_required absent hcheck rfl (fun _ => rfl) (hgiven "east" (by decide))
    obtain ⟨_, hsouth, south, hsouth'⟩ :=
      exists_required absent hcheck rfl (fun _ => rfl) (hgiven "south" (by decide))
    obtain ⟨_, hwest, west, hwest'⟩ :=
      exists_required absent hcheck rfl (fun _ => rfl) (hgiven "west" (by decide))
    simp only [leafOf, bind_eq_ok, pure_eq_ok]
    exact ⟨_, _, hcheck, _, hfield, _, hnorth, _, hnorth', _, heast, _, heast', _, hsouth, _,
      hsouth', _, hwest, _, hwest', rfl⟩
  | group connective => exact absurd rfl (hleaf connective)

/-- What has been read has a value for each field without a default. -/
theorem exists_of_leafOf {c : Condition} (h : leafOf absent tag entries = .ok c) :
    ∀ name ∈ tag.required, ∃ value, Fields.get? entries name = some value := by
  unfold leafOf at h
  obtain ⟨_, _, h⟩ := bind_eq_ok.mp h
  cases tag with
  | group connective => exact List.forall_mem_nil _
  | search =>
    simp only [bind_eq_ok, require_eq_ok] at h
    obtain ⟨_, hquery, _⟩ := h
    exact List.forall_mem_singleton.mpr ⟨_, hquery⟩
  | identifier =>
    simp only [bind_eq_ok, require_eq_ok] at h
    obtain ⟨_, hid, _⟩ := h
    exact List.forall_mem_singleton.mpr ⟨_, hid⟩
  | compare comparison =>
    simp only [bind_eq_ok, require_eq_ok] at h
    obtain ⟨_, hfield, _, _, _, hvalue, _⟩ := h
    simpa [Tag.required, Tag.slots] using ⟨⟨_, hfield⟩, _, hvalue⟩
  | member membership =>
    simp only [bind_eq_ok, require_eq_ok] at h
    obtain ⟨_, hfield, _, _, _, hvalues, _⟩ := h
    simpa [Tag.required, Tag.slots] using ⟨⟨_, hfield⟩, _, hvalues⟩
  | near =>
    simp only [bind_eq_ok, require_eq_ok] at h
    obtain ⟨_, _, _, hlat, _, _, _, hlng, _, _, _, hdistance, _⟩ := h
    simpa [Tag.required] using ⟨⟨_, hlat⟩, ⟨_, hlng⟩, _, hdistance⟩
  | within =>
    simp only [bind_eq_ok, require_eq_ok] at h
    obtain ⟨_, _, _, hnorth, _, _, _, heast, _, _, _, hsouth, _, _, _, hwest, _⟩ := h
    simpa [Tag.required] using ⟨⟨_, hnorth⟩, ⟨_, heast⟩, ⟨_, hsouth⟩, _, hwest⟩

/-- **A leaf is read exactly if nothing is wrong with its values.** -/
theorem leafOf_isOk_iff (hleaf : ∀ connective, tag ≠ .group connective) :
    (∃ c, leafOf absent tag entries = .ok c) ↔ ¬ Defective tag entries := by
  refine ⟨fun ⟨c, hc⟩ hdefective => ?_, leafOf_of_not_defective hleaf⟩
  cases hdefective with
  | misfit hgiven hslot hmisfit =>
    unfold leafOf at hc
    obtain ⟨⟨⟩, hcheck, _⟩ := bind_eq_ok.mp hc
    rw [checkEntries_eq_ok.mp hcheck _ hgiven _ hslot] at hmisfit
    cases hmisfit
  | missing hname hnone =>
    obtain ⟨value, hvalue⟩ := exists_of_leafOf hc _ hname
    rw [hnone] at hvalue
    cases hvalue

end Leaf

/-! ## Entries at any depth -/

/-- One of the entries of a group. -/
inductive MemberOf (nested : Bool) : Json → Json → Prop where
  | object {entries : Fields} {connective : Connective} {members : List Json} {entry : Json}
      (kind : tagOfEntries nested entries = .ok (.group connective))
      (given : Fields.get? entries "conditions" = some (.array members)) (mem : entry ∈ members) :
      MemberOf nested (.object entries) entry
  | list {type : Json} {connective : Connective} {members items : List Json} {entry : Json}
      (kind : tagOf nested type = .ok (.group connective)) (mem : entry ∈ members) :
      MemberOf nested (.array (type :: .array members :: items)) entry

/-- An entry, an entry of this group, one of a group in it, and so on. Below the first all are
nested. -/
inductive Within : Bool → Json → Bool → Json → Prop where
  | self (nested : Bool) (entry : Json) : Within nested entry nested entry
  | deeper {nested nested' : Bool} {entry member inner : Json} (mem : MemberOf nested entry member)
      (within : Within true member nested' inner) : Within nested entry nested' inner

/-- An entry that cannot be read costs the group around it. -/
theorem readable_of_memberOf {nested : Bool} {entry member : Json}
    (h : MemberOf nested entry member) {c : Condition} (hread : ofJson nested entry = .ok c) :
    ∃ d, ofJson true member = .ok d := by
  cases h with
  | object kind given mem =>
    rw [ofJson_object_of_group kind, conditionsOfEntries_eq, given] at hread
    obtain ⟨conditions, hmembers, _⟩ := map_eq_ok.mp hread
    exact allOf_isOk_iff.mp ⟨conditions, hmembers⟩ member mem
  | list kind mem =>
    obtain ⟨hgroup, _⟩ := (ofJson_list_of_group kind).mp hread
    obtain ⟨conditions, hmembers, _⟩ := map_eq_ok.mp hgroup
    exact allOf_isOk_iff.mp ⟨conditions, hmembers⟩ member mem

/-- A group has no fields that could be wrong. -/
theorem Defective.ne_group {tag : Tag} {entries : Fields} (h : Defective tag entries)
    (connective : Connective) : tag ≠ .group connective := by
  rintro rfl
  cases h with
  | misfit _ hslot _ => cases hslot
  | missing hname _ => cases hname

/-- **A bad entry cannot be read.** -/
theorem not_readable_of_bad {nested : Bool} {entry : Json} (h : Bad nested entry) (c : Condition) :
    ofJson nested entry ≠ .ok c := by
  intro hread
  cases h with
  | scalar noList noObject =>
    cases entry with
    | array items => exact noList items rfl
    | object entries => exact noObject entries rfl
    | _ => cases hread
  | unknown kind =>
    rw [ofJson_object_of_error kind] at hread
    cases hread
  | fields kind defective =>
    rw [ofJson_object_of_leaf kind defective.ne_group] at hread
    exact (leafOf_isOk_iff defective.ne_group).mp ⟨c, hread⟩ defective
  | conditions kind given noList =>
    rw [ofJson_object_of_group kind, conditionsOfEntries_eq, given] at hread
    obtain ⟨_, hlist, _⟩ := map_eq_ok.mp hread
    obtain ⟨items, hitems, _⟩ := listOf_eq_ok.mp hlist
    exact noList items hitems
  | empty => cases hread
  | unknownList kind =>
    rw [ofJson_list_of_error kind] at hread
    cases hread
  | fieldsList kind defective =>
    rw [ofJson_list_of_leaf kind defective.ne_group] at hread
    exact (leafOf_isOk_iff defective.ne_group).mp ⟨c, (leafOfItems_eq_ok.mp hread).1⟩ defective
  | conditionsList kind noList =>
    obtain ⟨hgroup, _⟩ := (ofJson_list_of_group kind).mp hread
    obtain ⟨_, hlist, _⟩ := map_eq_ok.mp hgroup
    obtain ⟨items, hitems, _⟩ := listOf_eq_ok.mp hlist
    exact noList items hitems
  | @tooLong type items tag kind long =>
    have hshort : items.length ≤ tag.size := by
      rcases tag.group_or_leaf with ⟨connective, rfl⟩ | hleaf
      · exact ((ofJson_list_of_group kind).mp hread).2
      · rw [ofJson_list_of_leaf kind hleaf] at hread
        exact (leafOfItems_eq_ok.mp hread).2
    exact Nat.not_lt.mpr hshort long

/-- An entry that can be read has no bad one in it. -/
theorem not_bad_of_readable {nested nested' : Bool} {entry inner : Json}
    (h : Within nested entry nested' inner) (hbad : Bad nested' inner) (c : Condition) :
    ofJson nested entry ≠ .ok c := by
  induction h generalizing c with
  | self nested entry => exact not_readable_of_bad hbad c
  | deeper mem _ ih =>
    intro hread
    obtain ⟨d, hd⟩ := readable_of_memberOf mem hread
    exact ih hbad d hd

/-- The conditions of a group can be read if its entries can, and there are none if they are left
out. -/
theorem groupOf_isOk {connective : Connective} {value? : Option Json}
    (h : ∀ value, value? = some value → ∃ items, value = .array items
      ∧ ∀ item ∈ items, ∃ c, ofJson true item = .ok c) :
    ∃ c, groupOf connective (value?.map (listOf true)) = .ok c := by
  cases value? with
  | none => exact ⟨_, rfl⟩
  | some value =>
    obtain ⟨items, rfl, hitems⟩ := h value rfl
    obtain ⟨conditions, hread⟩ := allOf_isOk_iff.mpr hitems
    exact ⟨_, map_eq_ok.mpr ⟨conditions, hread, rfl⟩⟩

/-- Nothing in an entry is bad. -/
def Faultless (nested : Bool) (entry : Json) : Prop :=
  ∀ nested' inner, Within nested entry nested' inner → ¬ Bad nested' inner

theorem Faultless.not_bad {nested : Bool} {entry : Json} (h : Faultless nested entry) :
    ¬ Bad nested entry := h nested entry (.self nested entry)

theorem Faultless.member {nested : Bool} {entry member : Json} (h : Faultless nested entry)
    (mem : MemberOf nested entry member) : Faultless true member := fun nested' inner hwithin =>
  h nested' inner (.deeper mem hwithin)

/-- **A faultless entry can be read.** -/
theorem readable_of_faultless (entry : Json) :
    (∀ nested, Faultless nested entry → ∃ c, ofJson nested entry = .ok c)
      ∧ ∀ items, entry = .array items → ∀ item ∈ items, ∀ nested, Faultless nested item →
        ∃ c, ofJson nested item = .ok c := by
  -- the entries of a group are the items of a list inside it, so both are needed
  induction entry using Json.induction with
  | scalar value harray hobject =>
    refine ⟨fun nested h => absurd (.scalar harray hobject) h.not_bad, fun items heq => ?_⟩
    exact absurd heq (harray items)
  | array items ih =>
    refine ⟨fun nested h => ?_, ?_⟩
    · cases items with
      | nil => exact absurd .empty h.not_bad
      | cons type items =>
        cases kind : tagOf nested type with
        | error mistake => exact absurd (.unknownList kind) h.not_bad
        | ok tag =>
          have hshort : items.length ≤ tag.size :=
            Nat.not_lt.mp fun hlong => h.not_bad (.tooLong kind hlong)
          rcases tag.group_or_leaf with ⟨connective, rfl⟩ | hleaf
          · have hgroup : ∃ c, groupOf connective (conditionsOfItems items) = .ok c := by
              rw [conditionsOfItems_eq]
              refine groupOf_isOk fun value hvalue => ?_
              obtain ⟨rest, rfl⟩ := List.head?_eq_some_iff.mp hvalue
              obtain ⟨members, rfl⟩ : ∃ members, value = .array members :=
                not_forall_not.mp fun noList => h.not_bad (.conditionsList kind noList)
              have hmem : Json.array members ∈ type :: .array members :: rest := by simp
              exact ⟨members, rfl, fun item hitem =>
                (ih _ hmem).2 members rfl item hitem true (h.member (.list kind hitem))⟩
            obtain ⟨c, hc⟩ := hgroup
            exact ⟨c, (ofJson_list_of_group kind).mpr ⟨hc, hshort⟩⟩
          · obtain ⟨c, hc⟩ := (leafOf_isOk_iff hleaf).mpr fun hdefective =>
              h.not_bad (.fieldsList kind hdefective)
            rw [ofJson_list_of_leaf kind hleaf]
            exact ⟨c, leafOfItems_eq_ok.mpr ⟨hc, hshort⟩⟩
    · rintro _ ⟨⟩ item hitem
      exact (ih item hitem).1
  | object entries ih =>
    refine ⟨fun nested h => ?_, fun items heq => by cases heq⟩
    cases kind : tagOfEntries nested entries with
    | error mistake => exact absurd (.unknown kind) h.not_bad
    | ok tag =>
      rcases tag.group_or_leaf with ⟨connective, rfl⟩ | hleaf
      · rw [ofJson_object_of_group kind, conditionsOfEntries_eq]
        refine groupOf_isOk fun value hvalue => ?_
        obtain ⟨members, rfl⟩ : ∃ members, value = .array members :=
          not_forall_not.mp fun noList => h.not_bad (.conditions kind hvalue noList)
        exact ⟨members, rfl, fun item hitem => (ih _ (Fields.mem_of_get? hvalue)).2 members rfl item
          hitem true (h.member (.object kind hvalue hitem))⟩
      · rw [ofJson_object_of_leaf kind hleaf]
        exact (leafOf_isOk_iff hleaf).mpr fun hdefective => h.not_bad (.fields kind hdefective)

/-- **An entry can be read exactly if nothing in it is bad.** -/
theorem readable_iff {nested : Bool} {entry : Json} :
    (∃ c, ofJson nested entry = .ok c) ↔ Faultless nested entry := by
  refine ⟨fun ⟨c, hc⟩ nested' inner hwithin hbad => ?_, (readable_of_faultless entry).1 nested⟩
  exact not_bad_of_readable hwithin hbad c hc

/-- **A list is rejected exactly if an entry in it is bad**, at whatever depth. -/
theorem rejected_iff {items : List Json} :
    (∃ mistake, parseList (.array items) = .error mistake)
      ↔ ∃ item ∈ items, ∃ nested entry, Within false item nested entry ∧ Bad nested entry := by
  have hread : (∃ conditions, parseList (.array items) = .ok conditions)
      ↔ ∀ item ∈ items, Faultless false item :=
    allOf_isOk_iff.trans (forall₂_congr fun _ _ => readable_iff)
  have hrejected : (∃ mistake, parseList (.array items) = .error mistake)
      ↔ ¬ ∃ conditions, parseList (.array items) = .ok conditions := by
    cases parseList (.array items) <;> simp
  rw [hrejected, hread]
  simp only [Faultless]
  push Not
  rfl

/-! ## Payloads -/

open SearchPayload (Declares readFilter readFilters)

theorem readFilter_of_rejected {entries extra : Fields} {key : String} {items : List Json}
    {mistake : Mistake} (hvalue : Fields.get? entries key = some (.array items))
    (h : parseList (.array items) = .error mistake) :
    readFilter entries ([], extra) key = .error mistake := by
  rw [readFilter, hvalue]
  simp only [List.isEmpty_nil, if_true, h]
  rfl

/-- **A payload with a rejected list is refused** with the mistake in the list. -/
theorem ofEntries_of_rejected {entries : Fields} {items : List Json}
    (hdeclares : Declares entries items) {mistake : Mistake}
    (h : parseList (.array items) = .error mistake) :
    SearchPayload.ofEntries entries = .error (.invalidFilter mistake) := by
  have hread : readFilters entries = .error mistake := by
    simp only [readFilters, SearchPayload.filterKeys, List.foldlM_cons, List.foldlM_nil]
    obtain ⟨_, hfilters | ⟨hfilters, hfilter⟩⟩ := hdeclares
    · rw [readFilter_of_rejected hfilters h]
      rfl
    · -- nothing is read from the first key, in each of the four cases
      have hfirst : ∃ extra, readFilter entries ([], SearchPayload.passthrough entries) "filters"
          = .ok ([], extra) := by
        rcases hfilters with hnone | hnull | hempty | ⟨text, htext⟩
        · exact ⟨_, by rw [readFilter, hnone]⟩
        · exact ⟨_, by rw [readFilter, hnull]⟩
        · exact ⟨_, by rw [readFilter, hempty]; rfl⟩
        · exact ⟨_, by rw [readFilter, htext]⟩
      obtain ⟨extra, hextra⟩ := hfirst
      rw [hextra]
      show (readFilter entries ([], extra) "filter" >>= pure) = _
      rw [readFilter_of_rejected hfilter h]
      rfl
  rw [SearchPayload.ofEntries, hread]

/-- **Keys in any order, and bad entries at any depth.** After any number of changes to the keys of
its entries a filter list is read if and only if it was before, and then as the same conditions. A
list is rejected exactly if an entry in it is bad, at whatever depth, and this refuses every payload
that declares it. -/
theorem key_order_and_bad_entries :
    (∀ list list', Rekeyed list list' → ∀ conditions,
      parseList list = .ok conditions ↔ parseList list' = .ok conditions)
    ∧ ∀ items,
      ((∃ mistake, parseList (.array items) = .error mistake)
        ↔ ∃ item ∈ items, ∃ nested entry, Within false item nested entry ∧ Bad nested entry)
      ∧ ∀ mistake, parseList (.array items) = .error mistake → ∀ entries, Declares entries items →
        SearchPayload.ofEntries entries = .error (.invalidFilter mistake) :=
  ⟨fun _ _ hrekeyed => agree_of_rekeyed hrekeyed,
    fun _ => ⟨rejected_iff, fun _ hrejected _ hdeclares =>
      ofEntries_of_rejected hdeclares hrejected⟩⟩

/-! ### A group of novels -/

/-- A group with one entry, the type in front. -/
def groupedNovel : Json :=
  .array [.object [("type", .string "and"), ("conditions", .array [
    .object [("type", .string "equal"), ("field", .string "genre"),
      ("value", .string "novel")]])]]

/-- The same with the types behind, and with a note on the group. -/
def notedNovel : Json :=
  .array [.object [("conditions", .array [
      .object [("field", .string "genre"), ("value", .string "novel"),
        ("type", .string "equal")]]), ("type", .string "and"), ("note", .string "only novels")]]

/-- An entry of an unknown kind. -/
def regexEntry : Json := .object [("type", .string "regex"), ("field", .string "title")]

/-- A group with one entry. -/
def groupAround (connective : Connective) (entry : Json) : Json :=
  .object [("type", .string (Tag.group connective).name), ("conditions", .array [entry])]

/-- The entry of an unknown kind inside a group inside a group. -/
def deepMistake : List Json := [groupAround .disjunction (groupAround .conjunction regexEntry)]

theorem memberOf_groupAround (nested : Bool) (connective : Connective) (entry : Json) :
    MemberOf nested (groupAround connective entry) entry :=
  .object (tagOfEntries_type nested (.group connective) _) rfl List.mem_cons_self

theorem rekeyed_novel : Rekeyed groupedNovel notedNovel := by
  have hentry : Fields.Reordered
      [("type", .string "equal"), ("field", .string "genre"), ("value", .string "novel")]
      [("field", .string "genre"), ("value", .string "novel"), ("type", .string "equal")] :=
    ⟨by decide, (List.perm_append_singleton _ _).symm⟩
  have hgroup : Fields.Reordered
      [("type", .string "and"), ("conditions", .array [.object [("field", .string "genre"),
        ("value", .string "novel"), ("type", .string "equal")]])]
      [("conditions", .array [.object [("field", .string "genre"), ("value", .string "novel"),
        ("type", .string "equal")]]), ("type", .string "and")] :=
    ⟨by decide, .swap _ _ _⟩
  -- first the entry inside, then the group, and last the note
  refine .head (.entry [] [] (.inside [("type", .string "and")] [] [] [] (.reorder hentry))) ?_
  refine .head (.entry [] [] (.reorder hgroup)) ?_
  refine .single (.entry [] [] (.add (.string "only novels") (by decide) ⟨by decide, ?_⟩))
  rintro tag ⟨⟩
  decide

/-- The group is read as before, and the mistake costs the list and the payload around it. -/
theorem noted_novel_is_read :
    parseList notedNovel
        = .ok [.group .conjunction [.compare "genre" .equal (.string "novel")]]
      ∧ ∃ mistake, parseList (.array deepMistake) = .error mistake
        ∧ SearchPayload.ofEntries [("index", .string "books"), ("filters", .array deepMistake)]
          = .error (.invalidFilter mistake) := by
  obtain ⟨hrekeyed, hlists⟩ := key_order_and_bad_entries
  obtain ⟨hrejected, hrefused⟩ := hlists deepMistake
  have hwithin : Within false (groupAround .disjunction (groupAround .conjunction regexEntry)) true
      regexEntry :=
    .deeper (memberOf_groupAround _ _ _) (.deeper (memberOf_groupAround _ _ _) (.self _ _))
  obtain ⟨mistake, hmistake⟩ := hrejected.mpr
    ⟨_, List.mem_cons_self, true, _, hwithin, .unknown rfl⟩
  refine ⟨(hrekeyed _ _ rekeyed_novel _).mp rfl, mistake, hmistake, ?_⟩
  exact hrefused mistake hmistake _ ⟨by simp [deepMistake], .inl rfl⟩

end Metasearch.Condition
