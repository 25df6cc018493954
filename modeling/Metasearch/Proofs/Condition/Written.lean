import Metasearch.Condition.Reader
import Metasearch.Condition.Writer
import Metasearch.Proofs.Condition.Reading
import Metasearch.Proofs.Condition.Tree
import Metasearch.Proofs.Json.Fields
import Metasearch.Proofs.Json.Sound
import Metasearch.Proofs.Stepwise

set_option autoImplicit false

/-! # Conditions are read as they were written

A condition has many accepted forms: an object or a list, a scalar where values are expected, a
number for an identifier, a geographic field that is left out. Writing gives one of them, and
reading undoes writing (`ofJson_toJson`). So whatever is read can be written and read again without
a change: reading settles the form.

Numbers of a place must be finite, for others have no written form. Those that are read from a
sound value always are (`finitePlaces_of_ofJson`).
-/

namespace Metasearch.Condition

/-! ## Finite places -/

/-- The numbers of the place that a condition asks for. -/
def geoNumbers : Condition → List Float
  | .near _ lat lng distance => [lat, lng, distance]
  | .within _ box => [box.north, box.east, box.south, box.west]
  | _ => []

/-- All numbers of places in a tree are finite. -/
def FinitePlaces (c : Condition) : Prop :=
  ∀ d, Occurs d c → ∀ number ∈ d.geoNumbers, number.isFinite = true

theorem finitePlaces_group {connective : Connective} {members : List Condition} :
    FinitePlaces (.group connective members) ↔ ∀ c ∈ members, FinitePlaces c := by
  constructor
  · intro h c hc d hd
    exact h d (occurs_group.mpr (.inr ⟨c, hc, hd⟩))
  · intro h d hd
    rcases occurs_group.mp hd with rfl | ⟨c, hc, hd⟩
    · exact List.forall_mem_nil _
    · exact h c hc d hd

theorem finitePlaces_leaf {c : Condition}
    (hleaf : ∀ connective members, c ≠ .group connective members) :
    FinitePlaces c ↔ ∀ number ∈ c.geoNumbers, number.isFinite = true := by
  constructor
  · exact fun h => h c (occurs_self c)
  · rintro h d hd
    rw [(occurs_of_leaf hleaf).mp hd]
    exact h

/-! ## Reading what is written -/

theorem toJsonAll_eq_map (conditions : List Condition) :
    toJsonAll conditions = conditions.map toJson := by
  induction conditions with
  | nil => rfl
  | cons c conditions ih => rw [toJsonAll, ih, List.map_cons]

/-- The written form of a list of conditions. -/
def written (conditions : List Condition) : Json := .array (conditions.map toJson)

theorem ofFloat_of_isFinite {number : Float} (h : number.isFinite = true) :
    Json.ofFloat number = .number (.real number) := by
  rw [Json.ofFloat, Rounding.isNaN_or_isInf_of_isFinite h]
  rfl

theorem ofJson_leaf (nested : Bool) {tag : Tag} (hleaf : ∀ connective, tag ≠ .group connective)
    (entries : Fields) :
    ofJson nested (.object (("type", .string tag.name) :: entries))
      = leafOf .missingField tag (("type", .string tag.name) :: entries) :=
  ofJson_object_of_leaf (tagOfEntries_type nested tag entries) hleaf

/-- The conditions of a written group are read as those inside a group. -/
theorem ofJson_group (nested : Bool) (connective : Connective) (items : List Json) :
    ofJson nested (.object [("type", .string (Tag.group connective).name),
        ("conditions", .array items)])
      = (allOf true items).map fun conditions => .group connective conditions := by
  rw [ofJson_object_of_group (tagOfEntries_type nested _ _), conditionsOfEntries_eq]
  rfl

theorem allOf_map {nested : Bool} {conditions : List Condition}
    (h : ∀ c ∈ conditions, ofJson nested (toJson c) = .ok c) :
    allOf nested (conditions.map toJson) = .ok conditions := by
  rw [allOf_eq_ok, List.forall₂_map_left_iff]
  exact List.forall₂_same.mpr h

/-- **Reading undoes writing**, at the top and inside groups. -/
theorem ofJson_toJson {c : Condition} (hfinite : FinitePlaces c) (nested : Bool) :
    ofJson nested (toJson c) = .ok c := by
  induction c using Condition.induction generalizing nested with
  | group connective members ih =>
    have hmembers := finitePlaces_group.mp hfinite
    rw [toJson, ofJson_group, toJsonAll_eq_map, allOf_map fun c hc => ih c hc (hmembers c hc) true]
    rfl
  | leaf c hleaf =>
    have hnumbers := (finitePlaces_leaf hleaf).mp hfinite
    -- the kind is known by then, and each field is found under the name it was written with
    cases c with
    | search query => rw [toJson, ofJson_leaf nested (by simp)]; rfl
    | identifier id => rw [toJson, ofJson_leaf nested (by simp)]; rfl
    | compare field comparison value => rw [toJson, ofJson_leaf nested (by simp)]; rfl
    | member field membership values => rw [toJson, ofJson_leaf nested (by simp)]; rfl
    | near field lat lng distance =>
      simp only [geoNumbers, List.forall_mem_cons] at hnumbers
      obtain ⟨hlat, hlng, hdistance, _⟩ := hnumbers
      rw [toJson, ofFloat_of_isFinite hlat, ofFloat_of_isFinite hlng,
        ofFloat_of_isFinite hdistance, ofJson_leaf nested (by simp)]
      rfl
    | within field box =>
      simp only [geoNumbers, List.forall_mem_cons] at hnumbers
      obtain ⟨hnorth, heast, hsouth, hwest, _⟩ := hnumbers
      rw [toJson, ofFloat_of_isFinite hnorth, ofFloat_of_isFinite heast,
        ofFloat_of_isFinite hsouth, ofFloat_of_isFinite hwest, ofJson_leaf nested (by simp)]
      rfl
    | group connective members => exact absurd rfl (hleaf connective members)

/-! ## What is read from a sound value -/

/-- A number that is read from a sound value is finite. -/
theorem isFinite_of_expectReal {value : Json} (hsound : value.Sound) {number : Float}
    (h : value.expectReal = .ok number) : number.isFinite = true := by
  cases hsound with
  | number hnumber =>
    cases h
    exact Number.isFinite_toFloat hnumber
  | _ => cases h

/-- A required number is finite if the values it is looked up in are sound. -/
theorem isFinite_of_require {absent : String → Mistake} {entries : Fields}
    (hsound : ∀ entry ∈ entries, entry.2.Sound) {name : String} {value : Json} {number : Float}
    (hvalue : require absent entries name = .ok value) (h : value.expectReal = .ok number) :
    number.isFinite = true := by
  rw [require] at hvalue
  split at hvalue
  · next found hfound =>
    cases hvalue
    exact isFinite_of_expectReal (hsound _ (Fields.mem_of_get? hfound)) h
  · cases hvalue

/-- A condition without members or numbers has only finite ones. -/
theorem finitePlaces_of_geoNumbers_eq_nil {c : Condition}
    (hleaf : ∀ connective members, c ≠ .group connective members) (h : c.geoNumbers = []) :
    FinitePlaces c :=
  (finitePlaces_leaf hleaf).mpr (h ▸ List.forall_mem_nil _)

theorem finitePlaces_of_leafOf {absent : String → Mistake} {tag : Tag} {entries : Fields}
    (hsound : ∀ entry ∈ entries, entry.2.Sound) {c : Condition}
    (h : leafOf absent tag entries = .ok c) : FinitePlaces c := by
  unfold leafOf at h
  obtain ⟨_, _, hleaf⟩ := bind_eq_ok.mp h
  clear h
  -- only the two kinds of places have numbers
  cases tag with
  | near =>
    simp only [bind_eq_ok, pure_eq_ok] at hleaf
    obtain ⟨field, _, _, hlat', lat, hlat, _, hlng', lng, hlng, _, hdistance', distance,
      hdistance, rfl⟩ := hleaf
    rw [finitePlaces_leaf (by simp)]
    simp only [geoNumbers, List.forall_mem_cons]
    exact ⟨isFinite_of_require hsound hlat' hlat, isFinite_of_require hsound hlng' hlng,
      isFinite_of_require hsound hdistance' hdistance, List.forall_mem_nil _⟩
  | within =>
    simp only [bind_eq_ok, pure_eq_ok] at hleaf
    obtain ⟨field, _, _, hnorth', north, hnorth, _, heast', east, heast, _, hsouth', south,
      hsouth, _, hwest', west, hwest, rfl⟩ := hleaf
    rw [finitePlaces_leaf (by simp)]
    simp only [geoNumbers, List.forall_mem_cons]
    exact ⟨isFinite_of_require hsound hnorth' hnorth, isFinite_of_require hsound heast' heast,
      isFinite_of_require hsound hsouth' hsouth, isFinite_of_require hsound hwest' hwest,
      List.forall_mem_nil _⟩
  | group connective =>
    cases hleaf
    exact finitePlaces_group.mpr (List.forall_mem_nil _)
  | search =>
    simp only [bind_eq_ok, pure_eq_ok] at hleaf
    obtain ⟨_, _, query, _, rfl⟩ := hleaf
    exact finitePlaces_of_geoNumbers_eq_nil (by simp) rfl
  | identifier =>
    simp only [bind_eq_ok, pure_eq_ok] at hleaf
    obtain ⟨_, _, id, _, rfl⟩ := hleaf
    exact finitePlaces_of_geoNumbers_eq_nil (by simp) rfl
  | compare comparison =>
    simp only [bind_eq_ok, pure_eq_ok] at hleaf
    obtain ⟨_, _, field, _, value, _, rfl⟩ := hleaf
    exact finitePlaces_of_geoNumbers_eq_nil (by simp) rfl
  | member membership =>
    simp only [bind_eq_ok, pure_eq_ok] at hleaf
    obtain ⟨_, _, field, _, values, _, rfl⟩ := hleaf
    exact finitePlaces_of_geoNumbers_eq_nil (by simp) rfl

theorem finitePlaces_of_leafOfItems {tag : Tag} {items : List Json}
    (hsound : ∀ item ∈ items, item.Sound) {c : Condition} (h : leafOfItems tag items = .ok c) :
    FinitePlaces c := by
  obtain ⟨hleaf, _⟩ := leafOfItems_eq_ok.mp h
  refine finitePlaces_of_leafOf ?_ hleaf
  rintro ⟨name, value⟩ hentry
  exact hsound value (List.of_mem_zip hentry).2

/-- What is read of a group is finite if what is read of its conditions is. -/
theorem finitePlaces_of_groupOf {connective : Connective}
    {conditions? : Option (Except Mistake (List Condition))} {c : Condition}
    (hconditions : ∀ members, conditions? = some (.ok members) → ∀ d ∈ members, FinitePlaces d)
    (h : groupOf connective conditions? = .ok c) : FinitePlaces c := by
  unfold groupOf at h
  split at h
  · cases h
    exact finitePlaces_group.mpr (List.forall_mem_nil _)
  · next conditions =>
    cases conditions with
    | error e => cases h
    | ok members =>
      cases h
      exact finitePlaces_group.mpr (hconditions members rfl)

/-- The conditions of a list are finite if each of its items is read as a finite one. -/
theorem finitePlaces_of_allOf {nested : Bool} {items : List Json}
    (hitems : ∀ item ∈ items, ∀ c, ofJson nested item = .ok c → FinitePlaces c)
    {conditions : List Condition} (h : allOf nested items = .ok conditions) :
    ∀ c ∈ conditions, FinitePlaces c := by
  intro c hc
  obtain ⟨item, hitem, hread⟩ := forall₂_exists_left (allOf_eq_ok.mp h) c hc
  exact hitems item hitem c hread

/-- The conditions of an object are those that one of its values is read as. -/
theorem mem_of_conditionsOfEntries {entries : Fields}
    {conditions : Except Mistake (List Condition)}
    (h : conditionsOfEntries entries = some conditions) :
    ∃ entry ∈ entries, listOf true entry.2 = conditions := by
  rw [conditionsOfEntries_eq] at h
  obtain ⟨value, hvalue, hconditions⟩ := Option.map_eq_some_iff.mp h
  exact ⟨_, Fields.mem_of_get? hvalue, hconditions⟩

theorem mem_of_conditionsOfItems {items : List Json}
    {conditions : Except Mistake (List Condition)} (h : conditionsOfItems items = some conditions) :
    ∃ item ∈ items, listOf true item = conditions := by
  cases items with
  | nil => cases h
  | cons value items => exact ⟨value, List.mem_cons_self, Option.some.inj h⟩

/-- **What is read from a sound value has finite places**, be it one condition or a list. -/
theorem finitePlaces_of_ofJson {value : Json} (hsound : value.Sound) :
    (∀ nested c, ofJson nested value = .ok c → FinitePlaces c) ∧
      ∀ nested conditions, listOf nested value = .ok conditions →
        ∀ c ∈ conditions, FinitePlaces c := by
  -- a group is read from a list inside it, so the two readings go together
  induction value using Json.induction with
  | scalar value harray hobject =>
    cases value with
    | array items => exact absurd rfl (harray items)
    | object entries => exact absurd rfl (hobject entries)
    | _ => constructor <;> (intro _ _ h; cases h)
  | array items ih =>
    cases hsound with
    | array hitems =>
      constructor
      · intro nested c h
        cases items with
        | nil => cases h
        | cons first items =>
          obtain ⟨_, hrest⟩ := List.forall_mem_cons.mp hitems
          rw [ofJson] at h
          obtain ⟨tag, _, h⟩ := bind_eq_ok.mp h
          cases tag with
          | group connective =>
            obtain ⟨group, hgroup, h⟩ := bind_eq_ok.mp h
            obtain ⟨_, rfl⟩ := guarded_eq_ok.mp h
            refine finitePlaces_of_groupOf ?_ hgroup
            intro members hmembers
            obtain ⟨item, hitem, hread⟩ := mem_of_conditionsOfItems hmembers
            have hmem : item ∈ first :: items := List.mem_cons_of_mem first hitem
            exact (ih item hmem (hitems item hmem)).2 true members hread
          | _ => exact finitePlaces_of_leafOfItems hrest h
      · intro nested conditions h
        rw [listOf] at h
        exact finitePlaces_of_allOf (fun item hitem => (ih item hitem (hitems item hitem)).1 nested)
          h
  | object entries ih =>
    cases hsound with
    | object hentries =>
      constructor
      · intro nested c h
        rw [ofJson] at h
        obtain ⟨tag, _, h⟩ := bind_eq_ok.mp h
        cases tag with
        | group connective =>
          refine finitePlaces_of_groupOf ?_ h
          intro members hmembers
          obtain ⟨entry, hentry, hread⟩ := mem_of_conditionsOfEntries hmembers
          exact (ih entry hentry (hentries entry hentry)).2 true members hread
        | _ => exact finitePlaces_of_leafOf hentries h
      · intro _ _ h
        cases h

/-! ## Reading settles the form -/

theorem parseList_written {conditions : List Condition}
    (hfinite : ∀ c ∈ conditions, FinitePlaces c) :
    parseList (written conditions) = .ok conditions := by
  rw [written, parseList, listOf]
  · exact allOf_map fun c hc => ofJson_toJson (hfinite c hc) false
  · intro h
    cases h

/-- **Reading undoes writing**: a list of conditions with finite places is read back from its
written form. And so a sound value that is read at all is read as the same conditions once more
when these are written. -/
theorem parseList_written_and_reread :
    (∀ conditions : List Condition, (∀ c ∈ conditions, FinitePlaces c) →
      parseList (written conditions) = .ok conditions) ∧
    ∀ (value : Json) (conditions : List Condition), value.Sound →
      parseList value = .ok conditions → parseList (written conditions) = .ok conditions := by
  constructor
  · exact fun conditions => parseList_written
  · intro value conditions hsound h
    refine parseList_written ?_
    by_cases hnull : value = .null
    · subst hnull
      cases h
      exact List.forall_mem_nil _
    · rw [parseList] at h
      · exact (finitePlaces_of_ofJson hsound).2 false conditions h
      · exact hnull

/-- Conditions in forms that are not written: lists, a number for an identifier, integers for the
numbers of a place, a single value, and a place whose field is left out. -/
def terse : Json :=
  .array [
    .array [.string "identifier", .ofNat 7],
    .object [("type", .string "or"), ("conditions", .array [
      .array [.string "geo_distance", .string "spot", .ofNat 48, .ofNat 2, .ofNat 500],
      .object [("values", .string "open"), ("field", .string "state"), ("type", .string "in")],
      .object [("type", .string "and"), ("conditions", .array [
        .object [("type", .string "geo_bounding_box"), ("north", .ofNat 50), ("east", .ofNat 3),
          ("south", .ofNat 47), ("west", .ofNat 1)]])]])]]

/-- The conditions that `terse` is read as. -/
def full : List Condition :=
  [.identifier "7",
    .group .disjunction [
      .near "spot" (Number.toFloat (.integer 48)) (Number.toFloat (.integer 2))
        (Number.toFloat (.integer 500)),
      .member "state" .among [.string "open"],
      .group .conjunction [
        .within "_geo" ⟨Number.toFloat (.integer 50), Number.toFloat (.integer 3),
          Number.toFloat (.integer 47), Number.toFloat (.integer 1)⟩]]]

theorem sound_terse : terse.Sound := by
  simp [terse, Json.ofNat, Json.sound_array, Json.sound_object, Json.sound_number, Number.Sound,
    Json.Sound.string]

theorem parseList_terse : parseList terse = .ok full := by
  rfl

theorem finitePlaces_full : ∀ c ∈ full, FinitePlaces c :=
  (finitePlaces_of_ofJson sound_terse).2 false full parseList_terse

theorem terse_rereads :
    (terse.Sound ∧ parseList terse = .ok full) ∧ parseList (written full) = .ok full
      ∧ (∀ c ∈ full.tail, FinitePlaces c) ∧ parseList (written full.tail) = .ok full.tail :=
  have hfinite : ∀ c ∈ full.tail, FinitePlaces c :=
    fun c hc => finitePlaces_full c (List.mem_of_mem_tail hc)
  ⟨⟨sound_terse, parseList_terse⟩,
    parseList_written_and_reread.2 terse full sound_terse parseList_terse,
    hfinite, parseList_written_and_reread.1 full.tail hfinite⟩

end Metasearch.Condition
