import Metasearch.Proofs.Schema.Descriptors

set_option autoImplicit false

/-! # What a descriptor answers

A descriptor is asked whether a field can be filtered, whether it can be sorted, and which field
keeps hits apart. It looks the answers up in its fields, and these are the names in the lists of
the settings and the identifier. So the answers are those of the settings (`answers_ofRaw`), but
for the identifier, which can always be filtered and has no other part to play, whatever list it
stands in.
-/

namespace Metasearch

/-- The key under which the settings of an engine name the attribute that keeps hits apart. -/
def Engine.distinctKey : Engine → String
  | .meilisearch => "distinctAttribute"
  | .algolia => "attributeForDistinct"

theorem IndexSettings.distinct_ofRaw (engine : Engine) (raw : Fields) :
    (ofRaw engine raw).distinct = (Fields.get? raw engine.distinctKey).bind Json.string? := by
  cases engine <;> rfl

/-! ## Fields -/

namespace FieldDescriptor

variable {settings : IndexSettings} {hints : Fields} {name : String}

theorem build_identifier :
    build settings hints settings.identifier = ofIdentifier settings.identifier :=
  if_pos rfl

theorem sortable_build :
    (build settings hints name).sortable = true
      ↔ name ∈ settings.sortable ∧ name ≠ settings.identifier := by
  by_cases hname : name = settings.identifier
  · simp [hname, build_identifier, ofIdentifier]
  · have hfollows : (build settings hints name).Follows settings hints := follows_build hname
    simpa [hname] using hfollows.sortable

theorem distinct_build :
    (build settings hints name).distinct = true
      ↔ settings.distinct = some name ∧ name ≠ settings.identifier := by
  by_cases hname : name = settings.identifier
  · simp [hname, build_identifier, ofIdentifier]
  · have hfollows : (build settings hints name).Follows settings hints := follows_build hname
    simpa [hname] using hfollows.distinct

end FieldDescriptor

/-! ## Answers -/

namespace IndexDescriptor

variable {index name : String} {settings : IndexSettings} {hints : Fields}

theorem mem_mentioned :
    name ∈ mentioned settings ↔ name ∈ listed settings ∨ name = settings.identifier := by
  rw [mentioned, ← listed, List.mem_append, List.mem_singleton]

theorem mem_firstOccurrences_mentioned :
    name ∈ firstOccurrences (mentioned settings) ↔ name ∈ mentioned settings :=
  (firstSeen_firstOccurrences (mentioned settings)).mem_iff name

/-- **A name has a field exactly if the settings mention it.** -/
theorem field?_build :
    (build index settings hints).field? name
      = if name ∈ mentioned settings then some (FieldDescriptor.build settings hints name)
        else none := by
  have htest : (fun field : FieldDescriptor => field.name == name)
      ∘ FieldDescriptor.build settings hints = fun other => other == name :=
    funext fun _ => by rw [Function.comp_apply, FieldDescriptor.name_build]
  rw [field?, build, List.find?_map, htest]
  by_cases hname : name ∈ mentioned settings
  · rw [Schema.find?_eq_self (mem_firstOccurrences_mentioned.mpr hname), if_pos hname,
      Option.map_some]
  · have hnone : ∀ other ∈ firstOccurrences (mentioned settings), ¬ (other == name) = true := by
      intro other hother heq
      rw [beq_iff_eq.mp heq, mem_firstOccurrences_mentioned] at hother
      exact hname hother
    rw [List.find?_eq_none.mpr hnone, if_neg hname, Option.map_none]

/-- What the field of a name can do, it can do because the settings say so. -/
theorem getD_field?_build (can : FieldDescriptor → Bool)
    (h : can (FieldDescriptor.build settings hints name) = true → name ∈ mentioned settings) :
    (((build index settings hints).field? name).map can).getD false
      = can (FieldDescriptor.build settings hints name) := by
  rw [field?_build]
  by_cases hname : name ∈ mentioned settings
  · rw [if_pos hname, Option.map_some, Option.getD_some]
  · rw [if_neg hname, Option.map_none, Option.getD_none, eq_comm, Bool.eq_false_iff]
    exact fun hcan => hname (h hcan)

theorem isFilterable_build :
    (build index settings hints).isFilterable name = true
      ↔ name = settings.identifier ∨ name ∈ settings.filterable := by
  by_cases hname : name = settings.identifier
  · simp [isFilterable, build, hname]
  · have hfollows : (FieldDescriptor.build settings hints name).Follows settings hints :=
      FieldDescriptor.follows_build hname
    have hcan := hfollows.filterable
    rw [FieldDescriptor.name_build] at hcan
    have hmentioned : (FieldDescriptor.build settings hints name).filterable = true →
        name ∈ mentioned settings := fun hfilterable => by
      simp [mentioned, hcan.mp hfilterable]
    have hidentifier : (build index settings hints).identifier = settings.identifier := rfl
    rw [isFilterable, getD_field?_build _ hmentioned, hidentifier, Bool.or_eq_true,
      decide_eq_true_iff, hcan]

theorem isSortable_build :
    (build index settings hints).isSortable name = true
      ↔ name ∈ settings.sortable ∧ name ≠ settings.identifier := by
  have hmentioned : (FieldDescriptor.build settings hints name).sortable = true →
      name ∈ mentioned settings := fun hcan => by
    simp [mentioned, (FieldDescriptor.sortable_build.mp hcan).1]
  rw [isSortable, getD_field?_build _ hmentioned, FieldDescriptor.sortable_build]

/-- The field that keeps hits apart is the attribute that the settings name, if it is a field. -/
theorem distinctField?_build :
    (build index settings hints).distinctField? = some name
      ↔ settings.distinct = some name ∧ name ≠ settings.identifier ∧ name ∈ listed settings := by
  have hfields : ∀ field, field ∈ (build index settings hints).fields
      ↔ ∃ other ∈ mentioned settings, FieldDescriptor.build settings hints other = field := by
    intro field
    simp only [build, List.mem_map, mem_firstOccurrences_mentioned]
  rw [distinctField?, Option.map_eq_some_iff]
  constructor
  · rintro ⟨field, hfind, rfl⟩
    obtain ⟨other, hother, rfl⟩ := (hfields field).mp (List.mem_of_find?_eq_some hfind)
    obtain ⟨hdistinct, hne⟩ := FieldDescriptor.distinct_build.mp (List.find?_some hfind)
    rw [FieldDescriptor.name_build]
    exact ⟨hdistinct, hne, (mem_mentioned.mp hother).resolve_right hne⟩
  · rintro ⟨hdistinct, hne, hlisted⟩
    have hsome : ((build index settings hints).fields.find? FieldDescriptor.distinct).isSome :=
      List.find?_isSome.mpr ⟨FieldDescriptor.build settings hints name,
        (hfields _).mpr ⟨name, mem_mentioned.mpr (.inl hlisted), rfl⟩,
        FieldDescriptor.distinct_build.mpr ⟨hdistinct, hne⟩⟩
    obtain ⟨field, hfind⟩ := Option.isSome_iff_exists.mp hsome
    -- there may be no second field that keeps hits apart, as the settings name one attribute
    obtain ⟨other, _, rfl⟩ := (hfields field).mp (List.mem_of_find?_eq_some hfind)
    have hother := (FieldDescriptor.distinct_build.mp (List.find?_some hfind)).1
    refine ⟨_, hfind, ?_⟩
    rw [FieldDescriptor.name_build]
    exact Option.some.inj (hother.symm.trans hdistinct)

/-- The answers of a descriptor beside the settings of its index. -/
structure Answers (settings : IndexSettings) (descriptor : IndexDescriptor) : Prop where
  /-- The identifier can be filtered whether it is listed or not. -/
  filterable : ∀ name, descriptor.isFilterable name = true
    ↔ name = settings.identifier ∨ name ∈ settings.filterable
  /-- The identifier cannot be sorted, whether it is listed or not. -/
  sortable : ∀ name, descriptor.isSortable name = true
    ↔ name ∈ settings.sortable ∧ name ≠ settings.identifier
  /-- No field keeps hits apart but the attribute in the settings, and the identifier does not. -/
  distinct : ∀ name, descriptor.distinctField? = some name →
    settings.distinct = some name ∧ name ≠ settings.identifier
  /-- An attribute that some list names does keep hits apart. -/
  distinctListed : ∀ name ∈ listed settings, name ≠ settings.identifier →
    settings.distinct = some name → descriptor.distinctField? = some name

theorem answers_build (index : String) (settings : IndexSettings) (hints : Fields) :
    (build index settings hints).Answers settings where
  filterable _ := isFilterable_build
  sortable _ := isSortable_build
  distinct name h := by
    obtain ⟨hdistinct, hne, _⟩ := distinctField?_build.mp h
    exact ⟨hdistinct, hne⟩
  distinctListed _ hlisted hne hdistinct := distinctField?_build.mpr ⟨hdistinct, hne, hlisted⟩

/-- **A descriptor answers as the settings of its engine say**, where the attribute that keeps hits
apart is a text under the key of the engine. -/
theorem answers_ofRaw (engine : Engine) (index : String) (raw hints : Fields) :
    (build index (IndexSettings.ofRaw engine raw) hints).Answers (IndexSettings.ofRaw engine raw)
      ∧ (IndexSettings.ofRaw engine raw).distinct
        = (Fields.get? raw engine.distinctKey).bind Json.string? :=
  ⟨answers_build index _ hints, IndexSettings.distinct_ofRaw engine raw⟩

/-- **The identifier is exempt**: here it is in the list of sortable fields and is to keep hits
apart, and it does neither. Nor does an attribute keep hits apart that stands in no list. -/
theorem identifier_is_exempt :
    ¬ (∀ name, (build "books" (.ofRaw .meilisearch
          [("sortableAttributes", .array [.string "id"])]) []).isSortable name = true
        ↔ name ∈ (IndexSettings.ofRaw .meilisearch
          [("sortableAttributes", .array [.string "id"])]).sortable)
      ∧ (build "books" (.ofRaw .meilisearch
          [("distinctAttribute", .string "id")]) []).distinctField? ≠ some "id"
      ∧ (build "books" (.ofRaw .algolia
          [("attributeForDistinct", .string "isbn")]) []).distinctField? ≠ some "isbn" := by
  refine ⟨fun hsortable => ?_, by decide, by decide⟩
  have hid := hsortable "id"
  revert hid
  decide

end IndexDescriptor

end Metasearch
