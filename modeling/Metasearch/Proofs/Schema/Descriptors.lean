import Mathlib.Data.List.Count
import Mathlib.Data.List.Induction
import Metasearch.Proofs.FirstSeen
import Metasearch.Schema.Basic

set_option autoImplicit false

/-! # Descriptors are well formed

The fields of an index come from four lists that may overlap in any way, and the identifier may
stand anywhere among them or nowhere. `WellFormed` says what the fields are without following
the loop that collects them: the listed names in first-seen order, then the identifier if it is
not listed; the identifier is the only field of its type; and every other field does what the
lists and the hint about it say.

A schema has one descriptor for each index with settings (`index?_build`), and it is well formed
(`descriptors_wellFormed`).
-/

namespace Metasearch

/-! ## First-seen order -/

theorem firstOccurrences_concat (names : List String) (name : String) :
    firstOccurrences (names ++ [name])
      = if name ∈ firstOccurrences names then firstOccurrences names
        else firstOccurrences names ++ [name] :=
  List.foldl_append

theorem firstSeen_firstOccurrences (names : List String) :
    FirstSeen names (firstOccurrences names) := by
  induction names using List.reverseRecOn with
  | nil => exact .nil
  | append_singleton names name ih =>
    rw [firstOccurrences_concat]
    by_cases hname : name ∈ names
    · rw [if_pos ((ih.mem_iff name).mpr hname)]
      exact ih.concat_of_mem hname
    · rw [if_neg fun hmem => hname ((ih.mem_iff name).mp hmem)]
      exact ih.concat_of_not_mem hname

/-! ## Fields -/

/-- The words that name a type in a hint. No hint names the type of the identifier. -/
def FieldType.words : FieldType → List String
  | .int => ["int", "integer"]
  | .float => ["float", "double", "number"]
  | .bool => ["bool", "boolean"]
  | .datetime => ["datetime", "date"]
  | .identifier => []
  | .text => []

/-- The word of a hint: blanks around it and the case of its letters do not count. -/
def FieldType.wordOf (hint : String) : String :=
  Text.lowercaseAscii (String.ofList (Text.trim hint.toList))

/-- The type of a field by its hint, if there is one: the type that the hint names, and text
where the hint is unknown or absent. -/
inductive FieldType.HintedBy : Option String → FieldType → Prop where
  | named {hint : String} {type : FieldType} (word : wordOf hint ∈ type.words) :
    HintedBy (some hint) type
  | unknown {hint : String} (noWord : ∀ type : FieldType, wordOf hint ∉ type.words) :
    HintedBy (some hint) .text
  | absent : HintedBy none .text

theorem FieldType.hintedBy_ofHint (hint : String) : HintedBy (some hint) (ofHint hint) := by
  have hword : Text.lowercaseAscii (String.ofList (Text.trim hint.toList)) = wordOf hint := rfl
  simp only [ofHint, hword]
  split
  · next hint => exact .named (by simpa [words] using hint)
  · next hint =>
    split
    · next hfloat => exact .named (by simpa [words] using hfloat)
    · next hfloat =>
      split
      · next hbool => exact .named (by simpa [words] using hbool)
      · next hbool =>
        split
        · next hdate => exact .named (by simpa [words] using hdate)
        · next hdate =>
          refine .unknown fun type => ?_
          cases type <;> simp_all [words]

/-- The hint about a field, if it is a text. -/
def hint? (hints : Fields) (name : String) : Option String :=
  (Fields.get? hints name).bind Json.string?

theorem FieldType.hintedBy_ofHints (hints : Fields) (name : String) :
    HintedBy (hint? hints name) (ofHints hints name) := by
  unfold hint? ofHints
  cases (Fields.get? hints name).bind Json.string? with
  | none => exact .absent
  | some hint =>
    rw [Option.map_some, Option.getD_some]
    exact hintedBy_ofHint hint

/-- A hint makes no field the identifier. -/
theorem FieldType.HintedBy.ne_identifier {hint : Option String} {type : FieldType}
    (h : HintedBy hint type) : type ≠ .identifier := by
  rintro rfl
  cases h with
  | named word => cases word

/-- What a field other than the identifier can do. -/
structure FieldDescriptor.Follows (settings : IndexSettings) (hints : Fields)
    (field : FieldDescriptor) : Prop where
  type : FieldType.HintedBy (hint? hints field.name) field.type
  searchable : field.searchable = true ↔
    field.name ∈ settings.searchable ∧ field.type ≠ .datetime
  filterable : field.filterable = true ↔ field.name ∈ settings.filterable
  sortable : field.sortable = true ↔ field.name ∈ settings.sortable
  facet : field.facet = true ↔ field.name ∈ settings.facet
  distinct : field.distinct = true ↔ settings.distinct = some field.name

section Field

variable {settings : IndexSettings} {hints : Fields} {name : String}

@[simp] theorem FieldDescriptor.name_build :
    (FieldDescriptor.build settings hints name).name = name := by
  unfold FieldDescriptor.build
  split <;> rfl

theorem FieldDescriptor.follows_build (hname : name ≠ settings.identifier) :
    (FieldDescriptor.build settings hints name).Follows settings hints := by
  rw [FieldDescriptor.build, if_neg hname]
  exact {
    type := FieldType.hintedBy_ofHints hints name
    searchable := by simp [and_comm]
    filterable := by simp
    sortable := by simp
    facet := by simp
    distinct := by simp }

theorem FieldDescriptor.type_build_eq_identifier :
    (FieldDescriptor.build settings hints name).type = .identifier
      ↔ name = settings.identifier := by
  by_cases hname : name = settings.identifier
  · simp [FieldDescriptor.build, hname, FieldDescriptor.ofIdentifier]
  · have hfollows : (FieldDescriptor.build settings hints name).Follows settings hints :=
      FieldDescriptor.follows_build hname
    exact ⟨fun h => absurd h hfollows.type.ne_identifier, fun h => absurd h hname⟩

end Field

/-! ## Descriptors -/

namespace IndexDescriptor

/-- The names in the lists of some settings. -/
def listed (settings : IndexSettings) : List String :=
  settings.searchable ++ settings.filterable ++ settings.sortable ++ settings.facet

/-- What a descriptor owes to the settings and hints of its index. -/
structure WellFormed (settings : IndexSettings) (hints : Fields) (descriptor : IndexDescriptor) :
    Prop where
  identifier : descriptor.identifier = settings.identifier
  /-- No two fields have the same name. -/
  distinct : (descriptor.fields.map FieldDescriptor.name).Nodup
  /-- The listed names come in first-seen order, and the identifier follows if it is not among
  them. -/
  names : ∃ union, FirstSeen (listed settings) union
    ∧ descriptor.fields.map FieldDescriptor.name
        = if settings.identifier ∈ listed settings then union
          else union ++ [settings.identifier]
  /-- There is one field of the type of identifiers, and it has the name of the identifier. -/
  identifierField : ((descriptor.fields.filter fun field => field.type = .identifier).map
    FieldDescriptor.name) = [descriptor.identifier]
  others : ∀ field ∈ descriptor.fields, field.name ≠ descriptor.identifier →
    field.Follows settings hints

theorem names_build (name : String) (settings : IndexSettings) (hints : Fields) :
    (build name settings hints).fields.map FieldDescriptor.name
      = firstOccurrences (mentioned settings) := by
  have hname : FieldDescriptor.name ∘ FieldDescriptor.build settings hints = id :=
    funext fun _ => FieldDescriptor.name_build
  rw [build, List.map_map, hname, List.map_id]

/-- **The descriptor of any settings is well formed.** -/
theorem wellFormed_build (name : String) (settings : IndexSettings) (hints : Fields) :
    WellFormed settings hints (build name settings hints) := by
  have hseen := firstSeen_firstOccurrences (mentioned settings)
  refine ⟨rfl, ?_, ⟨firstOccurrences (listed settings), firstSeen_firstOccurrences _, ?_⟩, ?_, ?_⟩
  · rw [names_build]
    exact hseen.nodup
  · rw [names_build, mentioned, ← listed, firstOccurrences_concat]
    simp only [(firstSeen_firstOccurrences (listed settings)).mem_iff]
  · -- a field is of this type exactly if it has this name, and the name occurs once
    have hmem : settings.identifier ∈ firstOccurrences (mentioned settings) :=
      (hseen.mem_iff _).mpr (by simp [mentioned])
    have htest : ((fun field : FieldDescriptor => decide (field.type = .identifier))
        ∘ FieldDescriptor.build settings hints) = fun name => name == settings.identifier :=
      funext fun name => by
        rw [Function.comp_apply, Bool.eq_iff_iff, decide_eq_true_iff, beq_iff_eq,
          FieldDescriptor.type_build_eq_identifier]
    have hname : FieldDescriptor.name ∘ FieldDescriptor.build settings hints = id :=
      funext fun _ => FieldDescriptor.name_build
    rw [build, List.filter_map, htest, List.map_map, hname, List.map_id, List.filter_beq,
      List.count_eq_one_of_mem hseen.nodup hmem]
    rfl
  · intro field hfield hother
    obtain ⟨name, _, rfl⟩ := List.mem_map.mp hfield
    rw [FieldDescriptor.name_build] at hother
    exact FieldDescriptor.follows_build hother

end IndexDescriptor

/-! ## Schemas -/

namespace Schema

variable {values : List (String × Fields)} {name : String}

theorem lastOf?_isSome : (lastOf? name values).isSome ↔ name ∈ values.map Prod.fst := by
  rw [lastOf?, Option.isSome_map, List.getLast?_isSome, Ne, List.filter_eq_nil_iff]
  simp

theorem mem_indexNames : name ∈ indexNames values ↔ name ∈ values.map Prod.fst := by
  rw [indexNames, List.mem_mergeSort, (firstSeen_firstOccurrences _).mem_iff]

theorem nodup_indexNames (values : List (String × Fields)) : (indexNames values).Nodup :=
  (List.mergeSort_perm _ _).nodup_iff.mpr (firstSeen_firstOccurrences _).nodup

theorem find?_eq_self {names : List String} (h : name ∈ names) :
    names.find? (fun other => other == name) = some name := by
  have hsome : (names.find? fun other => other == name).isSome :=
    List.find?_isSome.mpr ⟨name, h, beq_iff_eq.mpr rfl⟩
  obtain ⟨other, hother⟩ := Option.isSome_iff_exists.mp hsome
  have hname : other = name := by simpa using List.find?_some hother
  rw [hother, hname]

/-- **The descriptor of an index** is built from its last settings and its last hints. -/
theorem index?_build (engine : Engine) (settings hints : List (String × Fields)) (name : String) :
    (build engine settings hints).index? name
      = (lastOf? name settings).map fun raw =>
          IndexDescriptor.build name (IndexSettings.ofRaw engine raw)
            ((lastOf? name hints).getD []) := by
  rw [index?, build, List.find?_map]
  cases hlast : lastOf? name settings with
  | none =>
    -- no index of this name has settings
    have hname : name ∉ indexNames settings := by
      rw [mem_indexNames, ← lastOf?_isSome, hlast]
      exact Bool.false_ne_true
    rw [List.find?_eq_none.mpr]
    · rfl
    · intro index hindex hmatch
      exact hname (beq_iff_eq.mp hmatch ▸ hindex)
  | some raw =>
    have hname : name ∈ indexNames settings := by
      rw [mem_indexNames, ← lastOf?_isSome, hlast]
      rfl
    have hfind : (indexNames settings).find?
        ((fun descriptor : IndexDescriptor => descriptor.name == name)
          ∘ fun index => IndexDescriptor.build index
            (IndexSettings.ofRaw engine ((lastOf? index settings).getD []))
            ((lastOf? index hints).getD [])) = some name := find?_eq_self hname
    rw [hfind, Option.map_some, Option.map_some, hlast, Option.getD_some]

/-- **Every descriptor of a schema is well formed**, and an index has one exactly if it has
settings. -/
theorem descriptors_wellFormed (engine : Engine) (settings hints : List (String × Fields)) :
    (∀ descriptor ∈ (build engine settings hints).indexes,
      ∃ raw, lastOf? descriptor.name settings = some raw
        ∧ descriptor.WellFormed (IndexSettings.ofRaw engine raw)
            ((lastOf? descriptor.name hints).getD []))
      ∧ ((build engine settings hints).indexes.map IndexDescriptor.name).Nodup
      ∧ ∀ name, ((build engine settings hints).index? name).isSome
          ↔ name ∈ settings.map Prod.fst := by
  refine ⟨?_, ?_, fun name => ?_⟩
  · intro descriptor hdescriptor
    obtain ⟨index, hindex, rfl⟩ := List.mem_map.mp hdescriptor
    obtain ⟨raw, hraw⟩ :=
      Option.isSome_iff_exists.mp (lastOf?_isSome.mpr (mem_indexNames.mp hindex))
    refine ⟨raw, hraw, ?_⟩
    rw [hraw]
    exact IndexDescriptor.wellFormed_build index _ _
  · have hname : ∀ f : String → IndexDescriptor, (∀ index, (f index).name = index) →
        ((indexNames settings).map f).map IndexDescriptor.name = indexNames settings := by
      intro f hf
      rw [List.map_map, show IndexDescriptor.name ∘ f = id from funext hf, List.map_id]
    rw [build, hname _ fun _ => rfl]
    exact nodup_indexNames settings
  · rw [index?_build, Option.isSome_map, lastOf?_isSome]

/-! ### Books in the words of either engine -/

/-- Settings in the words of Meilisearch. -/
def plainBooks : Fields :=
  [("searchableAttributes", .array [.string "title", .string "released"]),
    ("filterableAttributes", .array [.string "year", .string "isbn", .string "title"]),
    ("sortableAttributes", .array [.string "year"]), ("distinctAttribute", .string "title"),
    ("primaryKey", .string "isbn")]

/-- Settings in the words of Algolia, with modifiers. -/
def modifiedBooks : Fields :=
  [("searchableAttributes", .array [.string "title, released", .string "unordered(summary)"]),
    ("attributesForFaceting", .array [.string "searchable(year)", .string "title"]),
    ("attributeForDistinct", .string "title"), ("primaryKey", .string "isbn")]

/-- Hints for three fields, of which one is the identifier for one engine. -/
def bookHints : Fields :=
  [("year", .string " Integer "), ("released", .string "date"), ("isbn", .string "int")]

/-- The schema of one index. -/
def ofBooks (engine : Engine) (raw : Fields) : Schema :=
  build engine [("books", raw)] [("books", bookHints)]

/-- What is read from the settings in the words of Meilisearch. -/
def plainLists : IndexSettings where
  searchable := ["title", "released"]
  filterable := ["year", "isbn", "title"]
  sortable := ["year"]
  facet := ["year", "isbn", "title"]
  distinct := some "title"
  identifier := "isbn"

/-- What is read from the settings in the words of Algolia. -/
def modifiedLists : IndexSettings where
  searchable := ["title", "released", "summary"]
  filterable := ["year", "title"]
  sortable := []
  facet := ["year", "title"]
  distinct := some "title"
  identifier := "objectID"

/-- The lists come from the keys of the settings, and the fields from the lists. For Meilisearch
the identifier stands among the listed fields, for Algolia it follows them. -/
theorem descriptors_wellFormed_books :
    (∃ descriptor ∈ (ofBooks .meilisearch plainBooks).indexes,
      descriptor.WellFormed plainLists bookHints
        ∧ descriptor.fields.map FieldDescriptor.name = ["title", "released", "year", "isbn"])
      ∧ ∃ descriptor ∈ (ofBooks .algolia modifiedBooks).indexes,
        descriptor.WellFormed modifiedLists bookHints
        ∧ descriptor.fields.map FieldDescriptor.name
          = ["title", "released", "summary", "year", "objectID"] := by
  have hplain : IndexSettings.ofRaw .meilisearch plainBooks = plainLists := by decide
  have hmodified : IndexSettings.ofRaw .algolia modifiedBooks = modifiedLists := by
    decide +kernel
  have hbooks : ∀ engine raw,
      IndexDescriptor.build "books" (IndexSettings.ofRaw engine raw) bookHints
        ∈ (ofBooks engine raw).indexes := fun engine raw =>
    List.mem_of_find?_eq_some (index?_build engine [("books", raw)] [("books", bookHints)] "books")
  have hformed : ∀ engine raw,
      (IndexDescriptor.build "books" (IndexSettings.ofRaw engine raw) bookHints).WellFormed
        (IndexSettings.ofRaw engine raw) bookHints := by
    intro engine raw
    obtain ⟨hall, _⟩ := descriptors_wellFormed engine [("books", raw)] [("books", bookHints)]
    obtain ⟨last, hlast, hformed⟩ := hall _ (hbooks engine raw)
    obtain rfl : raw = last := Option.some.inj hlast
    exact hformed
  refine ⟨⟨_, hbooks _ _, ?_, ?_⟩, _, hbooks _ _, ?_, ?_⟩
  · rw [← hplain]
    exact hformed .meilisearch plainBooks
  · rw [hplain]
    decide
  · rw [← hmodified]
    exact hformed .algolia modifiedBooks
  · rw [hmodified]
    decide

end Schema

end Metasearch
