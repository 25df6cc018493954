import Metasearch.Proofs.Text.Scanning
import Metasearch.Schema.Settings

set_option autoImplicit false

/-! # Attributes in modifiers

Algolia's settings write an attribute as a field name in any number of modifiers, such as
`afterDistinct(searchable(brand))`, and a list of searchable attributes as one text with commas.
An `Attribute` is what such a text is put together from, and reading the text is scanning it from
both ends: each scan stops at a mark that the parts do not contain.

What is read is not always the name. Reading takes off the outermost modifier and looks no further
(`unwrap_text`), so the name comes out of an attribute with one modifier or none, and a text that
names no field comes out of all others (`outermost_modifiers_are_removed`).
-/

namespace Metasearch

/-! ## Attributes and their texts -/

/-- The characters with a meaning in the text of an attribute. -/
def isAttributeMark (c : Char) : Bool := c == ',' || c == '(' || c == ')'

/-- A text without these characters. -/
def Unmarked (text : List Char) : Prop := ∀ c ∈ text, isAttributeMark c = false

instance (text : List Char) : Decidable (Unmarked text) :=
  decidable_of_iff ((text.all fun c => !isAttributeMark c) = true) (by simp [Unmarked])

theorem Unmarked.not_mem {text : List Char} (h : Unmarked text) {c : Char}
    (hc : isAttributeMark c = true) : c ∉ text := fun hmem => by
  rw [h c hmem] at hc
  cases hc

/-- A word that can be the name of a modifier. -/
structure IsModifier (word : List Char) : Prop where
  nonempty : word ≠ []
  unmarked : Unmarked word
  unbroken : ∀ c ∈ word, Text.isBlank c = false

theorem isModifier_iff (word : List Char) :
    word ≠ [] ∧ Unmarked word ∧ (word.all fun c => !Text.isBlank c) = true ↔ IsModifier word := by
  simp only [List.all_eq_true, Bool.not_eq_true']
  exact ⟨fun h => ⟨h.1, h.2.1, h.2.2⟩, fun h => ⟨h.nonempty, h.unmarked, h.unbroken⟩⟩

instance (word : List Char) : Decidable (IsModifier word) :=
  decidable_of_iff _ (isModifier_iff word)

/-- A field name in modifiers, the outermost first. -/
structure Attribute where
  modifiers : List (List Char)
  name : List Char
  words : ∀ word ∈ modifiers, IsModifier word
  trimmed : Text.Trimmed name
  unmarked : Unmarked name

/-- A text in modifiers, the outermost first. -/
def wrapped (inner : List Char) : List (List Char) → List Char
  | [] => inner
  | word :: words => word ++ '(' :: (wrapped inner words ++ [')'])

namespace Attribute

variable (attr : Attribute)

def text : List Char := wrapped attr.name attr.modifiers

/-- The attribute without its outermost modifier, if it has one. -/
def peeled : Attribute where
  modifiers := attr.modifiers.tail
  name := attr.name
  words := fun word hword => attr.words word (List.mem_of_mem_tail hword)
  trimmed := attr.trimmed
  unmarked := attr.unmarked

theorem comma_not_mem_wrapped {inner : List Char} {words : List (List Char)}
    (hinner : ',' ∉ inner) (hwords : ∀ word ∈ words, IsModifier word) :
    ',' ∉ wrapped inner words := by
  induction words with
  | nil => exact hinner
  | cons word words ih =>
    have hword : ',' ∉ word := (hwords word List.mem_cons_self).unmarked.not_mem rfl
    have hrest := ih fun word hmem => hwords word (List.mem_cons_of_mem _ hmem)
    simp [wrapped, hword, hrest]

theorem comma_not_mem_text : ',' ∉ attr.text :=
  comma_not_mem_wrapped (attr.unmarked.not_mem rfl) attr.words

/-- No blank is at the ends of an attribute: it begins with a letter of a word or of the name, and
ends with a parenthesis or a letter of the name. -/
theorem trimmed_text : Text.Trimmed attr.text := by
  obtain ⟨modifiers, name, hwords, htrimmed, -⟩ := attr
  cases modifiers with
  | nil => exact htrimmed
  | cons word words =>
    obtain ⟨hne, -, hunbroken⟩ := hwords word List.mem_cons_self
    obtain ⟨first, rest, rfl⟩ := List.exists_cons_of_ne_nil hne
    have hlast : wrapped name ((first :: rest) :: words)
        = (first :: rest ++ '(' :: wrapped name words) ++ [')'] := by simp [wrapped]
    refine ⟨by simp [text, wrapped], fun c hc => ?_, fun c hc => ?_⟩
    · obtain rfl : first = c := by simpa [text, wrapped] using hc
      exact hunbroken first List.mem_cons_self
    · rw [text, hlast, List.getLast?_concat, Option.mem_some_iff] at hc
      exact hc ▸ by decide

/-- **Reading an attribute takes off its outermost modifier.** -/
theorem unwrap_text : IndexSettings.unwrap attr.text = attr.peeled.text := by
  obtain ⟨modifiers, name, hwords, -, hunmarked⟩ := attr
  cases modifiers with
  | nil => exact if_neg fun h => hunmarked.not_mem rfl h.1
  | cons word words =>
    -- no word has a parenthesis, so the first one is that of the outermost modifier
    have hword : '(' ∉ word := (hwords word List.mem_cons_self).unmarked.not_mem rfl
    have hscan := (Text.takeWhile_ne_append hword (wrapped name words ++ [')'])).2
    have hlast : (word ++ '(' :: (wrapped name words ++ [')'])).getLast? = some ')' := by
      rw [← List.cons_append, ← List.append_assoc, List.getLast?_concat]
    show IndexSettings.unwrap (word ++ '(' :: (wrapped name words ++ [')'])) = wrapped name words
    rw [IndexSettings.unwrap, if_pos ⟨by simp, hlast⟩, hscan, List.drop_one, List.tail_cons,
      List.dropLast_concat]

/-- The name is what is left exactly if there was at most one modifier. -/
theorem text_peeled_eq_name_iff :
    attr.peeled.text = attr.name ↔ attr.modifiers.length ≤ 1 := by
  obtain ⟨modifiers, name, -, -, hunmarked⟩ := attr
  match modifiers with
  | [] => simp [peeled, text, wrapped]
  | [word] => simp [peeled, text, wrapped]
  | outer :: word :: words =>
    have hmem : '(' ∈ wrapped name (word :: words) := by simp [wrapped]
    have hne : wrapped name (word :: words) ≠ name :=
      ne_of_mem_of_not_mem' hmem (hunmarked.not_mem rfl)
    simpa [peeled, text] using hne

end Attribute

/-! ## Lists of attributes -/

/-- An attribute in a list, with blanks around it. -/
structure ListedAttribute where
  attr : Attribute
  before : List Char
  behind : List Char
  blankBefore : Text.allBlank before = true
  blankBehind : Text.allBlank behind = true

namespace ListedAttribute

def text (item : ListedAttribute) : List Char :=
  item.before ++ (item.attr.text ++ item.behind)

/-- The text of a list of attributes. -/
def listText (items : List ListedAttribute) : String :=
  String.ofList ([','].intercalate (items.map text))

theorem comma_not_mem_text (item : ListedAttribute) : ',' ∉ item.text := by
  have hblank : ∀ {blanks : List Char}, Text.allBlank blanks = true → ',' ∉ blanks :=
    fun hblanks h => absurd (List.all_eq_true.mp hblanks ',' h) (by decide)
  simp [text, hblank item.blankBefore, hblank item.blankBehind, item.attr.comma_not_mem_text]

theorem unwrap_trim_text (item : ListedAttribute) :
    IndexSettings.unwrap (Text.trim item.text) = item.attr.peeled.text := by
  rw [text, Text.trim_append item.attr.trimmed_text (List.all_eq_true.mp item.blankBefore)
    (List.all_eq_true.mp item.blankBehind), Attribute.unwrap_text]

/-- **A list is read attribute by attribute.** -/
theorem attributesOf_listText (items : List ListedAttribute) :
    IndexSettings.attributesOf (listText items)
      = items.map fun item => String.ofList item.attr.peeled.text := by
  cases items with
  | nil =>
    -- the empty list has an empty text, and the one empty piece of that is left out
    decide
  | cons first rest =>
    generalize hitems : first :: rest = items
    have hne : items.map text ≠ [] := by simp [← hitems]
    have hcommas : ∀ piece ∈ items.map text, ',' ∉ piece := by
      simpa using fun item _ => comma_not_mem_text item
    have hnonempty : ∀ name ∈ items.map fun item => item.attr.peeled.text,
        (!name.isEmpty) = true := by
      simpa using fun item _ => item.attr.peeled.trimmed_text.nonempty
    rw [IndexSettings.attributesOf, listText, String.toList_ofList,
      Text.splitOn_intercalate hne hcommas, List.map_map]
    simp only [Function.comp_def, unwrap_trim_text]
    rw [List.filter_eq_self.mpr hnonempty, List.map_map]
    rfl

end ListedAttribute

/-! ## Settings -/

/-- The ways to write some texts in a settings map: as a list, as a text of its own if there is
only one, or as anything else, or not at all, if there is none. -/
inductive WritesTexts : Option Json → List String → Prop where
  | list (texts : List String) : WritesTexts (some (.array (texts.map .string))) texts
  | single (text : String) : WritesTexts (some (.string text)) [text]
  | other {value : Json} (hlist : ∀ items, value ≠ .array items)
      (htext : ∀ text, value ≠ .string text) : WritesTexts (some value) []
  | absent : WritesTexts none []

theorem WritesTexts.texts_eq {value? : Option Json} {texts : List String}
    (h : WritesTexts value? texts) : IndexSettings.texts value? = texts := by
  cases h with
  | list texts =>
    rw [IndexSettings.texts, List.filterMap_map]
    exact List.filterMap_some
  | single text => rfl
  | absent => rfl
  | @other value hlist htext =>
    cases value with
    | array items => exact absurd rfl (hlist items)
    | string text => exact absurd rfl (htext text)
    | _ => rfl

/-- The names of some attributes as they are read. -/
def peeledNames (attributes : List Attribute) : List String :=
  attributes.map fun attr => String.ofList attr.peeled.text

def bareNames (attributes : List Attribute) : List String :=
  attributes.map fun attr => String.ofList attr.name

theorem peeledNames_eq_bareNames_iff (attributes : List Attribute) :
    peeledNames attributes = bareNames attributes
      ↔ ∀ attr ∈ attributes, attr.modifiers.length ≤ 1 := by
  rw [peeledNames, bareNames, List.map_inj_left]
  simp only [String.ofList_inj, Attribute.text_peeled_eq_name_iff]

/-- **The outermost modifier of each attribute is removed.** The searchable fields are those of
all lists, one list after the other, and the fields for faceting are both the filterable fields
and those that are counted; each is the attribute without its outermost modifier. These are the
bare names exactly if no attribute has more than one modifier. -/
theorem outermost_modifiers_are_removed (raw : Fields) {lists : List (List ListedAttribute)}
    {facets : List Attribute}
    (hlists : WritesTexts (Fields.get? raw "searchableAttributes")
      (lists.map ListedAttribute.listText))
    (hfacets : WritesTexts (Fields.get? raw "attributesForFaceting")
      (facets.map fun attr => String.ofList attr.text)) :
    let searched := lists.flatten.map ListedAttribute.attr
    (IndexSettings.ofRaw .algolia raw).searchable = peeledNames searched
      ∧ (IndexSettings.ofRaw .algolia raw).filterable = peeledNames facets
      ∧ (IndexSettings.ofRaw .algolia raw).facet = peeledNames facets
      ∧ ((IndexSettings.ofRaw .algolia raw).searchable = bareNames searched
        ↔ ∀ attr ∈ searched, attr.modifiers.length ≤ 1)
      ∧ ((IndexSettings.ofRaw .algolia raw).filterable = bareNames facets
        ↔ ∀ attr ∈ facets, attr.modifiers.length ≤ 1) := by
  have hsearchable : (IndexSettings.ofRaw .algolia raw).searchable
      = peeledNames (lists.flatten.map ListedAttribute.attr) := by
    show (IndexSettings.texts _).flatMap IndexSettings.attributesOf = _
    rw [hlists.texts_eq, List.flatMap_map]
    simp only [ListedAttribute.attributesOf_listText]
    rw [peeledNames, List.map_map, List.map_flatten, List.flatMap_def]
    rfl
  have hfaceted : (IndexSettings.texts (Fields.get? raw "attributesForFaceting")).map
      (fun entry => String.ofList (IndexSettings.unwrap entry.toList)) = peeledNames facets := by
    rw [hfacets.texts_eq, List.map_map]
    simp only [Function.comp_def, String.toList_ofList, Attribute.unwrap_text]
    rfl
  have hfilterable : (IndexSettings.ofRaw .algolia raw).filterable = peeledNames facets := hfaceted
  refine ⟨hsearchable, hfilterable, hfaceted, ?_, ?_⟩
  · rw [hsearchable, peeledNames_eq_bareNames_iff]
  · rw [hfilterable, peeledNames_eq_bareNames_iff]

/-! ### One modifier and two -/

/-- The attribute `searchable(author)`. -/
def searchableAuthor : Attribute :=
  ⟨["searchable".toList], "author".toList, by decide, by decide, by decide⟩

/-- The attribute `afterDistinct(searchable(brand))`. -/
def distinctBrand : Attribute :=
  ⟨["afterDistinct".toList, "searchable".toList], "brand".toList, by decide, by decide,
    by decide⟩

/-- The attribute `unordered(body)` after a space. -/
def spacedBody : ListedAttribute :=
  ⟨⟨["unordered".toList], "body".toList, by decide, by decide, by decide⟩, [' '], [], by decide,
    by decide⟩

/-- The attribute `title` with nothing around it. -/
def plainTitle : ListedAttribute :=
  ⟨⟨[], "title".toList, by decide, by decide, by decide⟩, [], [], by decide, by decide⟩

/-- Settings with the attributes above, each with one modifier at most. -/
def shallowSettings : Fields :=
  [("searchableAttributes", .array [.string "title, unordered(body)"]),
    ("attributesForFaceting", .array [.string "searchable(author)"])]

theorem shallow_names_are_bare :
    WritesTexts (Fields.get? shallowSettings "searchableAttributes")
        ([[plainTitle, spacedBody]].map ListedAttribute.listText)
      ∧ WritesTexts (Fields.get? shallowSettings "attributesForFaceting")
        ([searchableAuthor].map fun attr => String.ofList attr.text)
      ∧ (IndexSettings.ofRaw .algolia shallowSettings).searchable = ["title", "body"]
      ∧ (IndexSettings.ofRaw .algolia shallowSettings).filterable = ["author"] := by
  have hlists : WritesTexts (Fields.get? shallowSettings "searchableAttributes")
      ([[plainTitle, spacedBody]].map ListedAttribute.listText) :=
    .list ["title, unordered(body)"]
  have hfacets : WritesTexts (Fields.get? shallowSettings "attributesForFaceting")
      ([searchableAuthor].map fun attr => String.ofList attr.text) :=
    .list ["searchable(author)"]
  obtain ⟨hsearchable, hfilterable, -⟩ :=
    outermost_modifiers_are_removed shallowSettings hlists hfacets
  exact ⟨hlists, hfacets, hsearchable, hfilterable⟩

/-- The inner modifier stays, and the field `brand` is not among those for faceting. -/
theorem inner_modifier_stays :
    distinctBrand.text = "afterDistinct(searchable(brand))".toList
      ∧ WritesTexts (some (.string "afterDistinct(searchable(brand))"))
        ([distinctBrand].map fun attr => String.ofList attr.text)
      ∧ (IndexSettings.ofRaw .algolia
          [("attributesForFaceting", .string "afterDistinct(searchable(brand))")]).filterable
        = ["searchable(brand)"]
      ∧ (IndexSettings.ofRaw .algolia
          [("attributesForFaceting", .string "afterDistinct(searchable(brand))")]).filterable
        ≠ bareNames [distinctBrand] := by
  refine ⟨by decide, .single _, by decide, by decide⟩

end Metasearch
