import Mathlib.Data.List.Infix
import Metasearch.Federation.Relevance
import Metasearch.Proofs.Json.Sound
import Metasearch.Proofs.StableSort
import Metasearch.Proofs.Text.Words

set_option autoImplicit false

/-! # Ranking by common terms

The code looks for the terms of a query in one long text: all texts of a document, each with a
space behind it, in lowercase. Said from the outside, a term matches a document if it occurs in
one of its texts (`Matches`), and the hits are put in the stable order of how many terms match
(`termOverlap_reranks`).

The two agree because a term has no blank in it. So it cannot reach over the space between two
texts (`Text.infix_append_separator`), and each text is lowered as if it stood alone
(`Text.lowercase_append_blank`).
-/

namespace Metasearch

/-! ## Texts in a document -/

namespace Json

/-- A text stands in a value: it is the value itself, or it stands in an item of a list or in the
value of an entry. -/
inductive TextIn (text : String) : Json → Prop
  | here : TextIn text (.string text)
  | item {items : List Json} {item : Json} (mem : item ∈ items) (inside : TextIn text item) :
    TextIn text (.array items)
  | entry {entries : List (String × Json)} {entry : String × Json} (mem : entry ∈ entries)
    (inside : TextIn text entry.2) : TextIn text (.object entries)

mutual

/-- The texts in a value, in their order. -/
def texts : Json → List String
  | .string text => [text]
  | .array items => textsOfItems items
  | .object entries => textsOfEntries entries
  | _ => []

def textsOfItems : List Json → List String
  | [] => []
  | item :: rest => texts item ++ textsOfItems rest

def textsOfEntries : List (String × Json) → List String
  | [] => []
  | (_, value) :: rest => texts value ++ textsOfEntries rest

end

theorem textsOfItems_eq_flatMap (items : List Json) : textsOfItems items = items.flatMap texts := by
  induction items with
  | nil => rfl
  | cons item items ih => rw [textsOfItems, ih, List.flatMap_cons]

theorem textsOfEntries_eq_flatMap (entries : List (String × Json)) :
    textsOfEntries entries = entries.flatMap fun entry => texts entry.2 := by
  induction entries with
  | nil => rfl
  | cons entry entries ih => rw [textsOfEntries, ih, List.flatMap_cons]

theorem mem_texts {text : String} {value : Json} : text ∈ texts value ↔ TextIn text value := by
  constructor
  · induction value using Json.induction with
    | scalar value harray hobject =>
      intro hmem
      cases value with
      | string other =>
        obtain rfl := List.mem_singleton.mp hmem
        exact .here
      | array items => exact absurd rfl (harray items)
      | object entries => exact absurd rfl (hobject entries)
      | _ => cases hmem
    | array items ih =>
      intro hmem
      rw [texts, textsOfItems_eq_flatMap, List.mem_flatMap] at hmem
      obtain ⟨item, hitem, hinside⟩ := hmem
      exact .item hitem (ih item hitem hinside)
    | object entries ih =>
      intro hmem
      rw [texts, textsOfEntries_eq_flatMap, List.mem_flatMap] at hmem
      obtain ⟨entry, hentry, hinside⟩ := hmem
      exact .entry hentry (ih entry hentry hinside)
  · intro hinside
    induction hinside with
    | here => exact List.mem_singleton_self text
    | @item items item mem _ ih =>
      rw [texts, textsOfItems_eq_flatMap]
      exact List.mem_flatMap.mpr ⟨item, mem, ih⟩
    | @entry entries entry mem _ ih =>
      rw [texts, textsOfEntries_eq_flatMap]
      exact List.mem_flatMap.mpr ⟨entry, mem, ih⟩

end Json

namespace Federation

/-! ## Terms that match -/

/-- A term matches a document: without regard to case it occurs in one of its texts. -/
def Matches (document : Fields) (term : List Char) : Prop :=
  ∃ text, Json.TextIn text (.object document)
    ∧ Text.lowercase term <:+: Text.lowercase text.toList

instance (document : Fields) : DecidablePred (Matches document) := fun term =>
  decidable_of_iff (∃ text ∈ Json.texts (.object document),
      Text.lowercase term <:+: Text.lowercase text.toList)
    (exists_congr fun _ => and_congr_left fun _ => Json.mem_texts)

/-- How many words of a query match a document, a repeated word as often as it stands there. -/
def matchCount (query : String) (hit : Hit) : Nat :=
  (Text.words query.toList).countP fun term => Matches hit.fields term

/-- The texts of a document one after the other, each with a space behind it. -/
def spaced (texts : List String) : List Char := texts.flatMap fun text => text.toList ++ [' ']

theorem collectItems_eq_flatMap (items : List Json) :
    collectItems items = items.flatMap collectText := by
  induction items with
  | nil => rfl
  | cons item items ih => rw [collectItems, ih, List.flatMap_cons]

theorem collectEntries_eq_flatMap (entries : List (String × Json)) :
    collectEntries entries = entries.flatMap fun entry => collectText entry.2 := by
  induction entries with
  | nil => rfl
  | cons entry entries ih => rw [collectEntries, ih, List.flatMap_cons]

/-- **What is searched is the texts of the document**, each with a space behind it. -/
theorem collectText_eq (value : Json) : collectText value = spaced value.texts := by
  induction value using Json.induction with
  | scalar value harray hobject =>
    cases value with
    | array items => exact absurd rfl (harray items)
    | object entries => exact absurd rfl (hobject entries)
    | _ => simp [collectText, Json.texts, spaced]
  | array items ih =>
    rw [collectText, collectItems_eq_flatMap, Json.texts, Json.textsOfItems_eq_flatMap, spaced,
      List.flatMap_assoc]
    exact List.flatMap_congr ih
  | object entries ih =>
    rw [collectText, collectEntries_eq_flatMap, Json.texts, Json.textsOfEntries_eq_flatMap, spaced,
      List.flatMap_assoc]
    exact List.flatMap_congr ih

theorem occursIn_iff {part text : List Char} : occursIn part text = true ↔ part <:+: text := by
  induction text with
  | nil => simp [occursIn]
  | cons c text ih => simp [occursIn, List.infix_cons_iff, ih]

/-- A term occurs in the long text exactly if it occurs in one of the texts. -/
theorem infix_lowercase_spaced {term : List Char} (hne : term ≠ []) (hspace : ' ' ∉ term)
    (texts : List String) :
    term <:+: Text.lowercase (spaced texts)
      ↔ ∃ text ∈ texts, term <:+: Text.lowercase text.toList := by
  induction texts with
  | nil => simp [spaced, Text.lowercase, Text.lowercaseAfter, hne]
  | cons text texts ih =>
    have hspaced : spaced (text :: texts) = text.toList ++ ' ' :: spaced texts := by
      simp [spaced]
    rw [hspaced, Text.lowercase_append_blank (by decide), Text.infix_append_separator hspace hne,
      ih, List.exists_mem_cons_iff]

theorem queryTerms_eq (query : String) :
    queryTerms query = (Text.words query.toList).map Text.lowercase :=
  Text.words_lowercase query.toList

/-- **The overlap is the number of words that match.** -/
theorem overlap_eq (query : String) (hit : Hit) :
    overlap (queryTerms query) hit = matchCount query hit := by
  have hcollect : collectEntries hit.fields = spaced (Json.object hit.fields).texts :=
    collectText_eq (.object hit.fields)
  rw [overlap, queryTerms_eq, List.countP_map, matchCount]
  refine List.countP_congr fun term hterm => ?_
  -- a word in lowercase is still a word, so it has no space in it
  have hword : Text.lowercase term ∈ Text.words (Text.lowercase query.toList) := by
    rw [Text.words_lowercase]
    exact List.mem_map_of_mem hterm
  obtain ⟨hne, hblank⟩ := Text.of_mem_words hword
  have hspace : ' ' ∉ Text.lowercase term := fun hmem => absurd (hblank ' ' hmem) (by decide)
  rw [Function.comp_apply, occursIn_iff, hcollect, infix_lowercase_spaced hne hspace,
    decide_eq_true_iff]
  exact exists_congr fun _ => and_congr_left fun _ => Json.mem_texts

/-! ## The order of hits -/

/-- A hit goes before another if no fewer words match it. -/
def matchesMore (query : String) (a b : Hit) : Bool := matchCount query b ≤ matchCount query a

/-- The hits that some word of a query matches. -/
def matchedHits (query : String) (hits : List Hit) : List Hit :=
  hits.filter fun hit => 0 < matchCount query hit

theorem totalPreorderOn_matchesMore (query : String) (hits : List Hit) :
    TotalPreorderOn (matchesMore query) hits where
  total a _ b _ := by
    simp only [matchesMore, decide_eq_true_eq]
    exact Nat.le_total _ _
  trans a _ b _ c _ hab hbc := by
    simp only [matchesMore, decide_eq_true_eq] at hab hbc ⊢
    exact Nat.le_trans hbc hab

/-- A query with words sorts the hits that match. -/
theorem termOverlap_eq_mergeSort {query : String} (h : Text.words query.toList ≠ [])
    (hits : List Hit) :
    termOverlap query hits = (matchedHits query hits).mergeSort (matchesMore query) := by
  have hterms : (queryTerms query).isEmpty = false := by simp [queryTerms_eq, h]
  simp only [termOverlap, hterms, Bool.false_eq_true, if_false, overlap_eq]
  -- each hit carries its count along, and the sorting looks at nothing else
  have hfilter : (hits.map fun hit => (matchCount query hit, hit)).filter (fun a => 0 < a.1)
      = (matchedHits query hits).map fun hit => (matchCount query hit, hit) :=
    List.filter_map
  have hsort : ((matchedHits query hits).mergeSort (matchesMore query)).map
        (fun hit => (matchCount query hit, hit))
      = ((matchedHits query hits).map fun hit => (matchCount query hit, hit)).mergeSort
        fun a b => b.1 ≤ a.1 :=
    List.map_mergeSort fun _ _ _ _ => rfl
  rw [hfilter, ← hsort, List.map_map]
  exact List.map_id _

/-- A query without words leaves the hits as they are. -/
theorem termOverlap_of_blank {query : String} (h : Text.words query.toList = [])
    (hits : List Hit) : termOverlap query hits = hits := by
  have hterms : queryTerms query = [] := by rw [queryTerms_eq, h, List.map_nil]
  simp [termOverlap, hterms]

/-- The hits that match are sorted already, and all of them still match. -/
theorem termOverlap_termOverlap (query : String) (hits : List Hit) :
    termOverlap query (termOverlap query hits) = termOverlap query hits := by
  by_cases hwords : Text.words query.toList = []
  · rw [termOverlap_of_blank hwords, termOverlap_of_blank hwords]
  · rw [termOverlap_eq_mergeSort hwords, termOverlap_eq_mergeSort hwords]
    have hmatched : matchedHits query ((matchedHits query hits).mergeSort (matchesMore query))
        = (matchedHits query hits).mergeSort (matchesMore query) := by
      refine List.filter_eq_self.mpr fun hit hmem => ?_
      exact (List.mem_filter.mp (List.mem_mergeSort.mp hmem)).2
    rw [hmatched]
    exact List.mergeSort_of_pairwise
      (pairwise_mergeSort (totalPreorderOn_matchesMore query (matchedHits query hits)))

/-- **Hits are put in the stable order of how many words of the query match them**, and those
that no word matches are left out. A blank query changes nothing, and to rank twice is to rank
once. -/
theorem termOverlap_reranks (query : String) (hits : List Hit) :
    (Text.words query.toList ≠ [] →
      ∃ order, StableOrder (matchesMore query) (matchedHits query hits) order
        ∧ termOverlap query hits = order.map Prod.fst)
    ∧ (Text.allBlank query.toList = true → termOverlap query hits = hits)
    ∧ termOverlap query (termOverlap query hits) = termOverlap query hits := by
  refine ⟨fun hwords => ?_, fun hblank => ?_, termOverlap_termOverlap query hits⟩
  · obtain ⟨order, horder, hitems⟩ :=
      exists_stableOrder (totalPreorderOn_matchesMore query (matchedHits query hits))
    exact ⟨order, horder, (termOverlap_eq_mergeSort hwords hits).trans hitems.symm⟩
  · exact termOverlap_of_blank (Text.words_eq_nil_iff.mpr hblank) hits

/-! ### Three roads -/

/-- A document with two halves of a word, in texts of their own. -/
def halvedRoad : Hit := ⟨[("kind", .string "re"), ("kin", .string "d")], none, none⟩

def redRoad : Hit := ⟨[("kinds", .array [.string "Tired road"])], none, none⟩

/-- The last letter of the name is a sigma at the end of a word. -/
def greekRoad : Hit :=
  ⟨[("kind", .string "RED"), ("road", .object [("name", .string "ΟΔΟΣ")])], none, none⟩

/-- The road that two words match goes before the one that a single word matches, and two halves
of a word in two texts are no match. -/
theorem greek_road_comes_first : Text.words "Red οδος".toList ≠ []
    ∧ termOverlap "Red οδος" [halvedRoad, redRoad, greekRoad] = [greekRoad, redRoad] := by
  have hwords : Text.words "Red οδος".toList ≠ [] := by decide +kernel
  have hhalved : matchCount "Red οδος" halvedRoad = 0 := by decide +kernel
  have hred : matchCount "Red οδος" redRoad = 1 := by decide +kernel
  have hgreek : matchCount "Red οδος" greekRoad = 2 := by decide +kernel
  have hmatched : matchedHits "Red οδος" [halvedRoad, redRoad, greekRoad]
      = [redRoad, greekRoad] := by
    simp [matchedHits, hhalved, hred, hgreek]
  have hknown : StableOrder (matchesMore "Red οδος") [redRoad, greekRoad]
      [(greekRoad, 1), (redRoad, 0)] :=
    ⟨.swap _ _ [], by simp [matchesMore, hred, hgreek], by simp [matchesMore, hred, hgreek]⟩
  obtain ⟨order, horder, hitems⟩ :=
    (termOverlap_reranks "Red οδος" [halvedRoad, redRoad, greekRoad]).1 hwords
  rw [hmatched] at horder
  rw [hitems, hknown.unique horder]
  exact ⟨hwords, rfl⟩

end Federation

end Metasearch
