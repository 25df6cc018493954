import Metasearch.Proofs.Engine.MeilisearchBody
import Metasearch.Proofs.Text.Scanning

set_option autoImplicit false

/-! # Sort orders, written and read back

A sort order goes out as a list of texts `field:direction` and comes in as such a list or as an
object. A field may be any text, with colons of its own and words for directions in it, and the
writer takes no notice. That nothing is lost has two reasons: no word for a direction contains a
colon, so the last colon is the one that was written (`splitLastColon?_append`), and the words for
the two directions are read as the directions they stand for (`Direction.ofText_name`).

An order without keys is written by leaving the list out, and what is left out is read as an order
without keys.
-/

namespace Metasearch

/-! ## One key -/

theorem Direction.ofText_name (direction : Direction) : ofText direction.name = direction := by
  cases direction <;> decide +kernel

theorem Direction.colon_not_mem_name (direction : Direction) : ':' ∉ direction.name.toList := by
  cases direction <;> decide

namespace SortKey

/-- **The last colon divides a text**, whatever stands before it. -/
theorem splitLastColon?_append {direction : List Char} (h : ':' ∉ direction)
    (field : List Char) :
    splitLastColon? (field ++ ':' :: direction) = some (field, direction) := by
  obtain ⟨htake, hdrop⟩ := Text.takeWhile_ne_reverse h field
  simp only [splitLastColon?, htake, hdrop, List.reverse_reverse]

/-- **A key is read back from its text.** -/
theorem ofText_text (key : SortKey) : ofText key.text = key := by
  have htext : key.text.toList = key.field.toList ++ ':' :: key.direction.name.toList := by
    simp [text]
  rw [ofText, htext, splitLastColon?_append key.direction.colon_not_mem_name]
  simp only [String.ofList_toList, Direction.ofText_name]

/-! ## Lists of keys -/

/-- A sort order written as an object. -/
def object (keys : List SortKey) : Json :=
  .object (keys.map fun key => (key.field, .string key.direction.name))

theorem listOfJson_ofStrings (keys : List SortKey) :
    listOfJson (.ofStrings (keys.map text)) = keys := by
  have hstrings : ((keys.map text).map Json.string).filterMap Json.string? = keys.map text := by
    rw [List.filterMap_map]
    exact List.filterMap_some
  rw [Json.ofStrings, listOfJson, hstrings, List.map_map]
  exact (List.map_congr_left fun key _ => ofText_text key).trans (List.map_id keys)

theorem listOfJson_object (keys : List SortKey) : listOfJson (object keys) = keys := by
  rw [object, listOfJson, List.map_map]
  refine (List.map_congr_left fun key _ => ?_).trans (List.map_id keys)
  show (⟨key.field, Direction.ofText key.direction.name⟩ : SortKey) = key
  rw [Direction.ofText_name]

/-- A payload that has a value for its sort order, or has none, is read with these keys, whatever
else it holds, if only its filters can be read. -/
def ReadFrom (value? : Option Json) (keys : List SortKey) : Prop :=
  ∀ entries filters, Fields.get? entries "sort" = value? →
    SearchPayload.readFilters entries = .ok filters →
    ∃ payload, SearchPayload.ofJson (.object entries) = .ok payload ∧ payload.sort = keys

/-- The keys of a payload are those of the value alone. -/
theorem readFrom {value? : Option Json} {keys : List SortKey}
    (h : (value?.map listOfJson).getD [] = keys) : ReadFrom value? keys := by
  rintro entries ⟨conditions, extra⟩ hsort hread
  rw [SearchPayload.ofJson, SearchPayload.ofEntries, hread]
  refine ⟨_, rfl, ?_⟩
  rw [← h, ← hsort]

end SortKey

/-! ## Bodies -/

namespace Meilisearch

theorem get?_textList (name : String) (texts : List String) :
    Fields.get? (textList name texts) name
      = if texts = [] then none else some (.ofStrings texts) := by
  by_cases h : texts = [] <;> simp [textList, Fields.get?_cons, h]

/-- The sort order of a body: a list of texts, or nothing for an order without keys. -/
theorem get?_sort {identifier : String} {request : SearchRequest} {body : Fields}
    (h : requestBody identifier request = .ok body) :
    Fields.get? body "sort"
      = if request.sort = [] then none else some (.ofStrings (request.sort.map SortKey.text)) := by
  obtain ⟨predicates, _, rfl⟩ := requestBody_eq_ok.mp h
  have hbehind := Body.keys_append (Body.keys_optional "limit" Json.ofNat request.limit)
    (Body.keys_append (Body.keys_optional "offset" Json.ofNat request.offset)
      (Body.keys_append (Body.keys_highlight request.highlight)
        (Body.keys_append (Body.keys_optional "distinct" Json.string request.distinct)
          (Body.keys_append (Body.keys_facets request.facets)
            (Body.keys_switch "showRankingScore" request.showScores)))))
  simp only [otherParts, List.append_assoc]
  rw [List.singleton_append, Fields.get?_cons, if_neg (by decide),
    Fields.get?_append_of_keys (keys_textList _ _) (by decide), Fields.get?_append,
    Fields.get?_eq_none.mpr fun hmem => absurd (hbehind.subset hmem) (by decide),
    Option.or_none, get?_textList]
  simp only [List.map_eq_nil_iff]

end Meilisearch

/-- **Sort orders survive rendering.** For a request whose filters compile there is a body, whatever
the sort order of the request is. A payload with the `sort` of the body, or with the same keys as an
object, is read with the sort order of the request: the same fields and directions in the same
order. -/
theorem sort_orders_are_read_back (identifier : String) (request : SearchRequest)
    (hcompiles : ∃ predicates,
      Filter.Meilisearch.compileAll identifier request.filters = .ok predicates) :
    ∃ body, Meilisearch.requestBody identifier request = .ok body
      ∧ (request.sort ≠ [] → Fields.get? body "sort"
          = some (.ofStrings (request.sort.map SortKey.text)))
      ∧ SortKey.ReadFrom (Fields.get? body "sort") request.sort
      ∧ SortKey.ReadFrom (some (SortKey.object request.sort)) request.sort := by
  obtain ⟨predicates, hpredicates⟩ := hcompiles
  obtain ⟨body, hbody⟩ : ∃ body, Meilisearch.requestBody identifier request = .ok body :=
    ⟨_, Meilisearch.requestBody_eq_ok.mpr ⟨predicates, hpredicates, rfl⟩⟩
  have hsort := Meilisearch.get?_sort hbody
  refine ⟨body, hbody, fun hkeys => ?_, SortKey.readFrom ?_, SortKey.readFrom ?_⟩
  · rw [hsort, if_neg hkeys]
  · rw [hsort]
    split
    · next hnone => exact hnone.symm
    · exact SortKey.listOfJson_ofStrings request.sort
  · exact SortKey.listOfJson_object request.sort

/-! ### Fields with colons -/

/-- A request sorted by a place, by a field whose name ends like a direction, and by the field
without a name. -/
def sortedByColons : SearchRequest where
  index := "books"
  filters := []
  sort := [⟨"_geoPoint(1,2)", .ascending⟩, ⟨"a:desc", .ascending⟩, ⟨"", .descending⟩]
  limit := none
  offset := none
  highlight := none
  distinct := none
  facets := []
  vector := none
  showScores := false

/-- What a body has under `sort` is read by a payload that has nothing else. -/
theorem colons_are_read_back :
    ∃ body payload, Meilisearch.requestBody "id" sortedByColons = .ok body
      ∧ Fields.get? body "sort"
          = some (.ofStrings ["_geoPoint(1,2):asc", "a:desc:asc", ":desc"])
      ∧ SearchPayload.ofJson
          (.object [("sort", .ofStrings ["_geoPoint(1,2):asc", "a:desc:asc", ":desc"])])
        = .ok payload
      ∧ payload.sort = sortedByColons.sort := by
  obtain ⟨body, hbody, hrendered, hread, _⟩ :=
    sort_orders_are_read_back "id" sortedByColons ⟨[], rfl⟩
  have hsort := hrendered (by decide)
  obtain ⟨payload, hpayload, hkeys⟩ := hread [("sort", .ofStrings _)] ([], []) hsort.symm rfl
  exact ⟨body, payload, hbody, hsort, hpayload, hkeys⟩

end Metasearch
