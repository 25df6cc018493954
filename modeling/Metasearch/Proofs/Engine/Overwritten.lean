import Metasearch.Proofs.Engine.AlgoliaBody

set_option autoImplicit false

/-! # Places that are overwritten

The words of all searches are joined under `query`, and the expressions of all filters under
`filters`: no condition of these kinds takes the place of another. The parameters of places are set
one by one under keys of their own, and those of the next place of the same kind are set over them.

So a condition is represented in a body exactly if it is not overwritten (`Overwritten`), and to be
overwritten takes a later condition of the same kind with other parameters. Which of several is the
last is all that matters; how many come before it does not.
-/

namespace Metasearch.Algolia

open Filter.Algolia (Predicate)

/-! ## What it means -/

/-- **A condition is represented in a body**: its words are among those of the query text, its
expression is one of the clauses of the filter text, or its parameters are among those of the
search. -/
structure Represented (c : Condition) (body : Fields) : Prop where
  words : ∀ text, c = .search text → text ≠ "" →
    ∃ words, text ∈ words ∧ Fields.get? body "query" = some (.string (" ".intercalate words))
  clause : c.isSearch = false → c.isGeo = false →
    ∃ predicate clause clauses, Filter.Algolia.compile c = .ok predicate
      ∧ predicate.expression? = some clause ∧ clause ∈ clauses
      ∧ Fields.get? body "filters" = some (.string (" AND ".intercalate clauses))
  place : ∀ parameters, Filter.Algolia.compile c = .ok (.geo parameters) →
    ∀ entry ∈ parameters, Fields.get? body entry.1 = some entry.2

/-- Of the conditions of the same kind, the last one sets other parameters. -/
def Overwritten (conditions : List Condition) (c : Condition) : Prop :=
  ∃ before last after, conditions = before ++ last :: after ∧ last.tag = c.tag
    ∧ (∀ d ∈ after, d.tag ≠ c.tag) ∧ placeParameters last ≠ placeParameters c

/-! ## The last of a kind -/

/-- Among the items with a property there is a last one. -/
theorem exists_last {α : Type} {p : α → Prop} {items : List α} (h : ∃ item ∈ items, p item) :
    ∃ before last after, items = before ++ last :: after ∧ p last
      ∧ ∀ later ∈ after, ¬ p later := by
  induction items with
  | nil =>
    obtain ⟨item, hitem, _⟩ := h
    cases hitem
  | cons first rest ih =>
    by_cases hrest : ∃ item ∈ rest, p item
    · obtain ⟨before, last, after, rfl, hlast, hafter⟩ := ih hrest
      exact ⟨first :: before, last, after, rfl, hlast, hafter⟩
    · obtain ⟨item, hitem, hp⟩ := h
      rcases List.mem_cons.mp hitem with rfl | hitem
      · exact ⟨[], item, rest, rfl, hp, fun later hlater hp => hrest ⟨later, hlater, hp⟩⟩
      · exact absurd ⟨item, hitem, hp⟩ hrest

/-- Conditions of one kind set the same keys. -/
theorem keys_placeParameters_of_tag {c d : Condition} (h : c.tag = d.tag) :
    Fields.keys (placeParameters c) = Fields.keys (placeParameters d) := by
  cases c <;> cases d <;> first | rfl | cases h

/-- Entries that stand in a body are determined by their keys. -/
theorem eq_map_keys {entries body : Fields}
    (h : ∀ entry ∈ entries, Fields.get? body entry.1 = some entry.2) :
    entries = (Fields.keys entries).map fun key => (key, (Fields.get? body key).getD .null) := by
  induction entries with
  | nil => rfl
  | cons entry rest ih =>
    obtain ⟨hentry, hrest⟩ := List.forall_mem_cons.mp h
    have heq := ih hrest
    rw [Fields.keys, List.map_cons, List.map_cons, hentry]
    exact congrArg (entry :: ·) heq

/-- **Two conditions of one kind whose parameters all stand in a body have the same ones.** -/
theorem placeParameters_eq_of_tag {c d : Condition} (htag : c.tag = d.tag) {body : Fields}
    (hc : ∀ entry ∈ placeParameters c, Fields.get? body entry.1 = some entry.2)
    (hd : ∀ entry ∈ placeParameters d, Fields.get? body entry.1 = some entry.2) :
    placeParameters c = placeParameters d := by
  calc placeParameters c
      = (Fields.keys (placeParameters c)).map
          fun key => (key, (Fields.get? body key).getD .null) := eq_map_keys hc
    _ = (Fields.keys (placeParameters d)).map
          fun key => (key, (Fields.get? body key).getD .null) := by
        rw [keys_placeParameters_of_tag htag]
    _ = placeParameters d := (eq_map_keys hd).symm

/-- What compiles to search parameters is a place, and these are its own. -/
theorem eq_placeParameters {c : Condition} {parameters : Fields}
    (h : Filter.Algolia.compile c = .ok (.geo parameters)) : parameters = placeParameters c := by
  have heq := geoParameters_cons h []
  simpa [geoParameters] using heq

theorem Represented.get?_place {c : Condition} {body : Fields} (h : Represented c body) :
    ∀ entry ∈ placeParameters c, Fields.get? body entry.1 = some entry.2 := by
  cases c with
  | near field lat lng distance => exact h.place _ rfl
  | within field box => exact h.place _ rfl
  | _ =>
    intro entry hentry
    cases hentry

/-! ## The query text -/

/-- The words of a condition are those of what it compiles to. -/
theorem queryWords_eq {conditions : List Condition} {predicates : List Predicate}
    (h : Filter.Algolia.compileAll conditions = .ok predicates) :
    queryWords predicates = conditions.filterMap SearchRequest.searchText? := by
  symm
  apply filterMap_eq_of_forall₂ (Filter.Algolia.compileAll_eq_ok.mp h)
  intro c p hp
  cases c with
  | search text =>
    cases hp
    rfl
  | _ =>
    -- what is no search does not compile to words
    cases p with
    | query text => cases (Filter.Algolia.eq_query_iff hp).mp rfl
    | _ => rfl

section Body

variable {request : SearchRequest} {body : Fields} (hbody : requestBody request = .ok body)

include hbody

/-- **The query text of a body** is that of all searches outside groups. -/
theorem get?_query : Fields.get? body "query" = some (.string request.queryText) := by
  obtain ⟨predicates, hcompiled, _⟩ := requestBody_eq_ok.mp hbody
  have hstart : Fields.get? (startOf request predicates) "query"
      = some (.string request.queryText) := by
    rw [SearchRequest.queryText, ← queryWords_eq hcompiled]
    simp [startOf, Fields.get?_cons]
  rw [get?_of_not_place hcompiled hbody (by decide), hstart, Option.some_or]

/-- Words and filters are never overwritten; a place needs its parameters to be there. -/
theorem represented_of_place {c : Condition} (hc : c ∈ request.filters)
    (hplace : ∀ entry ∈ placeParameters c, Fields.get? body entry.1 = some entry.2) :
    Represented c body := by
  constructor
  · rintro text rfl htext
    refine ⟨request.filters.filterMap SearchRequest.searchText?, ?_, get?_query hbody⟩
    apply List.mem_filterMap.mpr
    exact ⟨.search text, hc, if_neg htext⟩
  · exact (filtered_requestBody hbody).clauses c hc
  · intro parameters hcompile
    rw [eq_placeParameters hcompile]
    exact hplace

/-- The parameters of the last condition of a kind stand in the body. -/
theorem get?_last {before after : List Condition} {last : Condition}
    (hsplit : request.filters = before ++ last :: after) (hafter : ∀ d ∈ after, d.tag ≠ last.tag) :
    ∀ entry ∈ placeParameters last, Fields.get? body entry.1 = some entry.2 := by
  obtain ⟨predicates, hcompiled, _⟩ := requestBody_eq_ok.mp hbody
  exact fun entry hentry => get?_place hcompiled hbody hsplit hafter hentry

end Body

/-- **A condition is lost only by being overwritten.** For every request that is accepted, with
conditions in any number and order: the query text is that of all searches, and a condition is
represented in the body exactly if no later one of its kind sets other parameters. -/
theorem represented_unless_overwritten {request : SearchRequest} {body : Fields}
    (hbody : requestBody request = .ok body) :
    Fields.get? body "query" = some (.string request.queryText)
      ∧ ∀ c ∈ request.filters, (Represented c body ↔ ¬ Overwritten request.filters c) := by
  refine ⟨get?_query hbody, fun c hc => ?_⟩
  constructor
  · rintro hrepresented ⟨before, last, after, hsplit, htag, hafter, hne⟩
    rw [← htag] at hafter
    -- both conditions would stand in the body, under the same keys
    have hlast := get?_last hbody hsplit hafter
    exact hne (placeParameters_eq_of_tag htag hlast hrepresented.get?_place)
  · intro hkept
    obtain ⟨before, last, after, hsplit, htag, hafter⟩ :=
      @exists_last _ (fun d : Condition => d.tag = c.tag) request.filters ⟨c, hc, rfl⟩
    have hsame : placeParameters last = placeParameters c := by
      by_contra hne
      exact hkept ⟨before, last, after, hsplit, htag, hafter, hne⟩
    apply represented_of_place hbody hc
    rw [← hsame]
    rw [← htag] at hafter
    exact get?_last hbody hsplit hafter

/-! ### Two squares -/

/-- A square on the map. -/
def square (low high : Float) : Condition := .within "_geoloc" ⟨high, high, low, low⟩

theorem tag_square (low high : Float) : (square low high).tag = .within := rfl

/-- A search for words in two squares. -/
def inTwoSquares : SearchRequest where
  index := "books"
  filters := [.search "sea", square 1 2, square 3 4]
  sort := []
  limit := none
  offset := none
  highlight := none
  distinct := none
  facets := []
  vector := none
  showScores := false

/-- The body has the numbers of the second square. -/
def bodyOfTwoSquares : Fields :=
  [("indexName", .string "books"), ("query", .string "sea")] ++ placeParameters (square 3 4)

theorem requestBody_inTwoSquares : requestBody inTwoSquares = .ok bodyOfTwoSquares := rfl

/-- The northern edge of the first box in a list of boxes. -/
def north? (boxes : Json) : Option Float :=
  ((boxes.array?.bind List.head?).bind fun box => box.array?.bind List.head?).bind Json.float?

theorem north?_square_ne :
    (placeParameters (square 3 4)).map (fun entry => north? entry.2)
      ≠ (placeParameters (square 1 2)).map fun entry => north? entry.2 := by decide +kernel

/-- The words are there, and the first square is not. -/
theorem words_are_represented :
    requestBody inTwoSquares = .ok bodyOfTwoSquares
      ∧ Represented (.search "sea") bodyOfTwoSquares
      ∧ ¬ Represented (square 1 2) bodyOfTwoSquares := by
  obtain ⟨_, hconditions⟩ := represented_unless_overwritten requestBody_inTwoSquares
  refine ⟨requestBody_inTwoSquares, ?_, ?_⟩
  · rw [hconditions (.search "sea") (by simp [inTwoSquares])]
    rintro ⟨_, last, _, _, htag, _, hne⟩
    exact hne (by cases last <;> first | rfl | cases htag)
  · rw [hconditions (square 1 2) (by simp [inTwoSquares]), not_not]
    have htag : (square 3 4).tag = (square 1 2).tag := by rw [tag_square, tag_square]
    refine ⟨[.search "sea", square 1 2], square 3 4, [], rfl, htag, by simp, ?_⟩
    exact fun heq => north?_square_ne (by rw [heq])

/-- **A place is lost** although the request is accepted: of two squares the second is sent. -/
theorem first_square_is_lost :
    ¬ ∀ request body, requestBody request = .ok body →
      ∀ c ∈ request.filters, Represented c body := by
  intro h
  have hrepresented : Represented (square 1 2) bodyOfTwoSquares :=
    h inTwoSquares bodyOfTwoSquares requestBody_inTwoSquares _ (by simp [inTwoSquares])
  -- both squares have their parameters under the same key
  have hlast : ∀ entry ∈ placeParameters (square 3 4),
      Fields.get? bodyOfTwoSquares entry.1 = some entry.2 := by
    apply @get?_last inTwoSquares _ requestBody_inTwoSquares [.search "sea", square 1 2] []
    · rfl
    · simp
  have htag : (square 3 4).tag = (square 1 2).tag := by rw [tag_square, tag_square]
  have hsame := placeParameters_eq_of_tag htag hlast hrepresented.get?_place
  exact north?_square_ne (by rw [hsame])

end Metasearch.Algolia
