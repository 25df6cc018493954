import Metasearch.Proofs.Federation.Expansion
import Metasearch.Proofs.Json.Unordered
import Metasearch.Proofs.Payload.Filters

set_option autoImplicit false

/-! # What is read of an expanded query

A query of a federated payload is itself a payload of a single search, and so is what it is
expanded to. Both are read by the same rules, from keys that the expansion takes out, sets or
leaves alone. So the two readings can be compared key by key.

They fail together and with one failure, as the filter keys are left alone. And where they
succeed they differ in the index, the query text and the page size at most, and in the order of
what is passed on (`expansion_settles_three_parts`): all that is taken out or set has a meaning
of its own and is not passed on.
-/

namespace Metasearch

open Fields (Reordered)

/-- A natural number that is written as a count is read as the same count. -/
theorem Json.count?_ofNat (value : Nat) : Json.count? (.ofNat value) = some value := by
  have hnonneg : ¬ (value : Int) < 0 := Int.not_lt.mpr (Int.natCast_nonneg value)
  rw [ofNat, count?, if_neg hnonneg, Int.toNat_natCast]

namespace FederatedPayload

/-- The settled keys are passed on in no payload. -/
theorem settledKeys_subset : settledKeys ⊆ Alias.indexKeys ++ Alias.queryKeys ++ Alias.scoreKeys
    ++ SearchPayload.declarativeKeys := by decide

/-- The page size of an entry: its own under either name, that of the options, or the default. -/
theorem entryLimit_eq (payload : FederatedPayload) (query : Fields) :
    payload.entryLimit query
      = ((((Fields.get? query "limit").bind Json.count?).or
          ((Fields.get? query "hitsPerPage").bind Json.count?)).or
            payload.federation.limit).getD 100 := by
  rw [Option.getD_or]
  rfl

section Expanded

variable {payload : FederatedPayload} {query single : Fields} {index : String}
  (hdistinct : Fields.Distinct query) (h : payload.expand query = some (index, single))

include hdistinct h

/-- The expanded query has the text of the query, or the shared one. -/
theorem queryOf_expand : Alias.queryOf single = payload.entryQuery query := by
  have hget := get?_expand hdistinct h
  -- the first two names are taken out, and the text stands under the third
  have hterm : Fields.get? single "term" = none := hget "term"
  have hquery : Fields.get? single "query" = none := hget "query"
  have htext : Fields.get? single "q" = some (.string (payload.entryQuery query)) := hget "q"
  simp [Alias.queryOf, Alias.firstText, Alias.queryKeys, hterm, hquery, htext, Alias.text?]

/-- The expanded query has the page size of the query. -/
theorem count?_expand : (Fields.get? single "limit").bind Json.count?
    = some (payload.entryLimit query) := by
  rw [get?_expand hdistinct h, if_pos rfl, Option.bind_some, Json.count?_ofNat]

/-- The same is passed on of both, in one order or another. -/
theorem extra_expand {result result' : List Condition × Fields}
    (hread : SearchPayload.readFilters query = .ok result)
    (hread' : SearchPayload.readFilters single = .ok result') :
    Reordered result.2 result'.2 := by
  have hsingle := distinct_expand hdistinct h
  refine Fields.reordered_iff.mpr ⟨SearchPayload.distinct_extra hdistinct hread,
    SearchPayload.distinct_extra hsingle hread', fun key => ?_⟩
  rw [SearchPayload.get?_extra hdistinct hread, SearchPayload.get?_extra hsingle hread']
  by_cases hsettled : key ∈ settledKeys
  · have hplain : ∀ key ∈ settledKeys, key ∉ SearchPayload.filterKeys := by decide
    rw [if_neg (hplain key hsettled), if_neg (hplain key hsettled),
      if_pos (settledKeys_subset hsettled), if_pos (settledKeys_subset hsettled)]
  · have hsame := get?_expand_of_not_mem hdistinct h hsettled
    rw [SearchPayload.rawFilter?, SearchPayload.rawFilter?, hsame]

/-- Reading the expanded query fails as reading the query does, or gives the same but for three
parts and the order of what is passed on. -/
theorem ofEntries_expand :
    (∃ failure, SearchPayload.ofEntries query = .error failure
        ∧ SearchPayload.ofEntries single = .error failure)
      ∨ ∃ own extra, SearchPayload.ofEntries query = .ok own
        ∧ SearchPayload.ofEntries single = .ok
          { own with
            index := Alias.indexOf query
            query := payload.entryQuery query
            limit := some (payload.entryLimit query)
            extra := extra }
        ∧ Reordered own.extra extra := by
  have hsame : ∀ key, key ∉ settledKeys → Fields.get? single key = Fields.get? query key :=
    fun key hkey => get?_expand_of_not_mem hdistinct h hkey
  have hfilterKeys : ∀ key ∈ SearchPayload.filterKeys, key ∉ settledKeys := by decide
  have hscoreKeys : ∀ key ∈ Alias.scoreKeys, key ∉ settledKeys := by decide
  rcases SearchPayload.readFilters_agree
      fun key hkey => .inl (hsame key (hfilterKeys key hkey)).symm with
    ⟨mistake, hread, hread'⟩ | ⟨conditions, extra, extra', hread, hread'⟩
  · exact .inl ⟨.invalidFilter mistake, by rw [SearchPayload.ofEntries, hread],
      by rw [SearchPayload.ofEntries, hread']⟩
  · obtain ⟨hindex, hnames⟩ := indexOf_expand hdistinct h
    have hscores : Alias.wantsScores single = Alias.wantsScores query :=
      Alias.wantsScores_congr fun key hkey => hsame key (hscoreKeys key hkey)
    refine .inr ⟨_, extra', by rw [SearchPayload.ofEntries, hread], ?_,
      extra_expand hdistinct h hread hread'⟩
    rw [SearchPayload.ofEntries, hread']
    simp only [hindex, hnames, hscores, queryOf_expand hdistinct h, count?_expand hdistinct h,
      hsame "sort" (by decide), hsame "offset" (by decide), hsame "highlight" (by decide),
      hsame "distinct" (by decide), hsame "facets" (by decide), hsame "vector" (by decide)]

end Expanded

/-- **Expanding a query settles its index, its text and its page size, and nothing else.** A query
that names an index becomes a single search. Reading this fails exactly if reading the query does,
and with the same failure. Otherwise the two readings agree in everything but the index, which is
the one that the query names; the text, which is the query's own or else the shared one; the page
size, which is the query's own under either name, that of the options or one hundred; and the order
of the keys that are passed on. -/
theorem expansion_settles_three_parts (payload : FederatedPayload) {position : Nat}
    {query : Fields} (hquery : payload.queries[position]? = some query)
    (hdistinct : Fields.Distinct query) (hindex : Alias.indexOf query ≠ "") :
    ∃ single, payload.entry? position = some (Alias.indexOf query, single)
      ∧ (∀ failure, SearchPayload.ofJson (.object single) = .error failure ↔
        SearchPayload.ofJson (.object query) = .error failure)
      ∧ ∀ own, SearchPayload.ofJson (.object query) = .ok own →
        ∃ extra, Reordered own.extra extra
          ∧ SearchPayload.ofJson (.object single) = .ok
            { own with
              index := Alias.indexOf query
              query := if Alias.queryOf query = "" then payload.query else Alias.queryOf query
              limit := some (((((Fields.get? query "limit").bind Json.count?).or
                ((Fields.get? query "hitsPerPage").bind Json.count?)).or
                  payload.federation.limit).getD 100)
              extra := extra } := by
  obtain ⟨⟨index, single⟩, hexpand⟩ : ∃ expanded, payload.expand query = some expanded :=
    Option.ne_none_iff_exists'.mp (mt expand_eq_none_iff.mp hindex)
  obtain rfl : index = Alias.indexOf query := index_of_expand hexpand
  have hentry : payload.entry? position = some (Alias.indexOf query, single) := by
    unfold entry?
    rw [hquery, Option.bind_some, hexpand]
  refine ⟨single, hentry, ?_⟩
  show (∀ failure, SearchPayload.ofEntries single = .error failure ↔
      SearchPayload.ofEntries query = .error failure)
    ∧ ∀ own, SearchPayload.ofEntries query = .ok own → _
  rw [← entryLimit_eq]
  rcases ofEntries_expand hdistinct hexpand with
    ⟨failure, hread, hread'⟩ | ⟨own, extra, hread, hread', hextra⟩
  · rw [hread, hread']
    exact ⟨fun _ => Iff.rfl, fun _ hown => by cases hown⟩
  · rw [hread]
    refine ⟨fun failure => ⟨fun hfails => ?_, fun hfails => by cases hfails⟩, fun _ hown => ?_⟩
    · rw [hread'] at hfails
      cases hfails
    · cases hown
      exact ⟨extra, hextra, hread'⟩

/-! ### A query in another engine's words -/

/-- A query for films that gives its index as `indexUid` and its page size as `hitsPerPage`, with
a filter in the engine's language. -/
def filmQuery : Fields :=
  [("indexUid", .string "films"), ("term", .null), ("hitsPerPage", .string " 7 "),
    ("filter", .string "year > 2000"), ("getRankingInfo", .bool true)]

/-- A payload of this query alone, with a query text for all. -/
def filmPayload : FederatedPayload := ⟨"sea", [filmQuery], .empty⟩

/-- The query is read with the shared text and its own page size, and keeps its filter. -/
theorem filmQuery_is_settled :
    filmPayload.queries[0]? = some filmQuery ∧ Fields.Distinct filmQuery
      ∧ Alias.indexOf filmQuery ≠ ""
      ∧ ∃ single read, filmPayload.entry? 0 = some ("films", single)
        ∧ SearchPayload.ofJson (.object single) = .ok read
        ∧ read.index = "films" ∧ read.query = "sea" ∧ read.limit = some 7
        ∧ read.showScores = true
        ∧ Fields.get? read.extra "filter" = some (.string "year > 2000") := by
  have hquery : filmPayload.queries[0]? = some filmQuery := rfl
  have hdistinct : Fields.Distinct filmQuery := by decide
  have hindex : Alias.indexOf filmQuery ≠ "" := by decide
  obtain ⟨single, hentry, _, hread⟩ :=
    expansion_settles_three_parts filmPayload hquery hdistinct hindex
  obtain ⟨extra, hextra, hsingle⟩ := hread _ rfl
  refine ⟨hquery, hdistinct, hindex, single, _, hentry, hsingle, rfl, rfl, rfl, rfl, ?_⟩
  rw [← hextra.get?_eq]
  rfl

end FederatedPayload

end Metasearch
