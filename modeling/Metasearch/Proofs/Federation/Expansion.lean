import Metasearch.Federation.Fanout
import Metasearch.Proofs.Json.Removal
import Metasearch.Proofs.Stepwise

set_option autoImplicit false

/-! # What an entry of a fan-out becomes

Each query of a federated payload is rewritten before it is carried out: its index, query text
and page size are settled under one name each, and the other names for them are taken out. The
rewriting removes keys, so it reorders the rest; but look-up under every other key stays as it
was (`get?_expand`). So what a search makes of the other keys can be read off the query itself.
-/

namespace Metasearch

/-- The queries that are carried out: those that name an index. -/
def indexed (queries : List Fields) : List Fields :=
  queries.filter fun query => Alias.indexOf query ≠ ""

/-- What is made of a list of queries, when those without an index are passed over. -/
theorem filterMap_eq_map_indexed {β : Type} {turn : Fields → Option β} {make : Fields → β}
    (h : ∀ query, turn query = if Alias.indexOf query = "" then none else some (make query))
    (queries : List Fields) : queries.filterMap turn = (indexed queries).map make := by
  induction queries with
  | nil => rfl
  | cons query rest ih =>
    unfold indexed at ih ⊢
    by_cases hindex : Alias.indexOf query = ""
    · rw [List.filterMap_cons_none (by rw [h, if_pos hindex]), ih,
        List.filter_cons_of_neg (by simp [hindex])]
    · rw [List.filterMap_cons_some (by rw [h, if_neg hindex]), ih,
        List.filter_cons_of_pos (by simp [hindex]), List.map_cons]

namespace FederatedPayload

/-- The keys of a query that its expansion settles or takes out. -/
def settledKeys : List String := Alias.indexKeys ++ Alias.queryKeys ++ ["limit"]

variable {payload : FederatedPayload} {query single : Fields} {index : String}

theorem expand_eq_none_iff : payload.expand query = none ↔ Alias.indexOf query = "" := by
  simp [expand]

theorem distinct_expand (hdistinct : Fields.Distinct query)
    (h : payload.expand query = some (index, single)) : Fields.Distinct single := by
  simp only [expand, Option.ite_none_left_eq_some, Option.some.injEq, Prod.mk.injEq] at h
  obtain ⟨_, _, rfl⟩ := h
  have hrest : Fields.Distinct
      (Fields.eraseAll (Fields.eraseAll query Alias.indexKeys) Alias.queryKeys) :=
    Fields.distinct_eraseAll (Fields.distinct_eraseAll hdistinct _) _
  exact Fields.distinct_insert (Fields.distinct_insert (Fields.distinct_insert hrest _ _) _ _) _ _

/-- **Look-up in an expanded query**: three keys are settled, their other names are gone, and
every other key is as it was. -/
theorem get?_expand (hdistinct : Fields.Distinct query)
    (h : payload.expand query = some (index, single)) (key : String) :
    Fields.get? single key
      = if key = "limit" then some (.ofNat (payload.entryLimit query))
        else if key = "q" then some (.string (payload.entryQuery query))
        else if key = "index" then some (.string index)
        else if key ∈ settledKeys then none
        else Fields.get? query key := by
  simp only [expand, Option.ite_none_left_eq_some, Option.some.injEq, Prod.mk.injEq] at h
  obtain ⟨_, rfl, rfl⟩ := h
  rw [Fields.get?_insert, Fields.get?_insert, Fields.get?_insert, Fields.eraseAll_append,
    Fields.get?_eraseAll hdistinct]
  simp only [settledKeys, List.mem_append, List.mem_singleton]
  grind

theorem get?_expand_of_not_mem (hdistinct : Fields.Distinct query)
    (h : payload.expand query = some (index, single)) {key : String} (hkey : key ∉ settledKeys) :
    Fields.get? single key = Fields.get? query key := by
  have hne : ∀ settled ∈ settledKeys, key ≠ settled := by
    rintro settled hsettled rfl
    exact hkey hsettled
  rw [get?_expand hdistinct h, if_neg (hne _ (by decide)), if_neg (hne _ (by decide)),
    if_neg (hne _ (by decide)), if_neg hkey]

/-- A query is expanded with the index that it names. -/
theorem index_of_expand (h : payload.expand query = some (index, single)) :
    index = Alias.indexOf query := by
  simp only [expand, Option.ite_none_left_eq_some, Option.some.injEq, Prod.mk.injEq] at h
  exact h.2.1.symm

/-- The expanded query names the index that the query names. -/
theorem indexOf_expand (hdistinct : Fields.Distinct query)
    (h : payload.expand query = some (index, single)) :
    Alias.indexOf single = index ∧ index = Alias.indexOf query := by
  have hget := get?_expand hdistinct h "index"
  refine ⟨?_, index_of_expand h⟩
  rw [Alias.indexOf, Alias.firstText, Alias.indexKeys, List.findSome?_cons, hget]
  rfl

end FederatedPayload

namespace Federation

theorem get?_requestScores (payload : Fields) {key : String} (hkey : key ≠ "showRankingScore") :
    Fields.get? (requestScores payload) key = Fields.get? payload key := by
  unfold requestScores
  split
  · rw [Fields.get?_insert, if_neg hkey.symm]
  · rfl

theorem distinct_requestScores {payload : Fields} (h : Fields.Distinct payload) :
    Fields.Distinct (requestScores payload) := by
  unfold requestScores
  split
  · exact Fields.distinct_insert h _ _
  · exact h

/-- Two payloads of single searches that name one index and differ at most in the names for it,
the query text, the page size and the wish for scores. -/
structure Alike (entries others : Fields) : Prop where
  distinct : Fields.Distinct entries
  distinct' : Fields.Distinct others
  index : Alias.indexOf others = Alias.indexOf entries
  elsewhere : ∀ key, key ∉ FederatedPayload.settledKeys ++ Alias.scoreKeys →
    Fields.get? others key = Fields.get? entries key

theorem Alike.symm {entries others : Fields} (h : Alike entries others) : Alike others entries :=
  ⟨h.distinct', h.distinct, h.index.symm, fun key hkey => (h.elsewhere key hkey).symm⟩

theorem entryOf?_eq_none_iff {payload : FederatedPayload} {query : Fields} :
    entryOf? payload query = none ↔ Alias.indexOf query = "" := by
  rw [entryOf?, Option.map_eq_none_iff, FederatedPayload.expand_eq_none_iff]

theorem index_of_entryOf? {payload : FederatedPayload} {query : Fields} {entry : Entry}
    (h : entryOf? payload query = some entry) : entry.index = Alias.indexOf query := by
  obtain ⟨⟨index, single⟩, hexpand, rfl⟩ := Option.map_eq_some_iff.mp h
  exact FederatedPayload.index_of_expand hexpand

/-- **The search that a query becomes is like the query.** -/
theorem alike_of_entryOf? {payload : FederatedPayload} {query : Fields}
    (hdistinct : Fields.Distinct query) {entry : Entry}
    (h : entryOf? payload query = some entry) : Alike query entry.payload := by
  obtain ⟨⟨index, single⟩, hexpand, rfl⟩ := Option.map_eq_some_iff.mp h
  have hsingle : Alike query single := by
    obtain ⟨hnames, hindex⟩ := FederatedPayload.indexOf_expand hdistinct hexpand
    refine ⟨hdistinct, FederatedPayload.distinct_expand hdistinct hexpand,
      hnames.trans hindex, fun key hkey => ?_⟩
    exact FederatedPayload.get?_expand_of_not_mem hdistinct hexpand
      fun hmem => hkey (List.mem_append_left _ hmem)
  dsimp only
  split
  · -- asking for scores touches one key, which is a name for that wish
    have hscores : ∀ key, key ∉ Alias.scoreKeys →
        Fields.get? (requestScores single) key = Fields.get? single key := fun key hkey =>
      get?_requestScores single fun heq => hkey (by rw [heq]; decide)
    have hplain : ∀ key ∈ Alias.indexKeys, key ∉ Alias.scoreKeys := by decide
    have hindex : Alias.indexOf (requestScores single) = Alias.indexOf single :=
      Alias.firstText_congr fun key hkey => hscores key (hplain key hkey)
    refine ⟨hdistinct, distinct_requestScores hsingle.distinct', hindex.trans hsingle.index,
      fun key hkey => ?_⟩
    rw [hscores key fun hmem => hkey (List.mem_append_right _ hmem), hsingle.elsewhere key hkey]
  · exact hsingle

end Federation

end Metasearch
