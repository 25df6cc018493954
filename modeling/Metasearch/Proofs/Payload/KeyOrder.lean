import Metasearch.Proofs.Federation.Expansion
import Metasearch.Proofs.Json.Unordered
import Metasearch.Proofs.Payload.Filters
import Metasearch.Request

set_option autoImplicit false

/-! # Payloads with their keys in another order

What a payload is read as depends on what stands under its keys. Only what is passed on keeps
an order: first the keys without a meaning of their own, as the removals have left them, and
then the filters in the engine's words (`extra_eq`). The first come in an order that the caller
has a hand in, but no two of them are alike; the second may compete with one another, but they
always come in the order of `filterKeys`. So of two payloads with the same entries the same is
read, up to the order of the first (`ofEntries_reordered`).
-/

namespace Metasearch.SearchPayload

open Fields (Reordered)

/-! ## What is passed on -/

/-- The filters in the engine's words. -/
def rawFilters (entries : Fields) : Fields :=
  filterKeys.filterMap fun key => (rawFilter? entries key).map fun value => (key, value)

/-- Reading one filter key passes on the text under it, behind everything else. -/
theorem extra_of_readFilter {entries extra : Fields} {key : String} {conditions : List Condition}
    {after : List Condition × Fields} (h : readFilter entries (conditions, extra) key = .ok after)
    (hnew : key ∉ Fields.keys extra) :
    after.2 = extra ++ [key].filterMap fun key =>
      (rawFilter? entries key).map fun value => (key, value) := by
  unfold readFilter at h
  split at h
  · next hvalue =>
    cases h
    simp [rawFilter?, hvalue]
  · next hvalue =>
    cases h
    simp [rawFilter?, hvalue]
  · next text hvalue =>
    cases h
    simp [rawFilter?, hvalue, Fields.insert_of_not_mem hnew]
  · next items hvalue =>
    have hsame : after.2 = extra := by
      split at h
      · cases hparse : Condition.parseList (.array items) <;> simp [hparse, Except.map] at h
        rw [← h]
      · cases h
        rfl
    simp [hsame, rawFilter?, hvalue]
  · cases h

theorem get?_passthrough {entries : Fields} (hdistinct : Fields.Distinct entries) {key : String}
    (hkey : key ∈ declarativeKeys) : Fields.get? (passthrough entries) key = none := by
  rw [passthrough_eq, Fields.get?_eraseAll hdistinct, if_pos (List.mem_append_right _ hkey)]

/-- **What is passed on**: the keys without a meaning of their own, and behind them the filters
in the engine's words. -/
theorem extra_eq {entries : Fields} (hdistinct : Fields.Distinct entries)
    {result : List Condition × Fields} (h : readFilters entries = .ok result) :
    result.2 = passthrough entries ++ rawFilters entries := by
  obtain ⟨⟨conditions, extra⟩, hfirst, hsecond⟩ := readFilters_eq_ok.mp h
  have hfilters : "filters" ∉ Fields.keys (passthrough entries) :=
    Fields.get?_eq_none.mp (get?_passthrough hdistinct (by decide))
  have hextra : extra = passthrough entries ++ ["filters"].filterMap fun key =>
      (rawFilter? entries key).map fun value => (key, value) :=
    extra_of_readFilter hfirst hfilters
  have hfilter : "filter" ∉ Fields.keys extra := by
    rw [← Fields.get?_eq_none, hextra, Fields.get?_append,
      get?_passthrough hdistinct (by decide), Option.none_or, Fields.get?_filterMap_keys,
      if_neg (by decide)]
  have hraw : rawFilters entries = (["filters"] ++ ["filter"]).filterMap fun key =>
      (rawFilter? entries key).map fun value => (key, value) := rfl
  rw [extra_of_readFilter hsecond hfilter, hextra, List.append_assoc, hraw, List.filterMap_append]

/-! ## Two orders of one payload -/

/-- Two payloads that differ at most in the order of the keys without a meaning of their own.
The filters in the engine's words stand behind them, in the same order. -/
inductive Shuffled : SearchPayload → SearchPayload → Prop where
  | intro (payload : SearchPayload) {rest others raw : Fields} (order : Reordered rest others)
      (plain : ∀ key ∈ filterKeys, Fields.get? rest key = none) :
      Shuffled { payload with extra := rest ++ raw } { payload with extra := others ++ raw }

section Read

variable {entries others : Fields} (h : Reordered entries others)

include h

theorem reordered_passthrough : Reordered (passthrough entries) (passthrough others) := by
  rw [passthrough_eq, passthrough_eq]
  exact h.eraseAll _

theorem rawFilters_eq : rawFilters entries = rawFilters others :=
  List.filterMap_congr fun key _ => by rw [rawFilter?, rawFilter?, h.get?_eq]

/-- **The order of keys does not matter to what a payload is read as**: it costs the same
failure, or the same is read but for the order of what is passed on. -/
theorem ofEntries_reordered :
    (∃ failure, ofEntries entries = .error failure ∧ ofEntries others = .error failure)
      ∨ ∃ payload shuffled, ofEntries entries = .ok payload ∧ ofEntries others = .ok shuffled
        ∧ Shuffled payload shuffled := by
  rcases ofEntries_agree (fun key _ => .inl (h.get?_eq key)) (fun key _ => h.get?_eq key) with
    hfailure | ⟨payload, extra, hread, hread', hfilters, hfilters'⟩
  · exact .inl hfailure
  · refine .inr ⟨payload, _, hread, hread', ?_⟩
    have hextra : payload.extra = passthrough entries ++ rawFilters entries :=
      extra_eq h.distinct hfilters
    have hextra' : extra = passthrough others ++ rawFilters others :=
      extra_eq h.distinct' hfilters'
    have hpayload : payload
        = { payload with extra := passthrough entries ++ rawFilters entries } := by rw [← hextra]
    rw [hextra', ← rawFilters_eq h, hpayload]
    exact .intro payload (reordered_passthrough h) fun key hkey =>
      get?_passthrough h.distinct ((by decide : filterKeys ⊆ declarativeKeys) hkey)

end Read

/-! ## What the order leaves alone -/

section Same

variable {payload shuffled : SearchPayload} (h : Shuffled payload shuffled)

include h

theorem Shuffled.get?_extra (key : String) :
    Fields.get? payload.extra key = Fields.get? shuffled.extra key := by
  cases h with
  | intro payload order plain => rw [Fields.get?_append, Fields.get?_append, order.get?_eq]

theorem Shuffled.hasAny (keys : List String) : payload.hasAny keys = shuffled.hasAny keys := by
  have hvalue : ∀ key, Fields.getSet? payload.extra key = Fields.getSet? shuffled.extra key :=
    fun key => Fields.getSet?_congr (h.get?_extra key)
  simp only [SearchPayload.hasAny, hvalue]

/-- Apart from what is passed on they are the same. -/
theorem Shuffled.eq : shuffled = { payload with extra := shuffled.extra } := by
  cases h with
  | intro payload order plain => rfl

theorem Shuffled.index : shuffled.index = payload.index := by rw [h.eq]

theorem Shuffled.query : shuffled.query = payload.query := by rw [h.eq]

theorem Shuffled.showScores : shuffled.showScores = payload.showScores := by rw [h.eq]

/-- They make the same request of an index. -/
theorem Shuffled.ofPayload (index : String) :
    SearchRequest.ofPayload index shuffled = .ofPayload index payload := by
  rw [h.eq]
  rfl

/-- What is passed on goes into one body in either order. -/
theorem Shuffled.insertAllNew {body : Fields} (hdistinct : Fields.Distinct body) :
    Reordered (Fields.insertAllNew body payload.extra)
      (Fields.insertAllNew body shuffled.extra) :=
  Fields.reordered_insertAllNew hdistinct h.get?_extra

end Same

end Metasearch.SearchPayload
