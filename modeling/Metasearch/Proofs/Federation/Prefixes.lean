import Metasearch.Proofs.Federation.Merge
import Mathlib.Data.List.Perm.Subperm

set_option autoImplicit false

/-! # How deep a blend reaches into its pools

A blend is made of what the engines have returned, and that is the beginning of each ranked
list. So the question is how long a beginning a page needs.

Cutting every pool at a depth takes the hits of greater rank out of the merge and leaves the
others in their order (`rankedMerge_cutAt`). On the other hand, in a pool whose scores do not
rise a hit of rank `r` has `r` others of its pool in front of it, so it stands at position `r`
or later (`rank_lt_of_mem_take`). Together: a page is the same for the cut pools as for the
full ones if the depth is at least the offset and the page size *together* (`blend_cutAt`).
-/

namespace Metasearch

/-! ## Positions in a stable order -/

/-- Where an item stands, if other items before it in the list may also stand before it in the
order: behind all of them. -/
theorem StableOrder.length_le_position {α : Type} {le : α → α → Bool} {items : List α}
    {order : List (α × Nat)} (h : StableOrder le items order) {position : Nat} {x : α × Nat}
    (hx : order[position]? = some x) {others : List Nat} (hnodup : others.Nodup)
    (hothers : ∀ other ∈ others, other < x.2 ∧ ∃ a, (a, other) ∈ order ∧ le a x.1 = true) :
    others.length ≤ position := by
  have hsub : others ⊆ (order.take position).map Prod.snd := by
    intro other hother
    obtain ⟨hlt, a, hmem, hle⟩ := hothers other hother
    obtain ⟨place, hplace, hget⟩ := List.mem_iff_getElem.mp hmem
    obtain ⟨hposition, hxget⟩ := List.getElem?_eq_some_iff.mp hx
    -- behind the item it would have to come later in the list, too
    have hbefore : place < position := by
      rcases Nat.lt_trichotomy place position with hbefore | rfl | hbehind
      · exact hbefore
      · rw [hget] at hxget
        exact absurd hlt (by rw [← hxget]; exact Nat.lt_irrefl _)
      · have hlater := List.pairwise_iff_getElem.mp h.stable position place hposition hplace hbehind
        rw [hget, hxget] at hlater
        exact absurd hlt (Nat.lt_asymm (hlater hle))
    have htaken : (a, other) ∈ order.take position :=
      List.mem_take_iff_getElem.mpr ⟨place, by omega, hget⟩
    exact List.mem_map_of_mem htaken
  have hlength := (List.subperm_of_subset hnodup hsub).length_le
  rw [List.length_map, List.length_take] at hlength
  omega

namespace Federation

/-! ## Hits with their ranks -/

/-- The scored hits of a pool with their ranks. -/
def rankedPool (spec : FederationSpec) (pool : RankedPool) : List (Hit × Nat) :=
  pool.hits.mapIdx fun rank hit =>
    (hit.setScore (reciprocalRank (spec.weight pool.index) rank), rank)

def rankedHits (spec : FederationSpec) (pools : List RankedPool) : List (Hit × Nat) :=
  pools.flatMap (rankedPool spec)

/-- Ranked hits are compared by their scores. -/
def rankedBefore (a b : Hit × Nat) : Bool := scoreAtLeast a.1 b.1

/-- All hits of the pools by descending score, with their ranks. -/
def rankedMerge (spec : FederationSpec) (pools : List RankedPool) : List (Hit × Nat) :=
  (rankedHits spec pools).mergeSort rankedBefore

variable {spec : FederationSpec} {pools : List RankedPool}

theorem map_fst_rankedPool (spec : FederationSpec) (pool : RankedPool) :
    (rankedPool spec pool).map Prod.fst = scoredPool spec pool := by
  rw [scoredPool_eq_mapIdx, rankedPool, List.mapIdx_eq_zipIdx_map, List.mapIdx_eq_zipIdx_map,
    List.map_map]
  rfl

theorem map_fst_rankedHits : (rankedHits spec pools).map Prod.fst = scoredHits spec pools := by
  rw [rankedHits, List.map_flatMap, funext (map_fst_rankedPool spec), flatMap_scoredPool]

theorem map_fst_rankedMerge : (rankedMerge spec pools).map Prod.fst = merged spec pools := by
  rw [merged, flatMap_scoredPool, ← map_fst_rankedHits]
  exact List.map_mergeSort fun _ _ _ _ => rfl

theorem totalPreorderOn_rankedHits (h : TotalPreorderOn scoreAtLeast (scoredHits spec pools)) :
    TotalPreorderOn rankedBefore (rankedHits spec pools) := by
  apply h.comap
  intro ranked hmem
  rw [← map_fst_rankedHits]
  exact List.mem_map_of_mem hmem

/-! ## Cut pools -/

/-- The first hits of a pool. -/
def cutAt (depth : Nat) (pool : RankedPool) : RankedPool :=
  { pool with hits := pool.hits.take depth }

theorem zipIdx_take_eq_filter {α : Type} (depth first : Nat) (items : List α) :
    (items.take depth).zipIdx first
      = (items.zipIdx first).filter fun ranked => ranked.2 < first + depth := by
  induction items generalizing depth first with
  | nil => simp
  | cons item items ih =>
    cases depth with
    | zero =>
      have hnone : ∀ ranked ∈ (item :: items).zipIdx first, ¬ ranked.2 < first := fun ranked hmem =>
        Nat.not_lt.mpr (List.le_snd_of_mem_zipIdx hmem)
      rw [List.take_zero, List.zipIdx_nil, eq_comm, List.filter_eq_nil_iff]
      simpa using hnone
    | succ depth =>
      rw [List.take_succ_cons, List.zipIdx_cons, List.zipIdx_cons, ih,
        List.filter_cons_of_pos (by simp)]
      simp only [Nat.add_assoc, Nat.add_comm 1]

theorem rankedPool_cutAt (depth : Nat) (pool : RankedPool) :
    rankedPool spec (cutAt depth pool)
      = (rankedPool spec pool).filter fun ranked => ranked.2 < depth := by
  have hcut := zipIdx_take_eq_filter depth 0 pool.hits
  simp only [Nat.zero_add] at hcut
  simp only [rankedPool, cutAt, List.mapIdx_eq_zipIdx_map, hcut, List.filter_map]
  rfl

theorem rankedHits_cutAt (depth : Nat) :
    rankedHits spec (pools.map (cutAt depth))
      = (rankedHits spec pools).filter fun ranked => ranked.2 < depth := by
  rw [rankedHits, rankedHits, List.flatMap_map, List.filter_flatMap,
    funext (rankedPool_cutAt depth)]

/-- **Cutting the pools takes the deeper hits out of the merge** and changes nothing else. -/
theorem rankedMerge_cutAt (h : TotalPreorderOn scoreAtLeast (scoredHits spec pools))
    (depth : Nat) :
    rankedMerge spec (pools.map (cutAt depth))
      = (rankedMerge spec pools).filter fun ranked => ranked.2 < depth := by
  rw [rankedMerge, rankedHits_cutAt, mergeSort_filter (totalPreorderOn_rankedHits h)]
  rfl

/-! ## Ranks and positions -/

/-- The scores of an index do not rise from rank to rank. -/
def Descends (weight : Float) : Prop :=
  ∀ rank later, rank ≤ later → ¬ reciprocalRank weight rank < reciprocalRank weight later

/-- The scores of the hits of a pool do not rise from rank to rank. -/
def Falling (spec : FederationSpec) (pool : RankedPool) : Prop :=
  (scoredPool spec pool).Pairwise fun a b => scoreAtLeast a b = true

instance (spec : FederationSpec) (pool : RankedPool) : Decidable (Falling spec pool) :=
  inferInstanceAs (Decidable (List.Pairwise _ _))

theorem falling_iff {pool : RankedPool} :
    Falling spec pool ↔ ∀ rank later, rank < later → later < pool.hits.length →
      ¬ reciprocalRank (spec.weight pool.index) rank
        < reciprocalRank (spec.weight pool.index) later := by
  rw [Falling, scoredPool_eq_mapIdx, List.pairwise_iff_getElem]
  simp only [List.length_mapIdx, List.getElem_mapIdx, scoreAtLeast, Bool.not_eq_true',
    decide_eq_false_iff_not, Hit.setScore, Option.getD_some]
  exact ⟨fun h rank later hrank hlater => h rank later (by omega) hlater hrank,
    fun h rank later _ hlater hrank => h rank later hrank hlater⟩

theorem Descends.falling {pool : RankedPool} (h : Descends (spec.weight pool.index)) :
    Falling spec pool :=
  falling_iff.mpr fun rank later hrank _ => h rank later (Nat.le_of_lt hrank)

theorem getElem?_rankedPool (pool : RankedPool) (rank : Nat) :
    (rankedPool spec pool)[rank]? = pool.hits[rank]?.map fun hit =>
      (hit.setScore (reciprocalRank (spec.weight pool.index) rank), rank) := by
  rw [rankedPool, List.getElem?_mapIdx]

/-- In front of a hit of rank `r` the list of all hits has `r` others of its pool, and each of
them may stand before it in the merge. -/
theorem exists_others_before (hfalling : ∀ pool ∈ pools, Falling spec pool)
    {position : Nat} {ranked : Hit × Nat}
    (h : (rankedHits spec pools)[position]? = some ranked) :
    ∃ start, start + ranked.2 = position ∧ ∀ rank < ranked.2,
      ∃ other, (rankedHits spec pools)[start + rank]? = some other
        ∧ rankedBefore other ranked = true := by
  induction pools generalizing position with
  | nil => simp [rankedHits] at h
  | cons pool pools ih =>
    rw [rankedHits, List.flatMap_cons] at h ⊢
    by_cases hfirst : position < (rankedPool spec pool).length
    · -- the pool begins with the list
      rw [List.getElem?_append_left hfirst, getElem?_rankedPool] at h
      obtain ⟨hit, hget, rfl⟩ := Option.map_eq_some_iff.mp h
      refine ⟨0, Nat.zero_add _, fun rank hrank => ?_⟩
      have hposition : position < pool.hits.length := (List.getElem?_eq_some_iff.mp hget).1
      have hbefore : rank < pool.hits.length := Nat.lt_trans hrank hposition
      have hother : (rankedPool spec pool)[rank]? = _ := getElem?_rankedPool pool rank
      rw [List.getElem?_eq_getElem hbefore, Option.map_some] at hother
      refine ⟨(pool.hits[rank].setScore (reciprocalRank (spec.weight pool.index) rank), rank),
        ?_, ?_⟩
      · rw [Nat.zero_add, List.getElem?_append_left (Nat.lt_trans hrank hfirst), hother]
      · have hnotless := falling_iff.mp (hfalling pool List.mem_cons_self) rank position hrank
          hposition
        exact (Bool.not_eq_true' _).mpr (decide_eq_false hnotless)
    · rw [List.getElem?_append_right (Nat.le_of_not_lt hfirst)] at h
      obtain ⟨start, hstart, hothers⟩ :=
        ih (fun other hother => hfalling other (List.mem_cons_of_mem _ hother)) h
      refine ⟨(rankedPool spec pool).length + start, by omega, fun rank hrank => ?_⟩
      obtain ⟨other, hother, hbefore⟩ := hothers rank hrank
      refine ⟨other, ?_, hbefore⟩
      rw [List.getElem?_append_right (by omega), Nat.add_assoc, Nat.add_sub_cancel_left]
      exact hother

/-- **A hit does not stand further to the front than its rank.** -/
theorem rank_lt_of_mem_take (h : TotalPreorderOn scoreAtLeast (scoredHits spec pools))
    (hfalling : ∀ pool ∈ pools, Falling spec pool) {count : Nat} {ranked : Hit × Nat}
    (hmem : ranked ∈ (rankedMerge spec pools).take count) : ranked.2 < count := by
  obtain ⟨order, horder, hitems⟩ := exists_stableOrder (totalPreorderOn_rankedHits h)
  obtain ⟨place, hplace, hget⟩ := List.mem_take_iff_getElem.mp hmem
  obtain ⟨hcount, hmerged⟩ := Nat.lt_min.mp hplace
  obtain ⟨position, hnumbered⟩ : ∃ position, order[place]? = some (ranked, position) := by
    have hmerge : (order.map Prod.fst)[place]? = some ranked := by
      rw [hitems]
      exact List.getElem?_eq_some_iff.mpr ⟨hmerged, hget⟩
    rw [List.getElem?_map] at hmerge
    obtain ⟨⟨_, position⟩, hnumbered, rfl⟩ := Option.map_eq_some_iff.mp hmerge
    exact ⟨position, hnumbered⟩
  have hposition : (rankedHits spec pools)[position]? = some ranked :=
    List.mem_zipIdx_iff_getElem?.mp (horder.perm.mem_iff.mp (List.mem_of_getElem? hnumbered))
  obtain ⟨start, hstart, hothers⟩ := exists_others_before hfalling hposition
  have hlength := horder.length_le_position hnumbered
    (List.nodup_range' (s := start) (n := ranked.2)) fun other hother => by
      obtain ⟨hfrom, hto⟩ := List.mem_range'_1.mp hother
      obtain ⟨hit, hhit, hbefore⟩ := hothers (other - start) (by omega)
      rw [Nat.add_sub_cancel' hfrom] at hhit
      exact ⟨by dsimp only; omega, hit,
        horder.perm.mem_iff.mpr (List.mem_zipIdx_iff_getElem?.mpr hhit), hbefore⟩
  rw [List.length_range'] at hlength
  exact Nat.lt_of_le_of_lt hlength hcount

/-! ## Pages of cut pools -/

theorem take_filter_of_forall {α : Type} {p : α → Bool} {items : List α} {count : Nat}
    (h : ∀ item ∈ items.take count, p item = true) :
    (items.filter p).take count = items.take count := by
  have hsplit : items.filter p = items.take count ++ (items.drop count).filter p := by
    conv_lhs => rw [← List.take_append_drop count items]
    rw [List.filter_append, List.filter_eq_self.mpr h]
  rcases Nat.le_total count items.length with hle | hle
  · rw [hsplit, List.take_append_of_le_length (by rw [List.length_take]; omega),
      List.take_take, Nat.min_self]
  · rw [hsplit, List.drop_eq_nil_of_le hle, List.filter_nil, List.append_nil, List.take_take,
      Nat.min_self]

/-- The page of cut pools, said of the merge of the full ones. -/
theorem blend_cutAt (h : TotalPreorderOn scoreAtLeast (scoredHits spec pools))
    (fallback depth : Nat) :
    blend spec fallback (pools.map (cutAt depth))
      = ((((rankedMerge spec pools).filter fun ranked => ranked.2 < depth).map Prod.fst).drop
          (spec.offset.getD 0)).take (spec.pageSize fallback) := by
  rw [blend, ← map_fst_rankedMerge, rankedMerge_cutAt h]

/-- **A depth of the offset and the page size together is enough**: then the page is the same as
that of the full pools. -/
theorem blend_cutAt_of_le (h : TotalPreorderOn scoreAtLeast (scoredHits spec pools))
    (hfalling : ∀ pool ∈ pools, Falling spec pool) {fallback depth : Nat}
    (hdepth : spec.offset.getD 0 + spec.pageSize fallback ≤ depth) :
    blend spec fallback (pools.map (cutAt depth)) = blend spec fallback pools := by
  have hpage : ∀ hits : List Hit, (hits.drop (spec.offset.getD 0)).take (spec.pageSize fallback)
      = (hits.take (spec.offset.getD 0 + spec.pageSize fallback)).drop (spec.offset.getD 0) := by
    intro hits
    rw [List.drop_take, Nat.add_sub_cancel_left]
  have hshallow : ∀ ranked ∈ (rankedMerge spec pools).take
      (spec.offset.getD 0 + spec.pageSize fallback), decide (ranked.2 < depth) = true :=
    fun ranked hmem =>
      decide_eq_true (Nat.lt_of_lt_of_le (rank_lt_of_mem_take h hfalling hmem) hdepth)
  rw [blend_cutAt h, blend, ← map_fst_rankedMerge, hpage, hpage, ← List.map_take,
    ← List.map_take, take_filter_of_forall hshallow]

end Federation

end Metasearch
