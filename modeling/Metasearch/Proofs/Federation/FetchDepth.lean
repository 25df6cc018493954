import Metasearch.Proofs.Federation.Scores

set_option autoImplicit false

/-! # How much of a pool a page needs

A hit that is far down in its pool cannot come onto an early page: the hits before it in the pool
are also before it in the merge. So a page is made of the beginnings of the pools, as many hits of
each as the page and all pages before it have together (`beginnings_suffice`). It takes that the
scores of a pool do not rise, and that the scores can be compared; both are so with weights that
are finite and not negative. With less than that depth a page can come out too short
(`length_blend_cutAt_lt`).
-/

namespace Metasearch.Federation

theorem length_scoredHits (spec : FederationSpec) (pools : List RankedPool) :
    (scoredHits spec pools).length = (pools.map fun pool => pool.hits.length).sum := by
  rw [scoredHits, List.length_flatMap]
  simp only [List.length_mapIdx]

theorem length_blend (spec : FederationSpec) (fallback : Nat) (pools : List RankedPool) :
    (blend spec fallback pools).length
      = min (spec.pageSize fallback)
          ((pools.map fun pool => pool.hits.length).sum - spec.offset.getD 0) := by
  rw [blend, List.length_take, List.length_drop, merged, List.length_mergeSort,
    flatMap_scoredPool, length_scoredHits]

/-- **A smaller depth does not do**: with a single pool that reaches further the page is too
short. -/
theorem length_blend_cutAt_lt {spec : FederationSpec} {fallback depth : Nat} {pool : RankedPool}
    (hdepth : depth < spec.offset.getD 0 + spec.pageSize fallback)
    (hpage : 0 < spec.pageSize fallback) (hfurther : depth < pool.hits.length)
    (hshown : spec.offset.getD 0 < pool.hits.length) :
    (blend spec fallback [cutAt depth pool]).length < (blend spec fallback [pool]).length := by
  have hcut : (cutAt depth pool).hits.length = depth := by
    rw [cutAt, List.length_take, Nat.min_eq_left (Nat.le_of_lt hfurther)]
  rw [length_blend, length_blend]
  simp only [List.map_cons, List.map_nil, List.sum_cons, List.sum_nil, hcut]
  omega

/-- **A page needs only the beginnings of the pools.** If the scores of a pool do not rise with the
rank and all scores can be compared, then for each depth from the offset and the page size
together on, the blend of the pools that are cut at this depth is the blend of the whole pools: the
same hits with the same scores, in the same order. With weights that are finite and not negative
both is so. -/
theorem beginnings_suffice (spec : FederationSpec) (fallback : Nat) (pools : List RankedPool) :
    (TotalPreorderOn scoreAtLeast (scoredHits spec pools) →
      (∀ pool ∈ pools, Falling spec pool) →
      ∀ depth, spec.offset.getD 0 + spec.limit.getD fallback ≤ depth →
        blend spec fallback (pools.map (cutAt depth)) = blend spec fallback pools)
    ∧ ((∀ pool ∈ pools, (spec.weight pool.index).isFinite = true ∧ 0 ≤ spec.weight pool.index) →
      TotalPreorderOn scoreAtLeast (scoredHits spec pools)
        ∧ ∀ pool ∈ pools, Falling spec pool) := by
  constructor
  · intro hcomparable hfalling depth hdepth
    exact blend_cutAt_of_le hcomparable hfalling hdepth
  · intro hweights
    refine ⟨totalPreorderOn_scoredHits fun pool hpool => (hweights pool hpool).1, ?_⟩
    intro pool hpool
    obtain ⟨hfinite, hnonneg⟩ := hweights pool hpool
    exact (descends_of_nonneg hfinite hnonneg).falling

/-- A page with the best hit of all. -/
def bestOnly : FederationSpec := { preferBooks with limit := some 1, offset := some 0 }

/-- For the best hit of all the second book is not needed. -/
theorem second_book_is_not_needed :
    TotalPreorderOn scoreAtLeast (scoredHits bestOnly booksAndFilms)
      ∧ (∀ pool ∈ booksAndFilms, Falling bestOnly pool)
      ∧ blend bestOnly 20 [⟨"films", [hitOf "film"]⟩, ⟨"books", [hitOf "first"]⟩]
        = blend bestOnly 20 booksAndFilms := by
  obtain ⟨hbeginnings, hassumed⟩ := beginnings_suffice bestOnly 20 booksAndFilms
  obtain ⟨hcomparable, hfalling⟩ := hassumed (by decide)
  exact ⟨hcomparable, hfalling, hbeginnings hcomparable hfalling 1 (by decide)⟩

end Metasearch.Federation
