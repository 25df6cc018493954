import Metasearch.Proofs.Federation.Merge
import Metasearch.Proofs.Float.Order

set_option autoImplicit false

/-! # The order of the pools

A blend sorts the hits of all pools, and the pools come in some order. This order decides only
between hits that are tied: in another order of the pools, each place of the page has a hit tied
with the one it had before (`blend_tied`), and a hit that is tied with no other stays where it is
or stays absent (`pool_order_decides_ties`). The cut of the page may go through a group of ties;
which of them are shown is then decided by the order of the pools as well.
-/

namespace Metasearch.Federation

/-- Whether neither of two hits must stand before the other. -/
def tied (a b : Hit) : Bool := scoreAtLeast a b && scoreAtLeast b a

/-- Whether the scores of two hits are equal as numbers. -/
def sameScore (a b : Hit) : Bool := a.score.getD 0 == b.score.getD 0

/-- Scores that are numbers are tied exactly if they are equal. -/
theorem tied_eq_sameScore {a b : Hit} (ha : (a.score.getD 0).isNaN = false)
    (hb : (b.score.getD 0).isNaN = false) : tied a b = sameScore a b := by
  rw [Bool.eq_iff_iff, sameScore, Rounding.beq_iff_not_lt ha hb]
  simp [tied, scoreAtLeast]

variable {spec : FederationSpec} {pools others : List RankedPool}

/-- Another order of the pools is another order of the hits. -/
theorem scoredHits_perm (spec : FederationSpec) (hperm : pools.Perm others) :
    (scoredHits spec pools).Perm (scoredHits spec others) :=
  hperm.flatMap_right _

theorem mem_scoredHits_of_mem_blend {fallback : Nat} {hit : Hit}
    (hhit : hit ∈ blend spec fallback pools) : hit ∈ scoredHits spec pools := by
  rw [blend, merged, flatMap_scoredPool] at hhit
  exact List.mem_mergeSort.mp (List.mem_of_mem_drop (List.mem_of_mem_take hhit))

/-- Each place of the page has hits that are tied. -/
theorem blend_tied (h : TotalPreorderOn scoreAtLeast (scoredHits spec pools))
    (hperm : pools.Perm others) (fallback : Nat) :
    List.Forall₂ (fun a b => tied a b = true) (blend spec fallback pools)
      (blend spec fallback others) := by
  have hsorted := forall₂_mergeSort_of_perm h (scoredHits_perm spec hperm)
  rw [blend, blend, merged, merged, flatMap_scoredPool, flatMap_scoredPool]
  refine List.forall₂_take _ (List.forall₂_drop _ (hsorted.imp fun a b hab => ?_))
  rw [tied, hab.1, hab.2, Bool.and_self]

/-- A hit that is tied with itself only is the only one that is tied with it. -/
theorem eq_of_tied_of_countP {hits : List Hit} {hit other : Hit}
    (hone : hits.countP (tied hit) = 1) (hhit : hit ∈ hits) (hself : tied hit hit = true)
    (hother : other ∈ hits) (htied : tied hit other = true) : other = hit := by
  rw [List.countP_eq_length_filter, List.length_eq_one_iff] at hone
  obtain ⟨only, honly⟩ := hone
  have hmem : ∀ b ∈ hits, tied hit b = true → b = only := fun b hb hb' =>
    List.mem_singleton.mp (honly ▸ List.mem_filter.mpr ⟨hb, hb'⟩)
  rw [hmem other hother htied, ← hmem hit hhit hself]

/-- An untied hit keeps its place on the page. -/
theorem getElem?_blend_of_untied (h : TotalPreorderOn scoreAtLeast (scoredHits spec pools))
    (hperm : pools.Perm others) {fallback place : Nat} {hit : Hit}
    (hone : (scoredHits spec pools).countP (tied hit) = 1)
    (hplace : (blend spec fallback pools)[place]? = some hit) :
    (blend spec fallback others)[place]? = some hit := by
  have hpage := blend_tied h hperm fallback
  obtain ⟨hbound, hget⟩ := List.getElem?_eq_some_iff.mp hplace
  have hbound' : place < (blend spec fallback others).length := hpage.length_eq ▸ hbound
  have htied : tied hit ((blend spec fallback others)[place]) = true := by
    have hat := hpage.get hbound hbound'
    rwa [List.get_eq_getElem, List.get_eq_getElem, hget] at hat
  have hhit : hit ∈ scoredHits spec pools :=
    mem_scoredHits_of_mem_blend (List.mem_of_getElem? hplace)
  have hself : tied hit hit = true := by rw [tied, h.refl hhit, Bool.and_self]
  have hother : (blend spec fallback others)[place] ∈ scoredHits spec pools :=
    (scoredHits_perm spec hperm).mem_iff.mpr
      (mem_scoredHits_of_mem_blend (List.getElem_mem hbound'))
  rw [List.getElem?_eq_getElem hbound', eq_of_tied_of_countP hone hhit hself hother htied]

/-- **The order of the pools decides only between tied hits.** Wherever the scores that occur can
be compared, a page has as many hits in every order of the pools, each place has tied hits, and a
hit that is tied with no other is at the same places, or at none. Tied scores that are numbers are
equal, so among numbers the sequence of the scores on the page is the same. -/
theorem pool_order_decides_ties (spec : FederationSpec) (fallback : Nat)
    {pools others : List RankedPool} (h : TotalPreorderOn scoreAtLeast (scoredHits spec pools))
    (hperm : pools.Perm others) :
    (blend spec fallback pools).length = (blend spec fallback others).length
      ∧ List.Forall₂ (fun a b => tied a b = true) (blend spec fallback pools)
          (blend spec fallback others)
      ∧ (∀ hit ∈ scoredHits spec pools, (scoredHits spec pools).countP (tied hit) = 1 →
          ∀ place : Nat, (blend spec fallback pools)[place]? = some hit
            ↔ (blend spec fallback others)[place]? = some hit)
      ∧ ((∀ hit ∈ scoredHits spec pools, (hit.score.getD 0).isNaN = false) →
          List.Forall₂ (fun a b => sameScore a b = true) (blend spec fallback pools)
            (blend spec fallback others)
          ∧ ∀ a ∈ scoredHits spec pools, ∀ b ∈ scoredHits spec pools,
              tied a b = sameScore a b) := by
  have hpage := blend_tied h hperm fallback
  have hhits := scoredHits_perm spec hperm
  refine ⟨hpage.length_eq, hpage, fun hit _ hone place => ⟨?_, ?_⟩, fun hnumbers => ?_⟩
  · exact getElem?_blend_of_untied h hperm hone
  · refine getElem?_blend_of_untied (h.mono hhits.symm.subset) hperm.symm ?_
    rw [← hhits.countP_eq, hone]
  · have htied : ∀ a ∈ scoredHits spec pools, ∀ b ∈ scoredHits spec pools,
        tied a b = sameScore a b := fun a ha b hb =>
      tied_eq_sameScore (hnumbers a ha) (hnumbers b hb)
    refine ⟨List.forall₂_iff_get.mpr ⟨hpage.length_eq, fun place hleft hright => ?_⟩, htied⟩
    rw [← htied _ (mem_scoredHits_of_mem_blend (List.get_mem _ _)) _
      (hhits.mem_iff.mpr (mem_scoredHits_of_mem_blend (List.get_mem _ _)))]
    exact hpage.get hleft hright

/-! ### The second book and the film -/

/-- The page with the two best hits. -/
def bestTwo : FederationSpec := { preferBooks with offset := none }

def firstBook : Hit := (hitOf "first").setScore (reciprocalRank 2.0 0)

/-- The film and the second book are tied, and the page has room for one of them: the one whose
pool comes first. The first book is tied with none and is the best hit both ways. -/
theorem first_book_stays_best :
    TotalPreorderOn scoreAtLeast (scoredHits bestTwo booksAndFilms)
      ∧ booksAndFilms.Perm booksAndFilms.reverse
      ∧ firstBook ∈ scoredHits bestTwo booksAndFilms
      ∧ (scoredHits bestTwo booksAndFilms).countP (tied firstBook) = 1
      ∧ (∀ hit ∈ scoredHits bestTwo booksAndFilms, (hit.score.getD 0).isNaN = false)
      ∧ List.Forall₂ (fun a b => sameScore a b = true) (blend bestTwo 20 booksAndFilms)
          (blend bestTwo 20 booksAndFilms.reverse)
      ∧ ∀ place : Nat, (blend bestTwo 20 booksAndFilms)[place]? = some firstBook
          ↔ (blend bestTwo 20 booksAndFilms.reverse)[place]? = some firstBook := by
  have hpreorder : TotalPreorderOn scoreAtLeast (scoredHits bestTwo booksAndFilms) := by decide
  have hperm : booksAndFilms.Perm booksAndFilms.reverse := (List.reverse_perm _).symm
  have hfirst : firstBook ∈ scoredHits bestTwo booksAndFilms := .tail _ (.head _)
  have hone : (scoredHits bestTwo booksAndFilms).countP (tied firstBook) = 1 := by decide
  have hnumbers : ∀ hit ∈ scoredHits bestTwo booksAndFilms,
      (hit.score.getD 0).isNaN = false := by decide
  obtain ⟨_, _, huntied, hsame⟩ := pool_order_decides_ties bestTwo 20 hpreorder hperm
  exact ⟨hpreorder, hperm, hfirst, hone, hnumbers, (hsame hnumbers).1,
    huntied firstBook hfirst hone⟩

end Metasearch.Federation
