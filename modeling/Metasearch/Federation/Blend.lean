import Metasearch.Federation.Spec
import Metasearch.Hit

set_option autoImplicit false

/-! # Blending

Hits of different indexes carry scores that cannot be compared, but their ranks can. A hit at
rank `r` of an index of weight `w` gets the score `w / (r + 1)`; the hits of all indexes are
merged by descending score, and a page is cut out of the result. Hits of equal score stay in
the order of the pools, and within a pool in the order of the ranks.
-/

namespace Metasearch

/-- The hits of one index, best first. -/
structure RankedPool where
  index : String
  hits : List Hit

namespace Federation

def reciprocalRank (weight : Float) (rank : Nat) : Float := weight / (rank.toFloat + 1.0)

/-- Scores hits of a common weight, the first of them at the given rank. -/
def scoreFrom (weight : Float) (rank : Nat) : List Hit → List Hit
  | [] => []
  | hit :: rest =>
    hit.setScore (reciprocalRank weight rank) :: scoreFrom weight (rank + 1) rest

/-- The scored hits of a pool. -/
def scoredPool (spec : FederationSpec) (pool : RankedPool) : List Hit :=
  scoreFrom (spec.weight pool.index) 0 pool.hits

/-- Whether a hit may stand before another: its score is not the smaller one. -/
def scoreAtLeast (a b : Hit) : Bool := !(a.score.getD 0 < b.score.getD 0)

/-- All hits of the pools by descending score. -/
def merged (spec : FederationSpec) (pools : List RankedPool) : List Hit :=
  (pools.flatMap (scoredPool spec)).mergeSort scoreAtLeast

/-- One page of the merged hits. -/
def blend (spec : FederationSpec) (fallback : Nat) (pools : List RankedPool) : List Hit :=
  ((merged spec pools).drop (spec.offset.getD 0)).take (spec.pageSize fallback)

end Federation

end Metasearch
