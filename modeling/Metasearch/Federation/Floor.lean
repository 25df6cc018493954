import Metasearch.Hit

set_option autoImplicit false

/-! # The ranking floor

Hits below a minimum ranking score are dropped, but only where scores were asked for: an
engine that was not asked returns none, and a missing score counts as zero.
-/

namespace Metasearch.Federation

/-- Whether a hit stays. -/
def admits (minimum : Float) (showScores : Bool) (hit : Hit) : Bool :=
  !showScores || minimum ≤ 0 || minimum ≤ hit.ranking.getD 0

/-- The hits that stay, in their order. -/
def applyFloor (minimum : Float) (showScores : Bool) (hits : List Hit) : List Hit :=
  hits.filter (admits minimum showScores)

end Metasearch.Federation
