import Metasearch.Federation.Blend
import Metasearch.Proofs.StableSort

set_option autoImplicit false

/-! # Blending is paging through a merge

`blend` scores, sorts and cuts in one go. Said from the outside: there is one list of all hits,
by descending score and with ties in the order of the pools, and each page is a part of it
(`blend_is_page_of_merge`). Pages that follow each other join without a gap.

Scores are floating-point numbers, and with a weight that is not a number they could not be
compared. So the comparison is assumed to be a total preorder on the scores that occur.
-/

namespace Metasearch.Federation

/-- The hits of all pools one after the other, the hit at rank `r` of an index of weight `w` with
the score `w / (r + 1)`. -/
def scoredHits (spec : FederationSpec) (pools : List RankedPool) : List Hit :=
  pools.flatMap fun pool => pool.hits.mapIdx fun rank hit =>
    hit.setScore (reciprocalRank (spec.weight pool.index) rank)

theorem scoreFrom_eq_mapIdx (weight : Float) (first : Nat) (hits : List Hit) :
    scoreFrom weight first hits
      = hits.mapIdx fun rank hit => hit.setScore (reciprocalRank weight (first + rank)) := by
  induction hits generalizing first with
  | nil => rfl
  | cons hit rest ih =>
    rw [scoreFrom, ih, List.mapIdx_cons]
    simp only [Nat.add_zero, Nat.add_assoc, Nat.add_comm 1]

theorem scoredPool_eq_mapIdx (spec : FederationSpec) (pool : RankedPool) :
    scoredPool spec pool = pool.hits.mapIdx fun rank hit =>
      hit.setScore (reciprocalRank (spec.weight pool.index) rank) := by
  rw [scoredPool, scoreFrom_eq_mapIdx]
  simp only [Nat.zero_add]

theorem flatMap_scoredPool (spec : FederationSpec) (pools : List RankedPool) :
    pools.flatMap (scoredPool spec) = scoredHits spec pools := by
  rw [scoredHits, funext (scoredPool_eq_mapIdx spec)]

theorem map_mapIdx_of_forget {α β γ : Type} {f : β → γ} {g : Nat → α → β} {f' : α → γ}
    (h : ∀ position item, f (g position item) = f' item) (items : List α) :
    (items.mapIdx g).map f = items.map f' := by
  apply List.ext_getElem
  · simp
  · intro position _ _
    simp [h]

/-- What does not depend on the score of a hit is as in the pools. -/
theorem map_scoredHits {β : Type} {f f' : Hit → β}
    (hf : ∀ hit score, f (Hit.setScore hit score) = f' hit) (spec : FederationSpec)
    (pools : List RankedPool) :
    (scoredHits spec pools).map f = (pools.flatMap RankedPool.hits).map f' := by
  rw [scoredHits, List.map_flatMap, List.map_flatMap]
  congr 1
  funext pool
  exact map_mapIdx_of_forget (fun _ hit => hf hit _) pool.hits

/-- **The score of a hit** is the weight of its index by its rank, counted from one. -/
theorem score_scoredHits (spec : FederationSpec) (pools : List RankedPool) :
    (scoredHits spec pools).map Hit.score
      = pools.flatMap fun pool => pool.hits.mapIdx fun rank _ =>
          some (spec.weight pool.index / (rank.toFloat + 1.0)) := by
  rw [scoredHits, List.map_flatMap]
  congr 1
  funext pool
  apply List.ext_getElem
  · simp
  · intro rank _ _
    simp [Hit.setScore, reciprocalRank]

/-- Two hits of an index of weight one stay in their order, since one half is less than one. -/
theorem merged_pair {spec : FederationSpec} {index : String} (hweight : spec.weight index = 1.0)
    (first second : Hit) :
    merged spec [⟨index, [first, second]⟩] = [first.setScore 1.0, second.setScore 0.5] := by
  have hfirst : reciprocalRank 1.0 0 = 1.0 := by decide +kernel
  have hsecond : reciprocalRank 1.0 1 = 0.5 := by decide +kernel
  have hscored : scoredHits spec [⟨index, [first, second]⟩]
      = [first.setScore 1.0, second.setScore 0.5] := by
    show [first.setScore (reciprocalRank (spec.weight index) 0),
      second.setScore (reciprocalRank (spec.weight index) 1)] = _
    rw [hweight, hfirst, hsecond]
  have hsorted : [first.setScore 1.0, second.setScore 0.5].Pairwise
      fun a b => scoreAtLeast a b = true := by
    have hscores : ¬ (1.0 : Float) < 0.5 := by decide +kernel
    simpa [scoreAtLeast, Hit.setScore] using hscores
  rw [merged, flatMap_scoredPool, hscored, List.mergeSort_of_pairwise hsorted]

/-- Pages of one length that follow each other join to a part of the list. -/
theorem flatMap_pages {α : Type} (items : List α) (length count : Nat) :
    ((List.range count).flatMap fun page => (items.drop (page * length)).take length)
      = items.take (count * length) := by
  induction count with
  | zero => simp
  | succ count ih =>
    rw [List.range_succ, List.flatMap_append, ih, List.flatMap_singleton, Nat.succ_mul,
      List.take_add]

/-- Some pages that follow each other, the first of them from a given position on. -/
def pages (spec : FederationSpec) (fallback : Nat) (pools : List RankedPool)
    (start count : Nat) : List Hit :=
  (List.range count).flatMap fun page =>
    blend { spec with offset := some (start + page * spec.pageSize fallback) } fallback pools

/-- **A blend is a page of the stable merge.** The hits of the pools, one pool after the other,
have exactly one stable order by descending score. A blend is this list without the hits before
the offset, cut to the page size. Pages that follow each other join to the list. The scoring
gives each hit the weight of its index by its rank; it adds and drops no hit, and changes of a hit
neither the engine's score nor any field but the one for the blended score. -/
theorem blend_is_page_of_merge (spec : FederationSpec) (fallback : Nat)
    (pools : List RankedPool) (h : TotalPreorderOn scoreAtLeast (scoredHits spec pools)) :
    ∃ order, StableOrder scoreAtLeast (scoredHits spec pools) order
      ∧ (∀ other, StableOrder scoreAtLeast (scoredHits spec pools) other → other = order)
      ∧ blend spec fallback pools
          = ((order.map Prod.fst).drop (spec.offset.getD 0)).take (spec.limit.getD fallback)
      ∧ (∀ start count, pages spec fallback pools start count
          = ((order.map Prod.fst).drop start).take (count * spec.limit.getD fallback))
      ∧ (scoredHits spec pools).map Hit.score
          = (pools.flatMap fun pool => pool.hits.mapIdx fun rank _ =>
              some (spec.weight pool.index / (rank.toFloat + 1.0)))
      ∧ (scoredHits spec pools).map Hit.ranking
          = (pools.flatMap RankedPool.hits).map Hit.ranking
      ∧ (scoredHits spec pools).map Hit.fields
          = (pools.flatMap RankedPool.hits).map fun hit =>
              Fields.erase hit.fields Hit.scoreField := by
  obtain ⟨order, horder, hitems⟩ := exists_stableOrder h
  have hmerged : merged spec pools = order.map Prod.fst := by
    rw [merged, flatMap_scoredPool, hitems]
  refine ⟨order, horder, fun other hother => horder.unique hother, ?_, fun start count => ?_,
    score_scoredHits spec pools, map_scoredHits (fun _ _ => rfl) spec pools,
    map_scoredHits (fun _ _ => rfl) spec pools⟩
  · rw [blend, hmerged]
    rfl
  · -- the merge does not depend on the offset, so all pages are cut from one list
    have hpage : ∀ page, blend { spec with offset := some (start + page * spec.pageSize fallback) }
        fallback pools = (((order.map Prod.fst).drop start).drop
          (page * spec.pageSize fallback)).take (spec.pageSize fallback) := by
      intro page
      rw [List.drop_drop, ← hmerged]
      rfl
    rw [pages, funext hpage, flatMap_pages]
    rfl

/-! ### Two pools with a tie -/

/-- A hit with an identifier and nothing else. -/
def hitOf (id : String) : Hit := ⟨[("id", .string id)], none, none⟩

/-- Books count twice as much as films. -/
def preferBooks : FederationSpec :=
  { FederationSpec.empty with weights := [("books", 2.0)], limit := some 2, offset := some 1 }

def booksAndFilms : List RankedPool :=
  [⟨"films", [hitOf "film"]⟩, ⟨"books", [hitOf "first", hitOf "second"]⟩]

/-- The film and the second book have equal scores, and the pool of films comes first. -/
theorem film_before_second_book :
    TotalPreorderOn scoreAtLeast (scoredHits preferBooks booksAndFilms)
      ∧ ∃ order, StableOrder scoreAtLeast (scoredHits preferBooks booksAndFilms) order
        ∧ order.map Prod.snd = [1, 0, 2]
        ∧ (order.map fun entry => entry.1.score) = [some 2.0, some 1.0, some 1.0]
        ∧ blend preferBooks 20 booksAndFilms = ((order.map Prod.fst).drop 1).take 2 := by
  have hpreorder : TotalPreorderOn scoreAtLeast (scoredHits preferBooks booksAndFilms) := by
    decide
  obtain ⟨order, horder, hunique, hblend, _⟩ :=
    blend_is_page_of_merge preferBooks 20 booksAndFilms hpreorder
  let film := ((hitOf "film").setScore (reciprocalRank 1.0 0), 0)
  let first := ((hitOf "first").setScore (reciprocalRank 2.0 0), 1)
  let second := ((hitOf "second").setScore (reciprocalRank 2.0 1), 2)
  have hknown : StableOrder scoreAtLeast (scoredHits preferBooks booksAndFilms)
      [first, film, second] := ⟨.swap film first [second], by decide, by decide⟩
  obtain rfl : [first, film, second] = order := hunique _ hknown
  exact ⟨hpreorder, _, horder, rfl, by decide +kernel, hblend⟩

end Metasearch.Federation
