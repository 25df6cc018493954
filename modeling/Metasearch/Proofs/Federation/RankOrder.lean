import Metasearch.Proofs.Federation.Options
import Metasearch.Proofs.Federation.Scores
import Metasearch.Proofs.Json.Sound
import Metasearch.Proofs.Stepwise

set_option autoImplicit false

/-! # The order of the hits of one pool

A blend sorts the hits of all pools together by their scores, and the order that the hits of one
pool have in it can be said of this pool alone: leaving out the hits of all other pools commutes
with sorting, so what a page shows of a pool is a part, without gaps, of the pool sorted by itself
(`ranksOf_placesOn`). Hits are told apart by their places, as two hits of a pool can be the same.

With a weight that is not negative the sorted pool is the pool as it was
(`sortedRanks_of_falling`). With a negative weight the best hit comes last. The options of a search
may give either, and all weights that are read from them are finite.
-/

namespace Metasearch

/-! ## Weights of options that were read -/

namespace FederationSpec

/-- All weights are finite. -/
def Finite (spec : FederationSpec) : Prop := ∀ weight ∈ spec.weights, weight.2.isFinite = true

theorem Finite.weight {spec : FederationSpec} (h : spec.Finite) (index : String) :
    (spec.weight index).isFinite = true := by
  rw [FederationSpec.weight]
  cases hlookup : spec.weights.lookup index with
  | none => decide
  | some weight =>
    obtain ⟨before, behind, hweights, _⟩ := List.lookup_eq_some_iff.mp hlookup
    exact h (index, weight) (by rw [hweights]; simp)

theorem finite_weightsOf {entries : Fields} (hsound : ∀ entry ∈ entries, entry.2.Sound)
    {weights : List (String × Float)} (h : weightsOf entries = .ok weights) :
    ∀ weight ∈ weights, weight.2.isFinite = true := by
  induction entries generalizing weights with
  | nil =>
    obtain rfl := pure_eq_ok.mp h
    simp
  | cons entry entries ih =>
    obtain ⟨index, value⟩ := entry
    obtain ⟨hvalue, hrest⟩ := List.forall_mem_cons.mp hsound
    obtain ⟨first, hfirst, h⟩ := bind_eq_ok.mp h
    obtain ⟨others, hothers, h⟩ := bind_eq_ok.mp h
    obtain rfl := pure_eq_ok.mp h
    refine List.forall_mem_cons.mpr ⟨?_, ih hrest hothers⟩
    cases hvalue with
    | number hnumber =>
      obtain rfl := pure_eq_ok.mp hfirst
      exact Number.isFinite_toFloat hnumber
    | _ => cases hfirst

/-- What one more option does to the weights: it leaves them as they are or sets all of them. -/
theorem weights_readOption {spec read : FederationSpec} {option : String × Json}
    (h : spec.readOption option = .ok read) :
    read.weights = spec.weights
      ∨ ∃ entries, option.2 = .object entries ∧ weightsOf entries = .ok read.weights := by
  cases takesIn_readOption h with
  | weights hread => exact .inr ⟨_, rfl, hread⟩
  | _ => exact .inl rfl

/-- **One more option** keeps the weights finite. -/
theorem finite_readOption {spec read : FederationSpec} (hspec : spec.Finite)
    {option : String × Json} (hsound : option.2.Sound) (h : spec.readOption option = .ok read) :
    read.Finite := by
  rcases weights_readOption h with hsame | ⟨entries, hvalue, hweights⟩
  · rwa [Finite, hsame]
  · rw [hvalue, Json.sound_object] at hsound
    exact finite_weightsOf hsound hweights

/-- **The weights of options that could be read are finite.** -/
theorem finite_ofJson {options : Json} (hsound : options.Sound) {spec : FederationSpec}
    (h : ofJson options = .ok spec) : spec.Finite := by
  have hrun : ∀ (entries : Fields) (before : FederationSpec), before.Finite →
      (∀ entry ∈ entries, entry.2.Sound) → entries.foldlM readOption before = .ok spec →
      spec.Finite := by
    intro entries
    induction entries with
    | nil =>
      intro before hbefore _ hread
      obtain rfl := pure_eq_ok.mp hread
      exact hbefore
    | cons entry entries ih =>
      intro before hbefore hentries hread
      obtain ⟨hentry, hrest⟩ := List.forall_mem_cons.mp hentries
      obtain ⟨next, hnext, hread⟩ := bind_eq_ok.mp hread
      exact ih next (finite_readOption hbefore hentry hnext) hrest hread
  cases hsound with
  | object hentries => exact hrun _ empty (by simp [Finite, empty]) hentries h
  | _ => cases h

end FederationSpec

namespace Federation

/-! ## Hits with their places -/

/-- Where a hit comes from: the number of its pool and its rank there. -/
structure Place where
  pool : Nat
  rank : Nat

/-- A hit of a page is the hit at a place of the pools, with the score of its rank. -/
def StandsFor (spec : FederationSpec) (pools : List RankedPool) (shown : Hit) (place : Place) :
    Prop :=
  ∃ pool hit, pools[place.pool]? = some pool ∧ pool.hits[place.rank]? = some hit
    ∧ shown = hit.setScore (reciprocalRank (spec.weight pool.index) place.rank)

/-- The ranks of the hits of one pool. -/
def ranksOf (number : Nat) (places : List Place) : List Nat :=
  (places.filter fun place => place.pool = number).map Place.rank

/-- The scored hits of a pool with their places. -/
def placedPool (spec : FederationSpec) (pool : RankedPool) (number : Nat) : List (Hit × Place) :=
  (rankedPool spec pool).map fun ranked => (ranked.1, ⟨number, ranked.2⟩)

/-- The scored hits of all pools with their places. -/
def placedHits (spec : FederationSpec) (pools : List RankedPool) : List (Hit × Place) :=
  pools.zipIdx.flatMap fun numbered => placedPool spec numbered.1 numbered.2

/-- Hits with places are compared by their scores. -/
def placedBefore (a b : Hit × Place) : Bool := scoreAtLeast a.1 b.1

/-- All hits of the pools by descending score, with their places. -/
def placedMerge (spec : FederationSpec) (pools : List RankedPool) : List (Hit × Place) :=
  (placedHits spec pools).mergeSort placedBefore

/-- The places of the hits on a page. -/
def placesOn (spec : FederationSpec) (fallback : Nat) (pools : List RankedPool) : List Place :=
  (((placedMerge spec pools).drop (spec.offset.getD 0)).take (spec.pageSize fallback)).map Prod.snd

/-- The ranks of a pool in the order of the scores. -/
def sortedRanks (spec : FederationSpec) (pool : RankedPool) : List Nat :=
  ((rankedPool spec pool).mergeSort rankedBefore).map Prod.snd

variable {spec : FederationSpec} {pools : List RankedPool}

theorem map_fst_placedHits : (placedHits spec pools).map Prod.fst = scoredHits spec pools := by
  have hpool : ∀ numbered : RankedPool × Nat,
      (placedPool spec numbered.1 numbered.2).map Prod.fst = scoredPool spec numbered.1 := by
    intro numbered
    rw [placedPool, List.map_map, ← map_fst_rankedPool]
    rfl
  have hnumbers : pools.zipIdx.map Prod.fst = pools := List.zipIdx_map_fst 0 pools
  rw [placedHits, List.map_flatMap, funext hpool, ← flatMap_scoredPool]
  conv_rhs => rw [← hnumbers, List.flatMap_map]

theorem map_fst_placedMerge : (placedMerge spec pools).map Prod.fst = merged spec pools := by
  rw [merged, flatMap_scoredPool, ← map_fst_placedHits]
  exact List.map_mergeSort fun _ _ _ _ => rfl

/-- Each hit with a place is the hit at this place. -/
theorem standsFor_of_mem {placed : Hit × Place} (h : placed ∈ placedHits spec pools) :
    StandsFor spec pools placed.1 placed.2 := by
  obtain ⟨⟨pool, number⟩, hnumbered, hplaced⟩ := List.mem_flatMap.mp h
  obtain ⟨ranked, hranked, rfl⟩ := List.mem_map.mp hplaced
  have hpool : pools[number]? = some pool := List.mem_zipIdx_iff_getElem?.mp hnumbered
  obtain ⟨rank, hrank⟩ := List.mem_iff_getElem?.mp hranked
  rw [getElem?_rankedPool] at hrank
  obtain ⟨hit, hget, rfl⟩ := Option.map_eq_some_iff.mp hrank
  exact ⟨pool, hit, hpool, hget, rfl⟩

/-- **A page is the page of its places.** -/
theorem forall₂_placesOn (fallback : Nat) :
    List.Forall₂ (StandsFor spec pools) (blend spec fallback pools)
      (placesOn spec fallback pools) := by
  rw [blend, ← map_fst_placedMerge, placesOn, ← List.map_drop, ← List.map_take,
    List.forall₂_map_left_iff, List.forall₂_map_right_iff, List.forall₂_same]
  intro placed hmem
  exact standsFor_of_mem (List.mem_mergeSort.mp (List.mem_of_mem_drop (List.mem_of_mem_take hmem)))

theorem map_snd_rankedPool (spec : FederationSpec) (pool : RankedPool) :
    (rankedPool spec pool).map Prod.snd = List.range pool.hits.length := by
  rw [rankedPool, List.mapIdx_eq_zipIdx_map, List.map_map, List.range_eq_range']
  exact List.zipIdx_map_snd 0 pool.hits

/-- **No place occurs twice.** -/
theorem nodup_placesOn (fallback : Nat) : (placesOn spec fallback pools).Nodup := by
  have hpool : ∀ numbered : RankedPool × Nat,
      (placedPool spec numbered.1 numbered.2).map Prod.snd
        = (List.range numbered.1.hits.length).map (Place.mk numbered.2) := by
    intro numbered
    rw [placedPool, List.map_map, ← map_snd_rankedPool spec, List.map_map]
    rfl
  have hall : ((placedHits spec pools).map Prod.snd).Nodup := by
    rw [placedHits, List.map_flatMap, funext hpool, List.nodup_flatMap]
    constructor
    · exact fun numbered _ => List.nodup_range.map fun _ _ heq => (Place.mk.inj heq).2
    · -- different pools have different numbers
      have hnumbers : pools.zipIdx.Pairwise fun a b => a.2 ≠ b.2 :=
        List.pairwise_map.mp (List.nodup_zipIdx_map_snd pools)
      refine hnumbers.imp fun {a b} hne => ?_
      simp only [Function.onFun, List.disjoint_left, List.mem_map]
      rintro _ ⟨rank, _, rfl⟩ ⟨later, _, heq⟩
      exact hne (Place.mk.inj heq).1.symm
  have hmerge : ((placedMerge spec pools).map Prod.snd).Nodup :=
    ((List.mergeSort_perm _ _).map Prod.snd).nodup_iff.mpr hall
  exact (((List.take_sublist _ _).trans (List.drop_sublist _ _)).map Prod.snd).nodup hmerge

/-! ## The hits of one pool -/

/-- Of numbered lists the one with a given number. -/
theorem flatMap_zipIdx_ite {α β : Type} {f : α → Nat → List β} {items : List α} {first number : Nat}
    {a : α} (h : (a, number) ∈ items.zipIdx first) :
    ((items.zipIdx first).flatMap fun numbered =>
      if numbered.2 = number then f numbered.1 numbered.2 else []) = f a number := by
  induction items generalizing first with
  | nil => cases h
  | cons item items ih =>
    rw [List.zipIdx_cons, List.mem_cons] at h
    rw [List.zipIdx_cons, List.flatMap_cons]
    rcases h with heq | hrest
    · obtain ⟨rfl, rfl⟩ := Prod.mk.inj heq
      have hothers : ((items.zipIdx (number + 1)).flatMap fun numbered =>
          if numbered.2 = number then f numbered.1 numbered.2 else []) = [] := by
        refine List.flatMap_eq_nil_iff.mpr fun numbered hmem => if_neg ?_
        have hle := List.le_snd_of_mem_zipIdx hmem
        omega
      rw [if_pos rfl, hothers, List.append_nil]
    · have hle : first + 1 ≤ number := List.le_snd_of_mem_zipIdx hrest
      rw [if_neg (by dsimp only; omega), List.nil_append, ih hrest]

/-- Of all hits those of one pool. -/
theorem filter_placedHits {number : Nat} {pool : RankedPool} (h : pools[number]? = some pool) :
    (placedHits spec pools).filter (fun placed => placed.2.pool = number)
      = placedPool spec pool number := by
  have hpool : ∀ numbered : RankedPool × Nat,
      (placedPool spec numbered.1 numbered.2).filter (fun placed => placed.2.pool = number)
        = if numbered.2 = number then placedPool spec numbered.1 numbered.2 else [] := by
    intro numbered
    rw [placedPool, List.filter_map]
    split
    · next heq => exact congrArg _ (List.filter_eq_self.mpr fun _ _ => decide_eq_true heq)
    · next hne =>
      rw [List.filter_eq_nil_iff.mpr fun _ _ => by simpa using hne, List.map_nil]
  rw [placedHits, List.filter_flatMap, funext hpool]
  exact flatMap_zipIdx_ite (List.mem_zipIdx_iff_getElem?.mpr h)

/-- **Of the merge the hits of one pool** are this pool, sorted by itself. -/
theorem filter_placedMerge (h : TotalPreorderOn scoreAtLeast (scoredHits spec pools))
    {number : Nat} {pool : RankedPool} (hpool : pools[number]? = some pool) :
    ((placedMerge spec pools).filter fun placed => placed.2.pool = number)
      = (placedPool spec pool number).mergeSort placedBefore := by
  have hplaced : TotalPreorderOn placedBefore (placedHits spec pools) := by
    apply h.comap
    intro placed hmem
    rw [← map_fst_placedHits]
    exact List.mem_map_of_mem hmem
  rw [placedMerge, ← mergeSort_filter hplaced, filter_placedHits hpool]

theorem map_rank_mergeSort (pool : RankedPool) (number : Nat) :
    ((placedPool spec pool number).mergeSort placedBefore).map (fun placed => placed.2.rank)
      = sortedRanks spec pool := by
  have hsorted : ((rankedPool spec pool).mergeSort rankedBefore).map
      (fun ranked => (ranked.1, Place.mk number ranked.2))
        = (placedPool spec pool number).mergeSort placedBefore :=
    List.map_mergeSort fun _ _ _ _ => rfl
  rw [← hsorted, List.map_map, sortedRanks]
  rfl

/-- **A page shows a part of the sorted pool**, without gaps. -/
theorem ranksOf_placesOn (h : TotalPreorderOn scoreAtLeast (scoredHits spec pools))
    (fallback : Nat) {number : Nat} {pool : RankedPool} (hpool : pools[number]? = some pool) :
    ranksOf number (placesOn spec fallback pools) <:+: sortedRanks spec pool := by
  have hpage : ((placedMerge spec pools).drop (spec.offset.getD 0)).take (spec.pageSize fallback)
      <:+: placedMerge spec pools :=
    (List.take_prefix _ _).isInfix.trans (List.drop_suffix _ _).isInfix
  have hshown := (hpage.filter fun placed => placed.2.pool = number).map
    fun placed => placed.2.rank
  rw [filter_placedMerge h hpool, map_rank_mergeSort] at hshown
  rw [ranksOf, placesOn, List.filter_map, List.map_map]
  exact hshown

/-! ## Sorted pools -/

/-- With scores that do not rise the pool is sorted. -/
theorem sortedRanks_of_falling {pool : RankedPool} (h : Falling spec pool) :
    sortedRanks spec pool = List.range pool.hits.length := by
  have hsorted : (rankedPool spec pool).Pairwise fun a b => rankedBefore a b = true := by
    rw [Falling, ← map_fst_rankedPool] at h
    exact List.pairwise_map.mp h
  rw [sortedRanks, List.mergeSort_of_pairwise hsorted, map_snd_rankedPool]

/-- A rank stands before another in the order of the scores: its score is the greater one, or it is
the smaller rank of an equal score. -/
def Precedes (weight : Float) (rank later : Nat) : Prop :=
  reciprocalRank weight later < reciprocalRank weight rank
    ∨ ¬ reciprocalRank weight rank < reciprocalRank weight later ∧ rank < later

theorem pairwise_precedes {pool : RankedPool}
    (hfinite : (spec.weight pool.index).isFinite = true) :
    (sortedRanks spec pool).Pairwise (Precedes (spec.weight pool.index)) := by
  have hscored : TotalPreorderOn scoreAtLeast (scoredHits spec [pool]) :=
    totalPreorderOn_scoredHits fun other hother => by rwa [List.mem_singleton.mp hother]
  have hranked : TotalPreorderOn rankedBefore (rankedPool spec pool) := by
    have hsingle : rankedHits spec [pool] = rankedPool spec pool := List.flatMap_singleton _ _
    rw [← hsingle]
    exact totalPreorderOn_rankedHits hscored
  obtain ⟨order, horder, hitems⟩ := exists_stableOrder hranked
  -- the position of a hit is its rank
  have hrank : ∀ numbered ∈ order, numbered.1.2 = numbered.2
      ∧ numbered.1.1.score.getD 0 = reciprocalRank (spec.weight pool.index) numbered.2 := by
    intro numbered hmem
    have hget := List.mem_zipIdx_iff_getElem?.mp (horder.perm.mem_iff.mp hmem)
    rw [getElem?_rankedPool] at hget
    obtain ⟨hit, _, heq⟩ := Option.map_eq_some_iff.mp hget
    rw [← heq]
    exact ⟨rfl, rfl⟩
  rw [sortedRanks, ← hitems, List.map_map, List.pairwise_map]
  refine (horder.sorted.and horder.stable).imp_of_mem fun {a b} ha hb hab => ?_
  obtain ⟨hsorted, hstable⟩ := hab
  obtain ⟨harank, hascore⟩ := hrank a ha
  obtain ⟨hbrank, hbscore⟩ := hrank b hb
  simp only [rankedBefore, scoreAtLeast, Bool.not_eq_true', decide_eq_false_iff_not, hascore,
    hbscore] at hsorted hstable
  show Precedes _ a.1.2 b.1.2
  rw [harank, hbrank]
  by_cases hless : reciprocalRank (spec.weight pool.index) b.2
      < reciprocalRank (spec.weight pool.index) a.2
  · exact Or.inl hless
  · exact Or.inr ⟨hsorted, hstable hless⟩

/-- With a negative weight no rank stands behind the first one. -/
theorem ne_zero_of_precedes {weight : Float} (hfinite : weight.isFinite = true)
    (hneg : weight < 0) {rank later : Nat} (h : Precedes weight rank later) : rank ≠ 0 := by
  rintro rfl
  have hnan := isNaN_reciprocalRank hfinite
  rcases Nat.eq_zero_or_pos later with rfl | hlater
  · rcases h with hless | ⟨_, hless⟩
    · rw [Rounding.lt_iff (hnan 0) (hnan 0)] at hless
      exact Int.lt_irrefl _ hless
    · exact Nat.lt_irrefl _ hless
  · have hbest := reciprocalRank_zero_lt hfinite hneg hlater
    rcases h with hless | ⟨hnotless, _⟩
    · rw [Rounding.lt_iff (hnan _) (hnan _)] at hless hbest
      exact Int.lt_asymm hless hbest
    · exact hnotless hbest

/-- **The hits of one pool on a page.** With options that could be read, every hit of a page has a
place of its own in the pools. What the page shows of a pool is in the order of the scores, and
with equal scores in that of the ranks. If the weight of the index is not negative, this is a part
of the pool as it was: in the order of the ranks and without gaps. If it is negative, the best hit
of the pool comes behind all others that are shown. -/
theorem ranks_on_page {options : Json} (hsound : options.Sound)
    (hread : FederationSpec.ofJson options = .ok spec) (fallback : Nat)
    (pools : List RankedPool) :
    ∃ places, List.Forall₂ (StandsFor spec pools) (blend spec fallback pools) places
      ∧ places.Nodup
      ∧ ∀ number pool, pools[number]? = some pool →
        (ranksOf number places).Pairwise (Precedes (spec.weight pool.index))
        ∧ (0 ≤ spec.weight pool.index → ranksOf number places <:+: List.range pool.hits.length)
        ∧ (spec.weight pool.index < 0 →
          (ranksOf number places).Pairwise fun rank _ => rank ≠ 0) := by
  have hfinite : ∀ index, (spec.weight index).isFinite = true :=
    (FederationSpec.finite_ofJson hsound hread).weight
  have hcomparable : TotalPreorderOn scoreAtLeast (scoredHits spec pools) :=
    totalPreorderOn_scoredHits fun pool _ => hfinite pool.index
  refine ⟨placesOn spec fallback pools, forall₂_placesOn fallback, nodup_placesOn fallback, ?_⟩
  intro number pool hpool
  have hpart := ranksOf_placesOn hcomparable fallback hpool
  have hordered : (ranksOf number (placesOn spec fallback pools)).Pairwise
      (Precedes (spec.weight pool.index)) :=
    (pairwise_precedes (hfinite pool.index)).sublist hpart.sublist
  refine ⟨hordered, fun hnonneg => ?_, fun hneg => ?_⟩
  · rwa [sortedRanks_of_falling (descends_of_nonneg (hfinite pool.index) hnonneg).falling] at hpart
  · exact hordered.imp (ne_zero_of_precedes (hfinite pool.index) hneg)

/-! ### Two books of a given weight -/

/-- Options with a weight for the books. -/
def bookOptions (weight : Int) : Json :=
  .object [("weights", .object [("books", .number (.integer weight))])]

def weighing (weight : Int) : FederationSpec :=
  { FederationSpec.empty with weights := [("books", (Number.integer weight).toFloat)] }

def shelf : List RankedPool := [⟨"books", [hitOf "first", hitOf "second"]⟩]

theorem sound_bookOptions {weight : Int} (h : -2 ^ 63 ≤ weight ∧ weight < 2 ^ 64) :
    (bookOptions weight).Sound := by
  simp only [bookOptions, Json.sound_object, Json.sound_number, List.forall_mem_singleton]
  exact h

/-- Books that count twice are shown in the order of their ranks. -/
theorem heavy_books_stay_in_order :
    (bookOptions 2).Sound ∧ FederationSpec.ofJson (bookOptions 2) = .ok (weighing 2)
      ∧ ∃ places, List.Forall₂ (StandsFor (weighing 2) shelf) (blend (weighing 2) 20 shelf) places
        ∧ ranksOf 0 places <:+: [0, 1] := by
  have hsound : (bookOptions 2).Sound := sound_bookOptions (by decide)
  have hread : FederationSpec.ofJson (bookOptions 2) = .ok (weighing 2) := rfl
  obtain ⟨places, hplaces, _, hpools⟩ := ranks_on_page hsound hread 20 shelf
  obtain ⟨_, hpart, _⟩ := hpools 0 _ rfl
  exact ⟨hsound, hread, places, hplaces, hpart (by decide)⟩

/-- With a negative weight the second book is the better one. -/
theorem blend_shelf_negative : blend (weighing (-1)) 20 shelf
    = [(hitOf "second").setScore (-0.5), (hitOf "first").setScore (-1.0)] := by
  have hfirst : reciprocalRank ((weighing (-1)).weight "books") 0 = -1.0 := by decide +kernel
  have hsecond : reciprocalRank ((weighing (-1)).weight "books") 1 = -0.5 := by decide +kernel
  have hscored : scoredHits (weighing (-1)) shelf
      = [(hitOf "first").setScore (-1.0), (hitOf "second").setScore (-0.5)] := by
    rw [← hfirst, ← hsecond]
    rfl
  have hpreorder : TotalPreorderOn scoreAtLeast
      [(hitOf "first").setScore (-1.0), (hitOf "second").setScore (-0.5)] := by decide +kernel
  have horder : StableOrder scoreAtLeast
      [(hitOf "first").setScore (-1.0), (hitOf "second").setScore (-0.5)]
      [((hitOf "second").setScore (-0.5), 1), ((hitOf "first").setScore (-1.0), 0)] :=
    ⟨.swap _ _ [], by decide +kernel, by decide +kernel⟩
  rw [blend, merged, flatMap_scoredPool, hscored, horder.mergeSort_eq hpreorder]
  rfl

/-- Each of the two books is at one place only. -/
theorem place_of_book {spec : FederationSpec} {id : String} {score : Float} {place : Place}
    (h : StandsFor spec shelf ((hitOf id).setScore score) place) :
    place = ⟨0, 0⟩ ∧ id = "first" ∨ place = ⟨0, 1⟩ ∧ id = "second" := by
  obtain ⟨number, rank⟩ := place
  obtain ⟨pool, hit, hpool, hhit, heq⟩ := h
  have hid : ∀ other, hit = hitOf other → id = other := by
    rintro other rfl
    have hfields : [("id", Json.string id)] = [("id", Json.string other)] :=
      congrArg Hit.fields heq
    simpa using hfields
  match number, hpool with
  | 0, hpool =>
    obtain rfl := Option.some.inj hpool
    match rank, hhit with
    | 0, hhit => exact Or.inl ⟨rfl, hid _ (Option.some.inj hhit).symm⟩
    | 1, hhit => exact Or.inr ⟨rfl, hid _ (Option.some.inj hhit).symm⟩

/-- **A negative weight turns a pool around**: the second book is shown before the first, and there
is no way to place the two hits in the order of their ranks. -/
theorem second_book_comes_first :
    (bookOptions (-1)).Sound ∧ FederationSpec.ofJson (bookOptions (-1)) = .ok (weighing (-1))
      ∧ blend (weighing (-1)) 20 shelf
        = [(hitOf "second").setScore (-0.5), (hitOf "first").setScore (-1.0)]
      ∧ ¬ ∃ places,
        List.Forall₂ (StandsFor (weighing (-1)) shelf) (blend (weighing (-1)) 20 shelf) places
          ∧ (ranksOf 0 places).Pairwise (· < ·) := by
  refine ⟨sound_bookOptions (by decide), rfl, blend_shelf_negative, ?_⟩
  rintro ⟨places, hplaces, hordered⟩
  rw [blend_shelf_negative] at hplaces
  obtain ⟨a, _, ha, hrest, rfl⟩ := List.forall₂_cons_left_iff.mp hplaces
  obtain ⟨b, _, hb, hnone, rfl⟩ := List.forall₂_cons_left_iff.mp hrest
  obtain rfl := List.forall₂_nil_left_iff.mp hnone
  obtain ⟨_, hne⟩ | ⟨rfl, _⟩ := place_of_book ha
  · exact absurd hne (by decide)
  obtain ⟨rfl, _⟩ | ⟨_, hne⟩ := place_of_book hb
  · exact absurd hordered (by decide)
  · exact absurd hne (by decide)

end Federation

end Metasearch
