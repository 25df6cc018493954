import Metasearch.Federation.Blend
import Metasearch.Federation.Policy
import Metasearch.Proofs.Stepwise
import Mathlib.Data.List.Perm.Subperm
import Mathlib.Data.Prod.Basic

set_option autoImplicit false

/-! # Where returned hits come from

What is returned is made of what the engine has found for each query: hits are dropped, put in
another order, given a blended score and merged. A document may be found by several queries, one
with a floor and one without, so it is not enough to say of a returned hit that *some* query has
found it. `Traced` says more: the returned hits can be matched with hits that were found, no found
hit twice, such that each passes the floor of the query that its match was found for.

Dropping and rearranging keep to this (`Traced.subperm`), and so does blending pools that have
been floored (`traced_blend`).
-/

namespace Metasearch.Federation

/-- What an engine has found for a query, best first, and whether the query asked for scores. -/
structure Finding where
  showScores : Bool
  hits : List Hit

/-- All hits of some findings, each with the finding it belongs to. -/
def allFound (findings : List Finding) : List (Finding × Hit) :=
  findings.flatMap fun finding => finding.hits.map (Prod.mk finding)

/-- A returned hit is a found one, but for its blended score, and passes the floor of its
query. -/
structure ComesFrom (minimum : Float) (returned : Hit) (origin : Finding × Hit) : Prop where
  same : returned = origin.2 ∨ ∃ score, returned = origin.2.setScore score
  admitted : admits minimum origin.1.showScores returned = true

/-- The returned hits come from different hits of the findings. -/
def Traced (minimum : Float) (findings : List Finding) (returned : List Hit) : Prop :=
  ∃ origins, origins.Subperm (allFound findings)
    ∧ List.Forall₂ (ComesFrom minimum) returned origins

variable {minimum : Float} {findings : List Finding} {returned : List Hit}

theorem traced_nil : Traced minimum findings [] := ⟨[], List.nil_subperm, .nil⟩

/-! ## Dropping and rearranging -/

/-- **Some of the returned hits, in any order**, come from different hits, too. -/
theorem Traced.subperm {fewer : List Hit} (h : Traced minimum findings returned)
    (hfewer : fewer.Subperm returned) : Traced minimum findings fewer := by
  obtain ⟨origins, horigins, hmatch⟩ := h
  obtain ⟨sorted, hperm, hsub⟩ := hfewer
  obtain ⟨kept, hkept, hsorted⟩ := forall₂_sublist hmatch hsub
  obtain ⟨rearranged, hfinal, hrearranged⟩ := List.perm_comp_forall₂ hperm.symm hsorted
  exact ⟨rearranged, hrearranged.subperm.trans (hkept.subperm.trans horigins), hfinal⟩

/-- Judging by common terms drops and rearranges. -/
theorem termOverlap_subperm (query : String) (hits : List Hit) :
    (termOverlap query hits).Subperm hits := by
  rw [termOverlap]
  split
  · exact .refl hits
  · have hjudged : (hits.map fun hit => (overlap (queryTerms query) hit, hit)).map Prod.snd
        = hits := by
      rw [List.map_map]
      exact List.map_id _
    have hshared := (List.filter_sublist (p := fun judgement : Nat × Hit => 0 < judgement.1)
      (l := hits.map fun hit => (overlap (queryTerms query) hit, hit))).map Prod.snd
    rw [hjudged] at hshared
    exact ((List.mergeSort_perm _ _).map Prod.snd).subperm.trans hshared.subperm

/-- A policy that judges by common terms, if it judges, drops and rearranges the hits that pass the
floor. -/
theorem refine_subperm {policy : Policy} (hrelevance : policy.relevance = termOverlap)
    (query : String) (showScores : Bool) (hits : List Hit) :
    (policy.refine query showScores hits).Subperm
      (applyFloor policy.minimum showScores hits) := by
  rw [Policy.refine]
  split
  · rw [hrelevance]
    exact termOverlap_subperm query _
  · exact .refl _

theorem refine_nil {policy : Policy} (hrelevance : policy.relevance = termOverlap)
    (query : String) (showScores : Bool) : policy.refine query showScores [] = [] :=
  List.subperm_nil.mp (refine_subperm hrelevance query showScores [])

/-- A policy without further judgement leaves the hits that pass the floor. -/
theorem refine_of_plain {policy : Policy} (hplain : policy.advanced = false) (query : String)
    (showScores : Bool) (hits : List Hit) :
    policy.refine query showScores hits = applyFloor policy.minimum showScores hits := by
  rw [Policy.refine, hplain]
  rfl

/-- What passes the floor passes it again. -/
theorem applyFloor_applyFloor (minimum : Float) (showScores : Bool) (hits : List Hit) :
    applyFloor minimum showScores (applyFloor minimum showScores hits)
      = applyFloor minimum showScores hits := by
  simp [applyFloor, List.filter_filter]

/-- Without scores there is no floor. -/
theorem applyFloor_of_hidden (minimum : Float) (hits : List Hit) :
    applyFloor minimum false hits = hits := List.filter_eq_self.mpr fun _ _ => rfl

/-- The hits of one query that pass its floor come from this query. -/
theorem traced_applyFloor (minimum : Float) (finding : Finding) :
    Traced minimum [finding] (applyFloor minimum finding.showScores finding.hits) := by
  refine ⟨(applyFloor minimum finding.showScores finding.hits).map (Prod.mk finding), ?_, ?_⟩
  · rw [allFound, List.flatMap_singleton]
    exact (List.filter_sublist.map _).subperm
  · rw [List.forall₂_map_right_iff, List.forall₂_same]
    exact fun hit hhit => ⟨.inl rfl, (List.mem_filter.mp hhit).2⟩

/-! ## Blending -/

/-- The hits of a pool, in any order, have been found and pass the floor. -/
def PoolFrom (minimum : Float) (finding : Finding) (pool : RankedPool) : Prop :=
  pool.hits.Subperm (applyFloor minimum finding.showScores finding.hits)

theorem comesFrom_scoreFrom (finding : Finding) (weight : Float) (rank : Nat) {hits : List Hit}
    (h : ∀ hit ∈ hits, admits minimum finding.showScores hit = true) :
    List.Forall₂ (ComesFrom minimum) (scoreFrom weight rank hits)
      (hits.map (Prod.mk finding)) := by
  induction hits generalizing rank with
  | nil => exact .nil
  | cons hit hits ih =>
    obtain ⟨hhit, hhits⟩ := List.forall_mem_cons.mp h
    exact .cons ⟨.inr ⟨reciprocalRank weight rank, rfl⟩, hhit⟩ (ih (rank + 1) hhits)

/-- The scored hits of floored pools come from different hits of the findings. -/
theorem traced_flatMap_scoredPool (spec : FederationSpec) {pools : List RankedPool}
    (h : List.Forall₂ (PoolFrom minimum) findings pools) :
    Traced minimum findings (pools.flatMap (scoredPool spec)) := by
  induction h with
  | nil => exact traced_nil
  | @cons finding pool findings pools hpool _ ih =>
    obtain ⟨origins, horigins, hmatch⟩ := ih
    -- scoring keeps the order, so the origins of a pool are its hits before scoring
    have hadmitted : ∀ hit ∈ pool.hits, admits minimum finding.showScores hit = true :=
      fun hit hhit => (List.mem_filter.mp (hpool.subset hhit)).2
    have hfound : (pool.hits.map (Prod.mk finding)).Subperm
        (finding.hits.map (Prod.mk finding)) :=
      List.Subperm.map (Prod.mk_right_injective finding)
        (hpool.trans List.filter_sublist.subperm)
    exact ⟨pool.hits.map (Prod.mk finding) ++ origins, hfound.append horigins,
      List.rel_append (comesFrom_scoreFrom finding _ 0 hadmitted) hmatch⟩

/-- **A blend of floored pools** comes from different hits of the findings. -/
theorem traced_blend (spec : FederationSpec) (fallback : Nat) {pools : List RankedPool}
    (h : List.Forall₂ (PoolFrom minimum) findings pools) :
    Traced minimum findings (blend spec fallback pools) := by
  have hpage : (blend spec fallback pools).Subperm (merged spec pools) :=
    ((List.take_sublist _ _).trans (List.drop_sublist _ _)).subperm
  exact (traced_flatMap_scoredPool spec h).subperm
    (hpage.trans (List.mergeSort_perm _ _).subperm)

end Metasearch.Federation
