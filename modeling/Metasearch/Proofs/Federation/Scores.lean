import Metasearch.Proofs.Federation.Prefixes
import Metasearch.Proofs.Float.Finite

set_option autoImplicit false

/-! # Reciprocal ranks as floats

A score is a quotient of floats, and what is asked of scores elsewhere is decided here by their
arithmetic. With finite weights every score is a number, so scores can be compared
(`totalPreorderOn_scoredHits`). With a weight that is not negative the scores do not rise with
the rank (`descends_of_nonneg`): ranks are rounded, one is added with rounding and the quotient
is rounded once more, but each of these steps is monotone. With a negative weight all other
scores are greater than that of the first rank (`reciprocalRank_zero_lt`), and this by more than
rounding takes away.
-/

namespace Metasearch.Federation

open Rounding

/-! ## Divisors -/

/-- What the weight is divided by at a rank. -/
def divisor (rank : Nat) : Float := rank.toFloat + 1.0

theorem divisor_stored (rank : Nat) :
    Nonneg (divisor rank).toModel.unpack
      ∧ floatKey (divisor rank) = (min (plusOne rank.toFloat.toModel.unpack) top : Nat) :=
  add_one_stored (toFloat_stored rank).1

theorem floatKey_divisor_pos (rank : Nat) : 0 < floatKey (divisor rank) := by
  rw [(divisor_stored rank).2]
  exact Int.natCast_pos.mpr (plusOne_pos _)

theorem floatKey_divisor_mono {rank later : Nat} (h : rank ≤ later) :
    floatKey (divisor rank) ≤ floatKey (divisor later) := by
  rw [(divisor_stored rank).2, (divisor_stored later).2, Int.ofNat_le]
  apply plusOne_mono (toFloat_stored rank).1 (toFloat_stored later).1
  have hrank := (toFloat_stored rank).2
  have hlater := (toFloat_stored later).2
  have hrounded : roundedMagnitude (rank * oneUnits) 1 ≤ roundedMagnitude (later * oneUnits) 1 :=
    roundedMagnitude_mono (by decide) (by decide)
      (Nat.mul_le_mul_right _ (Nat.mul_le_mul_right _ h))
  unfold floatKey at hrank hlater
  rw [hrank, hlater]
  omega

/-! ## Scores -/

theorem isNaN_reciprocalRank {weight : Float} (hfinite : weight.isFinite = true) (rank : Nat) :
    (reciprocalRank weight rank).isNaN = false :=
  isNaN_div (stored_unpack weight.toModel) hfinite (divisor_stored rank).1
    (floatKey_divisor_pos rank)

/-- A finite weight that is not less than zero. -/
theorem finiteNonneg_of_le {weight : Float} (hfinite : weight.isFinite = true)
    (h : 0 ≤ weight) : FiniteNonneg weight.toModel.unpack := by
  have hcompare :
      ((0 : Float).toModel.unpack.compare weight.toModel.unpack).any (·.isLE) = true := by
    have hle : decide ((0 : Float).toModel ≤ weight.toModel) = true := h
    exact of_decide_eq_true hle
  have hstored := stored_unpack weight.toModel
  have hfinite' : weight.toModel.unpack.isFinite = true := hfinite
  generalize weight.toModel.unpack = u at hcompare hstored hfinite'
  cases hstored with
  | notANumber => cases hfinite'
  | infinity => cases hfinite'
  | zero sign => exact .zero sign
  | finite sign hpos hcanonical hfits =>
    cases sign with
    | negative => cases hcompare
    | positive => exact .finite hpos hcanonical

theorem floatKey_reciprocalRank {weight : Float} (hfinite : weight.isFinite = true)
    (h : 0 ≤ weight) (rank : Nat) :
    floatKey (reciprocalRank weight rank)
      = (min (quotient weight.toModel.unpack (divisor rank).toModel.unpack) top : Nat) :=
  key_div (finiteNonneg_of_le hfinite h) (divisor_stored rank).1 (floatKey_divisor_pos rank)

/-- **With a weight that is not negative scores do not rise with the rank.** -/
theorem descends_of_nonneg {weight : Float} (hfinite : weight.isFinite = true)
    (h : 0 ≤ weight) : Descends weight := by
  intro rank later hrank
  rw [lt_iff (isNaN_reciprocalRank hfinite rank) (isNaN_reciprocalRank hfinite later),
    floatKey_reciprocalRank hfinite h, floatKey_reciprocalRank hfinite h]
  have hquotient := quotient_anti weight.toModel.unpack (divisor_stored rank).1
    (divisor_stored later).1 (floatKey_divisor_pos rank) (floatKey_divisor_mono hrank)
  omega

/-! ### Weights less than zero -/

/-- A finite weight that is less than zero. -/
theorem exists_negative_of_lt {weight : Float} (hfinite : weight.isFinite = true)
    (h : weight < 0) :
    ∃ mantissa exponent, ∃ hpos : 0 < mantissa, Canonical mantissa exponent ∧ exponent ≤ 971
      ∧ weight.toModel.unpack = .finite .negative mantissa exponent hpos := by
  have hnan : weight.isNaN = false := by
    have hboth := isNaN_or_isInf_of_isFinite hfinite
    rw [Bool.or_eq_false_iff] at hboth
    exact hboth.1
  have hkey : floatKey weight < 0 := (lt_iff hnan rfl).mp h
  have hstored := stored_unpack weight.toModel
  have hfinite' : weight.toModel.unpack.isFinite = true := hfinite
  rw [floatKey] at hkey
  generalize weight.toModel.unpack = u at hkey hstored hfinite' ⊢
  cases hstored with
  | notANumber => cases hfinite'
  | infinity => cases hfinite'
  | zero => exact absurd hkey (Int.lt_irrefl 0)
  | finite sign hpos hcanonical hfits =>
    cases sign with
    | positive => exact absurd hkey (Int.not_lt.mpr (Int.natCast_nonneg _))
    | negative => exact ⟨_, _, hpos, hcanonical, hfits, rfl⟩

/-- **With a weight less than zero the best hit has the least score.** The score at the first rank
is the weight itself, and those of all other ranks are at most half as far from zero. -/
theorem reciprocalRank_zero_lt {weight : Float} (hfinite : weight.isFinite = true)
    (h : weight < 0) {rank : Nat} (hrank : 0 < rank) :
    reciprocalRank weight 0 < reciprocalRank weight rank := by
  obtain ⟨mantissa, exponent, hpos, hcanonical, hfits, hunpack⟩ := exists_negative_of_lt hfinite h
  have hkey : ∀ rank, floatKey (reciprocalRank weight rank)
      = -(min (quotient weight.toModel.unpack (divisor rank).toModel.unpack) top : Nat) := by
    intro rank
    have hdiv := key_div_finite .negative hpos hcanonical (divisor_stored rank).1
      (floatKey_divisor_pos rank)
    rwa [← hunpack] at hdiv
  have hbest : quotient weight.toModel.unpack (divisor 0).toModel.unpack
      = (exponent + 1074).toNat * 2 ^ 52 + mantissa := by
    have hone : (divisor 0).toModel.unpack = one := rfl
    rw [hunpack, hone, quotient_one .negative hpos hcanonical]
  have hother : quotient weight.toModel.unpack (divisor rank).toModel.unpack
      < (exponent + 1074).toNat * 2 ^ 52 + mantissa := by
    have htwo : (divisor 1).toModel.unpack = two := rfl
    have hanti := quotient_anti weight.toModel.unpack (divisor_stored 1).1 (divisor_stored rank).1
      (floatKey_divisor_pos 1) (floatKey_divisor_mono hrank)
    have hhalf := quotient_two_lt .negative hpos hcanonical
    rw [htwo, hunpack] at hanti
    rw [hunpack]
    exact Nat.lt_of_le_of_lt hanti hhalf
  have htop : ((exponent + 1074).toNat * 2 ^ 52 + mantissa : Nat) < top :=
    Int.ofNat_lt.mp (key_lt_top hpos hcanonical hfits).2
  rw [lt_iff (isNaN_reciprocalRank hfinite 0) (isNaN_reciprocalRank hfinite rank), hkey, hkey,
    hbest]
  omega

/-! ## Comparing all scores -/

/-- **With finite weights all scores can be compared.** -/
theorem totalPreorderOn_scoredHits {spec : FederationSpec} {pools : List RankedPool}
    (hfinite : ∀ pool ∈ pools, (spec.weight pool.index).isFinite = true) :
    TotalPreorderOn scoreAtLeast (scoredHits spec pools) := by
  -- every hit has a score that is a number, so its signed magnitude stands for it
  have hscore : ∀ hit ∈ scoredHits spec pools, ((hit.score.getD 0).isNaN = false) := by
    intro hit hhit
    obtain ⟨pool, hmem, hpool⟩ := List.mem_flatMap.mp hhit
    obtain ⟨rank, _, rfl⟩ := List.mem_mapIdx.mp hpool
    exact isNaN_reciprocalRank (hfinite pool hmem) rank
  have hle : ∀ a ∈ scoredHits spec pools, ∀ b ∈ scoredHits spec pools,
      (scoreAtLeast a b = true ↔ floatKey (b.score.getD 0) ≤ floatKey (a.score.getD 0)) := by
    intro a ha b hb
    rw [scoreAtLeast, Bool.not_eq_true', decide_eq_false_iff_not,
      lt_iff (hscore a ha) (hscore b hb), Int.not_lt]
  constructor
  · intro a ha b hb
    rw [hle a ha b hb, hle b hb a ha]
    exact Int.le_total _ _
  · intro a ha b hb c hc hab hbc
    rw [hle a ha b hb] at hab
    rw [hle b hb c hc] at hbc
    rw [hle a ha c hc]
    exact Int.le_trans hbc hab

end Metasearch.Federation
