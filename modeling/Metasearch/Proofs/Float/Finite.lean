import Metasearch.Decimal.Shortest
import Metasearch.Proofs.Float.Arithmetic

set_option autoImplicit false

/-! # Finite floats

A natural number of 64 bits is far below the greatest float, so it is finite as a float
(`isFinite_toFloat`). With the other sign a finite float stays finite (`isFinite_neg`). Taken apart
to be written, a finite float has digits (`exists_finite`).
-/

namespace Metasearch.Rounding

open Float.Model Float.Model.UnpackedFloat

/-- A finite float is a number and not infinite. -/
theorem isNaN_or_isInf_of_isFinite {x : Float} (h : x.isFinite = true) :
    (x.isNaN || x.isInf) = false := by
  have hfinite : x.toModel.unpack.isFinite = true := h
  show (x.toModel.unpack.isNaN || x.toModel.unpack.isInf) = false
  cases hunpack : x.toModel.unpack with
  | notANumber => rw [hunpack] at hfinite; cases hfinite
  | infinity sign => rw [hunpack] at hfinite; cases hfinite
  | zero sign => rfl
  | finite sign mantissa exponent hpos => rfl

/-- The exponent as it is stored. -/
theorem toNat_unpackExponent (bits : BitVec Format.binary64.numBits) :
    (unpackExponent bits).toNat = bits.toNat / 2 ^ 52 % 2 ^ 11 := by
  simp [unpackExponent, Nat.shiftRight_eq_div_pow]

/-- A finite float has digits: its exponent is not the greatest, which is kept for the others. -/
theorem exists_finite {x : Float} (h : x.isFinite = true) :
    ∃ negative significand exponent,
      Decimal.Binary64.ofFloat x = .finite negative significand exponent := by
  have hfinite : (UnpackedFloat.unpack Format.binary64 x.toBits.toBitVec).isFinite = true := h
  have hexponent : x.toBits.toNat / Nat.pow 2 52 % Nat.pow 2 11 ≠ 2047 := by
    intro hgreatest
    -- an exponent of ones is an infinity or no number
    have hones : @unpackExponent Format.binary64 x.toBits.toBitVec = -1#11 :=
      BitVec.eq_of_toNat_eq ((toNat_unpackExponent _).trans hgreatest)
    unfold UnpackedFloat.unpack at hfinite
    dsimp only at hfinite
    rw [if_pos hones] at hfinite
    split at hfinite <;> cases hfinite
  simp only [Decimal.Binary64.ofFloat, if_neg hexponent]
  split <;> exact ⟨_, _, _, rfl⟩

theorem isFinite_of_key_lt_top {u : UnpackedFloat} (h : Nonneg u) (hkey : key u < top) :
    u.isFinite = true := by
  cases h with
  | zero => rfl
  | finite => rfl
  | infinity => exact absurd hkey (Int.lt_irrefl _)

/-- **A natural number of 64 bits is a finite float**: rounding is monotone and leaves the bound
itself as it is. -/
theorem isFinite_toFloat {n : Nat} (h : n ≤ 2 ^ 64) : n.toFloat.isFinite = true := by
  have hcanonical : Canonical (2 ^ 52) 12 := ⟨by decide, by decide, Or.inr (Nat.le_refl _)⟩
  have hbound : 2 ^ 64 * oneUnits = units (2 ^ 52) 12 := by
    rw [oneUnits_eq, units, ← Nat.pow_add, ← Nat.pow_add]
    congr 1
  have hrounded : roundedMagnitude (n * oneUnits) 1
      ≤ (12 + 1074 : Int).toNat * 2 ^ 52 + 2 ^ 52 := by
    rw [← roundedMagnitude_units hcanonical, ← hbound]
    exact roundedMagnitude_mono (by decide) (by decide)
      (Nat.mul_le_mul_right _ (Nat.mul_le_mul_right _ h))
  obtain ⟨hnonneg, hkey⟩ := toFloat_stored n
  apply isFinite_of_key_lt_top hnonneg
  rw [floatKey] at hkey
  rw [hkey, Int.ofNat_lt]
  have htop : (12 + 1074 : Int).toNat * 2 ^ 52 + 2 ^ 52 < top := by decide
  omega

/-- A rounded float of a magnitude below the top is stored as a finite one. -/
theorem isFinite_pack {sign : Sign} {n : Nat} {u : UnpackedFloat} (h : Rounded sign n u)
    (hbelow : n < top) : (Float.Model.pack u).unpack.isFinite = true := by
  rw [unpack_pack h, if_pos hbelow]
  cases h <;> rfl

/-- A finite float stays finite with the other sign. -/
theorem isFinite_neg {x : Float} (h : x.isFinite = true) : (-x).isFinite = true := by
  show (Float.Model.pack x.toModel.unpack.neg).unpack.isFinite = true
  have hstored := stored_unpack x.toModel
  have hfinite : x.toModel.unpack.isFinite = true := h
  generalize x.toModel.unpack = u at hstored hfinite
  cases hstored with
  | notANumber => cases hfinite
  | infinity => cases hfinite
  | zero sign => exact isFinite_pack Rounded.zero (by decide)
  | finite sign hpos hcanonical hfits =>
    have hbelow := (key_lt_top hpos hcanonical hfits).2
    exact isFinite_pack (.finite hpos hcanonical) (Int.ofNat_lt.mp hbelow)

end Metasearch.Rounding
