import Mathlib.Data.Nat.Log
import Mathlib.Tactic.Linarith
import Mathlib.Tactic.Positivity
import Metasearch.Proofs.Float.Rounding

set_option autoImplicit false

/-! # Rounded floats

What rounding gives in the unpacked form of sign, mantissa and exponent: a float in canonical
form whose magnitude is the rounded one (`rounded_roundWithAccuracy`). The operations on floats
hand over a quotient with its remainder and an exponent; `Deep` says that the quotient has
enough bits for that.
-/

namespace Metasearch.Rounding

open Float.Model Float.Model.UnpackedFloat

/-! ## Canonical floats -/

/-- A mantissa and an exponent in canonical form, without regard to overflow. -/
structure Canonical (mantissa : Nat) (exponent : Int) : Prop where
  short : mantissa < 2 ^ 53
  least : -1074 ≤ exponent
  full : exponent = -1074 ∨ 2 ^ 52 ≤ mantissa

/-- A float of a given sign and magnitude in canonical form: zero or finite. -/
inductive Rounded (sign : Sign) : Nat → UnpackedFloat → Prop where
  | zero : Rounded sign 0 (.zero sign)
  | finite {mantissa : Nat} {exponent : Int} (hpos : 0 < mantissa)
      (h : Canonical mantissa exponent) :
    Rounded sign ((exponent + 1074).toNat * 2 ^ 52 + mantissa)
      (.finite sign mantissa exponent hpos)

/-! ## Shifting a quotient -/

/-- A quotient with what its remainder says of the bits behind it. -/
def extended (a b : Nat) : ExtendedMantissa :=
  .ofMantissaAndAccuracy (a / b) (accuracyOfFraction (a % b) b)

theorem roundedMantissa_extended (a b : Nat) : (extended a b).roundedMantissa = nearest a b := by
  unfold extended nearest
  rcases accuracyOfFraction (a % b) b with _ | ordering
  · rfl
  · cases ordering <;> rfl

/-- The two further bits: whether the rest is at least a half, and whether it is neither nothing
nor a half. -/
theorem extended_eq (a : Nat) {b : Nat} (hb : 0 < b) :
    extended a b = ⟨a / b, decide (b ≤ 2 * (a % b)),
      decide (a % b ≠ 0 ∧ 2 * (a % b) ≠ b)⟩ := by
  unfold extended accuracyOfFraction
  by_cases hzero : a % b = 0
  · simp [hzero, ExtendedMantissa.ofMantissaAndAccuracy, hb.ne']
  · rw [if_neg hzero]
    rcases Nat.lt_trichotomy (2 * (a % b)) b with hlt | heq | hgt
    · rw [Nat.compare_eq_lt.mpr hlt]
      simp [ExtendedMantissa.ofMantissaAndAccuracy, hzero, hlt, hlt.ne]
    · rw [Nat.compare_eq_eq.mpr heq]
      simp [ExtendedMantissa.ofMantissaAndAccuracy, heq]
    · rw [Nat.compare_eq_gt.mpr hgt]
      simp [ExtendedMantissa.ofMantissaAndAccuracy, hzero, hgt.le, hgt.ne']

theorem shiftRightOne_extended (a : Nat) {b : Nat} (hb : 0 < b) :
    (extended a b).shiftRightOne = extended a (b * 2) := by
  have hmod : a % (b * 2) = a % b + b * (a / b % 2) := Nat.mod_mul
  have hrest := Nat.mod_lt a hb
  rw [extended_eq a hb, extended_eq a (by positivity), ExtendedMantissa.shiftRightOne, hmod,
    ← Nat.div_div_eq_div_mul]
  refine congrArg₂ (ExtendedMantissa.mk (a / b / 2)) ?_ ?_
  · rcases Nat.mod_two_eq_zero_or_one (a / b) with hbit | hbit <;> simp [hbit] <;> omega
  · rw [← Bool.decide_or, decide_eq_decide]
    rcases Nat.mod_two_eq_zero_or_one (a / b) with hbit | hbit <;> rw [hbit] <;> omega

theorem shiftRight_extended (a : Nat) {b : Nat} (hb : 0 < b) (k : Nat) :
    extended a b >>> k = extended a (b * 2 ^ k) := by
  induction k with
  | zero => rw [Nat.pow_zero, Nat.mul_one]; rfl
  | succ k ih =>
    have hstep : extended a b >>> (k + 1) = (extended a b >>> k).shiftRightOne := rfl
    rw [hstep, ih, shiftRightOne_extended a (by positivity), Nat.pow_succ, Nat.mul_assoc]

theorem targetExponent_eq (m : Nat) (e : Int) :
    Format.binary64.targetExponent (totalExponent m e) = max ((m.log2 : Int) + e - 52) (-1074) := by
  show max ((m.log2 : Int) + 1 + e - 53) (-1074) = max ((m.log2 : Int) + e - 52) (-1074)
  omega

/-- A short mantissa stays as it is. -/
theorem shiftToTarget_of_lt {m : Nat} (hm : m < 2 ^ 53) {e : Int} (he : -1074 ≤ e) :
    shiftToTargetExponent Format.binary64 m e .exact = (⟨m, false, false⟩, e) := by
  have hlog : m.log2 ≤ 52 := by
    by_cases hzero : m = 0
    · rw [hzero, Nat.log2_zero]
      exact Nat.zero_le 52
    · have hlt := (Nat.log2_lt hzero).mpr hm
      omega
  have hshift : (Format.binary64.targetExponent (totalExponent m e) - e).toNat = 0 := by
    rw [targetExponent_eq]
    omega
  rw [shiftToTargetExponent, shiftToExponent, hshift]
  exact congrArg (Prod.mk _) (Int.add_zero e)

/-- A mantissa that rounding has made one bit too long is halved. -/
theorem shiftToTarget_overflow {e : Int} (he : -1074 ≤ e) :
    shiftToTargetExponent Format.binary64 (2 ^ 53) e .exact = (⟨2 ^ 52, false, false⟩, e + 1) := by
  have hshift : (Format.binary64.targetExponent (totalExponent (2 ^ 53) e) - e).toNat = 1 := by
    rw [targetExponent_eq, Nat.log2_two_pow]
    omega
  rw [shiftToTargetExponent, shiftToExponent, hshift]
  rfl

/-! ## Rounding a quotient -/

theorem log2_div_two_pow (m k : Nat) : (m / 2 ^ k).log2 = m.log2 - k := by
  rw [Nat.log2_eq_log_two, Nat.log2_eq_log_two, Nat.log_div_base_pow]

theorem log2_mul_two_pow_div {a b : Nat} (hb : 0 < b) (hne : a / b ≠ 0) (k : Nat) :
    (a * 2 ^ k / b).log2 = (a / b).log2 + k := by
  have hlower := Nat.log2_self_le hne
  have hupper := Nat.lt_log2_self (n := a / b)
  rw [Nat.le_div_iff_mul_le hb] at hlower
  rw [Nat.div_lt_iff_lt_mul hb] at hupper
  have hpos : 0 < 2 ^ k := by positivity
  have hge : 2 ^ ((a / b).log2 + k) ≤ a * 2 ^ k / b := by
    rw [Nat.le_div_iff_mul_le hb, Nat.pow_add]
    nlinarith
  rw [Nat.log2_eq_iff (Nat.pos_iff_ne_zero.mp (Nat.lt_of_lt_of_le (by positivity) hge))]
  refine ⟨hge, ?_⟩
  rw [Nat.div_lt_iff_lt_mul hb, Nat.add_right_comm, Nat.pow_add]
  nlinarith

/-- A quotient has enough bits to be rounded at an exponent: it fills a mantissa, or the
exponent is at the end of the range. -/
def Deep (quotient : Nat) (exponent : Int) : Prop :=
  exponent ≤ -1074 ∨ 2 ^ 52 ≤ quotient

/-- The grid of a quotient, in the two ways to count exponents. -/
theorem gridExponent_eq (a : Nat) {b : Nat} (hb : 0 < b) {e : Int} (hdeep : Deep (a / b) e) :
    (gridExponent (a * 2 ^ (e + 1074).toNat) (b * 2 ^ (-1074 - e).toNat) : Int)
      = max (((a / b).log2 : Int) + e - 52) (-1074) + 1074 := by
  unfold gridExponent
  rcases le_or_gt e (-1074) with hlow | hhigh
  · have hup : (e + 1074).toNat = 0 := by omega
    rw [hup, Nat.pow_zero, Nat.mul_one, ← Nat.div_div_eq_div_mul, log2_div_two_pow]
    omega
  · have hdown : (-1074 - e).toNat = 0 := by omega
    have hfull : 2 ^ 52 ≤ a / b := hdeep.resolve_left (by omega)
    have hne : a / b ≠ 0 := by omega
    have hlog : 52 ≤ (a / b).log2 := (Nat.le_log2 hne).mpr hfull
    rw [hdown, Nat.pow_zero, Nat.mul_one, log2_mul_two_pow_div hb hne]
    omega

/-- The float of a shifted mantissa. -/
def ofShifted (sign : Sign) (shifted : ExtendedMantissa × Int) : UnpackedFloat :=
  if h : shifted.1.mantissa = 0 then .zero sign
  else .finite sign shifted.1.mantissa shifted.2 (Nat.pos_of_ne_zero h)

theorem roundWithAccuracy_eq (format : Format) (sign : Sign) (m : Nat) (e : Int)
    (accuracy : Accuracy) :
    roundWithAccuracy format sign m e accuracy
      = ofShifted sign (shiftToTargetExponent format
          (shiftToTargetExponent format m e accuracy).1.roundedMantissa
          (shiftToTargetExponent format m e accuracy).2 .exact) := rfl

/-- The last shift brings a rounded mantissa into canonical form. -/
theorem rounded_ofShifted (sign : Sign) {grid rounded : Nat} (hupper : rounded ≤ 2 ^ 53)
    (hlower : 0 < grid → 2 ^ 52 ≤ rounded) :
    Rounded sign (grid * 2 ^ 52 + rounded)
      (ofShifted sign (shiftToTargetExponent Format.binary64 rounded (grid - 1074) .exact)) := by
  have hleast : (-1074 : Int) ≤ (grid : Int) - 1074 := by omega
  rcases Nat.lt_or_eq_of_le hupper with hshort | rfl
  · rw [shiftToTarget_of_lt hshort hleast, ofShifted]
    by_cases hzero : rounded = 0
    · have hgridZero : grid = 0 := by omega
      rw [dif_pos hzero, hzero, hgridZero]
      exact .zero
    · have hne : rounded ≠ 0 := hzero
      rw [dif_neg hne]
      have hcanonical : Canonical rounded ((grid : Int) - 1074) := ⟨hshort, hleast, by omega⟩
      have hrounded : Rounded sign _ (.finite sign _ _ (Nat.pos_of_ne_zero hne)) :=
        .finite (Nat.pos_of_ne_zero hne) hcanonical
      rwa [show ((grid : Int) - 1074 + 1074).toNat = grid by omega] at hrounded
  · -- the mantissa has become one bit too long, and the float is on the next grid
    have hne : (2 ^ 52 : Nat) ≠ 0 := by decide
    rw [shiftToTarget_overflow hleast, ofShifted, dif_neg hne]
    have hcanonical : Canonical (2 ^ 52) ((grid : Int) - 1074 + 1) :=
      ⟨by decide, by omega, Or.inr (Nat.le_refl _)⟩
    have hrounded : Rounded sign _ (.finite sign _ _ (Nat.pos_of_ne_zero hne)) :=
      .finite (Nat.pos_of_ne_zero hne) hcanonical
    rwa [show ((grid : Int) - 1074 + 1 + 1074).toNat = grid + 1 by omega,
      show (grid + 1) * 2 ^ 52 + 2 ^ 52 = grid * 2 ^ 52 + 2 ^ 53 by omega] at hrounded

/-- **Rounding a quotient gives the float of the rounded magnitude.** -/
theorem rounded_roundWithAccuracy (sign : Sign) (a : Nat) {b : Nat} (hb : 0 < b) {e : Int}
    (hdeep : Deep (a / b) e) :
    Rounded sign (roundedMagnitude (a * 2 ^ (e + 1074).toNat) (b * 2 ^ (-1074 - e).toNat))
      (roundWithAccuracy Format.binary64 sign (a / b) e (accuracyOfFraction (a % b) b)) := by
  have hgrid := gridExponent_eq a hb hdeep
  have hpos : 0 < b * 2 ^ (-1074 - e).toNat := by positivity
  have hupper := nearest_grid_le (a * 2 ^ (e + 1074).toNat) hpos
  have hlower := le_nearest_grid (a := a * 2 ^ (e + 1074).toNat) hpos
  unfold roundedMagnitude
  generalize gridExponent (a * 2 ^ (e + 1074).toNat) (b * 2 ^ (-1074 - e).toNat) = grid at *
  -- the first shift goes to the grid
  obtain ⟨k, hk⟩ : ∃ k : Nat, (k : Int) = grid - 1074 - e := by
    refine ⟨((grid : Int) - 1074 - e).toNat, ?_⟩
    rcases le_or_gt e (-1074) with hlow | hhigh
    · omega
    · have hfull : 2 ^ 52 ≤ a / b := hdeep.resolve_left (by omega)
      have hlog : 52 ≤ (a / b).log2 := (Nat.le_log2 (by omega)).mpr hfull
      omega
  have hfirst : shiftToTargetExponent Format.binary64 (a / b) e (accuracyOfFraction (a % b) b)
      = (extended a (b * 2 ^ k), (grid : Int) - 1074) := by
    have hshift : (Format.binary64.targetExponent (totalExponent (a / b) e) - e).toNat = k := by
      rw [targetExponent_eq]
      omega
    rw [shiftToTargetExponent, shiftToExponent, hshift, ← shiftRight_extended a hb k]
    exact congrArg (Prod.mk _) (by omega)
  have hnearest : nearest a (b * 2 ^ k)
      = nearest (a * 2 ^ (e + 1074).toNat) (b * 2 ^ (-1074 - e).toNat * 2 ^ grid) := by
    apply nearest_congr (by positivity) (by positivity)
    have hexponents : (-1074 - e).toNat + grid = (e + 1074).toNat + k := by omega
    calc a * (b * 2 ^ (-1074 - e).toNat * 2 ^ grid)
        = a * b * 2 ^ ((-1074 - e).toNat + grid) := by rw [Nat.pow_add]; ring
      _ = a * b * 2 ^ ((e + 1074).toNat + k) := by rw [hexponents]
      _ = a * 2 ^ (e + 1074).toNat * (b * 2 ^ k) := by rw [Nat.pow_add]; ring
  rw [← hnearest] at hupper hlower ⊢
  rw [roundWithAccuracy_eq, hfirst, roundedMantissa_extended]
  exact rounded_ofShifted sign hupper hlower

end Metasearch.Rounding
