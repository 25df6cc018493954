import Mathlib.Data.Nat.Log
import Mathlib.Tactic.Linarith
import Mathlib.Tactic.Ring

set_option autoImplicit false

/-! # Rounding fractions to floating-point magnitudes

A non-negative floating-point number of 64 bits is told by its bit pattern, read as a natural
number: the *magnitude*. The magnitudes are in the order of the numbers, and rounding is a
function of the exact value alone. Both are said here in natural numbers. A value is a fraction
`a / b` of the least positive float `2 ^ (-1074)`; `roundedMagnitude a b` is the magnitude of
the float that it is rounded to, without regard to overflow.

The main fact is that rounding is monotone (`roundedMagnitude_mono`). Only cross products are
compared, so the same lemma also says that equal fractions are rounded alike.
-/

namespace Metasearch.Rounding

open Float.Model.UnpackedFloat (Accuracy accuracyOfFraction)

/-! ## The nearest whole number -/

/-- The whole number that is nearest to `a / b`, and the even one of two. -/
def nearest (a b : Nat) : Nat := (accuracyOfFraction (a % b) b).roundToNearestEven (a / b)

theorem nearest_eq (a : Nat) {b : Nat} (hb : 0 < b) :
    nearest a b = if 2 * (a % b) < b then a / b
      else if 2 * (a % b) = b then a / b + a / b % 2 else a / b + 1 := by
  unfold nearest accuracyOfFraction
  rcases Nat.lt_trichotomy (2 * (a % b)) b with hlt | heq | hgt
  · rw [if_pos hlt, Nat.compare_eq_lt.mpr hlt]
    split <;> rfl
  · have hne : a % b ≠ 0 := by omega
    rw [if_neg hne, Nat.compare_eq_eq.mpr heq, if_neg (by omega), if_pos heq]
    rfl
  · have hne : a % b ≠ 0 := by omega
    rw [if_neg hne, Nat.compare_eq_gt.mpr hgt, if_neg (by omega), if_neg (by omega)]
    rfl

theorem div_le_nearest (a : Nat) {b : Nat} (hb : 0 < b) : a / b ≤ nearest a b := by
  rw [nearest_eq a hb]
  split_ifs <;> omega

theorem nearest_le (a : Nat) {b : Nat} (hb : 0 < b) : nearest a b ≤ a / b + 1 := by
  rw [nearest_eq a hb]
  split_ifs <;> omega

theorem nearest_mul_right (q : Nat) {b : Nat} (hb : 0 < b) : nearest (q * b) b = q := by
  rw [nearest_eq _ hb, Nat.mul_mod_left, Nat.mul_div_cancel _ hb, if_pos (by omega)]

theorem div_le_div_of_cross {a b a' b' : Nat} (hb : 0 < b) (hb' : 0 < b')
    (h : a * b' ≤ a' * b) : a / b ≤ a' / b' := by
  rw [Nat.le_div_iff_mul_le hb']
  have hle : a / b * b ≤ a := Nat.div_mul_le_self a b
  have hscaled : a / b * b' * b ≤ a' * b := by nlinarith
  exact Nat.le_of_mul_le_mul_right hscaled hb

/-- **Rounding to the nearest whole number is monotone.** -/
theorem nearest_mono {a b a' b' : Nat} (hb : 0 < b) (hb' : 0 < b') (h : a * b' ≤ a' * b) :
    nearest a b ≤ nearest a' b' := by
  have hquotient := div_le_div_of_cross hb hb' h
  rcases Nat.lt_or_eq_of_le hquotient with hlt | heq
  · have hupper := nearest_le a hb
    have hlower := div_le_nearest a' hb'
    omega
  · -- with equal quotients the remainders decide
    have hrest : a % b * b' ≤ a' % b' * b := by
      have ha := Nat.div_add_mod a b
      have ha' := Nat.div_add_mod a' b'
      rw [← ha, ← ha', heq] at h
      nlinarith
    rw [nearest_eq a hb, nearest_eq a' hb', heq]
    have hhalf : b' < 2 * (a' % b') ∨ ¬ b < 2 * (a % b) := by
      by_contra hcon
      push Not at hcon
      nlinarith
    have heven : b' ≤ 2 * (a' % b') ∨ 2 * (a % b) < b := by
      by_contra hcon
      push Not at hcon
      nlinarith
    split_ifs <;> omega

theorem nearest_congr {a b a' b' : Nat} (hb : 0 < b) (hb' : 0 < b') (h : a * b' = a' * b) :
    nearest a b = nearest a' b' :=
  Nat.le_antisymm (nearest_mono hb hb' h.le) (nearest_mono hb' hb h.ge)

/-! ## The magnitude of a rounded fraction -/

/-- The exponent of the grid that a fraction is rounded to, counted from the finest one. -/
def gridExponent (a b : Nat) : Nat := (a / b).log2 - 52

/-- The magnitude of the float nearest to `a / b` times the least one. -/
def roundedMagnitude (a b : Nat) : Nat :=
  gridExponent a b * 2 ^ 52 + nearest a (b * 2 ^ gridExponent a b)

theorem log2_mono {m n : Nat} (h : m ≤ n) : m.log2 ≤ n.log2 := by
  rw [Nat.log2_eq_log_two, Nat.log2_eq_log_two]
  exact Nat.log_mono_right h

theorem nearest_le_of_lt {a b q : Nat} (hb : 0 < b) (h : a < q * b) : nearest a b ≤ q := by
  have hmono : nearest a b ≤ nearest (q * b) b :=
    nearest_mono hb hb (Nat.mul_le_mul_right b h.le)
  rwa [nearest_mul_right q hb] at hmono

/-- On its grid a fraction takes up at most 53 bits. -/
theorem nearest_grid_le (a : Nat) {b : Nat} (hb : 0 < b) :
    nearest a (b * 2 ^ gridExponent a b) ≤ 2 ^ 53 := by
  have hquotient : a / b < 2 ^ (gridExponent a b + 53) := by
    have hlog : (a / b).log2 + 1 ≤ gridExponent a b + 53 := by
      unfold gridExponent
      omega
    exact Nat.lt_of_lt_of_le Nat.lt_log2_self (Nat.pow_le_pow_right (by decide) hlog)
  apply nearest_le_of_lt (by positivity)
  rw [Nat.div_lt_iff_lt_mul hb, Nat.pow_add] at hquotient
  calc a < 2 ^ gridExponent a b * 2 ^ 53 * b := hquotient
    _ = 2 ^ 53 * (b * 2 ^ gridExponent a b) := by ring

/-- On a grid that is not the finest it takes up all of them. -/
theorem le_nearest_grid {a b : Nat} (hb : 0 < b) (h : 0 < gridExponent a b) :
    2 ^ 52 ≤ nearest a (b * 2 ^ gridExponent a b) := by
  refine Nat.le_trans ?_ (div_le_nearest a (by positivity))
  have hlog : (a / b).log2 = 52 + gridExponent a b := by
    unfold gridExponent at h ⊢
    omega
  have hne : a / b ≠ 0 := by
    intro hzero
    rw [hzero, Nat.log2_zero] at hlog
    omega
  rw [← Nat.div_div_eq_div_mul, Nat.le_div_iff_mul_le (by positivity), ← Nat.pow_add, ← hlog]
  exact Nat.log2_self_le hne

/-- **Rounding is monotone.** -/
theorem roundedMagnitude_mono {a b a' b' : Nat} (hb : 0 < b) (hb' : 0 < b')
    (h : a * b' ≤ a' * b) : roundedMagnitude a b ≤ roundedMagnitude a' b' := by
  have hquotient := div_le_div_of_cross hb hb' h
  have hgrid : gridExponent a b ≤ gridExponent a' b' :=
    Nat.sub_le_sub_right (log2_mono hquotient) 52
  unfold roundedMagnitude
  rcases Nat.lt_or_eq_of_le hgrid with hlt | heq
  · -- the end of the coarser grid is the beginning of the finer one
    have hupper := nearest_grid_le a hb
    have hlower := le_nearest_grid (a := a') hb' (by omega)
    omega
  · rw [heq]
    have hnearest : nearest a (b * 2 ^ gridExponent a' b')
        ≤ nearest a' (b' * 2 ^ gridExponent a' b') := by
      apply nearest_mono (by positivity) (by positivity)
      nlinarith [Nat.pow_pos (n := gridExponent a' b') (a := 2) (by decide)]
    omega

theorem roundedMagnitude_congr {a b a' b' : Nat} (hb : 0 < b) (hb' : 0 < b')
    (h : a * b' = a' * b) : roundedMagnitude a b = roundedMagnitude a' b' :=
  Nat.le_antisymm (roundedMagnitude_mono hb hb' h.le) (roundedMagnitude_mono hb' hb h.ge)

end Metasearch.Rounding
