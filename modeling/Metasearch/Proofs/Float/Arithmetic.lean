import Metasearch.Proofs.Float.Order

set_option autoImplicit false

/-! # Monotone operations on floats

The operations that a reciprocal rank is made of, on floats that are not negative: a natural
number as a float, adding one, and dividing by a positive float. Each rounds its exact value
(`rounded_round`, `rounded_div`), and since rounding is monotone, so is each of them.
-/

namespace Metasearch.Rounding

open Float.Model Float.Model.UnpackedFloat

/-! ## Values -/

/-- The value of a finite float as a multiple of the least one. -/
def units (mantissa : Nat) (exponent : Int) : Nat := mantissa * 2 ^ (exponent + 1074).toNat

/-- The value of one. -/
def oneUnits : Nat := 2 ^ (0 + 1074 : Int).toNat

theorem units_zero (m : Nat) : units m 0 = m * oneUnits := rfl

theorem oneUnits_eq : oneUnits = 2 ^ (0 + 1074 : Int).toNat := rfl

theorem oneUnits_pos : 0 < oneUnits := by
  rw [oneUnits_eq]
  positivity

/-- A float without a minus sign that is a number. -/
inductive Nonneg : UnpackedFloat → Prop where
  | zero : Nonneg (.zero .positive)
  | infinity : Nonneg (.infinity .positive)
  | finite {mantissa : Nat} {exponent : Int} (hpos : 0 < mantissa)
      (h : Canonical mantissa exponent) (hfits : exponent ≤ 971) :
    Nonneg (.finite .positive mantissa exponent hpos)

/-- **Greater floats have greater values.** -/
theorem units_mono {m m' : Nat} {e e' : Int} (h : Canonical m e) (h' : Canonical m' e')
    (hle : (e + 1074).toNat * 2 ^ 52 + m ≤ (e' + 1074).toNat * 2 ^ 52 + m') :
    units m e ≤ units m' e' := by
  have hshort := h.short
  have hfull := h'.full
  have hleast := h.least
  have hleast' := h'.least
  unfold units
  obtain ⟨i, hi⟩ : ∃ i : Nat, (e + 1074).toNat = i := ⟨_, rfl⟩
  obtain ⟨j, hj⟩ : ∃ j : Nat, (e' + 1074).toNat = j := ⟨_, rfl⟩
  rw [hi, hj] at hle ⊢
  rcases Nat.lt_trichotomy i j with hlt | rfl | hgt
  · -- a float with a greater exponent has a full mantissa
    have hmantissa : 2 ^ 52 ≤ m' := hfull.resolve_left (by omega)
    calc m * 2 ^ i ≤ 2 ^ 53 * 2 ^ i := Nat.mul_le_mul_right _ hshort.le
      _ = 2 ^ 52 * 2 ^ (i + 1) := by rw [Nat.pow_succ]; ring
      _ ≤ m' * 2 ^ j := Nat.mul_le_mul hmantissa (Nat.pow_le_pow_right (by decide) hlt)
  · exact Nat.mul_le_mul_right _ (by omega)
  · have hfull' := h.full
    have hshort' := h'.short
    omega

/-- A float is rounded to itself. -/
theorem roundedMagnitude_units {m : Nat} {e : Int} (h : Canonical m e) :
    roundedMagnitude (units m e) 1 = (e + 1074).toNat * 2 ^ 52 + m := by
  obtain ⟨hshort, hleast, hfull⟩ := h
  have hgrid : gridExponent (units m e) 1 = (e + 1074).toNat := by
    unfold gridExponent units
    rw [Nat.div_one]
    by_cases hzero : m = 0
    · rw [hzero, Nat.zero_mul, Nat.log2_zero]
      omega
    · have hlog := log2_mul_two_pow_div (a := m) (b := 1) (by decide) (by rwa [Nat.div_one])
        (e + 1074).toNat
      rw [Nat.div_one, Nat.div_one] at hlog
      have hlt : m.log2 < 53 := (Nat.log2_lt hzero).mpr hshort
      rcases hfull with rfl | hfull
      · omega
      · have hge : 52 ≤ m.log2 := (Nat.le_log2 hzero).mpr hfull
        omega
  rw [roundedMagnitude, hgrid, Nat.one_mul, units, nearest_mul_right m (by positivity)]

/-- Half of a float is rounded to less than the float. -/
theorem roundedMagnitude_half_lt {m : Nat} {e : Int} (hm : 0 < m) (h : Canonical m e) :
    roundedMagnitude (units m e) 2 < (e + 1074).toNat * 2 ^ 52 + m := by
  have hshort := h.short
  rcases Int.lt_or_eq_of_le h.least with hlt | rfl
  · -- the mantissa stays as it is, and the exponent becomes less by one
    have hfull : 2 ^ 52 ≤ m := h.full.resolve_left (by omega)
    have hhalf : Canonical m (e - 1) := ⟨hshort, by omega, Or.inr hfull⟩
    have hunits : units m e = units m (e - 1) * 2 := by
      rw [units, units, Nat.mul_assoc, ← Nat.pow_succ]
      congr 2
      omega
    have hsame : roundedMagnitude (units m e) 2 = roundedMagnitude (units m (e - 1)) 1 :=
      roundedMagnitude_congr (by decide) (by decide) (by rw [hunits, Nat.mul_one])
    rw [hsame, roundedMagnitude_units hhalf]
    omega
  · -- on the finest grid half of a mantissa is rounded to a whole number
    have hgrid : gridExponent m 2 = 0 := by
      have hlog : (m / 2).log2 ≤ m.log2 := log2_mono (Nat.div_le_self m 2)
      have hlt : m.log2 < 53 := (Nat.log2_lt hm.ne').mpr hshort
      rw [gridExponent]
      omega
    have hunits : units m (-1074) = m := Nat.mul_one m
    rw [hunits, roundedMagnitude, hgrid, nearest_eq m (by decide)]
    split_ifs <;> omega

/-! ## Rounding with the exponent made small enough -/

theorem rounded_exact (sign : Sign) {m : Nat} {e : Int} (hdeep : Deep m e) :
    Rounded sign (roundedMagnitude (m * 2 ^ (e + 1074).toNat) (2 ^ (-1074 - e).toNat))
      (roundWithAccuracy Format.binary64 sign m e .exact) := by
  have hrounded := rounded_roundWithAccuracy sign m (b := 1) (by decide) (e := e)
    (by rwa [Nat.div_one])
  rwa [Nat.div_one, Nat.mod_one, Nat.one_mul] at hrounded

theorem rounded_round (sign : Sign) {m : Nat} (hm : m ≠ 0) {e : Int} (he : -1074 ≤ e) :
    Rounded sign (roundedMagnitude (units m e) 1)
      (UnpackedFloat.round Format.binary64 sign m e) := by
  unfold UnpackedFloat.round decreaseExponent
  dsimp only
  rw [targetExponent_eq]
  obtain ⟨k, hk⟩ : ∃ k : Nat, (e - max ((m.log2 : Int) + e - 52) (-1074)).toNat = k := ⟨_, rfl⟩
  rw [hk, Nat.shiftLeft_eq]
  have hlog : (m * 2 ^ k).log2 = m.log2 + k := by
    have hlog := log2_mul_two_pow_div (a := m) (b := 1) (by decide) (by rwa [Nat.div_one]) k
    rwa [Nat.div_one, Nat.div_one] at hlog
  have hdeep : Deep (m * 2 ^ k) (e - k) := by
    rcases le_or_gt (e - (k : Int)) (-1074) with hlow | hhigh
    · exact Or.inl hlow
    · refine Or.inr ((Nat.le_log2 (by positivity)).mp ?_)
      rw [hlog]
      omega
  have hrounded := rounded_exact sign hdeep
  have hsame : m * 2 ^ k * 2 ^ (e - k + 1074).toNat = units m e := by
    rw [units, Nat.mul_assoc, ← Nat.pow_add]
    congr 2
    omega
  have hbelow : (-1074 - (e - (k : Int))).toNat = 0 := by omega
  rwa [hsame, hbelow, Nat.pow_zero] at hrounded

/-! ## Storing a rounded float -/

/-- What is stored of a rounded float: its magnitude with its sign, up to the top. -/
theorem key_rounded {sign : Sign} {n : Nat} {u : UnpackedFloat} (h : Rounded sign n u) :
    key (Float.Model.pack u).unpack = sign.apply (min n top : Nat) := by
  rw [unpack_pack h]
  split
  · next hlt =>
    rw [Nat.min_eq_left (Nat.le_of_lt hlt)]
    cases h with
    | zero => cases sign <;> rfl
    | finite hpos hcanonical => rfl
  · next hge =>
    rw [Nat.min_eq_right (Nat.le_of_not_lt hge)]
    rfl

/-- A rounded float without a minus sign is stored as one. -/
theorem stored_rounded {n : Nat} {u : UnpackedFloat} (h : Rounded .positive n u) :
    Nonneg (Float.Model.pack u).unpack ∧ key (Float.Model.pack u).unpack = (min n top : Nat) := by
  refine ⟨?_, key_rounded h⟩
  rw [unpack_pack h]
  split
  · next hlt =>
    rw [top] at hlt
    cases h with
    | zero => exact .zero
    | finite hpos hcanonical =>
      have hfull := hcanonical.full
      exact .finite hpos hcanonical (by omega)
  · exact .infinity

/-- One, as it is stored. -/
def one : UnpackedFloat := .finite .positive (2 ^ 52) (-52) (by decide)

theorem canonical_one : Canonical (2 ^ 52) (-52) := ⟨by decide, by decide, Or.inr (by decide)⟩

/-! ## Natural numbers -/

/-- Multiplying by one changes nothing. -/
theorem mul_one_stored {u : UnpackedFloat} (h : Nonneg u) :
    Nonneg (Float.Model.pack (mul Format.binary64 u one)).unpack
      ∧ key (Float.Model.pack (mul Format.binary64 u one)).unpack = key u := by
  cases h with
  | zero => exact stored_rounded .zero
  | infinity => exact ⟨.infinity, rfl⟩
  | @finite m e hpos hcanonical hfits =>
    have hshort := hcanonical.short
    have hleast := hcanonical.least
    have hdeep : Deep (m * 2 ^ 52) (e + -52) := Or.inr (Nat.le_mul_of_pos_left _ hpos)
    have hrounded := rounded_exact .positive hdeep
    have hsame : roundedMagnitude (m * 2 ^ 52 * 2 ^ (e + -52 + 1074).toNat)
        (2 ^ (-1074 - (e + -52)).toNat) = roundedMagnitude (units m e) 1 := by
      apply roundedMagnitude_congr (by positivity) (by decide)
      rw [units, Nat.mul_one, Nat.mul_assoc, ← Nat.pow_add, Nat.mul_assoc, ← Nat.pow_add]
      congr 2
      omega
    rw [hsame, roundedMagnitude_units hcanonical] at hrounded
    obtain ⟨hnonneg, hkey⟩ := stored_rounded hrounded
    refine ⟨hnonneg, hkey.trans ?_⟩
    rw [Nat.min_eq_left (by rw [top]; omega)]
    rfl

theorem rounded_ofNat (n : Nat) :
    Rounded .positive (roundedMagnitude (n * oneUnits) 1)
      (UnpackedFloat.ofNat Format.binary64 n) := by
  unfold UnpackedFloat.ofNat UnpackedFloat.ofInt UnpackedFloat.normalize
  rcases Nat.eq_zero_or_pos n with rfl | hpos
  · rw [Nat.zero_mul]
    exact .zero
  · rw [Int.compare_eq_gt.mpr (Int.natCast_pos.mpr hpos)]
    rw [← units_zero]
    exact rounded_round .positive hpos.ne' (by decide)

theorem rounded_ofScientific {n : Nat} (hlarge : 2 ^ 53 ≤ n) :
    Rounded .positive (roundedMagnitude (n * oneUnits) 1)
      (UnpackedFloat.ofScientific Format.binary64 n 0) := by
  have hne : n ≠ 0 := by omega
  have hmul : UnpackedFloat.ofScientific Format.binary64 n 0
      = roundWithAccuracy Format.binary64 .positive (n <<< 53 * 10 ^ 0) (-53 + 0) .exact := by
    unfold UnpackedFloat.ofScientific
    rw [dif_neg hne, if_neg (by decide), if_neg (by simp), if_pos (by decide)]
    rfl
  have hshift : n <<< 53 * 10 ^ 0 = n * 2 ^ 53 := by
    rw [Nat.shiftLeft_eq, Nat.pow_zero, Nat.mul_one]
  have hdeep : Deep (n * 2 ^ 53) (-53 + 0) := Or.inr (by omega)
  have hrounded := rounded_exact .positive hdeep
  rw [hmul, hshift]
  have hsame : n * 2 ^ 53 * 2 ^ ((-53 : Int) + 0 + 1074).toNat = n * oneUnits := by
    rw [Nat.mul_assoc, ← Nat.pow_add, oneUnits]
    congr 2
  rwa [hsame] at hrounded

/-- **A natural number as a float**: its value, rounded. -/
theorem toFloat_stored (n : Nat) :
    Nonneg n.toFloat.toModel.unpack
      ∧ floatKey n.toFloat = (min (roundedMagnitude (n * oneUnits) 1) top : Nat) := by
  by_cases hsmall : n < 2 ^ 53
  · -- converted by the machine, and then multiplied by the zeroth power of ten
    have hfloat : n.toFloat = n.toUInt64.toFloat * Float.ofBits 0x3FF0000000000000 := by
      show Float.ofScientific n false 0 = _
      rw [Float.ofScientific, dif_pos ⟨hsmall, by decide⟩]
      rfl
    have hunpack : n.toFloat.toModel = Float.Model.pack
        (mul Format.binary64 (Float.Model.ofUInt64 n.toUInt64).unpack one) := by
      rw [hfloat]
      rfl
    have hword : n.toUInt64.toNat = n := by
      rw [Nat.toUInt64_eq, UInt64.toNat_ofNat']
      omega
    obtain ⟨hconverted, hvalue⟩ := stored_rounded (rounded_ofNat n.toUInt64.toNat)
    obtain ⟨hnonneg, hkey⟩ := mul_one_stored hconverted
    rw [floatKey, hunpack]
    refine ⟨hnonneg, (hkey.trans hvalue).trans ?_⟩
    rw [hword]
  · have hfloat : n.toFloat.toModel = Float.Model.ofScientific n 0 := by
      show (Float.ofScientific n false 0).toModel = _
      rw [Float.ofScientific, dif_neg fun h => hsmall h.1]
      rfl
    rw [floatKey, hfloat]
    exact stored_rounded (rounded_ofScientific (Nat.le_of_not_lt hsmall))

/-! ## Adding one -/

theorem units_one : units (2 ^ 52) (-52) = oneUnits := by
  rw [units, oneUnits, ← Nat.pow_add]
  congr 1

-- the number has more than a thousand bits, and no proof needs them
attribute [irreducible] oneUnits

/-- The value of a finite float. -/
def valueOf : UnpackedFloat → Nat
  | .finite _ mantissa exponent _ => units mantissa exponent
  | .zero _ => 0
  | .infinity _ => 0
  | .notANumber => 0

@[simp] theorem valueOf_finite (sign : Sign) {m : Nat} (e : Int) (hm : 0 < m) :
    valueOf (.finite sign m e hm) = units m e := rfl

@[simp] theorem valueOf_zero (sign : Sign) : valueOf (.zero sign) = 0 := rfl

/-- The magnitude of a float with one added, before it is stored. -/
def plusOne (u : UnpackedFloat) : Nat :=
  if u.isInf then top else roundedMagnitude (valueOf u + oneUnits) 1

theorem rounded_add_one {m : Nat} {e : Int} (hpos : 0 < m) (h : Canonical m e) :
    Rounded .positive (roundedMagnitude (units m e + oneUnits) 1)
      (UnpackedFloat.add Format.binary64 (.finite .positive m e hpos) one) := by
  have hleast := h.least
  -- both mantissas are brought to the lesser exponent
  have hsum : m <<< (e - min e (-52)).toNat + 2 ^ 52 <<< (-52 - min e (-52)).toNat ≠ 0 := by
    rw [Nat.shiftLeft_eq]
    positivity
  have hunits : units (m <<< (e - min e (-52)).toNat + 2 ^ 52 <<< (-52 - min e (-52)).toNat)
      (min e (-52)) = units m e + oneUnits := by
    rw [← units_one, Nat.shiftLeft_eq, Nat.shiftLeft_eq, units, units, units, Nat.add_mul,
      Nat.mul_assoc, Nat.mul_assoc, ← Nat.pow_add, ← Nat.pow_add]
    congr 3 <;> omega
  have hrounded := rounded_round .positive hsum (e := min e (-52)) (by omega)
  rw [hunits] at hrounded
  have hadd : UnpackedFloat.add Format.binary64 (.finite .positive m e hpos) one
      = UnpackedFloat.round Format.binary64 .positive
          (m <<< (e - min e (-52)).toNat + 2 ^ 52 <<< (-52 - min e (-52)).toNat) (min e (-52)) := by
    unfold UnpackedFloat.add one decreaseExponent UnpackedFloat.normalize
    dsimp only [Sign.apply]
    have hpositive := Nat.pos_of_ne_zero hsum
    rw [Int.compare_eq_gt.mpr (by omega)]
    rfl
  rwa [hadd]

/-- **Adding one** gives the rounded sum. -/
theorem add_one_stored {u : UnpackedFloat} (h : Nonneg u) :
    Nonneg (Float.Model.pack (UnpackedFloat.add Format.binary64 u one)).unpack
      ∧ key (Float.Model.pack (UnpackedFloat.add Format.binary64 u one)).unpack
        = (min (plusOne u) top : Nat) := by
  cases h with
  | infinity => exact ⟨.infinity, rfl⟩
  | zero =>
    apply stored_rounded
    rw [plusOne, if_neg (by decide), valueOf_zero, Nat.zero_add, ← units_one,
      roundedMagnitude_units canonical_one]
    exact .finite (by decide) canonical_one
  | finite hpos hcanonical hfits => exact stored_rounded (rounded_add_one hpos hcanonical)

/-- A float that is less than infinity. -/
theorem key_lt_top {m : Nat} {e : Int} (hpos : 0 < m) (h : Canonical m e) (hfits : e ≤ 971) :
    0 < key (.finite .positive m e hpos) ∧ key (.finite .positive m e hpos) < top := by
  have hshort := h.short
  rw [key_finite, Sign.apply, top]
  omega

theorem valueOf_mono {u v : UnpackedFloat} (hu : Nonneg u) (hv : Nonneg v)
    (h : key u ≤ key v) (hfinite : v.isInf = false) : valueOf u ≤ valueOf v := by
  cases hu with
  | zero => exact Nat.zero_le _
  | infinity => exact Nat.zero_le _
  | finite hpos hcanonical hfits =>
    cases hv with
    | infinity => cases hfinite
    | zero => exact absurd h (Int.not_le.mpr (key_lt_top hpos hcanonical hfits).1)
    | finite hpos' hcanonical' hfits' =>
      rw [key_finite, key_finite, Sign.apply, Sign.apply, Int.ofNat_le] at h
      exact units_mono hcanonical hcanonical' h

/-- Only infinity is not less than infinity. -/
theorem isInf_of_key_le {u v : UnpackedFloat} (hu : Nonneg u) (hv : Nonneg v)
    (h : key u ≤ key v) (hinfinite : u.isInf = true) : v.isInf = true := by
  cases hu with
  | zero => cases hinfinite
  | finite => cases hinfinite
  | infinity =>
    cases hv with
    | infinity => rfl
    | zero => exact absurd h (by decide)
    | finite hpos hcanonical hfits =>
      exact absurd h (Int.not_le.mpr (key_lt_top hpos hcanonical hfits).2)

theorem plusOne_mono {u v : UnpackedFloat} (hu : Nonneg u) (hv : Nonneg v)
    (h : key u ≤ key v) : min (plusOne u) top ≤ min (plusOne v) top := by
  unfold plusOne
  cases hfinite : v.isInf with
  | true =>
    rw [if_pos (rfl : true = true), Nat.min_self]
    exact Nat.min_le_right _ _
  | false =>
    have hfinite' : u.isInf = false := by
      rw [← Bool.not_eq_true]
      intro hinfinite
      rw [isInf_of_key_le hu hv h hinfinite] at hfinite
      cases hfinite
    rw [hfinite', if_neg Bool.false_ne_true, if_neg Bool.false_ne_true]
    have hvalue := valueOf_mono hu hv h hfinite
    have hrounded : roundedMagnitude (valueOf u + oneUnits) 1
        ≤ roundedMagnitude (valueOf v + oneUnits) 1 :=
      roundedMagnitude_mono (by decide) (by decide) (by omega)
    omega

/-- A float with one added is positive. -/
theorem plusOne_pos (u : UnpackedFloat) : 0 < min (plusOne u) top := by
  unfold plusOne
  split
  · decide
  · have hone : (-52 + 1074 : Int).toNat * 2 ^ 52 + 2 ^ 52
        ≤ roundedMagnitude (valueOf u + oneUnits) 1 := by
      rw [← roundedMagnitude_units canonical_one, units_one]
      exact roundedMagnitude_mono (by decide) (by decide) (by omega)
    have htop : 0 < top := by decide
    omega

/-! ## Dividing -/

theorem targetExponent_total (total : Int) :
    Format.binary64.targetExponent total = max (total - 53) (-1074) := rfl

/-- A shifted mantissa divided by another has enough bits for the exponent it gets. -/
theorem deep_quotient {m m' shift : Nat} (hm : m ≠ 0) (hm' : 0 < m') {exponent : Int}
    (h : exponent ≤ max ((m.log2 : Int) + shift + exponent - m'.log2 - 53) (-1074)) :
    Deep (m * 2 ^ shift / m') exponent := by
  rcases le_or_gt exponent (-1074) with hlow | hhigh
  · exact Or.inl hlow
  · right
    have hlog : 52 + (m'.log2 + 1) ≤ m.log2 + shift := by omega
    rw [Nat.le_div_iff_mul_le hm']
    calc 2 ^ 52 * m' ≤ 2 ^ 52 * 2 ^ (m'.log2 + 1) := Nat.mul_le_mul_left _ Nat.lt_log2_self.le
      _ = 2 ^ (52 + (m'.log2 + 1)) := (Nat.pow_add ..).symm
      _ ≤ 2 ^ (m.log2 + shift) := Nat.pow_le_pow_right (by decide) hlog
      _ = 2 ^ m.log2 * 2 ^ shift := Nat.pow_add ..
      _ ≤ m * 2 ^ shift := Nat.mul_le_mul_right _ (Nat.log2_self_le hm)

/-- **The quotient of two floats, rounded.** -/
theorem rounded_divCore (sign : Sign) {m m' : Nat} (hm : 0 < m) (hm' : 0 < m') {e e' : Int}
    (he : -1074 ≤ e) (he' : -1074 ≤ e') :
    Rounded sign (roundedMagnitude (units m e * oneUnits) (units m' e'))
      (roundWithAccuracy Format.binary64 sign (divCore Format.binary64 m e m' e').1
        (divCore Format.binary64 m e m' e').2.1 (divCore Format.binary64 m e m' e').2.2) := by
  unfold divCore totalExponent
  dsimp only
  rw [targetExponent_total]
  obtain ⟨exponent, hexponent⟩ : ∃ exponent, exponent = min (e - e')
      (max ((m.log2 : Int) + 1 + e - (m'.log2 + 1 + e') - 53) (-1074)) := ⟨_, rfl⟩
  obtain ⟨shift, hshift⟩ : ∃ shift : Nat, (shift : Int) = e - e' - exponent :=
    ⟨(e - e' - exponent).toNat, by omega⟩
  rw [← hexponent, ← hshift, Int.toNat_natCast, Nat.shiftLeft_eq]
  have hdeep : Deep (m * 2 ^ shift / m') exponent := deep_quotient hm.ne' hm' (by omega)
  have hrounded := rounded_roundWithAccuracy sign (m * 2 ^ shift) hm' hdeep
  have hsame : roundedMagnitude (m * 2 ^ shift * 2 ^ (exponent + 1074).toNat)
        (m' * 2 ^ (-1074 - exponent).toNat)
      = roundedMagnitude (units m e * oneUnits) (units m' e') := by
    apply roundedMagnitude_congr (by positivity) (by unfold units; positivity)
    have hexponents : shift + (exponent + 1074).toNat + (e' + 1074).toNat
        = (e + 1074).toNat + (0 + 1074 : Int).toNat + (-1074 - exponent).toNat := by omega
    rw [units, units, oneUnits_eq]
    calc m * 2 ^ shift * 2 ^ (exponent + 1074).toNat * (m' * 2 ^ (e' + 1074).toNat)
        = m * m' * 2 ^ (shift + (exponent + 1074).toNat + (e' + 1074).toNat) := by
          rw [Nat.pow_add, Nat.pow_add]; ring
      _ = m * m' * 2 ^ ((e + 1074).toNat + (0 + 1074 : Int).toNat
            + (-1074 - exponent).toNat) := by rw [hexponents]
      _ = m * 2 ^ (e + 1074).toNat * 2 ^ (0 + 1074 : Int).toNat
            * (m' * 2 ^ (-1074 - exponent).toNat) := by rw [Nat.pow_add, Nat.pow_add]; ring
  rwa [hsame] at hrounded

/-- What is divided by a positive float is a number, if it is finite. -/
theorem isNaN_div {u v : UnpackedFloat} (hu : Stored u) (hfinite : u.isFinite = true)
    (hv : Nonneg v) (hpos : 0 < key v) :
    (Float.Model.pack (UnpackedFloat.div Format.binary64 u v)).unpack.isNaN = false := by
  have hrounded : ∀ {sign n w}, Rounded sign n w → (Float.Model.pack w).unpack.isNaN = false := by
    intro sign n w h
    rw [unpack_pack h]
    split
    · cases h <;> rfl
    · rfl
  cases hu with
  | notANumber => cases hfinite
  | infinity => cases hfinite
  | zero sign =>
    cases hv with
    | zero => exact absurd hpos (Int.lt_irrefl 0)
    | infinity => exact hrounded .zero
    | finite => exact hrounded .zero
  | finite sign hm h hfits =>
    cases hv with
    | zero => exact absurd hpos (Int.lt_irrefl 0)
    | infinity => exact hrounded .zero
    | finite hm' h' hfits' => exact hrounded (rounded_divCore _ hm hm' h.least h'.least)

/-- A finite float that is not negative. -/
inductive FiniteNonneg : UnpackedFloat → Prop where
  | zero (sign : Sign) : FiniteNonneg (.zero sign)
  | finite {mantissa : Nat} {exponent : Int} (hpos : 0 < mantissa)
      (h : Canonical mantissa exponent) :
    FiniteNonneg (.finite .positive mantissa exponent hpos)

/-- The magnitude of a quotient, before it is stored. -/
def quotient (u v : UnpackedFloat) : Nat :=
  if v.isInf then 0 else roundedMagnitude (valueOf u * oneUnits) (valueOf v)

theorem roundedMagnitude_zero {b : Nat} (hb : 0 < b) : roundedMagnitude 0 b = 0 := by
  have hgrid : gridExponent 0 b = 0 := by
    rw [gridExponent, Nat.zero_div, Nat.log2_zero]
  have hnearest := nearest_mul_right 0 (b := b * 2 ^ 0) (by positivity)
  rw [Nat.zero_mul] at hnearest
  rw [roundedMagnitude, hgrid, hnearest, Nat.zero_mul]

theorem key_stored_zero (sign : Sign) : key (Float.Model.pack (.zero sign)).unpack = 0 := by
  rw [unpack_pack .zero, if_pos (by decide)]
  rfl

theorem valueOf_pos {u : UnpackedFloat} (hu : Nonneg u) (hpos : 0 < key u)
    (hfinite : u.isInf = false) : 0 < valueOf u := by
  cases hu with
  | zero => exact absurd hpos (Int.lt_irrefl 0)
  | infinity => cases hfinite
  | finite hm h hfits =>
    rw [valueOf_finite, units]
    positivity

/-- A finite float with a sign, divided by a positive one. -/
theorem key_div_finite (sign : Sign) {m : Nat} {e : Int} (hm : 0 < m) (h : Canonical m e)
    {v : UnpackedFloat} (hv : Nonneg v) (hpos : 0 < key v) :
    key (Float.Model.pack (UnpackedFloat.div Format.binary64 (.finite sign m e hm) v)).unpack
      = sign.apply (min (quotient (.finite sign m e hm) v) top : Nat) := by
  cases hv with
  | zero => exact absurd hpos (Int.lt_irrefl 0)
  | infinity =>
    refine (key_stored_zero _).trans ?_
    cases sign <;> rfl
  | finite hm' h' hfits' =>
    refine (key_rounded (rounded_divCore _ hm hm' h.least h'.least)).trans ?_
    cases sign <;> rfl

/-- **Dividing** gives the rounded quotient. -/
theorem key_div {u v : UnpackedFloat} (hu : FiniteNonneg u) (hv : Nonneg v) (hpos : 0 < key v) :
    key (Float.Model.pack (UnpackedFloat.div Format.binary64 u v)).unpack
      = (min (quotient u v) top : Nat) := by
  cases hu with
  | zero sign =>
    have hquotient : quotient (.zero sign) v = 0 := by
      unfold quotient
      split
      · rfl
      · next hfinite =>
        rw [Bool.not_eq_true] at hfinite
        rw [valueOf_zero, Nat.zero_mul, roundedMagnitude_zero (valueOf_pos hv hpos hfinite)]
    rw [hquotient, Nat.zero_min]
    cases hv with
    | zero => exact absurd hpos (Int.lt_irrefl 0)
    | infinity => exact key_stored_zero _
    | finite hm' h' hfits' => exact key_stored_zero _
  | finite hm h => exact key_div_finite .positive hm h hv hpos

/-- **A greater divisor gives no greater quotient.** -/
theorem quotient_anti (u : UnpackedFloat) {v v' : UnpackedFloat} (hv : Nonneg v)
    (hv' : Nonneg v') (hpos : 0 < key v) (h : key v ≤ key v') : quotient u v' ≤ quotient u v := by
  unfold quotient
  cases hfinite' : v'.isInf with
  | true =>
    rw [if_pos (rfl : true = true)]
    exact Nat.zero_le _
  | false =>
    have hfinite : v.isInf = false := by
      rw [← Bool.not_eq_true]
      intro hinfinite
      rw [isInf_of_key_le hv hv' h hinfinite] at hfinite'
      cases hfinite'
    have hvalue := valueOf_mono hv hv' h hfinite'
    have hvaluePos := valueOf_pos hv hpos hfinite
    rw [hfinite, if_neg Bool.false_ne_true, if_neg Bool.false_ne_true]
    exact roundedMagnitude_mono (Nat.lt_of_lt_of_le hvaluePos hvalue) hvaluePos
      (Nat.mul_le_mul_left _ hvalue)

/-- Dividing by one changes nothing. -/
theorem quotient_one (sign : Sign) {m : Nat} {e : Int} (hm : 0 < m) (h : Canonical m e) :
    quotient (.finite sign m e hm) one = (e + 1074).toNat * 2 ^ 52 + m := by
  have hone : valueOf one = oneUnits := units_one
  rw [quotient, if_neg (by decide), hone, valueOf_finite, ← roundedMagnitude_units h]
  exact roundedMagnitude_congr oneUnits_pos (by decide) (Nat.mul_one _)

/-- Two, as it is stored. -/
def two : UnpackedFloat := .finite .positive (2 ^ 52) (-51) (by decide)

theorem units_two : units (2 ^ 52) (-51) = oneUnits * 2 := by
  rw [units, oneUnits_eq, ← Nat.pow_add, ← Nat.pow_succ]
  congr 1

/-- Dividing by two makes a float less. -/
theorem quotient_two_lt (sign : Sign) {m : Nat} {e : Int} (hm : 0 < m) (h : Canonical m e) :
    quotient (.finite sign m e hm) two < (e + 1074).toNat * 2 ^ 52 + m := by
  have htwo : valueOf two = oneUnits * 2 := units_two
  have hpos := oneUnits_pos
  have hhalf : roundedMagnitude (units m e * oneUnits) (oneUnits * 2)
      = roundedMagnitude (units m e) 2 :=
    roundedMagnitude_congr (by omega) (by decide) (by ring)
  rw [quotient, if_neg (by decide), htwo, valueOf_finite, hhalf]
  exact roundedMagnitude_half_lt hm h

end Metasearch.Rounding
