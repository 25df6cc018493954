import Metasearch.Proofs.Float.Unpacked

set_option autoImplicit false

/-! # The order of floats

Floats that are numbers are compared as their signed magnitudes are (`lt_iff`). So comparing
them is comparing integers, and all that could go wrong comes from what is not a number. Two
numbers of which neither is smaller are equal (`beq_iff_not_lt`).
-/

namespace Metasearch.Rounding

open Float.Model Float.Model.UnpackedFloat

/-! ## Stored floats -/

/-- What the 64 bits of a float unpack to: a finite float is in canonical form and has not
overflowed. -/
inductive Stored : UnpackedFloat → Prop where
  | notANumber : Stored .notANumber
  | infinity (sign : Sign) : Stored (.infinity sign)
  | zero (sign : Sign) : Stored (.zero sign)
  | finite (sign : Sign) {mantissa : Nat} {exponent : Int} (hpos : 0 < mantissa)
      (h : Canonical mantissa exponent) (hfits : exponent ≤ 971) :
    Stored (.finite sign mantissa exponent hpos)

theorem toNat_one_append (fraction : BitVec 52) :
    (1#1 ++ fraction).toNat = 2 ^ 52 + fraction.toNat := by
  have hlt := fraction.isLt
  rw [BitVec.toNat_append, ← Nat.shiftLeft_add_eq_or_of_lt hlt]
  rfl

/-- The parts that 64 bits are unpacked into. -/
theorem unpack_eq (bits : BitVec Format.binary64.numBits) :
    UnpackedFloat.unpack Format.binary64 bits
      = if unpackExponent bits = -1#11 then
          if unpackMantissa bits = 0#52 then .infinity (.ofBitVec (unpackSign bits))
          else .notANumber
        else if unpackExponent bits = 0#11 then
          if h : unpackMantissa bits = 0#52 then .zero (.ofBitVec (unpackSign bits))
          else .finite (.ofBitVec (unpackSign bits)) (unpackMantissa bits).toNat
            ((unpackExponent bits).toNat - 1075 + 1)
            (by simpa [BitVec.toNat_pos, BitVec.pos_iff_ne_zero])
        else .finite (.ofBitVec (unpackSign bits)) (1#1 ++ unpackMantissa bits).toNat
          ((unpackExponent bits).toNat - 1075) (by rw [toNat_one_append]; omega) := rfl

theorem stored_unpack (x : Float.Model) : Stored x.unpack := by
  have hstored : ∀ bits : BitVec Format.binary64.numBits,
      Stored (UnpackedFloat.unpack Format.binary64 bits) := by
    intro bits
    have hexponent : (unpackExponent bits).toNat < 2 ^ 11 := (unpackExponent bits).isLt
    have hmantissa : (unpackMantissa bits).toNat < 2 ^ 52 := (unpackMantissa bits).isLt
    rw [unpack_eq]
    by_cases hspecial : unpackExponent bits = -1#11
    · rw [if_pos hspecial]
      by_cases hzero : unpackMantissa bits = 0#52
      · rw [if_pos hzero]
        exact .infinity _
      · rw [if_neg hzero]
        exact .notANumber
    · have hbelow : (unpackExponent bits).toNat ≠ 2047 :=
        fun heq => hspecial (BitVec.eq_of_toNat_eq heq)
      rw [if_neg hspecial]
      by_cases hleast : unpackExponent bits = 0#11
      · rw [if_pos hleast]
        by_cases hzero : unpackMantissa bits = 0#52
        · rw [dif_pos hzero]
          exact .zero _
        · rw [dif_neg hzero, hleast]
          exact .finite _ _ ⟨by omega, by decide, Or.inl rfl⟩ (by decide)
      · have habove : (unpackExponent bits).toNat ≠ 0 :=
          fun heq => hleast (BitVec.eq_of_toNat_eq heq)
        have happend := toNat_one_append (unpackMantissa bits)
        rw [if_neg hleast]
        exact .finite _ _ ⟨by omega, by omega, Or.inr (by omega)⟩ (by omega)
  exact hstored x.toBits.toBitVec

/-! ## Packing -/

/-- The sign is the first bit of what is packed. -/
theorem sign_packComponents (sign : Sign) (exponent : BitVec 11) (mantissa : BitVec 52) :
    Sign.ofBitVec (unpackSign (packComponents Format.binary64 sign exponent mantissa)) = sign := by
  have hfirst : ∀ bit : BitVec 1, (bit ++ exponent ++ mantissa).extractLsb 63 63 = bit := by
    intro bit
    apply BitVec.eq_of_getLsbD_eq
    intro i hi
    obtain rfl : i = 0 := Nat.lt_one_iff.mp hi
    rw [BitVec.getLsbD_extractLsb, BitVec.getLsbD_append, BitVec.getLsbD_append]
    rfl
  have hsign : unpackSign (packComponents Format.binary64 sign exponent mantissa)
      = sign.toBitVec := hfirst sign.toBitVec
  rw [hsign]
  cases sign <;> rfl

/-- Parts that are packed are unpacked again. -/
theorem unpack_packComponents (sign : Sign) (exponent : BitVec 11) (mantissa : BitVec 52) :
    UnpackedFloat.unpack Format.binary64 (packComponents Format.binary64 sign exponent mantissa)
      = if exponent = -1#11 then if mantissa = 0#52 then .infinity sign else .notANumber
        else if exponent = 0#11 then
          if h : mantissa = 0#52 then .zero sign
          else .finite sign mantissa.toNat (exponent.toNat - 1075 + 1)
            (by simpa [BitVec.toNat_pos, BitVec.pos_iff_ne_zero])
        else .finite sign (1#1 ++ mantissa).toNat (exponent.toNat - 1075)
          (by rw [toNat_one_append]; omega) := by
  generalize hbits : packComponents Format.binary64 sign exponent mantissa = bits
  obtain rfl : Sign.ofBitVec (unpackSign bits) = sign := by rw [← hbits, sign_packComponents]
  obtain rfl : unpackExponent bits = exponent := by rw [← hbits, unpackExponent_packComponents]
  obtain rfl : unpackMantissa bits = mantissa := by rw [← hbits, unpackMantissa_packComponents]
  exact unpack_eq bits

theorem pack_finite (sign : Sign) (mantissa : Nat) (exponent : Int) (hpos : 0 < mantissa) :
    UnpackedFloat.pack Format.binary64 (.finite sign mantissa exponent hpos)
      = if 2048 ≤ (exponent + 1023 + 52).toNat + 1 then packedInfinity Format.binary64 sign
        else if mantissa.log2 + 1 = 53 then
          packComponents Format.binary64 sign (BitVec.ofNat 11 (exponent + 1023 + 52).toNat)
            (BitVec.ofNat 52 mantissa)
        else packComponents Format.binary64 sign 0#11 (BitVec.ofNat 52 mantissa) := rfl

/-- A full mantissa: its first bit is left out and put back. -/
theorem unpack_normal (sign : Sign) {mantissa : Nat} {exponent : Int} (hpos : 0 < mantissa)
    (hfull : 2 ^ 52 ≤ mantissa) (h : Canonical mantissa exponent) (hfits : exponent ≤ 971) :
    UnpackedFloat.unpack Format.binary64
      (packComponents Format.binary64 sign (BitVec.ofNat 11 (exponent + 1023 + 52).toNat)
        (BitVec.ofNat 52 mantissa))
      = .finite sign mantissa exponent hpos := by
  have hleast := h.least
  have hshort := h.short
  have hexponent : (BitVec.ofNat 11 (exponent + 1023 + 52).toNat).toNat
      = (exponent + 1075).toNat := by
    rw [BitVec.toNat_ofNat]
    omega
  have hspecial : BitVec.ofNat 11 (exponent + 1023 + 52).toNat ≠ -1#11 := by
    intro heq
    have hnat := congrArg BitVec.toNat heq
    rw [hexponent, show (-1#11).toNat = 2047 from rfl] at hnat
    omega
  have hzero : BitVec.ofNat 11 (exponent + 1023 + 52).toNat ≠ 0#11 := by
    intro heq
    have hnat := congrArg BitVec.toNat heq
    rw [hexponent, show (0#11).toNat = 0 from rfl] at hnat
    omega
  rw [unpack_packComponents, if_neg hspecial, if_neg hzero]
  congr 1
  · rw [toNat_one_append, BitVec.toNat_ofNat]
    omega
  · rw [hexponent]
    omega

/-- A mantissa that is not full belongs to the least exponent. -/
theorem unpack_subnormal (sign : Sign) {mantissa : Nat} (hpos : 0 < mantissa)
    (hpartial : mantissa < 2 ^ 52) :
    UnpackedFloat.unpack Format.binary64
      (packComponents Format.binary64 sign 0#11 (BitVec.ofNat 52 mantissa))
      = .finite sign mantissa (-1074) hpos := by
  have hmantissa : (BitVec.ofNat 52 mantissa).toNat = mantissa := by
    rw [BitVec.toNat_ofNat]
    omega
  have hne : BitVec.ofNat 52 mantissa ≠ 0#52 := by
    intro heq
    have hnat := congrArg BitVec.toNat heq
    rw [hmantissa, show (0#52).toNat = 0 from rfl] at hnat
    omega
  rw [unpack_packComponents, if_neg (by decide), if_pos rfl, dif_neg hne]
  congr 1

theorem unpack_pack_finite (sign : Sign) {mantissa : Nat} {exponent : Int}
    (hpos : 0 < mantissa) (h : Canonical mantissa exponent) (hfits : exponent ≤ 971) :
    UnpackedFloat.unpack Format.binary64
      (UnpackedFloat.pack Format.binary64 (.finite sign mantissa exponent hpos))
      = .finite sign mantissa exponent hpos := by
  rw [pack_finite, if_neg (by omega)]
  by_cases hlog : mantissa.log2 + 1 = 53
  · have hself := Nat.log2_self_le hpos.ne'
    rw [show mantissa.log2 = 52 by omega] at hself
    rw [if_pos hlog]
    exact unpack_normal sign hpos hself h hfits
  · have hlt : mantissa.log2 < 53 := (Nat.log2_lt hpos.ne').mpr h.short
    have hpartial : mantissa < 2 ^ 52 := (Nat.log2_lt hpos.ne').mp (by omega)
    obtain rfl : exponent = -1074 := h.full.resolve_right (by omega)
    rw [if_neg hlog]
    exact unpack_subnormal sign hpos hpartial

/-- The magnitude that lies beyond all finite floats. -/
def top : Nat := 2047 * 2 ^ 52

/-- **Packing keeps a rounded float** unless its magnitude is too large. -/
theorem unpack_pack {sign : Sign} {n : Nat} {u : UnpackedFloat} (h : Rounded sign n u) :
    (Float.Model.pack u).unpack = if n < top then u else .infinity sign := by
  unfold top
  have hbits : (Float.Model.pack u).unpack
      = UnpackedFloat.unpack Format.binary64 (UnpackedFloat.pack Format.binary64 u) := rfl
  rw [hbits]
  cases h with
  | zero =>
    rw [if_pos (by decide)]
    exact unpack_packComponents sign 0 0
  | @finite mantissa exponent hpos hcanonical =>
    have hleast := hcanonical.least
    have hshort := hcanonical.short
    have hfull := hcanonical.full
    rcases le_or_gt exponent 971 with hfits | hlarge
    · rw [if_pos (by omega), unpack_pack_finite sign hpos hcanonical hfits]
    · rw [if_neg (by omega), pack_finite, if_pos (by omega)]
      exact unpack_packComponents sign (-1#11) 0

/-! ## Comparing -/

/-- The signed magnitude of a float. Not-a-number has none, and gets that of zero. -/
def key : UnpackedFloat → Int
  | .notANumber => 0
  | .zero _ => 0
  | .finite sign mantissa exponent _ =>
    sign.apply ((exponent + 1074).toNat * 2 ^ 52 + mantissa : Nat)
  | .infinity sign => sign.apply top

theorem key_zero (sign : Sign) : key (.zero sign) = 0 := rfl

theorem key_infinity (sign : Sign) : key (.infinity sign) = sign.apply top := rfl

theorem key_finite (sign : Sign) (mantissa : Nat) (exponent : Int) (hpos : 0 < mantissa) :
    key (.finite sign mantissa exponent hpos)
      = sign.apply ((exponent + 1074).toNat * 2 ^ 52 + mantissa : Nat) := rfl

/-- Exponents first and then mantissas: the order of magnitudes. -/
theorem compare_then_eq_lt_iff {m m' : Nat} {e e' : Int} (h : Canonical m e)
    (h' : Canonical m' e') :
    (compare e e').then (compare m m') = .lt ↔
      (e + 1074).toNat * 2 ^ 52 + m < (e' + 1074).toNat * 2 ^ 52 + m' := by
  obtain ⟨hshort, hleast, hfull⟩ := h
  obtain ⟨hshort', hleast', hfull'⟩ := h'
  rw [Ordering.then_eq_lt, Int.compare_eq_lt, Int.compare_eq_eq, Nat.compare_eq_lt]
  omega

theorem swap_then_eq_lt_iff {m m' : Nat} {e e' : Int} (h : Canonical m e)
    (h' : Canonical m' e') :
    ((compare e e').then (compare m m')).swap = .lt ↔
      (e' + 1074).toNat * 2 ^ 52 + m' < (e + 1074).toNat * 2 ^ 52 + m := by
  obtain ⟨hshort, hleast, hfull⟩ := h
  obtain ⟨hshort', hleast', hfull'⟩ := h'
  rw [Ordering.swap_eq_lt, Ordering.then_eq_gt, Int.compare_eq_gt, Int.compare_eq_eq,
    Nat.compare_eq_gt]
  omega

/-- Two numbers can be compared, and the one of the smaller signed magnitude is the smaller. -/
theorem exists_compare_lt {u v : UnpackedFloat} (hu : Stored u) (hv : Stored v)
    (hu' : u.isNaN = false) (hv' : v.isNaN = false) :
    ∃ ordering, u.compare v = some ordering ∧ (ordering = .lt ↔ key u < key v) := by
  cases hu with
  | notANumber => cases hu'
  | infinity sign =>
    cases hv with
    | notANumber => cases hv'
    | infinity sign' => cases sign <;> cases sign' <;> exact ⟨_, rfl, by decide⟩
    | zero sign' => cases sign <;> cases sign' <;> exact ⟨_, rfl, by decide⟩
    | finite sign' hpos h hfits =>
      have hshort := h.short
      cases sign <;> cases sign' <;> refine ⟨_, rfl, ?_⟩ <;> rw [key_infinity, key_finite] <;>
        simp [top, Sign.apply] <;> omega
  | zero sign =>
    cases hv with
    | notANumber => cases hv'
    | infinity sign' => cases sign <;> cases sign' <;> exact ⟨_, rfl, by decide⟩
    | zero sign' => cases sign <;> cases sign' <;> exact ⟨_, rfl, by decide⟩
    | finite sign' hpos h hfits =>
      cases sign' <;> refine ⟨_, rfl, ?_⟩ <;> rw [key_zero, key_finite] <;>
        simp [Sign.apply] <;> omega
  | @finite sign m e hpos h hfits =>
    have hshort := h.short
    cases hv with
    | notANumber => cases hv'
    | infinity sign' =>
      cases sign <;> cases sign' <;> refine ⟨_, rfl, ?_⟩ <;> rw [key_finite, key_infinity] <;>
        simp [top, Sign.apply] <;> omega
    | zero sign' =>
      cases sign <;> refine ⟨_, rfl, ?_⟩ <;> rw [key_finite, key_zero] <;>
        simp [Sign.apply] <;> omega
    | @finite sign' m' e' hpos' h' hfits' =>
      have hlt := compare_then_eq_lt_iff h h'
      have hgt := swap_then_eq_lt_iff h h'
      cases sign <;> cases sign' <;> refine ⟨_, rfl, ?_⟩ <;> rw [key_finite, key_finite] <;>
        simp [Sign.apply, -Nat.cast_add, hlt, hgt] <;> omega

theorem compare_eq_lt_iff {u v : UnpackedFloat} (hu : Stored u) (hv : Stored v)
    (hu' : u.isNaN = false) (hv' : v.isNaN = false) :
    u.compare v = some .lt ↔ key u < key v := by
  obtain ⟨ordering, hcompare, hordering⟩ := exists_compare_lt hu hv hu' hv'
  rw [hcompare, Option.some_inj, hordering]

/-- The signed magnitude of a float of 64 bits. -/
def floatKey (x : Float) : Int := key x.toModel.unpack

theorem lt_iff_compare (x y : Float) :
    x < y ↔ x.toModel.unpack.compare y.toModel.unpack = some .lt := by
  show decide (x.toModel < y.toModel) = true ↔ _
  rw [decide_eq_true_iff]
  show (x.toModel.unpack.compare y.toModel.unpack == some .lt) = true ↔ _
  rw [beq_iff_eq]

/-- **Numbers are compared as their signed magnitudes are.** -/
theorem lt_iff {x y : Float} (hx : x.isNaN = false) (hy : y.isNaN = false) :
    x < y ↔ floatKey x < floatKey y := by
  rw [lt_iff_compare]
  exact compare_eq_lt_iff (stored_unpack _) (stored_unpack _) hx hy

/-! ## Equality -/

/-- Two numbers can be compared, and the other way round the outcome is swapped. -/
theorem exists_compare {u v : UnpackedFloat} (hu : u.isNaN = false) (hv : v.isNaN = false) :
    ∃ ordering, u.compare v = some ordering ∧ v.compare u = some ordering.swap := by
  cases u with
  | notANumber => cases hu
  | infinity sign =>
    cases v with
    | notANumber => cases hv
    | infinity sign' => cases sign <;> cases sign' <;> exact ⟨_, rfl, rfl⟩
    | zero sign' => cases sign <;> exact ⟨_, rfl, rfl⟩
    | finite sign' => cases sign <;> exact ⟨_, rfl, rfl⟩
  | zero sign =>
    cases v with
    | notANumber => cases hv
    | infinity sign' => cases sign' <;> exact ⟨_, rfl, rfl⟩
    | zero sign' => exact ⟨_, rfl, rfl⟩
    | finite sign' => cases sign' <;> exact ⟨_, rfl, rfl⟩
  | finite sign m e =>
    cases v with
    | notANumber => cases hv
    | infinity sign' => cases sign <;> cases sign' <;> exact ⟨_, rfl, rfl⟩
    | zero sign' => cases sign <;> exact ⟨_, rfl, rfl⟩
    | finite sign' m' e' =>
      have hswap : (compare e' e).then (compare m' m)
          = ((compare e e').then (compare m m')).swap := by
        rw [Ordering.swap_then, Int.compare_swap, Nat.compare_swap]
      cases sign <;> cases sign' <;> refine ⟨_, rfl, ?_⟩
      · exact congrArg (fun ordering => some ordering.swap) hswap
      · rfl
      · rfl
      · exact congrArg some hswap

/-- **Two numbers are equal exactly if neither is the smaller one.** The two zeros are equal. -/
theorem beq_iff_not_lt {x y : Float} (hx : x.isNaN = false) (hy : y.isNaN = false) :
    (x == y) = true ↔ ¬ x < y ∧ ¬ y < x := by
  obtain ⟨ordering, hcompare, hswap⟩ := exists_compare hx hy
  have hbeq : (x == y) = true ↔ x.toModel.unpack.compare y.toModel.unpack = some .eq := by
    show (x.toModel.unpack.compare y.toModel.unpack == some .eq) = true ↔ _
    rw [beq_iff_eq]
  rw [hbeq, lt_iff_compare, lt_iff_compare, hcompare, hswap]
  cases ordering <;> decide

end Metasearch.Rounding
