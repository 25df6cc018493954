set_option autoImplicit false

/-! # The fewest digits that read back

A binary floating-point number stands for every real number that rounds to it. Among the
decimals in that interval this file picks the one with the fewest digits, and of those the
one nearest to the number itself.

The search runs over decimal grids `10 ^ k`, from coarse to fine. A grid with a point in the
interval also has one of the two neighbours of the number in it, so only those two are
tested. All comparisons are between natural numbers: with the number `m · 2 ^ e` counted in
quarters of its last place, both the interval and the grid are scaled by a common factor
(`scale`) until nothing is fractional.
-/

namespace Metasearch.Decimal

/-- A number in the binary64 format, taken apart. -/
inductive Binary64 where
  | notANumber
  | infinite (negative : Bool)
  /-- The number `± significand · 2 ^ exponent`. -/
  | finite (negative : Bool) (significand : Nat) (exponent : Int)
  deriving Repr

/-- Reads sign, exponent and fraction off the bit pattern. Numbers with the smallest
exponent have no implicit leading bit. -/
def Binary64.ofFloat (x : Float) : Binary64 :=
  let bits : Nat := x.toBits.toNat
  let negative := bits / Nat.pow 2 63 == 1
  let biased : Nat := bits / Nat.pow 2 52 % Nat.pow 2 11
  let fraction : Nat := bits % Nat.pow 2 52
  if biased = 2047 then
    if fraction = 0 then .infinite negative else .notANumber
  else if biased = 0 then .finite negative fraction (-1074)
  else .finite negative (Nat.pow 2 52 + fraction) ((biased : Int) - 1075)

/-- A point of a decimal grid: the number `digits · 10 ^ exponent`. -/
structure GridPoint where
  digits : Nat
  exponent : Int
  deriving Repr, DecidableEq

/-- What to do with a number half way between two decimals that both read back as it. -/
inductive Tie where
  | toEven
  | upward
  deriving Repr, DecidableEq

/-- The grid point chosen of `below` and `below + 1` when both are equally near. -/
def Tie.choose (tie : Tie) (below : Nat) : Nat :=
  match tie with
  | .toEven => if below % 2 = 0 then below else below + 1
  | .upward => below + 1

/-- Numerator and denominator of `2 ^ (e - 2) / 10 ^ k`, one quarter of the last binary place
measured on the grid `10 ^ k`. -/
def scale (e k : Int) : Nat × Nat :=
  (Nat.pow 2 (e - 2).toNat * Nat.pow 10 (-k).toNat,
    Nat.pow 2 (2 - e).toNat * Nat.pow 10 k.toNat)

/-- The distance, in quarters of the last place, from `m · 2 ^ e` down to the edge of its
rounding interval. Below a power of two the neighbouring number is only half as far. -/
def lowerGap (m : Nat) (e : Int) : Nat :=
  if m = Nat.pow 2 52 ∧ -1074 < e then 1 else 2

/-- Whether the grid point `d` lies in the rounding interval of `m · 2 ^ e`. The ends of the
interval round to an even significand only. -/
def inside (m : Nat) (e : Int) (unit : Nat × Nat) (d : Nat) : Bool :=
  let low := (4 * m - lowerGap m e) * unit.1
  let high := (4 * m + 2) * unit.1
  let point := d * unit.2
  if m % 2 = 0 then low ≤ point && point ≤ high else low < point && point < high

/-- The point of the grid `10 ^ k` nearest to `m · 2 ^ e`, if the rounding interval has one. -/
def nearestOn (tie : Tie) (m : Nat) (e k : Int) : Option GridPoint :=
  let unit := scale e k
  let value := 4 * m * unit.1
  let below := value / unit.2
  let remainder := value % unit.2
  match inside m e unit below, inside m e unit (below + 1) with
  | false, false => none
  | true, false => some ⟨below, k⟩
  | false, true => some ⟨below + 1, k⟩
  | true, true =>
    if 2 * remainder < unit.2 then some ⟨below, k⟩
    else if unit.2 < 2 * remainder then some ⟨below + 1, k⟩
    else some ⟨tie.choose below, k⟩

/-- An exponent `k` with `m · 2 ^ e < 10 ^ k`, at most two above the least such. It rests on
`30103 / 100000` lying just above the common logarithm of two. -/
def magnitude (m : Nat) (e : Int) : Int :=
  (Nat.log2 m + 1 + e) * 30103 / 100000 + 1

/-- The shortest decimal that reads back as `m · 2 ^ e`. Seventeen digits always suffice, so
twenty grids below `magnitude` are enough and the last alternative is never reached. -/
def shortest (tie : Tie) (m : Nat) (e : Int) : GridPoint :=
  let found? := (List.range 20).findSome? fun (step : Nat) =>
    nearestOn tie m e (magnitude m e - step)
  found?.getD ⟨m, 0⟩

end Metasearch.Decimal
