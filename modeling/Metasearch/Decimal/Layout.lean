import Metasearch.Decimal.Shortest

set_option autoImplicit false

/-! # Writing a floating-point number

The digits of a number are fixed by `Decimal.shortest`; how they are set out is a `Layout`.
Two layouts occur. JSON text keeps a mark of the kind of number (`1.0`, never `1`) and turns
to an exponent for very large and very small numbers. Geographic coordinates inside a filter
are always written out in full and carry no such mark.
-/

namespace Metasearch.Decimal

/-- The decisions that turn shortest digits into text. -/
structure Layout where
  /-- Whether a number with its decimal point `point` places after the first digit is written
  without an exponent. -/
  positional : Int → Bool
  /-- What follows a number that has no fraction. -/
  whole : String
  /-- Which of two equally near digits is taken. -/
  tie : Tie

/-- Numbers in JSON text: in full from `0.00001` up to below `10 ^ 16`, and with a fraction
even when it is zero. -/
def Layout.json : Layout where
  positional point := -4 ≤ point && point ≤ 16
  whole := ".0"
  tie := .toEven

/-- Coordinates in a filter: always in full, with no empty fraction. -/
def Layout.plain : Layout where
  positional _ := true
  whole := ""
  tie := .upward

/-- `count` zeros. -/
def zeros (count : Nat) : String := String.ofList (List.replicate count '0')

/-- Digits with the decimal point `point` places after the first of them. -/
def positionalText (whole : String) (digits : List Char) (point : Int) : String :=
  if point ≤ 0 then
    "0." ++ zeros (-point).toNat ++ String.ofList digits
  else if point.toNat < digits.length then
    String.ofList (digits.take point.toNat) ++ "." ++ String.ofList (digits.drop point.toNat)
  else
    String.ofList digits ++ zeros (point.toNat - digits.length) ++ whole

/-- Digits with the decimal point after the first of them and a signed exponent. -/
def scientificText (digits : List Char) (point : Int) : String :=
  let fraction := digits.drop 1
  let exponent := point - 1
  String.ofList (digits.take 1)
    ++ (if fraction.isEmpty then "" else "." ++ String.ofList fraction)
    ++ (if exponent < 0 then "e-" else "e+") ++ toString exponent.natAbs

/-- The text of a positive decimal. -/
def Layout.magnitudeText (layout : Layout) (decimal : GridPoint) : String :=
  let digits := Nat.toDigits 10 decimal.digits
  let point := decimal.exponent + digits.length
  if layout.positional point then positionalText layout.whole digits point
  else scientificText digits point

/-- The text of a floating-point number. Zero keeps its sign. -/
def Layout.text (layout : Layout) (x : Float) : String :=
  match Binary64.ofFloat x with
  | .notANumber => "NaN"
  | .infinite negative => if negative then "-inf" else "inf"
  | .finite negative significand exponent =>
    let magnitude :=
      if significand = 0 then "0" ++ layout.whole
      else layout.magnitudeText (shortest layout.tie significand exponent)
    if negative then "-" ++ magnitude else magnitude

end Metasearch.Decimal
