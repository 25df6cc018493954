set_option autoImplicit false

/-! # Reading numerals

A decimal numeral is an optional sign, digits with at most one decimal point among or around
them, and an optional exponent. The words for infinity and not-a-number are read as numbers
too, in any mixture of cases. A whole numeral has digits only, after an optional plus sign.

Nothing is skipped: every reader here accepts or refuses the text as a whole.
-/

namespace Metasearch.Decimal

/-- A decimal numeral: `± whole.fraction · 10 ^ exponent`. -/
structure Numeral where
  negative : Bool
  whole : List Char
  fraction : List Char
  exponent : Int
  deriving Repr, DecidableEq

/-- The value of a digit sequence. -/
def digitsValue (digits : List Char) : Nat :=
  digits.foldl (fun value digit => 10 * value + (digit.toNat - '0'.toNat)) 0

/-- Splits a leading sign off; the flag tells a minus. -/
def splitSign : List Char → Bool × List Char
  | '-' :: rest => (true, rest)
  | '+' :: rest => (false, rest)
  | rest => (false, rest)

/-- The longest run of leading digits, and what follows it. -/
def splitDigits (text : List Char) : List Char × List Char :=
  (text.takeWhile Char.isDigit, text.dropWhile Char.isDigit)

/-- A sign is never longer than the text it leads. -/
theorem splitSign_length (text : List Char) :
    (splitSign text).2.length ≤ text.length := by
  unfold splitSign
  split <;> simp

/-- Splitting digits off loses nothing. -/
theorem splitDigits_length (text : List Char) :
    (splitDigits text).1.length + (splitDigits text).2.length = text.length := by
  rw [← List.length_append]
  exact congrArg List.length List.takeWhile_append_dropWhile

/-- An exponent part: nothing, or a mark with a signed run of digits. -/
def exponentOf? : List Char → Option Int
  | [] => some 0
  | mark :: rest =>
    if mark = 'e' ∨ mark = 'E' then
      let (negative, rest) := splitSign rest
      let (digits, rest) := splitDigits rest
      if digits.isEmpty || !rest.isEmpty then none
      else some (if negative then -(digitsValue digits : Int) else digitsValue digits)
    else none

/-- A fraction part: nothing, or a point with a run of digits; and what follows it. -/
def splitFraction : List Char → List Char × List Char
  | '.' :: rest => splitDigits rest
  | rest => ([], rest)

/-- Reads a decimal numeral. The point may open or close the digits but not stand alone. -/
def Numeral.ofChars? (text : List Char) : Option Numeral :=
  let (negative, rest) := splitSign text
  let (whole, rest) := splitDigits rest
  let (fraction, rest) := splitFraction rest
  if whole.isEmpty && fraction.isEmpty then none
  else (exponentOf? rest).map fun exponent => ⟨negative, whole, fraction, exponent⟩

/-- The number nearest to a numeral. Exponents far outside the range of the format are
answered without computing the power. -/
def Numeral.toFloat (numeral : Numeral) : Float :=
  let digits := numeral.whole ++ numeral.fraction
  let significand := digitsValue digits
  let exponent := numeral.exponent - numeral.fraction.length
  let magnitude : Float :=
    if significand = 0 then 0
    else if 400 < exponent then 1.0 / 0.0
    else if exponent + digits.length < -400 then 0
    else if exponent < 0 then Float.ofScientific significand true exponent.natAbs
    else Float.ofScientific significand false exponent.natAbs
  if numeral.negative then -magnitude else magnitude

/-- The names of the numbers that have no digits. -/
inductive Special where
  | infinity
  | notANumber
  deriving Repr, DecidableEq

/-- Recognises the words `inf`, `infinity` and `nan` in any case. -/
def Special.ofChars? (text : List Char) : Option Special :=
  let word := text.map Char.toLower
  if word = "inf".toList ∨ word = "infinity".toList then some .infinity
  else if word = "nan".toList then some .notANumber
  else none

/-- Reads a floating-point number: a decimal numeral or a signed special word. -/
def floatOfChars? (text : List Char) : Option Float :=
  match Numeral.ofChars? text with
  | some numeral => some numeral.toFloat
  | none =>
    let (negative, word) := splitSign text
    (Special.ofChars? word).map fun special =>
      let magnitude : Float :=
        match special with
        | .infinity => 1.0 / 0.0
        | .notANumber => 0.0 / 0.0
      if negative then -magnitude else magnitude

/-- Whether a text reads as a floating-point number. -/
def readsAsFloat (text : List Char) : Bool :=
  (Numeral.ofChars? text).isSome || (Special.ofChars? (splitSign text).2).isSome

/-- Reads a whole number below `bound`: digits after an optional plus sign. -/
def wholeOfChars? (bound : Nat) (text : List Char) : Option Nat :=
  let digits :=
    match text with
    | '+' :: rest => rest
    | rest => rest
  if digits.isEmpty || !digits.all Char.isDigit then none
  else
    let value := digitsValue digits
    if value < bound then some value else none

end Metasearch.Decimal
