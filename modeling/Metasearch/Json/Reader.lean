import Metasearch.Decimal.Numeral
import Metasearch.Json.Basic

set_option autoImplicit false

/-! # Reading JSON

A text is first cut into tokens. A machine with a stack of unfinished arrays and objects then
takes one token at a time; it has read a value when the stack is empty again, and nothing may
follow. A text that is no JSON value is refused without saying why: no caller asks.

Two rules go beyond the grammar. Nesting is bounded (`depthLimit`), and a number outside the
range of the format is refused, so that every number read is finite.
-/

namespace Metasearch.Json

/-- A text nested deeper than this is refused. -/
def depthLimit : Nat := 127

inductive Token where
  | openArray
  | closeArray
  | openObject
  | closeObject
  | comma
  | colon
  | scalar (value : Json)

/-! ## Numbers -/

/-- The powers of ten a floating-point number is scaled by. -/
def powerOfTen (exponent : Nat) : Float := Float.ofScientific 1 false exponent

/-- Divides by `10 ^ exponent`, in steps no larger than the largest power in range. -/
def scaleDown (value : Float) (exponent : Nat) : Float :=
  if exponent ≤ 308 then value / powerOfTen exponent
  else if value == 0 then value
  else scaleDown (value / powerOfTen 308) (exponent - 308)
termination_by exponent

/-- Multiplies by `10 ^ exponent`, unless the product is out of range. -/
def scaleUp? (value : Float) (exponent : Nat) : Option Float :=
  if exponent ≤ 308 then
    let scaled := value * powerOfTen exponent
    if scaled.isInf then none else some scaled
  else if value == 0 then some value
  else none

/-- `± significand · 10 ^ exponent` as a floating-point number. The significand is rounded
first and scaled afterwards. -/
def realOfParts? (negative : Bool) (significand : Nat) (exponent : Int) : Option Json :=
  let value := Float.ofScientific significand false 0
  let scaled? :=
    if exponent < 0 then some (scaleDown value exponent.natAbs)
    else scaleUp? value exponent.natAbs
  scaled?.map fun scaled => .number (.real (if negative then -scaled else scaled))

/-- The digits of a significand as far as 64 bits hold them, and how many were left over. -/
def significandOf (start : Nat) : List Char → Nat × Nat
  | [] => (start, 0)
  | digit :: rest =>
    let value := 10 * start + (digit.toNat - '0'.toNat)
    if value < wordBound then significandOf value rest else (start, rest.length + 1)

/-- The number with the given digits before and after the point and the given exponent part.
Without point and exponent it is an integer, if it fits; negative zero is not an integer. -/
def numberOfParts? (negative : Bool) (whole : List Char) (fraction : Option (List Char))
    (exponent : Option Int) : Option Json :=
  let (significand, dropped) := significandOf 0 whole
  match fraction, exponent with
  | none, none =>
    if 0 < dropped then realOfParts? negative significand dropped
    else if !negative then some (.ofNat significand)
    else if significand = 0 || Nat.pow 2 63 < significand then
      some (.number (.real (-(Float.ofScientific significand false 0))))
    else some (.number (.integer (-(significand : Int))))
  | _, _ =>
    let digits := fraction.getD []
    let (significand, unread) := significandOf significand digits
    let places := digits.length - unread
    realOfParts? negative significand (exponent.getD 0 + dropped - places)

/-- Reads the exponent part of a number, if there is one; a mark without digits is an error. -/
def exponentPart? : List Char → Option (Option Int × List Char)
  | [] => some (none, [])
  | mark :: rest =>
    if mark = 'e' ∨ mark = 'E' then
      let (negative, rest) := Decimal.splitSign rest
      let (digits, rest) := Decimal.splitDigits rest
      if digits.isEmpty then none
      else
        let value : Int := Decimal.digitsValue digits
        some (some (if negative then -value else value), rest)
    else some (none, mark :: rest)

theorem exponentPart?_length {text rest : List Char} {exponent : Option Int}
    (h : exponentPart? text = some (exponent, rest)) : rest.length ≤ text.length := by
  cases text with
  | nil => simp_all [exponentPart?]
  | cons mark tail =>
    have sign := Decimal.splitSign_length tail
    have digits := Decimal.splitDigits_length (Decimal.splitSign tail).2
    simp only [exponentPart?] at h
    split at h
    · split at h
      · contradiction
      · cases h
        simp only [List.length_cons]
        omega
    · cases h
      exact Nat.le_refl _

/-- Reads the fraction of a number, if there is one; a point without digits is an error. -/
def fractionPart? : List Char → Option (Option (List Char) × List Char)
  | '.' :: rest =>
    let (digits, rest) := Decimal.splitDigits rest
    if digits.isEmpty then none else some (some digits, rest)
  | rest => some (none, rest)

theorem fractionPart?_length {text rest : List Char} {fraction : Option (List Char)}
    (h : fractionPart? text = some (fraction, rest)) : rest.length ≤ text.length := by
  unfold fractionPart? at h
  split at h
  · next tail =>
    have digits := Decimal.splitDigits_length tail
    dsimp only at h
    split at h
    · contradiction
    · cases h
      simp only [List.length_cons]
      omega
  · cases h
    exact Nat.le_refl _

/-- Reads a number and what follows it. A number has no plus sign and no idle leading zero. -/
def number? (text : List Char) : Option (Json × List Char) := do
  let (negative, rest) :=
    match text with
    | '-' :: rest => (true, rest)
    | rest => (false, rest)
  let (whole, rest) := Decimal.splitDigits rest
  if whole.isEmpty || (whole.head? == some '0' && 1 < whole.length) then none
  else
    let (fraction, rest) ← fractionPart? rest
    let (exponent, rest) ← exponentPart? rest
    let value ← numberOfParts? negative whole fraction exponent
    some (value, rest)

/-- A number has at least one digit. -/
theorem number?_length {text rest : List Char} {value : Json}
    (h : number? text = some (value, rest)) : rest.length < text.length := by
  unfold number? at h
  split at h
  rename_i negative tail signed
  have tail_le : tail.length ≤ text.length := by
    split at signed <;> cases signed <;> simp
  have digits := Decimal.splitDigits_length tail
  dsimp only at h
  split at h
  · contradiction
  · next nonempty =>
    simp only [Bool.or_eq_true, not_or, List.isEmpty_iff] at nonempty
    have positive := List.length_pos_iff.2 nonempty.1
    simp only [Option.bind_eq_bind, Option.bind_eq_some_iff, Option.some.injEq,
      Prod.mk.injEq, Prod.exists] at h
    obtain ⟨fraction, afterFraction, hf, exponent, afterExponent, he, value, _, _, rfl⟩ := h
    have := fractionPart?_length hf
    have := exponentPart?_length he
    omega

/-! ## Strings -/

/-- The value of a hexadecimal digit. -/
def hexDigit? (c : Char) : Option Nat :=
  if '0' ≤ c ∧ c ≤ '9' then some (c.toNat - '0'.toNat)
  else if 'a' ≤ c ∧ c ≤ 'f' then some (c.toNat - 'a'.toNat + 10)
  else if 'A' ≤ c ∧ c ≤ 'F' then some (c.toNat - 'A'.toNat + 10)
  else none

/-- The 16-bit unit that four hexadecimal digits stand for. -/
def unit? (a b c d : Char) : Option Nat := do
  let a ← hexDigit? a
  let b ← hexDigit? b
  let c ← hexDigit? c
  let d ← hexDigit? d
  some (((a * 16 + b) * 16 + c) * 16 + d)

/-- The character that a letter after a backslash stands for. -/
def simpleEscape? (c : Char) : Option Char :=
  if c = '"' ∨ c = '\\' ∨ c = '/' then some c
  else if c = 'b' then some '\x08'
  else if c = 'f' then some '\x0c'
  else if c = 'n' then some '\n'
  else if c = 'r' then some '\r'
  else if c = 't' then some '\t'
  else none

/-- Reads a string after its opening quote, and what follows the closing one. `done` holds
the characters read so far, last first. Units of a surrogate pair must come together. -/
def stringRest? (done : List Char) : List Char → Option (String × List Char)
  | [] => none
  | '"' :: rest => some (String.ofList done.reverse, rest)
  | '\\' :: 'u' :: a :: b :: c :: d :: rest =>
    match unit? a b c d with
    | none => none
    | some unit =>
      if unit < 0xD800 ∨ 0xDFFF < unit then stringRest? (Char.ofNat unit :: done) rest
      else
        match rest with
        | '\\' :: 'u' :: a :: b :: c :: d :: rest =>
          match unit? a b c d with
          | none => none
          | some low =>
            if unit < 0xDC00 ∧ 0xDC00 ≤ low ∧ low ≤ 0xDFFF then
              let code := 0x10000 + (unit - 0xD800) * 0x400 + (low - 0xDC00)
              stringRest? (Char.ofNat code :: done) rest
            else none
        | _ => none
  | '\\' :: c :: rest =>
    match simpleEscape? c with
    | none => none
    | some escaped => stringRest? (escaped :: done) rest
  | c :: rest => if c.toNat < 32 then none else stringRest? (c :: done) rest

/-- A string has at least its closing quote. -/
theorem stringRest?_length {done text rest : List Char} {content : String}
    (h : stringRest? done text = some (content, rest)) : rest.length < text.length := by
  fun_induction stringRest? done text <;> simp_all only [List.length_cons, reduceCtorEq]
  case case2 =>
    cases h
    omega
  case case4 ih =>
    have := ih trivial
    omega
  case case6 ih =>
    have := ih trivial
    omega
  case case10 ih =>
    have := ih trivial
    omega
  case case12 ih =>
    have := ih trivial
    omega

/-! ## Tokens -/

def isSpace (c : Char) : Bool := c = ' ' || c = '\n' || c = '\t' || c = '\r'

/-- The first token of a text that does not start with a space, and what follows it. -/
def token? : List Char → Option (Token × List Char)
  | '[' :: rest => some (.openArray, rest)
  | ']' :: rest => some (.closeArray, rest)
  | '{' :: rest => some (.openObject, rest)
  | '}' :: rest => some (.closeObject, rest)
  | ',' :: rest => some (.comma, rest)
  | ':' :: rest => some (.colon, rest)
  | '"' :: rest => (stringRest? [] rest).map fun (text, rest) => (.scalar (.string text), rest)
  | 'n' :: 'u' :: 'l' :: 'l' :: rest => some (.scalar .null, rest)
  | 't' :: 'r' :: 'u' :: 'e' :: rest => some (.scalar (.bool true), rest)
  | 'f' :: 'a' :: 'l' :: 's' :: 'e' :: rest => some (.scalar (.bool false), rest)
  | text => (number? text).map fun (value, rest) => (.scalar value, rest)

/-- Every token takes at least one character. -/
theorem token?_length {text rest : List Char} {token : Token}
    (h : token? text = some (token, rest)) : rest.length < text.length := by
  unfold token? at h
  split at h
  case h_7 tail =>
    simp only [Option.map_eq_some_iff, Prod.mk.injEq, Prod.exists] at h
    obtain ⟨content, after, read, _, rfl⟩ := h
    have := stringRest?_length read
    simp only [List.length_cons]
    omega
  case h_11 =>
    simp only [Option.map_eq_some_iff, Prod.mk.injEq, Prod.exists] at h
    obtain ⟨value, after, read, _, rfl⟩ := h
    exact number?_length read
  all_goals
    cases h
    simp only [List.length_cons]
    omega

/-- All tokens of a text, put behind those in `done` (last first). -/
def tokens? (done : List Token) (text : List Char) : Option (List Token) :=
  match skipped : text.dropWhile isSpace with
  | [] => some done.reverse
  | c :: rest =>
    match taken : token? (c :: rest) with
    | none => none
    | some (token, remaining) =>
      have : remaining.length < text.length :=
        Nat.lt_of_lt_of_le (token?_length taken)
          (skipped ▸ (List.dropWhile_sublist isSpace).length_le)
      tokens? (token :: done) remaining
termination_by text.length

/-! ## The machine -/

/-- An array or object that is not closed yet, its contents last first. -/
inductive Frame where
  | items (done : List Json)
  | entries (done : List (String × Json)) (key : String)

/-- What the reader waits for. -/
inductive State where
  /-- A value, or the end of an array that has just been opened. -/
  | awaitValue (stack : List Frame) (mayClose : Bool)
  /-- A key, or the end of an object that has just been opened. -/
  | awaitKey (stack : List Frame) (done : List (String × Json)) (mayClose : Bool)
  /-- The colon after a key. -/
  | awaitColon (stack : List Frame) (done : List (String × Json)) (key : String)
  /-- What follows a value in the innermost array. -/
  | afterItem (stack : List Frame) (done : List Json)
  /-- What follows a value in the innermost object. -/
  | afterEntry (stack : List Frame) (done : List (String × Json))
  /-- Nothing more. -/
  | finished (value : Json)

/-- The state after a whole value has been read. -/
def State.complete (value : Json) : List Frame → State
  | [] => .finished value
  | .items done :: stack => .afterItem stack (value :: done)
  | .entries done key :: stack => .afterEntry stack ((key, value) :: done)

/-- One token further, if the token may come here. -/
def State.step? (state : State) (token : Token) : Option State :=
  match state, token with
  | .awaitValue stack _, .scalar value => some (.complete value stack)
  | .awaitValue stack _, .openArray =>
    if stack.length < depthLimit then some (.awaitValue (.items [] :: stack) true) else none
  | .awaitValue stack _, .openObject =>
    if stack.length < depthLimit then some (.awaitKey stack [] true) else none
  | .awaitValue (.items [] :: stack) true, .closeArray => some (.complete (.array []) stack)
  | .awaitKey stack done _, .scalar (.string key) => some (.awaitColon stack done key)
  | .awaitKey stack [] true, .closeObject => some (.complete (.object []) stack)
  | .awaitColon stack done key, .colon => some (.awaitValue (.entries done key :: stack) false)
  | .afterItem stack done, .comma => some (.awaitValue (.items done :: stack) false)
  | .afterItem stack done, .closeArray => some (.complete (.array done.reverse) stack)
  | .afterEntry stack done, .comma => some (.awaitKey stack done false)
  | .afterEntry stack done, .closeObject =>
    some (.complete (.object (Fields.ofEntries done.reverse)) stack)
  | _, _ => none

/-- Reads a text that holds one JSON value and nothing else. -/
def read? (text : String) : Option Json := do
  let tokens ← tokens? [] text.toList
  match ← tokens.foldlM State.step? (.awaitValue [] false) with
  | .finished value => some value
  | _ => none

end Metasearch.Json
