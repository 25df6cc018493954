import Metasearch.Decimal.Numeral

set_option autoImplicit false

/-! # Dates and times of a TOML document

A date, a time of day, or both, with an optional offset from universal time. Fields have a
fixed number of digits, and each is checked against its range as it is read. The written form
is always the same whatever the spelling that was read: a capital `T` between date and time,
a capital `Z`, and a fraction of a second without zeros at its end.
-/

namespace Metasearch.Config.Toml

/-- A day of the calendar. -/
structure Date where
  year : Nat
  month : Nat
  day : Nat

/-- A time of day. The second 60 is allowed, for leap seconds. -/
structure Time where
  hour : Nat
  minute : Nat
  second : Nat
  nanosecond : Nat

/-- How far a clock is ahead of universal time. -/
inductive Offset where
  /-- Not at all, and written by a letter. -/
  | zulu
  /-- By a number of minutes, which may be negative. -/
  | ahead (minutes : Int)

/-- A date, a time, or both. Only with both there may be an offset. -/
inductive DateTime where
  | date (date : Date)
  | time (time : Time)
  | moment (date : Date) (time : Time) (offset : Option Offset)

/-- What follows a given character. -/
def after? (mark : Char) : List Char → Option (List Char)
  | c :: rest => if c = mark then some rest else none
  | [] => none

/-! ## Reading -/

/-- A number of exactly `count` digits within bounds, and what follows it. -/
def field? (count low high : Nat) (text : List Char) : Option (Nat × List Char) :=
  let digits := text.take count
  let value := Decimal.digitsValue digits
  if digits.length = count ∧ digits.all Char.isDigit ∧ low ≤ value ∧ value ≤ high then
    some (value, text.drop count)
  else none

def daysIn (year month : Nat) : Nat :=
  if month = 2 then
    if year % 4 = 0 ∧ (year % 100 ≠ 0 ∨ year % 400 = 0) then 29 else 28
  else if month = 4 ∨ month = 6 ∨ month = 9 ∨ month = 11 then 30
  else 31

/-- A date at the front of a text. -/
def date? (text : List Char) : Option (Date × List Char) := do
  let (year, rest) ← field? 4 0 9999 text
  let (month, rest) ← field? 2 1 12 (← after? '-' rest)
  let (day, rest) ← field? 2 1 (daysIn year month) (← after? '-' rest)
  some (⟨year, month, day⟩, rest)

/-- The nanoseconds in a fraction of a second. Digits after the ninth are cut off. -/
def nanoseconds (digits : List Char) : Nat :=
  let kept := digits.take 9
  Decimal.digitsValue kept * Nat.pow 10 (9 - kept.length)

/-- The fraction of a second at the front of a text, if there is one. -/
def nanoseconds? : List Char → Option (Nat × List Char)
  | '.' :: rest =>
    let digits := rest.takeWhile Char.isDigit
    if digits.isEmpty then none else some (nanoseconds digits, rest.drop digits.length)
  | rest => some (0, rest)

/-- A time of day at the front of a text. -/
def time? (text : List Char) : Option (Time × List Char) := do
  let (hour, rest) ← field? 2 0 23 text
  let (minute, rest) ← field? 2 0 59 (← after? ':' rest)
  let (second, rest) ← field? 2 0 60 (← after? ':' rest)
  let (nanosecond, rest) ← nanoseconds? rest
  some (⟨hour, minute, second, nanosecond⟩, rest)

/-- The offset that a whole text is. -/
def offset? : List Char → Option Offset
  | [] => none
  | c :: rest =>
    if c = 'Z' ∨ c = 'z' then if rest.isEmpty then some .zulu else none
    else if c = '+' ∨ c = '-' then do
      let (hours, rest) ← field? 2 0 23 rest
      let (minutes, rest) ← field? 2 0 59 (← after? ':' rest)
      let ahead : Int := 60 * hours + minutes
      if rest.isEmpty then some (.ahead (if c = '-' then -ahead else ahead)) else none
    else none

/-- The moment of a given day that a whole text is: a time of day with an optional offset. -/
def moment? (date : Date) (text : List Char) : Option DateTime := do
  match ← time? text with
  | (time, []) => some (.moment date time none)
  | (time, rest) => (offset? rest).map fun offset => .moment date time (some offset)

/-- The date or time that a whole text is. -/
def dateTime? (text : List Char) : Option DateTime :=
  match date? text with
  | some (date, []) => some (.date date)
  | some (date, c :: rest) => if c = 'T' ∨ c = 't' then moment? date rest else none
  | none =>
    match time? text with
    | some (time, []) => some (.time time)
    | _ => none

/-! ## Writing -/

/-- A number in at least `width` digits. -/
def padded (width value : Nat) : List Char :=
  let digits := Nat.toDigits 10 value
  List.replicate (width - digits.length) '0' ++ digits

def Date.text (date : Date) : List Char :=
  padded 4 date.year ++ '-' :: (padded 2 date.month ++ '-' :: padded 2 date.day)

/-- The fraction of a second behind its point; a whole second has none. -/
def fractionText (nanosecond : Nat) : List Char :=
  if nanosecond = 0 then []
  else '.' :: ((padded 9 nanosecond).reverse.dropWhile (· = '0')).reverse

def Time.text (time : Time) : List Char :=
  padded 2 time.hour ++ ':' :: (padded 2 time.minute ++ ':' :: padded 2 time.second)
    ++ fractionText time.nanosecond

def Offset.text : Offset → List Char
  | .zulu => ['Z']
  | .ahead minutes =>
    (if minutes < 0 then '-' else '+') ::
      (padded 2 (minutes.natAbs / 60) ++ ':' :: padded 2 (minutes.natAbs % 60))

def DateTime.text : DateTime → List Char
  | .date day => day.text
  | .time clock => clock.text
  | .moment day clock offset => day.text ++ 'T' :: clock.text ++ (offset.map Offset.text).getD []

end Metasearch.Config.Toml
