import Metasearch.Config.Toml.DateTime
import Metasearch.Json.Reader

set_option autoImplicit false

/-! # Scalars of a TOML document

Keys, strings, numbers, truth values and dates. Every reader takes a scalar off the front of a
text and gives back the rest; a text that does not start with one is refused.

Configuration values share the type of JSON values. A date stands for a table with one name,
which holds the text of the date.
-/

namespace Metasearch.Config.Toml

/-! ## Characters -/

/-- Spaces that do not end a line. -/
def isSpace (c : Char) : Bool := c = ' ' || c = '\t'

/-- Characters that may stand on a line: tabs, and everything that is no control character. -/
def isLineChar (c : Char) : Bool := c = '\t' || (0x20 ≤ c.toNat && c.toNat ≠ 0x7F)

def skipSpaces (text : List Char) : List Char := text.dropWhile isSpace

/-- What follows the line break at the front of a text, if there is one. -/
def newline? : List Char → Option (List Char)
  | '\n' :: rest => some rest
  | '\r' :: '\n' :: rest => some rest
  | _ => none

/-- What follows the spaces and line breaks at the front of a text. -/
def skipLineBreaks (text : List Char) : List Char :=
  match text with
  | '\n' :: rest => skipLineBreaks rest
  | '\r' :: '\n' :: rest => skipLineBreaks rest
  | c :: rest => if isSpace c then skipLineBreaks rest else c :: rest
  | [] => []

/-! ## Strings -/

/-- The character with the number that the given hexadecimal digits write. -/
def scalarOfHex? (digits : List Char) : Option Char := do
  let values ← digits.mapM Json.hexDigit?
  let code := values.foldl (fun code value => 16 * code + value) 0
  if h : code.isValidChar then some (Char.ofNatAux code h) else none

/-- The character that an escape stands for after its backslash, and what follows it. -/
def escape? : List Char → Option (Char × List Char)
  | 'b' :: rest => some ('\x08', rest)
  | 't' :: rest => some ('\t', rest)
  | 'n' :: rest => some ('\n', rest)
  | 'f' :: rest => some ('\x0c', rest)
  | 'r' :: rest => some ('\r', rest)
  | '"' :: rest => some ('"', rest)
  | '\\' :: rest => some ('\\', rest)
  | 'u' :: rest =>
    if rest.length < 4 then none
    else (scalarOfHex? (rest.take 4)).map fun c => (c, rest.drop 4)
  | 'U' :: rest =>
    if rest.length < 8 then none
    else (scalarOfHex? (rest.take 8)).map fun c => (c, rest.drop 8)
  | _ => none

/-- The rest of a string with escapes on one line, after its opening quote. -/
def basicRest? (fuel : Nat) (done : List Char) (text : List Char) :
    Option (String × List Char) :=
  match fuel, text with
  | fuel + 1, '\\' :: rest => do
    let (c, rest) ← escape? rest
    basicRest? fuel (c :: done) rest
  | _, '"' :: rest => some (String.ofList done.reverse, rest)
  | fuel + 1, c :: rest => if isLineChar c then basicRest? fuel (c :: done) rest else none
  | _, _ => none

/-- The rest of a string without escapes on one line, after its opening apostrophe. -/
def literalRest? (text : List Char) : Option (String × List Char) :=
  let content := text.takeWhile fun c => c ≠ '\x27' && isLineChar c
  match text.drop content.length with
  | '\x27' :: rest => some (String.ofList content, rest)
  | _ => none

/-- Splits a run of the quote `mark` off. Three of them close a string over several lines; up
to two before them still belong to it. -/
def closing? (mark : Char) (text : List Char) : Option (Nat × List Char) :=
  let count := (text.takeWhile (· = mark)).length
  if 3 ≤ count ∧ count ≤ 5 then some (count - 3, text.drop count) else none

/-- The rest of a string over several lines, after its opening quotes and the line break right
after them. With `escapes` a backslash opens an escape, and at the end of a line it swallows
all spaces and line breaks up to the next character. -/
def multilineRest? (mark : Char) (escapes : Bool) (fuel : Nat) (done : List Char)
    (text : List Char) : Option (String × List Char) :=
  match fuel, text with
  | 0, _ => none
  | _ + 1, [] => none
  | fuel + 1, c :: rest =>
    if c = mark then
      match closing? mark (c :: rest) with
      | some (kept, rest) =>
        some (String.ofList (done.reverse ++ List.replicate kept mark), rest)
      | none =>
        if 5 < ((c :: rest).takeWhile (· = mark)).length then none
        else multilineRest? mark escapes fuel (c :: done) rest
    else if escapes && c = '\\' then
      match newline? (skipSpaces rest) with
      | some rest =>
        multilineRest? mark escapes fuel done (skipLineBreaks rest)
      | none => do
        let (c, rest) ← escape? rest
        multilineRest? mark escapes fuel (c :: done) rest
    else
      match newline? (c :: rest) with
      | some rest => multilineRest? mark escapes fuel ('\n' :: done) rest
      | none =>
        if isLineChar c then multilineRest? mark escapes fuel (c :: done) rest else none

/-- A text without a line break at its front. -/
def skipNewline (text : List Char) : List Char := (newline? text).getD text

/-- A string on one line. -/
def lineString? : List Char → Option (String × List Char)
  | '"' :: rest => basicRest? rest.length [] rest
  | '\x27' :: rest => literalRest? rest
  | _ => none

/-- A string of any form. -/
def string? : List Char → Option (String × List Char)
  | '"' :: '"' :: '"' :: rest => multilineRest? '"' true rest.length [] (skipNewline rest)
  | '\x27' :: '\x27' :: '\x27' :: rest =>
    multilineRest? '\x27' false rest.length [] (skipNewline rest)
  | text => lineString? text

/-! ## Keys -/

def isBareKeyChar (c : Char) : Bool := c.isAlphanum || c = '_' || c = '-'

/-- One part of a key: bare or quoted. -/
def keyPart? (text : List Char) : Option (String × List Char) :=
  let bare := text.takeWhile isBareKeyChar
  if bare.isEmpty then lineString? text
  else some (String.ofList bare, text.drop bare.length)

/-- The parts of a key after its first one, each behind a dot. -/
def keyRest? (fuel : Nat) (text : List Char) : Option (List String × List Char) :=
  match fuel, skipSpaces text with
  | fuel + 1, '.' :: rest => do
    let (part, rest) ← keyPart? (skipSpaces rest)
    let (parts, rest) ← keyRest? fuel rest
    some (part :: parts, rest)
  | _, rest => some ([], rest)

/-- How many tables, arrays or parts of a key may lie within each other. -/
def depthLimit : Nat := 79

/-- A key of one or more parts, with the spaces around it. A key of too many parts is
refused. -/
def key? (text : List Char) : Option (List String × List Char) := do
  let (part, rest) ← keyPart? (skipSpaces text)
  let (parts, rest) ← keyRest? rest.length rest
  if parts.length < depthLimit then some (part :: parts, rest) else none

/-! ## Numbers -/

/-- Removes the underscores of a digit sequence, which may only stand between two digits. -/
def joinDigits? (isDigit : Char → Bool) : List Char → Option (List Char)
  | [] => none
  | [c] => if isDigit c then some [c] else none
  | c :: '_' :: rest =>
    if isDigit c then (joinDigits? isDigit rest).map (c :: ·) else none
  | c :: rest => if isDigit c then (joinDigits? isDigit rest).map (c :: ·) else none

/-- Decimal digits without an idle leading zero. -/
def wholeDigits? (text : List Char) : Option (List Char) :=
  match joinDigits? Char.isDigit text with
  | some digits => if text.head? = some '0' ∧ 1 < text.length then none else some digits
  | none => none

/-- An integer in the range of signed 64-bit numbers. -/
def inRange? (value : Int) : Option Json :=
  if -Int.pow 2 63 ≤ value ∧ value < Int.pow 2 63 then some (.number (.integer value)) else none

/-- The number that digits write in a base. -/
def valueIn (base : Nat) (digits : List Char) : Nat :=
  digits.foldl (fun value digit => base * value + (Json.hexDigit? digit).getD 0) 0

/-- The digits of a base other than ten, after their mark. -/
def baseInteger? (base : Nat) (text : List Char) : Option Json := do
  let digits ← joinDigits? (fun c => (Json.hexDigit? c).any fun value => value < base) text
  inRange? (valueIn base digits)

/-- An integer. -/
def integer? : List Char → Option Json
  | '0' :: 'x' :: rest => baseInteger? 16 rest
  | '0' :: 'o' :: rest => baseInteger? 8 rest
  | '0' :: 'b' :: rest => baseInteger? 2 rest
  | text => do
    let (negative, rest) := Decimal.splitSign text
    let digits ← wholeDigits? rest
    let value : Int := Decimal.digitsValue digits
    inRange? (if negative then -value else value)

/-- A fraction, if there is one. -/
def fraction? : List Char → Option (List Char)
  | [] => some []
  | '.' :: rest => joinDigits? Char.isDigit rest
  | _ => none

/-- An exponent, if there is one. -/
def exponent? : List Char → Option Int
  | [] => some 0
  | _ :: rest => do
    let (negative, rest) := Decimal.splitSign rest
    let digits ← joinDigits? Char.isDigit rest
    let value : Int := Decimal.digitsValue digits
    some (if negative then -value else value)

/-- A floating-point number in digits: with a fraction, an exponent or both. -/
def decimal? (text : List Char) : Option Json := do
  let (negative, rest) := Decimal.splitSign text
  let mantissa := rest.takeWhile fun c => c ≠ 'e' && c ≠ 'E'
  let whole := mantissa.takeWhile (· ≠ '.')
  if whole.length = rest.length then none
  else
    let fraction ← fraction? (mantissa.drop whole.length)
    let whole ← wholeDigits? whole
    let exponent ← exponent? (rest.drop mantissa.length)
    let value := (Decimal.Numeral.mk negative whole fraction exponent).toFloat
    if value.isInf && !negative then none else some (.number (.real value))

/-- A floating-point number that has no digits. -/
def special? (text : List Char) : Option Json :=
  let (negative, rest) := Decimal.splitSign text
  let magnitude? : Option Float :=
    if rest = ['i', 'n', 'f'] then some (1.0 / 0.0)
    else if rest = ['n', 'a', 'n'] then some (0.0 / 0.0)
    else none
  magnitude?.map fun magnitude => .number (.real (if negative then -magnitude else magnitude))

/-! ## Dates -/

/-- The name under which the table of a date holds its text. -/
def dateName : String := "$__toml_private_datetime"

/-- What a date or time stands for. -/
def dateValue (moment : DateTime) : Json :=
  .object [(dateName, .string (String.ofList moment.text))]

/-! ## Scalars without quotes -/

def isWordChar (c : Char) : Bool :=
  c.isAlphanum || c = '+' || c = '-' || c = '_' || c = '.' || c = ':'

/-- The value of a whole word. -/
def word? (word : List Char) : Option Json :=
  if word = ['t', 'r', 'u', 'e'] then some (.bool true)
  else if word = ['f', 'a', 'l', 's', 'e'] then some (.bool false)
  else
    match dateTime? word with
    | some moment => some (dateValue moment)
    | none => (special? word).or ((integer? word).or (decimal? word))

/-- A truth value, number or date, and what follows it. A date may be followed by a time
behind a space. -/
def bare? (text : List Char) : Option (Json × List Char) :=
  let word := text.takeWhile isWordChar
  let rest := text.drop word.length
  match date? word, rest with
  | some (date, []), ' ' :: next =>
    let time := next.takeWhile isWordChar
    match moment? date time with
    | some moment => some (dateValue moment, next.drop time.length)
    | none => some (dateValue (.date date), rest)
  | _, _ => (word? word).map fun value => (value, rest)

end Metasearch.Config.Toml
