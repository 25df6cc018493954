import Metasearch.Config.Toml.Scalar
import Metasearch.Text.Blank

set_option autoImplicit false

/-! # Settings from the environment

A variable whose name starts with a prefix, in any case, is a setting: the rest of its name in
lowercase is the key, with two underscores between the parts of a path. Blanks around the name
and around the key do not count. The value is read loosely. What looks like a truth value, a
number, a quoted text, a list or a table is one, and anything else is the text itself.
-/

namespace Metasearch.Config.Environment

/-- The variables of the environment. -/
abbrev Variables := List (String × String)

/-! ## Loose values -/

def isSpace (c : Char) : Bool :=
  c = ' ' || c = '\t' || c = '\n' || c = '\r' || c = '\x0c'

def skipSpaces (text : List Char) : List Char := text.dropWhile isSpace

/-- Characters that end a value without quotes. -/
def isSeparator (c : Char) : Bool :=
  c = ',' || c = '\x7b' || c = '\x7d' || c = '[' || c = ']'

/-- The value of a word: a number with a point, a whole number, or the word itself. -/
def wordValue (word : List Char) : Json :=
  let word := Text.trim word
  let real? := if '.' ∈ word then Decimal.floatOfChars? word else none
  match real? with
  | some value => .number (.real value)
  | none =>
    match Decimal.wholeOfChars? wordBound word with
    | some value => .ofNat value
    | none =>
      let (negative, digits) := Decimal.splitSign word
      match Decimal.wholeOfChars? (Nat.pow 2 63 + 1) digits with
      | some value =>
        if negative && digits.head? ≠ some '+' then .number (.integer (-(value : Int)))
        else .string (String.ofList word)
      | none => .string (String.ofList word)

/-- The longest beginning of a text that takes no more than `size` bytes. -/
def takeBytes (size : Nat) : List Char → List Char
  | [] => []
  | c :: rest => if c.utf8Size ≤ size then c :: takeBytes (size - c.utf8Size) rest else []

/-- Reads a quoted text after its opening quote. What stands before its first escape is cut to
as many bytes as it has characters, so there it should be ASCII. -/
def quoted? (text : List Char) : Option (String × List Char) :=
  let start := text.takeWhile fun c => c ≠ '"' && c ≠ '\\'
  match text.drop start.length with
  | '\\' :: rest =>
    if start.all Config.Toml.isLineChar then
      Config.Toml.basicRest? (rest.length + 1) (takeBytes start.length start).reverse
        ('\\' :: rest)
    else none
  | _ => Config.Toml.basicRest? text.length [] text

/-- Reads a key: quoted, or made of letters, digits, underscores and hyphens. -/
def key? (text : List Char) : Option (String × List Char) :=
  match text with
  | '"' :: rest => quoted? rest
  | text =>
    let bare := text.takeWhile Config.Toml.isBareKeyChar
    if bare.isEmpty then none else some (String.ofList bare, text.drop bare.length)

mutual

/-- Reads a value with the spaces before it. `fuel` bounds the depth of calls. -/
def value? (fuel : Nat) (text : List Char) : Option (Json × List Char) :=
  match fuel with
  | 0 => none
  | fuel + 1 =>
    match skipSpaces text with
    | 't' :: 'r' :: 'u' :: 'e' :: rest => some (.bool true, skipSpaces rest)
    | 'f' :: 'a' :: 'l' :: 's' :: 'e' :: rest => some (.bool false, skipSpaces rest)
    | '{' :: rest => do
      let (entries, rest) ← pairs? fuel rest
      some (.object (Fields.ofEntries entries), skipSpaces rest)
    | '[' :: rest => do
      let (items, rest) ← items? fuel rest
      some (.array items, skipSpaces rest)
    | '"' :: rest => do
      let (text, rest) ← quoted? rest
      some (.string text, skipSpaces rest)
    | '\x27' :: c :: '\x27' :: rest => some (.string (String.ofList [c]), skipSpaces rest)
    | '\x27' :: _ => none
    | text =>
      let word := text.takeWhile fun c => !isSeparator c
      some (wordValue word, text.drop word.length)

/-- Reads the items of a list and its closing bracket. -/
def items? (fuel : Nat) (text : List Char) : Option (List Json × List Char) :=
  match fuel with
  | 0 => none
  | fuel + 1 =>
    match text with
    | ']' :: rest => some ([], rest)
    | text => do
      match ← value? fuel text with
      | (item, ',' :: rest) => do
        let (items, rest) ← items? fuel rest
        some (item :: items, rest)
      | (item, ']' :: rest) => some ([item], rest)
      | _ => none

/-- Reads the pairs of a table and its closing brace. -/
def pairs? (fuel : Nat) (text : List Char) : Option (List (String × Json) × List Char) :=
  match fuel with
  | 0 => none
  | fuel + 1 =>
    match text with
    | '}' :: rest => some ([], rest)
    | text => do
      let (key, rest) ← key? (skipSpaces text)
      match skipSpaces rest with
      | '=' :: rest => do
        match ← value? fuel rest with
        | (value, ',' :: rest) => do
          let (entries, rest) ← pairs? fuel rest
          some ((key, value) :: entries, rest)
        | (value, '}' :: rest) => some ([(key, value)], rest)
        | _ => none
      | _ => none

end

/-- The value of a variable. What cannot be read to its end is the text itself. -/
def looseValue (text : String) : Json :=
  match value? (2 * text.length + 2) text.toList with
  | some (value, []) => value
  | _ => .string text

/-! ## Keys -/

/-- The rest of a name after a prefix in any case. -/
def dropPrefix? (start name : List Char) : Option (List Char) :=
  if (name.take start.length).map Char.toLower = start.map Char.toLower then
    some (name.drop start.length)
  else none

/-- The parts of a name between pairs of underscores, in lowercase. A point separates too. -/
def partsOf (part : List Char) : List Char → List (List Char)
  | [] => [part.reverse]
  | '_' :: '_' :: rest => part.reverse :: partsOf [] rest
  | '.' :: rest => part.reverse :: partsOf [] rest
  | c :: rest => partsOf (c.toLower :: part) rest

/-- The path that a variable sets. -/
def path? (start name : String) : Option (List String) := do
  let rest ← dropPrefix? start.toList (Text.trim name.toList)
  let parts := partsOf [] (Text.trim rest)
  if parts.any List.isEmpty then none else some (parts.map String.ofList)

/-- A value at the end of a path of tables. -/
def nest (value : Json) : List String → Json
  | [] => value
  | name :: path => .object [(name, nest value path)]

end Metasearch.Config.Environment
