import Metasearch.Decimal.Numeral
import Metasearch.Text.Blank

set_option autoImplicit false

/-! # Addresses

The address that a call goes to is a URL of the web. Reading one is lenient: blanks around it
and line breaks inside are dropped, backslashes count as slashes, and of the slashes behind the
scheme any number will do. What is sent is the path and the query, with every character that
cannot stand there written as the hexadecimal bytes of its UTF-8 form.
-/

namespace Metasearch

structure Address where
  /-- Whether the connection is encrypted. -/
  secure : Bool
  host : String
  port : Nat
  /-- The path and the query as they are sent. -/
  target : String
  deriving Repr, DecidableEq

namespace Address

/-! ## Characters -/

/-- The bytes of a character as two hexadecimal digits each. -/
def percentEncode (c : Char) : List Char :=
  (String.ofList [c]).toUTF8.toList.flatMap fun byte =>
    let digit (n : Nat) : Char := (Nat.digitChar n).toUpper
    ['%', digit (byte.toNat / 16), digit (byte.toNat % 16)]

/-- Control characters and all beyond ASCII; they are never sent as they are. -/
def isForeign (c : Char) : Bool := c.toNat < 0x20 || 0x7E < c.toNat

/-- Characters that a path cannot hold. -/
def escapedInPath (c : Char) : Bool :=
  isForeign c || c ∈ [' ', '"', '#', '<', '>', '?', '\x60', '\x7b', '\x7d']

/-- Characters that a query cannot hold. -/
def escapedInQuery (c : Char) : Bool := isForeign c || c ∈ [' ', '"', '#', '<', '>', '\x27']

def encode (escaped : Char → Bool) (text : List Char) : List Char :=
  text.flatMap fun c => if escaped c then percentEncode c else [c]

/-! ## Paths -/

/-- Slashes and the backslashes that stand for them. -/
def isSlash (c : Char) : Bool := c = '/' || c = '\\'

/-- The characters that end the part with the host. -/
def endsHost (c : Char) : Bool := isSlash c || c = '?' || c = '#'

/-- A name with its encoded dots written out, in lowercase. -/
def plainDots : List Char → List Char
  | '%' :: '2' :: c :: rest =>
    if c = 'e' || c = 'E' then '.' :: plainDots rest else '%' :: '2' :: plainDots (c :: rest)
  | c :: rest => c :: plainDots rest
  | [] => []

/-- The names of a path without `.` and with `..` carried out. At the end of the path both
leave an empty name behind. -/
def resolve (done : List (List Char)) : List (List Char) → List (List Char)
  | [] => done
  | name :: rest =>
    let kept :=
      if plainDots name = ['.', '.'] then done.dropLast
      else if plainDots name = ['.'] then done
      else done ++ [name]
    let isDots := plainDots name = ['.'] ∨ plainDots name = ['.', '.']
    if rest.isEmpty ∧ isDots then kept ++ [[]] else resolve kept rest

/-- A path as it is sent. -/
def pathText (path : List Char) : List Char :=
  let names := Text.splitOn '/' ((path.map fun c => if isSlash c then '/' else c).drop 1)
  (resolve [] names).flatMap fun name => '/' :: encode escapedInPath name

/-- What is sent for a path, a query and a fragment, of which the fragment stays here. -/
def targetText (text : List Char) : List Char :=
  let kept := text.takeWhile (· ≠ '#')
  let path := kept.takeWhile (· ≠ '?')
  let query := kept.dropWhile (· ≠ '?')
  pathText path ++ encode escapedInQuery query

/-! ## Hosts -/

/-- The characters of a host name. -/
def isHostChar (c : Char) : Bool := c.isAlphanum || c ∈ "-._~!$&'()*+,;=".toList

def defaultPort (secure : Bool) : Nat := if secure then 443 else 80

/-- A port by its digits. Without digits it is the one of the scheme. -/
def port? (secure : Bool) (digits : List Char) : Option Nat :=
  if digits.isEmpty then some (defaultPort secure)
  else if digits.all Char.isDigit then
    let port := Decimal.digitsValue digits
    if port < Nat.pow 2 16 then some port else none
  else none

/-- A text behind its last occurrence of a character, or all of it. -/
def behindLast (mark : Char) (text : List Char) : List Char :=
  (text.reverse.takeWhile (· ≠ mark)).reverse

/-- The address of a host, perhaps with a port, and a target. -/
def ofParts? (secure : Bool) (hostAndPort target : List Char) : Option Address := do
  let host := hostAndPort.takeWhile (· ≠ ':')
  let port ← port? secure (hostAndPort.drop (host.length + 1))
  if host.isEmpty || !host.all isHostChar then none
  else some ⟨secure, String.ofList (host.map Char.toLower), port, String.ofList target⟩

/-! ## Reading -/

/-- The text without the blanks around it and without tabs and line breaks. -/
def cleaned (text : List Char) : List Char :=
  let isEdge (c : Char) : Bool := c.toNat ≤ 0x20
  let trimmed := ((text.dropWhile isEdge).reverse.dropWhile isEdge).reverse
  trimmed.filter fun c => !(c ∈ ['\t', '\n', '\r'])

/-- The address that a text names, if it is one of the web. -/
def ofText? (text : String) : Option Address :=
  let text := cleaned text.toList
  let scheme := String.ofList ((text.takeWhile (· ≠ ':')).map Char.toLower)
  let rest := (text.drop (scheme.length + 1)).dropWhile isSlash
  let authority := rest.takeWhile fun c => !endsHost c
  let target := targetText (rest.drop authority.length)
  let host := behindLast '@' authority
  if scheme = "http" then ofParts? false host target
  else if scheme = "https" then ofParts? true host target
  else none

end Address

end Metasearch
