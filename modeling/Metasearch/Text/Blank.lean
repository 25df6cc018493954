set_option autoImplicit false

/-! # Blank characters

The characters with the Unicode property White_Space, and the operations on text that stop at
them: cutting blanks off both ends, and splitting into words. The last functions split at a
single given character or ending.
-/

namespace Metasearch.Text

/-- The Unicode property White_Space. -/
def isBlank (c : Char) : Bool :=
  let code := c.toNat
  (0x9 ≤ code && code ≤ 0xD) || code == 0x20 || code == 0x85 || code == 0xA0 || code == 0x1680
    || (0x2000 ≤ code && code ≤ 0x200A) || code == 0x2028 || code == 0x2029 || code == 0x202F
    || code == 0x205F || code == 0x3000

/-- A text without the blanks at its start. -/
def trimStart (text : List Char) : List Char := text.dropWhile isBlank

/-- A text without the blanks at its end. -/
def trimEnd (text : List Char) : List Char := (text.reverse.dropWhile isBlank).reverse

/-- A text without the blanks at its two ends. -/
def trim (text : List Char) : List Char := trimEnd (trimStart text)

/-- Whether a text has no character that is not blank. -/
def allBlank (text : List Char) : Bool := text.all isBlank

/-- Splits a text that goes on after the characters `word` (last first). -/
def wordsAfter (word : List Char) : List Char → List (List Char)
  | [] => if word.isEmpty then [] else [word.reverse]
  | c :: rest =>
    if isBlank c then
      if word.isEmpty then wordsAfter [] rest else word.reverse :: wordsAfter [] rest
    else wordsAfter (c :: word) rest

/-- The maximal runs of characters that are not blank. -/
def words (text : List Char) : List (List Char) := wordsAfter [] text

/-- The pieces of a text between the occurrences of a character. There is always one more
piece than there are occurrences. -/
def splitOn (separator : Char) : List Char → List (List Char)
  | [] => [[]]
  | c :: rest =>
    if c = separator then [] :: splitOn separator rest
    else
      match splitOn separator rest with
      | [] => [[c]]
      | piece :: pieces => (c :: piece) :: pieces

/-- The text before a given ending, if it has that ending. -/
def dropSuffix? (suffix text : List Char) : Option (List Char) :=
  if suffix.isSuffixOf text then some (text.take (text.length - suffix.length)) else none

end Metasearch.Text
