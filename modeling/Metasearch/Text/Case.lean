import Metasearch.Text.CaseTable

set_option autoImplicit false

/-! # Lowercase

Texts are compared without regard to case by lowering both. Lowering goes character by
character, with two exceptions: the dotted capital I becomes two characters, and a capital
sigma at the end of a word becomes the final form of the letter.
-/

namespace Metasearch.Text

/-- The lowercase form of a character outside ASCII, by the table. -/
def lowerByTable (c : Char) : Char :=
  match lowercaseRuns.find? fun run =>
    run.first ≤ c.toNat && c.toNat ≤ run.last && (c.toNat - run.first) % run.step == 0 with
  | some run => Char.ofNat (c.toNat + run.shift).toNat
  | none => c

/-- The lowercase form of a character taken alone. -/
def lowerChar (c : Char) : List Char :=
  if c.toNat < 0x80 then [c.toLower]
  else if c.toNat = 0x130 then ['i', '\u0307']
  else [lowerByTable c]

def isCased (c : Char) : Bool := inRanges casedRanges c.toNat

def isCaseIgnorable (c : Char) : Bool := inRanges caseIgnorableRanges c.toNat

/-- Whether a letter comes first once the characters that case ignores are skipped. -/
def startsCased (text : List Char) : Bool :=
  match text.dropWhile isCaseIgnorable with
  | [] => false
  | c :: _ => isCased c

/-- The lowercase sigma between what comes before (last first) and what follows: the final
form at the end of a word. -/
def lowerSigma (before after : List Char) : Char :=
  if startsCased before && !startsCased after then 'ς' else 'σ'

/-- The lowercase form of a text that follows the characters `before` (last first). -/
def lowercaseAfter (before : List Char) : List Char → List Char
  | [] => []
  | c :: rest =>
    (if c = 'Σ' then [lowerSigma before rest] else lowerChar c) ++ lowercaseAfter (c :: before) rest

/-- The lowercase form of a text. -/
def lowercase (text : List Char) : List Char := lowercaseAfter [] text

/-- The lowercase form of a text whose letters beyond ASCII are left alone. -/
def lowercaseAscii (text : String) : String := String.ofList (text.toList.map Char.toLower)

end Metasearch.Text
