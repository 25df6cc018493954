import Metasearch.Config.Toml.Scalar
import Metasearch.Config.Toml.Table

set_option autoImplicit false

/-! # Reading TOML documents

A document is a sequence of lines: headers that open a table, and keys with values that are
added to the table opened last. A value may be an array over several lines or a table within
one. A document with any fault is refused as a whole.

The readers of nested values call each other, so they carry a bound on the number of calls.
Every call takes at least one character off the text, or is made by one that does, so twice
the length of the text is never reached (`valueOf?`). Apart from that, no more than
`depthLimit` arrays and inline tables may lie within each other.
-/

namespace Metasearch.Config.Toml

/-! ## Between the values -/

/-- What follows a comment, if there is one; it runs to the end of the line. -/
def skipComment : List Char → List Char
  | '#' :: rest => rest.dropWhile isLineChar
  | text => text

/-- What follows the end of a line, which may hold spaces and a comment. -/
def lineEnd? (text : List Char) : Option (List Char) :=
  match skipComment (skipSpaces text) with
  | [] => some []
  | rest => newline? rest

/-- Skips spaces, line breaks and comments. A comment ends with its line. -/
def skipBlank? (fuel : Nat) (text : List Char) : Option (List Char) :=
  match fuel with
  | 0 => none
  | fuel + 1 =>
    match skipSpaces text with
    | '#' :: rest => (newline? (rest.dropWhile isLineChar)).bind (skipBlank? fuel)
    | rest =>
      match newline? rest with
      | some rest => skipBlank? fuel rest
      | none => some rest

/-- Skips everything between two items of an array. -/
def skipBetween? (text : List Char) : Option (List Char) := skipBlank? (text.length + 1) text

/-! ## Values -/

mutual

/-- Reads a value, in which `depth` arrays and tables may lie within each other. -/
def value? (fuel depth : Nat) (text : List Char) : Option (Json × List Char) :=
  match fuel with
  | 0 => none
  | fuel + 1 =>
    match text with
    | '[' :: rest =>
      match depth with
      | 0 => none
      | depth + 1 => do
        let (items, rest) ← items? fuel depth (← skipBetween? rest)
        some (.array items, rest)
    | '{' :: rest =>
      match depth with
      | 0 => none
      | depth + 1 =>
        match skipSpaces rest with
        | '}' :: rest => some (.object [], rest)
        | rest => do
          let (entries, rest) ← pairs? fuel depth [] rest
          some (.object (fieldsOf entries), rest)
    | text =>
      match string? text with
      | some (text, rest) => some (.string text, rest)
      | none => bare? text

/-- Reads the items of an array and its closing bracket. A comma may follow the last item. -/
def items? (fuel depth : Nat) (text : List Char) : Option (List Json × List Char) :=
  match fuel with
  | 0 => none
  | fuel + 1 =>
    match text with
    | ']' :: rest => some ([], rest)
    | text => do
      let (item, rest) ← value? fuel depth text
      match ← skipBetween? rest with
      | ',' :: rest => do
        let (items, rest) ← items? fuel depth (← skipBetween? rest)
        some (item :: items, rest)
      | ']' :: rest => some ([item], rest)
      | _ => none

/-- Reads the pairs of an inline table and its closing brace, after those in `entries`. -/
def pairs? (fuel depth : Nat) (entries : Entries) (text : List Char) :
    Option (Entries × List Char) :=
  match fuel with
  | 0 => none
  | fuel + 1 => do
    let (key, rest) ← key? text
    let (value, rest) ← value? fuel depth (skipSpaces (← after? '=' rest))
    let name ← key.getLast?
    let entries ← setKey key.dropLast name value false entries
    match skipSpaces rest with
    | ',' :: rest => pairs? fuel depth entries rest
    | '}' :: rest => some (entries, rest)
    | _ => none

end

/-- Reads a value with what surrounds it on its line. -/
def valueOf? (text : List Char) : Option (Json × List Char) :=
  value? (2 * text.length + 2) depthLimit (skipSpaces text)

/-! ## Lines -/

/-- What has been read so far: the tree, and the header that is in force. -/
structure Document where
  root : Entries
  header : List String

namespace Document

/-- An empty document. -/
def empty : Document := ⟨[], []⟩

/-- Opens a table by a header line, after its opening bracket. -/
def header? (document : Document) (text : List Char) : Option (Document × List Char) := do
  let (key, rest) ← key? text
  let rest ← lineEnd? (← after? ']' rest)
  let name ← key.getLast?
  let root ← descend false key.dropLast (openTable name) false document.root
  some (⟨root, key⟩, rest)

/-- Adds a table to an array by a header line, after its opening brackets. -/
def arrayHeader? (document : Document) (text : List Char) : Option (Document × List Char) := do
  let (key, rest) ← key? text
  let rest ← lineEnd? (← after? ']' (← after? ']' rest))
  let name ← key.getLast?
  let root ← descend false key.dropLast (addTable name) false document.root
  some (⟨root, key⟩, rest)

/-- Adds the value of a key. -/
def keyValue? (document : Document) (text : List Char) : Option (Document × List Char) := do
  let (key, rest) ← key? text
  let (value, rest) ← valueOf? (← after? '=' rest)
  let rest ← lineEnd? rest
  let name ← key.getLast?
  let root ← descend false document.header (setKey key.dropLast name value) false document.root
  some (⟨root, document.header⟩, rest)

/-- Takes in the first line of a text. -/
def line? (document : Document) (text : List Char) : Option (Document × List Char) :=
  match skipSpaces text with
  | [] => some (document, [])
  | '#' :: rest => (lineEnd? ('#' :: rest)).map fun rest => (document, rest)
  | '[' :: '[' :: rest => document.arrayHeader? rest
  | '[' :: rest => document.header? rest
  | text =>
    match newline? text with
    | some rest => some (document, rest)
    | none => document.keyValue? text

/-- Takes in a text line by line. Every line but an empty last one takes a character. -/
def lines? (document : Document) (text : List Char) : Option Document :=
  match document.line? text with
  | none => none
  | some (document, []) => some document
  | some (document, rest) => if rest.length < text.length then document.lines? rest else none
termination_by text.length

end Document

/-- Reads a document. A byte order mark at its front is skipped. -/
def read? (text : String) : Option Fields :=
  let text :=
    match text.toList with
    | '\ufeff' :: rest => rest
    | rest => rest
  (Document.empty.lines? text).map fun document => fieldsOf document.root

end Metasearch.Config.Toml
