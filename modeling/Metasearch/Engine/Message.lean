import Metasearch.Engine.Address
import Metasearch.Engine.Connection
import Metasearch.Json.Printer

set_option autoImplicit false

/-! # Messages

A call travels as one HTTP message: a request line, headers, and the body as JSON text. One
connection carries one message, so the answer ends where the connection does; an answer sent in
chunks is put together again.
-/

namespace Metasearch.Message

/-- The headers of a message with the given body, besides those of the connection. -/
def ownHeaders (address : Address) (body : String) : List (String × String) :=
  [("Host", address.host ++ ":" ++ toString address.port), ("Accept", "*/*"),
    ("Content-Type", "application/json"), ("Content-Length", toString body.utf8ByteSize),
    ("Connection", "close")]

def headerLine (header : String × String) : String := header.1 ++ ": " ++ header.2 ++ "\r\n"

/-- The text of a message. -/
def request (connection : Connection) (address : Address) (call : Call) : String :=
  let body := call.body.compact
  let headers := ownHeaders address body ++ connection.headers
  "POST " ++ address.target ++ " HTTP/1.1\r\n" ++ "".intercalate (headers.map headerLine)
    ++ "\r\n" ++ body

/-! ## Answers -/

/-- An answer as it was sent. -/
structure Response where
  status : Nat
  body : List UInt8

/-- Splits bytes at the first line break, which is no part of the line. -/
def splitLine? (bytes : List UInt8) : Option (List UInt8 × List UInt8) :=
  match bytes with
  | [] => none
  | 13 :: 10 :: rest => some ([], rest)
  | byte :: rest => (splitLine? rest).map fun (line, rest) => (byte :: line, rest)

theorem splitLine?_length {bytes line rest : List UInt8}
    (h : splitLine? bytes = some (line, rest)) :
    rest.length < bytes.length := by
  induction bytes generalizing line with
  | nil => simp [splitLine?] at h
  | cons byte bytes ih =>
    unfold splitLine? at h
    split at h
    · contradiction
    · next heq =>
      cases heq
      cases h
      simp only [List.length_cons]
      omega
    · next tail _ heq =>
      cases heq
      cases hl : splitLine? bytes with
      | none => simp [hl] at h
      | some found =>
        obtain ⟨first, others⟩ := found
        simp only [hl, Option.map_some, Option.some.injEq, Prod.mk.injEq] at h
        obtain ⟨_, rfl⟩ := h
        have := ih hl
        simp only [List.length_cons]
        omega

/-- The characters of a line of ASCII. -/
def lineText (line : List UInt8) : List Char := line.map fun byte => Char.ofNat byte.toNat

/-- The lines up to the empty one, and what follows it. -/
def headLines? (bytes : List UInt8) : Option (List (List Char) × List UInt8) :=
  match h : splitLine? bytes with
  | none => none
  | some (line, rest) =>
    have := splitLine?_length h
    if line.isEmpty then some ([], rest)
    else (headLines? rest).map fun (lines, rest) => (lineText line :: lines, rest)
termination_by bytes.length

/-- The status in the first line of an answer. -/
def status? (line : List Char) : Option Nat :=
  match Text.words line with
  | _ :: status :: _ => (String.ofList status).toNat?
  | _ => none

/-- The name of a header in lowercase, and its value. -/
def headerOf (line : List Char) : String × String :=
  let name := line.takeWhile (· ≠ ':')
  (String.ofList (name.map Char.toLower),
    String.ofList (Text.trim (line.drop (name.length + 1))))

/-- The number that some hexadecimal digits stand for, up to the first other character. -/
def hexNumber (number : Nat) : List Char → Nat
  | [] => number
  | c :: rest =>
    if c.isDigit then hexNumber (16 * number + (c.toNat - '0'.toNat)) rest
    else if 'a' ≤ c.toLower && c.toLower ≤ 'f' then
      hexNumber (16 * number + (c.toLower.toNat - 'a'.toNat + 10)) rest
    else number

/-- Puts chunks together, up to the empty one that ends them. -/
def joinChunks (bytes : List UInt8) : List UInt8 :=
  match h : splitLine? bytes with
  | none => []
  | some (line, rest) =>
    have := splitLine?_length h
    let size := hexNumber 0 (lineText line)
    if size = 0 then [] else rest.take size ++ joinChunks (rest.drop (size + 2))
termination_by bytes.length
decreasing_by simp only [List.length_drop]; omega

/-- Reads an answer. -/
def Response.read? (bytes : List UInt8) : Option Response := do
  let (lines, rest) ← headLines? bytes
  let (first, others) ← match lines with
    | first :: others => some (first, others)
    | [] => none
  let status ← status? first
  let headers := others.map headerOf
  if headers.lookup "transfer-encoding" = some "chunked" then some ⟨status, joinChunks rest⟩
  else
    match (headers.lookup "content-length").bind String.toNat? with
    | some length => some ⟨status, rest.take length⟩
    | none => some ⟨status, rest⟩

/-- What an answer means to the one who asked. -/
def answer (bytes : ByteArray) : Except Failure Json :=
  match Response.read? bytes.toList with
  | none => .error (.connection "no answer that could be read")
  | some response =>
    let text := String.fromUTF8? (ByteArray.mk response.body.toArray)
    Connection.answer response.status (text.getD "")

end Metasearch.Message
