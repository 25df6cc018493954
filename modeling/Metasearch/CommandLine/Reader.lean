import Metasearch.CommandLine.Basic
import Metasearch.Decimal.Numeral
import Metasearch.Json.Basic

set_option autoImplicit false

/-! # Reading a command line

A command line holds settings and operands, first those of the program, then the name of a
command and those of the command. A setting has a value, in the same word or in the next; the
word `--` turns all that follow into operands. Words are read from left to right and the first
fault ends the reading, as does a call for help. One fault waits: the last value given before
the name of the command is only looked at after the words behind it.
-/

namespace Metasearch.CommandLine

/-! ## Words -/

/-- A word by its outer form. -/
inductive Word where
  | operand (text : String)
  /-- The word after which all others are operands. -/
  | separator
  | long (name : String) (value : Option String)
  | short (letter : Char) (attached : List Char)
  deriving Repr, DecidableEq

def Word.ofText (text : String) : Word :=
  match text.toList with
  | ['-', '-'] => .separator
  | '-' :: '-' :: rest =>
    let name := rest.takeWhile (· ≠ '=')
    .long (String.ofList name)
      (if name.length = rest.length then none
        else some (String.ofList (rest.drop (name.length + 1))))
  | '-' :: letter :: attached => .short letter attached
  | _ => .operand text

/-! ## Settings -/

inductive Setting where
  | engine
  | limit
  deriving Repr, DecidableEq

def Setting.name : Setting → String
  | .engine => "backend"
  | .limit => "limit"

/-- What a word that is no operand asks for. -/
inductive Request where
  | help
  /-- A setting, with its value if the word holds it. -/
  | set (setting : Setting) (value : Option String)

/-- A value in the same word as a letter, perhaps behind an equals sign. -/
def attachedValue : List Char → Option String
  | [] => none
  | '=' :: value => some (String.ofList value)
  | value => some (String.ofList value)

/-- The request of a word, if one of the given settings or help is meant. -/
def Word.request? (settings : List Setting) (word : Word) : Option Request :=
  let known (setting : Setting) (value : Option String) : Option Request :=
    if setting ∈ settings then some (.set setting value) else none
  match word with
  | .long name value =>
    if name = "help" then if value.isNone then some .help else none
    else if name = Setting.engine.name then known .engine value
    else if name = Setting.limit.name then known .limit value
    else none
  | .short letter attached =>
    if letter = 'h' then some .help
    else if letter = 'b' then known .engine (attachedValue attached)
    else none
  | _ => none

/-- The settings given so far. -/
structure Given where
  engine : Option Engine
  limit : Option Nat
  deriving Repr, DecidableEq

def Given.nothing : Given := ⟨none, none⟩

/-- Takes up the value of a setting. -/
def Given.put (given : Given) (setting : Setting) (value : String) : Except Stop Given :=
  let bad : Except Stop Given := .error (.misuse (.badValue setting.name value))
  match setting with
  | .engine =>
    if given.engine.isSome then .error (.misuse (.repeated setting.name))
    else
      match engineOf? value with
      | some engine => .ok { given with engine := some engine }
      | none => bad
  | .limit =>
    if given.limit.isSome then .error (.misuse (.repeated setting.name))
    else
      match Decimal.wholeOfChars? wordBound value.toList with
      | some limit => .ok { given with limit := some limit }
      | none => bad

/-! ## Commands -/

def CommandName.settings : CommandName → List Setting
  | .query => [.engine, .limit]
  | _ => [.engine]

/-- How many operands a command takes at most. -/
def CommandName.operandLimit : CommandName → Nat
  | .query => 2
  | _ => 1

/-- What the first operand of a command is called. -/
def CommandName.operandName : CommandName → String
  | .query => "INDEX"
  | .search => "PAYLOAD"
  | .multi => "PAYLOAD"
  | .schema => "DIR"

/-- Whether an operand may be the empty text; the name of a file may not. -/
def CommandName.allowsEmpty : CommandName → Bool
  | .query => true
  | _ => false

/-- Takes up an operand of a command. -/
def takeOperand (name : CommandName) (operands : List String) (operand : String) :
    Except Stop (List String) :=
  if name.operandLimit ≤ operands.length then .error (.misuse (.unexpected operand))
  else if operand = "" ∧ !name.allowsEmpty then .error (.misuse (.missing name.operandName))
  else .ok (operands ++ [operand])

/-- Reads the words behind the name of a command. -/
def readWords (name : CommandName) (given : Given) (operands : List String) :
    List String → Except Stop (Given × List String)
  | [] => .ok (given, operands)
  | text :: rest =>
    match Word.ofText text with
    | .operand operand => do
      let operands ← takeOperand name operands operand
      readWords name given operands rest
    | .separator => do
      let operands ← rest.foldlM (takeOperand name) operands
      return (given, operands)
    | word =>
      match word.request? name.settings with
      | none => .error (.misuse (.unexpected text))
      | some .help => .error (.help (.command name))
      | some (.set setting (some value)) => do
        let given ← given.put setting value
        readWords name given operands rest
      | some (.set setting none) =>
        match rest with
        | [] => .error (.misuse (.noValue setting.name))
        | next :: rest =>
          match Word.ofText next with
          | .operand value => do
            let given ← given.put setting value
            readWords name given operands rest
          | _ => .error (.misuse (.noValue setting.name))

/-- The command with the given operands. -/
def commandOf (name : CommandName) (limit : Option Nat) (operands : List String) :
    Except Stop Command :=
  match operands with
  | [] => .error (.misuse (.missing name.operandName))
  | first :: rest =>
    match name with
    | .query => .ok (.query first (rest.head?.getD "") (limit.getD defaultLimit))
    | .search => .ok (.search first)
    | .multi => .ok (.multi first)
    | .schema => .ok (.schema first)

/-- The topic that the words behind `help` name. -/
def topicOf : List String → Except Stop Topic
  | [] => .ok .program
  | [word] =>
    match CommandName.ofText? word with
    | some name => .ok (.command name)
    | none => if word = "help" then .ok .help else .error (.misuse (.unknownCommand word))
  | _ :: word :: _ => .error (.misuse (.unknownCommand word))

/-! ## The whole line -/

/-- Takes up a value that waited. -/
def resolve (given : Given) : Option (Setting × String) → Except Stop Given
  | none => .ok given
  | some (setting, value) => given.put setting value

/-- Reads the words of the program: `given` with the value `waiting` after it. A setting of
the command goes before one of the program. -/
def readProgram (given : Given) (waiting : Option (Setting × String)) :
    List String → Except Stop Invocation
  | [] => do
    let _ ← resolve given waiting
    .error (.misuse .noCommand)
  | text :: rest =>
    match Word.ofText text with
    | .operand operand =>
      match CommandName.ofText? operand with
      | some name => do
        let (inner, operands) ← readWords name Given.nothing [] rest
        let outer ← resolve given waiting
        let command ← commandOf name inner.limit operands
        return ⟨(inner.engine.or outer.engine).getD defaultEngine, command⟩
      | none =>
        if operand = "help" then do
          let topic ← topicOf rest
          .error (.help topic)
        else .error (.misuse (.unknownCommand operand))
    | .separator =>
      match rest with
      | [] => .error (.misuse .noCommand)
      | next :: _ => .error (.misuse (.unexpected next))
    | word => do
      let given ← resolve given waiting
      match word.request? [.engine] with
      | none => .error (.misuse (.unexpected text))
      | some .help => .error (.help .program)
      | some (.set setting (some value)) => do
        let given ← given.put setting value
        readProgram given none rest
      | some (.set setting none) =>
        match rest with
        | [] => .error (.misuse (.noValue setting.name))
        | next :: rest =>
          match Word.ofText next with
          | .operand value => readProgram given (some (setting, value)) rest
          | _ => .error (.misuse (.noValue setting.name))

/-- Reads a command line. -/
def read (words : List String) : Except Stop Invocation := readProgram Given.nothing none words

end Metasearch.CommandLine
