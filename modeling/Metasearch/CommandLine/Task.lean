import Metasearch.CommandLine.Basic
import Metasearch.Engine.Connection
import Metasearch.Engine.Searcher

set_option autoImplicit false

/-! # What an invocation does

An invocation either prints the schema of a folder or searches and prints the hits. What it
does is a function of its surroundings: the environment, the files and the standard input. The
search itself is a function of the answers of the engine, so that the calls it makes are known
before any is sent.
-/

namespace Metasearch.CommandLine

/-- What an invocation can see around it. -/
structure Surroundings where
  environment : Config.Environment.Variables
  /-- The content of a configuration file, if there is one. -/
  settings : String → Option ByteArray
  /-- The content of a payload file, if there is one. -/
  file : String → Option ByteArray
  /-- The tree of a folder, if there is one. -/
  folder : String → Option FileTree
  input : ByteArray

/-- Why an invocation fails. -/
inductive Fault where
  | failed (failure : Failure)
  | unreadable (payload : String)
  | notJson

def Fault.message : Fault → String
  | .failed failure => failure.message
  | .unreadable payload => "reading payload " ++ payload
  | .notJson => "payload is not valid JSON"

/-- What is left to do: to print a value, or to search. The outcome of a search depends on the
answers of the engine, which has so many milliseconds for each. -/
inductive Task where
  | print (value : Json)
  | search (connection : Connection) (timeout : Nat) (outcome : Transport → Outcome)

/-- The name of the file that stands for the standard input. -/
def inputName : String := "-"

/-- The file that holds the payload of a command. -/
def Command.payloadFile? : Command → Option String
  | .search payload => if payload = inputName then none else some payload
  | .multi payload => if payload = inputName then none else some payload
  | _ => none

/-- Whether a command takes its payload from the standard input. -/
def Command.readsInput : Command → Bool
  | .search payload => payload == inputName
  | .multi payload => payload == inputName
  | _ => false

/-- The folder with the settings that a command asks for. -/
def Command.folder? (command : Command) (config : Except Failure Config) : Option String :=
  match command, config with
  | .schema folder, _ => some folder
  | .query _ _ _, _ => none
  | _, .ok config => config.schemaDir?
  | _, .error _ => none

/-- The payload of a file or of the standard input. -/
def payloadOf (surroundings : Surroundings) (payload : String) : Except Fault Json :=
  let bytes? :=
    if payload = inputName then some surroundings.input else surroundings.file payload
  match bytes?.bind String.fromUTF8? with
  | none => .error (.unreadable payload)
  | some text =>
    match Json.read? text with
    | some value => .ok value
    | none => .error .notJson

/-- The schema that the configured folder holds. -/
def schemaOf? (surroundings : Surroundings) (engine : Engine) (config : Config) :
    Option Schema :=
  config.schemaDir?.map fun folder => Schema.load engine (surroundings.folder folder)

/-- The connection, the searcher and the schema that a configuration describes. -/
def Invocation.prepare (invocation : Invocation) (surroundings : Surroundings) :
    Except Fault (Connection × Searcher × Option Schema) := do
  let engine := invocation.engine
  let config ← (Config.load surroundings.settings surroundings.environment).mapError .failed
  let connection ← (Connection.ofConfig engine config).mapError .failed
  return (connection, ⟨engine, .ofConfig config, config.timeout⟩,
    schemaOf? surroundings engine config)

/-- What an invocation does in its surroundings. -/
def Invocation.task (invocation : Invocation) (surroundings : Surroundings) :
    Except Fault Task :=
  match invocation.command with
  | .schema folder =>
    .ok (.print (Schema.load invocation.engine (surroundings.folder folder)).toJson)
  | .query index text limit => do
    let (connection, searcher, _) ← invocation.prepare surroundings
    return .search connection searcher.timeout fun transport =>
      searcher.search transport 0 index text [] limit
  | .search payload => do
    let (connection, searcher, schema?) ← invocation.prepare surroundings
    let payload ← payloadOf surroundings payload
    return .search connection searcher.timeout fun transport =>
      searcher.searchFromJson schema? transport 0 payload
  | .multi payload => do
    let (connection, searcher, schema?) ← invocation.prepare surroundings
    let payload ← payloadOf surroundings payload
    return .search connection searcher.timeout fun transport =>
      searcher.multiSearchFromJson schema? transport 0 payload

/-- The calls that a search makes. They are the same whatever the engine answers. -/
def callsOf (outcome : Transport → Outcome) : List Call :=
  (outcome fun _ _ => ⟨0, .ok .null⟩).calls

/-- A value as it is printed. -/
def printed (value : Json) : String := value.pretty ++ "\n"

/-- What is printed after a search. -/
def printedHits (outcome : Outcome) : Except Fault String :=
  match outcome.result with
  | .ok hits => .ok (printed (.array (hits.map Hit.toJson)))
  | .error failure => .error (.failed failure)

end Metasearch.CommandLine
