import Metasearch.Config.Expansion
import Metasearch.Config.Toml.Reader
import Metasearch.Config.Wrapped
import Metasearch.Failure

set_option autoImplicit false

/-! # Configuration

A configuration is merged from several sources, later ones over earlier ones: tables are
merged key by key, and any other value replaces the one before it. A source that cannot be
read makes every key unreadable, but is no failure in itself.

Values are asked for by the path of their key and by kind. No kind is converted into another,
except that an integer will do for a floating-point number.
-/

namespace Metasearch

/-- The values of a configuration, or nothing if a source could not be read, and the
environment in which paths are expanded. -/
structure Config where
  values : Option Fields
  environment : Config.Environment.Variables

namespace Config

/-! ## Merging -/

mutual

/-- A value over an earlier one. -/
def mergeValue (earlier later : Json) : Json :=
  match later with
  | .object entries =>
    match earlier with
    | .object before => .object (mergeInto before entries)
    | _ => .object entries
  | later => later

/-- Entries over earlier ones. -/
def mergeInto (before : Fields) : List (String × Json) → Fields
  | [] => before
  | (name, value) :: rest =>
    mergeInto
      (Fields.insert before name
        (match Fields.get? before name with
        | some earlier => mergeValue earlier value
        | none => value))
      rest

end

/-- The entries of a table; any other value has none. -/
def tableOf : Json → Fields
  | .object entries => entries
  | _ => []

/-- The prefix of the variables that are settings. -/
def variablePrefix : String := "APP_"

/-- The settings of the environment, later variables over earlier ones. They are a source of
their own: a variable replaces the table that an earlier one has made, but not the table that
a file has made. -/
def ofVariables (environment : Environment.Variables) : Fields :=
  environment.foldl (fun values (name, text) =>
    match Environment.path? variablePrefix name with
    | some path => mergeInto values (tableOf (Environment.nest (Environment.looseValue text) path))
    | none => values) []

/-- The settings of a document. -/
def ofText? (text : String) : Option Fields := (Toml.read? text).bind unwrapEntries?

/-! ## Reading values -/

/-- The value at a path below a value. An empty name ends the path. -/
def find? (value : Json) : List String → Option Json
  | [] => some value
  | name :: path =>
    if name = "" then some value
    else
      match value with
      | .object entries => (Fields.get? entries name).bind fun inner => find? inner path
      | _ => none

/-- The value of a key, which names a path with points between its parts. -/
def value? (config : Config) (key : String) : Option Json :=
  config.values.bind fun values =>
    find? (.object values) ((Text.splitOn '.' key.toList).map String.ofList)

/-- The value of a key as read by `read`. -/
def get {α : Type} (config : Config) (read : Json → Option α) (key : String) :
    Except Failure α :=
  match (config.value? key).bind read with
  | some value => .ok value
  | none => .error (.invalidConfig (.unreadable key))

def readBool : Json → Option Bool
  | .bool value => some value
  | _ => none

/-- A signed 64-bit integer. -/
def readInt : Json → Option Int
  | .number (.integer value) => if value < Int.pow 2 63 then some value else none
  | _ => none

def readTexts : Json → Option (List String)
  | .array items => items.mapM Json.string?
  | _ => none

/-! ## The settings of a search -/

def advancedKey : String := "enable_advanced_search"

def minimumScoreKey : String := "minimum_ranking_score"

def schemaDirKey : String := "schema_settings_dir"

def timeoutKey : String := "request_timeout_ms"

/-- The time allowed for a request when none is configured, in milliseconds. -/
def defaultTimeout : Nat := 10000

/-- Whether hits are ranked once more after the engine has answered. -/
def advanced (config : Config) : Bool := ((config.value? advancedKey).bind readBool).getD false

/-- The ranking score below which hits are dropped. -/
def minimumScore (config : Config) : Float :=
  ((config.value? minimumScoreKey).bind Json.float?).getD 0

/-- The time allowed for a request, in milliseconds. -/
def timeout (config : Config) : Nat :=
  ((config.value? timeoutKey).bind Json.natural?).getD defaultTimeout

/-- The directory of the index settings. -/
def schemaDir? (config : Config) : Option String :=
  ((config.value? schemaDirKey).bind Json.string?).map (Expansion.expandPath config.environment)

/-- A configuration whose limits make sense. -/
def validate (config : Config) : Except Failure Config :=
  if config.minimumScore < 0 then .error (.invalidConfig (.negative minimumScoreKey))
  else if config.timeout = 0 then .error (.invalidConfig (.notPositive timeoutKey))
  else .ok config

/-- A configuration from one document alone. -/
def ofDocument (text : String) (environment : Environment.Variables) : Except Failure Config :=
  validate ⟨ofText? text, environment⟩

/-! ## Loading -/

/-- The variable that names the surroundings the program runs in. -/
def surroundingsVariable : String := "RUST_ENV"

/-- The file that is always read. -/
def baseFile : String := "config.toml"

/-- The file that is read after it in the given surroundings. -/
def surroundingsFile? (name : String) : Option String :=
  if name = "dev" ∨ name = "development" then some "config.dev.toml"
  else if name = "prod" ∨ name = "production" then some "config.prod.toml"
  else if name = "test" ∨ name = "testing" then some "config.test.toml"
  else none

/-- The files to read, in their order. -/
def fileNames (environment : Environment.Variables) : List String :=
  let surroundings := (environment.lookup surroundingsVariable).getD "dev"
  baseFile :: (surroundingsFile? surroundings).toList

/-- Values with those of a file over them. A missing file adds nothing. -/
def mergeFile (values : Option Fields) (content : Option ByteArray) : Option Fields :=
  match content with
  | none => values
  | some bytes => do
    let values ← values
    let text ← String.fromUTF8? bytes
    let entries ← ofText? text
    some (mergeInto values entries)

/-- A configuration from the files of a directory and the environment. `content` tells what a
file holds, if it exists. -/
def load (content : String → Option ByteArray) (environment : Environment.Variables) :
    Except Failure Config :=
  let files := (fileNames environment).foldl (fun values name => mergeFile values (content name))
    (some [])
  validate ⟨files.map fun values => mergeInto values (ofVariables environment), environment⟩

end Config

end Metasearch
