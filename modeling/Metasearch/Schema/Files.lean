import Metasearch.Json.Reader
import Metasearch.Schema.Basic
import Metasearch.Schema.FileTree

set_option autoImplicit false

/-! # Settings files

Every file with the extension `json` below the settings directory belongs to the index that
its name tells: `products.json` and `products.settings.json` hold the settings of `products`,
`products.types.json` its type hints. Where several files belong to one index, the one with
the last path counts. A file that does not hold a JSON object is passed over, so that one
broken file costs no other index its settings.
-/

namespace Metasearch

inductive SettingsKind where
  | settings
  | types
  deriving Repr, DecidableEq

def SettingsKind.name : SettingsKind → String
  | .settings => "settings"
  | .types => "types"

namespace SettingsFile

/-- The parts of a file name before and after its last dot, if a dot stands behind the first
character. -/
def splitExtension? (name : List Char) : Option (List Char × List Char) :=
  let reversed := name.reverse
  match (reversed.dropWhile (· ≠ '.')).drop 1 with
  | [] => none
  | before => some (before.reverse, (reversed.takeWhile (· ≠ '.')).reverse)

/-- A file name without its extension. -/
def stem (name : List Char) : List Char :=
  match splitExtension? name with
  | some (before, _) => before
  | none => name

/-- Whether a file name has the extension `json`, in any case. -/
def isJson (name : String) : Bool :=
  match splitExtension? name.toList with
  | some (_, extension) => extension.map Char.toLower = "json".toList
  | none => false

/-- The index a file name belongs to, and what the file holds. -/
def classifyName (name : String) : String × SettingsKind :=
  let stem := stem name.toList
  match Text.dropSuffix? ".types".toList stem with
  | some index => (String.ofList index, .types)
  | none =>
    match Text.dropSuffix? ".settings".toList stem with
    | some index => (String.ofList index, .settings)
    | none => (String.ofList stem, .settings)

/-- The last name of a path given as text; a path that ends with `..` or is empty has none. -/
def fileName? (path : String) : Option String :=
  let names := (Text.splitOn '/' path.toList).map String.ofList
  match (names.filter fun name => name ≠ "" ∧ name ≠ ".").getLast? with
  | none => none
  | some name => if name = ".." then none else some name

/-- The index that a path belongs to, and what the file holds. -/
def classify? (path : String) : Option (String × SettingsKind) :=
  (fileName? path).map classifyName

/-- The object that a file holds. -/
def readObject? (content : ByteArray) : Option Fields := do
  let text ← String.fromUTF8? content
  (← Json.read? text).object?

theorem fromUTF8?_toUTF8 (text : String) : String.fromUTF8? text.toUTF8 = some text :=
  dif_pos text.isValidUTF8

theorem readObject?_toUTF8 (text : String) :
    readObject? text.toUTF8 = (Json.read? text).bind Json.object? := by
  rw [readObject?, fromUTF8?_toUTF8]
  rfl

/-- The index, kind and object of a file, if it has a place in the schema. -/
def source? (file : Path × ByteArray) : Option (String × SettingsKind × Fields) := do
  let name ← file.1.getLast?
  if isJson name then
    let (index, kind) := classifyName name
    let object ← readObject? file.2
    some (index, kind, object)
  else none

/-- The sources below a folder in the order of their paths. -/
def sources (tree : FileTree) : List (String × SettingsKind × Fields) :=
  ((tree.files []).mergeSort fun a b => Path.le a.1 b.1).filterMap source?

/-- The objects of one kind by index. -/
def objectsOf (kind : SettingsKind) (sources : List (String × SettingsKind × Fields)) :
    List (String × Fields) :=
  (sources.filter fun source => source.2.1 == kind).map fun source => (source.1, source.2.2)

end SettingsFile

/-- The schema of the settings in a folder. Where there is no folder the schema is empty. -/
def Schema.load (engine : Engine) (tree? : Option FileTree) : Schema :=
  match tree? with
  | some (.folder entries) =>
    let sources := SettingsFile.sources (.folder entries)
    Schema.build engine (SettingsFile.objectsOf .settings sources)
      (SettingsFile.objectsOf .types sources)
  | _ => Schema.build engine [] []

end Metasearch
