import Metasearch.Json.Basic

set_option autoImplicit false

/-! # The tables of a TOML document

A document is read line by line into a tree of tables. The tree remembers how each table came
about, because that decides what later lines may add to it: a table opened by a header cannot
be opened again or extended by a dotted key, and a value written inline is closed.
-/

namespace Metasearch.Config.Toml

/-- A node of the tree under construction. -/
inductive Node where
  /-- A finished value. -/
  | value (value : Json)
  /-- A table. It is `implicit` if no header has opened it, and `dotted` if a dotted key has
  made it. -/
  | table (implicit dotted : Bool) (entries : List (String × Node))
  /-- The tables of an array, the last of which is open. -/
  | tables (closed : List (List (String × Node))) (last : List (String × Node))

abbrev Entries := List (String × Node)

/-- Sets a name: in place if it is present, else at the end. -/
def setNode (name : String) (node : Node) : Entries → Entries
  | [] => [(name, node)]
  | (other, old) :: rest =>
    if other = name then (name, node) :: rest else (other, old) :: setNode name node rest

/-- A change to the entries of a table, which is told whether a dotted key has made it. -/
abbrev Change := Bool → Entries → Option Entries

/-- Carries out a change at the end of a path. Tables that are missing on the way are made.
A path of a `dotted` key may only lead through tables that no header has opened. -/
def descend (dotted : Bool) (path : List String) (change : Change) : Change :=
  match path with
  | [] => change
  | name :: path => fun _ entries =>
    match entries.lookup name with
    | none =>
      (descend dotted path change dotted []).map fun inner =>
        setNode name (.table true dotted inner) entries
    | some (.value _) => none
    | some (.tables closed last) =>
      (descend dotted path change false last).map fun last =>
        setNode name (.tables closed last) entries
    | some (.table implicit madeByDots inner) =>
      if dotted && !implicit then none
      else
        (descend dotted path change madeByDots inner).map fun inner =>
          setNode name (.table implicit madeByDots inner) entries

/-- Opens the table with a given name. -/
def openTable (name : String) : Change := fun _ entries =>
  match entries.lookup name with
  | none => some (setNode name (.table false false []) entries)
  | some (.table true false inner) => some (setNode name (.table false false inner) entries)
  | some _ => none

/-- Adds a table to the array with a given name. -/
def addTable (name : String) : Change := fun _ entries =>
  match entries.lookup name with
  | none => some (setNode name (.tables [] []) entries)
  | some (.tables closed last) => some (setNode name (.tables (closed ++ [last]) []) entries)
  | some _ => none

/-- Sets a name that is not set yet, in a table that a dotted key has made exactly if the name
is the last part of one. -/
def addValue (dotted : Bool) (name : String) (value : Json) : Change := fun madeByDots entries =>
  if madeByDots = dotted ∧ (entries.lookup name).isNone then
    some (setNode name (.value value) entries)
  else none

/-- Sets the value of a key whose last part is `name` and whose other parts are `path`. -/
def setKey (path : List String) (name : String) (value : Json) : Change :=
  descend true path (addValue (!path.isEmpty) name value)

mutual

/-- The value of a finished node. -/
def Node.toJson : Node → Json
  | .value value => value
  | .table _ _ entries => .object (fieldsOf entries)
  | .tables closed last => .array (objectsOf closed ++ [.object (fieldsOf last)])

/-- The entries of a finished table. -/
def fieldsOf : List (String × Node) → List (String × Json)
  | [] => []
  | (name, node) :: rest => (name, node.toJson) :: fieldsOf rest

def objectsOf : List (List (String × Node)) → List Json
  | [] => []
  | entries :: rest => .object (fieldsOf entries) :: objectsOf rest

end

end Metasearch.Config.Toml
