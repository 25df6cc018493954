import Metasearch.Text.Blank

set_option autoImplicit false

/-! # File trees

Settings lie in a directory tree. A tree is a value here, so that loading from it is a
function; a path is the list of its names from the root down.

A path given as text is followed name by name, and every name on the way is looked up in a
folder that exists. So `a/../b` leads to `b` only if there is a folder `a`, and nothing lies
behind a file, not even `.` or the empty name after a slash at the end. A text that starts with
a slash or leads above the root leads out of the tree.
-/

namespace Metasearch

/-- The names of a path from the root down. -/
abbrev Path := List String

/-- A file with its bytes, or a folder. -/
inductive FileTree where
  | file (content : ByteArray)
  | folder (entries : List (String × FileTree))

namespace Path

/-- The names in the text of a path, as they stand between its slashes. -/
def names (text : String) : List String := (Text.splitOn '/' text.toList).map String.ofList

/-- Whether a name leads nowhere: it is empty or `.`. -/
def isIdle (name : String) : Bool := name = "" || name = "."

/-- Paths in the order of their names, compared from the root down. -/
def le : Path → Path → Bool
  | [], _ => true
  | _ :: _, [] => false
  | a :: as, b :: bs => if a = b then le as bs else a < b

end Path

namespace FileTree

def emptyFolder : FileTree := .folder []

/-- The entries of a folder; a file has none. -/
def entries : FileTree → List (String × FileTree)
  | .file _ => []
  | .folder entries => entries

/-- The tree at a path. -/
def get? : FileTree → Path → Option FileTree
  | tree, [] => some tree
  | tree, name :: path => (tree.entries.lookup name).bind fun child => get? child path

/-- Sets an entry: in place if it is present, else at the end. -/
def setEntry (name : String) (child : FileTree) :
    List (String × FileTree) → List (String × FileTree)
  | [] => [(name, child)]
  | (other, old) :: rest =>
    if other = name then (name, child) :: rest else (other, old) :: setEntry name child rest

/-- Puts a tree at a path and makes the folders that lead to it. -/
def set (tree : FileTree) (path : Path) (content : FileTree) : FileTree :=
  match path with
  | [] => content
  | name :: path =>
    let child := (tree.entries.lookup name).getD emptyFolder
    .folder (setEntry name (set child path content) tree.entries)

/-- Removes what is at a path. -/
def erase (tree : FileTree) (path : Path) : FileTree :=
  match path with
  | [] => emptyFolder
  | [name] => .folder (tree.entries.filter fun entry => entry.1 ≠ name)
  | name :: path =>
    match tree.entries.lookup name with
    | none => tree
    | some child => .folder (setEntry name (erase child path) tree.entries)

/-! ## Paths as text -/

/-- The path of what names lead to from the folder at `here`. -/
def follow? (tree : FileTree) (here : Path) : List String → Option Path
  | [] => some here
  | name :: rest =>
    match tree.get? here with
    | some (.folder entries) =>
      if Path.isIdle name then follow? tree here rest
      else if name = ".." then
        if here.isEmpty then none else follow? tree here.dropLast rest
      else if (entries.lookup name).isSome then follow? tree (here ++ [name]) rest
      else none
    | _ => none

/-- The path of what a text leads to. -/
def locate? (tree : FileTree) (text : String) : Option Path :=
  if text.startsWith "/" then none else tree.follow? [] (Path.names text)

/-- What a text leads to. -/
def find? (tree : FileTree) (text : String) : Option FileTree :=
  (tree.locate? text).bind tree.get?

/-- The content of the file that a text leads to. -/
def content? (tree : FileTree) (text : String) : Option ByteArray :=
  match tree.find? text with
  | some (.file content) => some content
  | _ => none

/-- Makes the folders that names lead through from the folder at `here`, as far as they are
missing, and tells the path of the last one. A file in the way ends it. -/
def makeWay (tree : FileTree) (here : Path) : List String → FileTree × Option Path
  | [] => (tree, some here)
  | name :: rest =>
    if Path.isIdle name then makeWay tree here rest
    else if name = ".." then
      if here.isEmpty then (tree, none) else makeWay tree here.dropLast rest
    else
      match tree.get? (here ++ [name]) with
      | some (.folder _) => makeWay tree (here ++ [name]) rest
      | some (.file _) => (tree, none)
      | none => makeWay (tree.set (here ++ [name]) emptyFolder) (here ++ [name]) rest

/-- The last name of a text, leaving out slashes at its end. -/
def lastName? (text : String) : Option String := ((Path.names text).filter (· ≠ "")).getLast?

/-- Makes a folder, with the folders that lead to it. The name `.` stands only for a folder that
is there, so at the end of a text it keeps the folder before it from being made. -/
def makeFolder (tree : FileTree) (text : String) : FileTree :=
  if text.startsWith "/" then tree
  else
    let steps := (Path.names text).filter fun name => !Path.isIdle name
    (tree.makeWay [] (if lastName? text = some "." then steps.dropLast else steps)).1

/-- Puts a file into a folder, unless a folder has its name. -/
def putFile (tree : FileTree) (place : Path) (name : String) (content : ByteArray) : FileTree :=
  match tree.get? (place ++ [name]) with
  | some (.folder _) => tree
  | _ => tree.set (place ++ [name]) (.file content)

/-- Writes a file, and makes the folders that lead to it. The folders are made even where the
file cannot be written, because its name is `..` or something stands behind it. -/
def writeFile (tree : FileTree) (text : String) (content : ByteArray) : FileTree :=
  if text.startsWith "/" then tree
  else
    let names := Path.names text
    let steps := names.filter fun name => !Path.isIdle name
    match steps.getLast?, tree.makeWay [] steps.dropLast with
    | some name, (tree, some place) =>
      if names.getLast? = some name ∧ name ≠ ".." then tree.putFile place name content else tree
    | _, (tree, _) => tree

/-- Removes a file, or a folder with all that is in it. A folder that is named by `.` or `..`
is only emptied. -/
def remove? (tree : FileTree) (text : String) : Option FileTree := do
  let path ← tree.locate? text
  let name := lastName? text
  if name = some "." ∨ name = some ".." then some (tree.set path emptyFolder)
  else some (tree.erase path)

/-! ## All files -/

mutual

/-- All files of a tree with their paths, which start with `above`. -/
def files (above : Path) : FileTree → List (Path × ByteArray)
  | .file content => [(above, content)]
  | .folder entries => filesOfAll above entries

def filesOfAll (above : Path) : List (String × FileTree) → List (Path × ByteArray)
  | [] => []
  | (name, tree) :: rest => files (above ++ [name]) tree ++ filesOfAll above rest

end

end FileTree

end Metasearch
