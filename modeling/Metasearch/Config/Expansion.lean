import Metasearch.Config.Environment
import Metasearch.Text.Alphanumeric

set_option autoImplicit false

/-! # Paths with variables

A path in the configuration may refer to the home directory by a leading `~` and to variables
of the environment by `$NAME` or `${NAME}`; `${NAME:-text}` has a text for variables that are
not set. A path that refers to an unknown variable is left as it is, so that the mistake shows.
-/

namespace Metasearch.Config.Expansion

open Environment (Variables)

def isNameChar (c : Char) : Bool := Text.isAlphanumeric c || c = '_'

/-- The value of a variable. The environment is searched as lines `NAME=value` for one that
starts with the given name and an equals sign. So a name with an equals sign in it matches the
start of a value as well, and has the rest of it for its value. -/
def valueOf? (environment : Variables) (name : List Char) : Option (List Char) :=
  if name.isEmpty then none
  else
    environment.findSome? fun entry =>
      let line := entry.1.toList ++ '=' :: entry.2.toList
      if (name ++ ['=']).isPrefixOf line then some (line.drop (name.length + 1)) else none

/-- The parts of a reference in braces before and after the mark of a default, unless the name
is empty. -/
def splitDefault? (done : List Char) : List Char → Option (List Char × List Char)
  | ':' :: '-' :: rest =>
    if done.isEmpty then none else some (done.reverse, rest)
  | c :: rest => splitDefault? (c :: done) rest
  | [] => none

/-- What a reference in braces stands for. The default is for variables that are not set; one
that is set to an empty text stands for that. -/
def braced? (environment : Variables) (reference : List Char) : Option (List Char) :=
  let (name, default?) :=
    match splitDefault? [] reference with
    | some (name, text) => (name, some text)
    | none => (reference, none)
  (valueOf? environment name).or default?

/-- Replaces the references to variables, unless one of them is unknown. Two dollar signs
stand for one, and a dollar sign that opens no reference for itself. -/
def replace? (environment : Variables) (text : List Char) : Option (List Char) :=
  match text with
  | [] => some []
  | '$' :: '{' :: rest =>
    let reference := rest.takeWhile (· ≠ '\x7d')
    if _closed : reference.length < rest.length then do
      let value ← braced? environment reference
      let tail ← replace? environment (rest.drop (reference.length + 1))
      some (value ++ tail)
    else (replace? environment rest).map fun tail => '$' :: '\x7b' :: tail
  | '$' :: '$' :: rest => (replace? environment rest).map ('$' :: ·)
  | '$' :: rest =>
    let name := rest.takeWhile isNameChar
    if name.isEmpty then (replace? environment rest).map ('$' :: ·)
    else do
      let value ← valueOf? environment name
      let tail ← replace? environment (rest.drop name.length)
      some (value ++ tail)
  | c :: rest => (replace? environment rest).map (c :: ·)
termination_by text.length
decreasing_by all_goals (simp only [List.length_cons, List.length_drop]; omega)

/-- The variable that names the home directory. -/
def homeVariable : String := "HOME"

/-- The home directory, unless it is empty. -/
def home? (environment : Variables) : Option (List Char) :=
  (valueOf? environment homeVariable.toList).filter fun home => !home.isEmpty

/-- Replaces a leading `~` that stands alone or before a slash. -/
def expandHome (environment : Variables) (text : List Char) : List Char :=
  match text, home? environment with
  | ['~'], some home => home
  | '~' :: '/' :: rest, some home => home ++ '/' :: rest
  | text, _ => text

/-- The path that a text stands for. -/
def expandPath (environment : Variables) (text : String) : String :=
  let replaced := (replace? environment text.toList).getD text.toList
  String.ofList (expandHome environment replaced)

end Metasearch.Config.Expansion
