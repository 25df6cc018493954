import Metasearch.Engine.Basic

set_option autoImplicit false

/-! # Invocations

What the program can be asked to do on its command line: a plain query, a declarative search
in one index or several, or a look at the schema of a settings directory.
-/

namespace Metasearch.CommandLine

/-- The commands by name. -/
inductive CommandName where
  | query
  | search
  | multi
  | schema
  deriving Repr, DecidableEq

def CommandName.all : List CommandName := [.query, .search, .multi, .schema]

def CommandName.text : CommandName → String
  | .query => "query"
  | .search => "search"
  | .multi => "multi"
  | .schema => "schema"

def CommandName.ofText? (text : String) : Option CommandName :=
  CommandName.all.find? fun name => name.text == text

/-- A command with what it is given. A payload is named by its file; the name `-` stands for
the standard input. -/
inductive Command where
  | query (index text : String) (limit : Nat)
  | search (payload : String)
  | multi (payload : String)
  | schema (folder : String)
  deriving Repr, DecidableEq

structure Invocation where
  engine : Engine
  command : Command
  deriving Repr, DecidableEq

/-- The engine that is asked unless another is chosen. -/
def defaultEngine : Engine := .meilisearch

/-- The name of an engine on the command line. -/
def engineName : Engine → String
  | .meilisearch => "meili"
  | .algolia => "algolia"

def engineOf? (name : String) : Option Engine :=
  [Engine.meilisearch, .algolia].find? fun engine => engineName engine == name

/-- How many hits a plain query asks for unless told otherwise. -/
def defaultLimit : Nat := 20

/-- What help can be asked about. -/
inductive Topic where
  | program
  | command (name : CommandName)
  | help
  deriving Repr, DecidableEq

/-- Why a command line makes no sense. -/
inductive Misuse where
  | noCommand
  | unknownCommand (word : String)
  | unexpected (word : String)
  | missing (operand : String)
  | noValue (setting : String)
  | badValue (setting value : String)
  | repeated (setting : String)
  deriving Repr, DecidableEq

def Misuse.message : Misuse → String
  | .noCommand => "a command is required"
  | .unknownCommand word => "unrecognized command '" ++ word ++ "'"
  | .unexpected word => "unexpected argument '" ++ word ++ "' found"
  | .missing operand => "the argument <" ++ operand ++ "> was not provided"
  | .noValue setting => "a value is required for '--" ++ setting ++ "'"
  | .badValue setting value => "invalid value '" ++ value ++ "' for '--" ++ setting ++ "'"
  | .repeated setting => "the argument '--" ++ setting ++ "' cannot be used multiple times"

/-- Why reading a command line ends early. -/
inductive Stop where
  | help (topic : Topic)
  | misuse (misuse : Misuse)
  deriving Repr, DecidableEq

end Metasearch.CommandLine
