import Metasearch.CommandLine.Basic

set_option autoImplicit false

/-! # Help

The help of the program and of its commands. Each text says what the topic does, how it is
called, and lists in aligned columns what can be given to it.
-/

namespace Metasearch.CommandLine

def programName : String := "fedsearch"

/-- What a command does. -/
def CommandName.about : CommandName → String
  | .query => "Plain query against one index"
  | .search => "Declarative single-index search; payload file or \x60-\x60 for stdin"
  | .multi => "Declarative multi-index search; payload file or \x60-\x60 for stdin"
  | .schema => "Print the capability schema loaded from a settings directory"

/-- The name of a thing and what there is to say about it. -/
abbrev Row := String × String

def helpRow : Row := ("-h, --help", "Print help")

def engineRow : Row := ("-b, --backend <BACKEND>",
  "[default: " ++ engineName defaultEngine ++ "] [possible values: meili, algolia]")

def limitRow : Row := ("    --limit <LIMIT>", "[default: " ++ toString defaultLimit ++ "]")

def helpCommandRow : Row := ("help", "Print this message or the help of the given subcommand(s)")

/-- The operands of a command. -/
def CommandName.operands : CommandName → List Row
  | .query => [("<INDEX>", ""), ("[TEXT]", "[default: ]")]
  | .search => [("<PAYLOAD>", "")]
  | .multi => [("<PAYLOAD>", "")]
  | .schema => [("<DIR>", "")]

def CommandName.options : CommandName → List Row
  | .query => [engineRow, limitRow, helpRow]
  | _ => [engineRow, helpRow]

/-- A titled list in two columns. -/
def listing (title : String) (rows : List Row) : String :=
  let width := (rows.map fun row => row.1.length).foldl max 0
  let line (row : Row) : String :=
    "  " ++ row.1.pushn ' ' (width - row.1.length) ++ "  " ++ row.2 ++ "\n"
  title ++ ":\n" ++ "".intercalate (rows.map line)

/-- What a topic does and how it is called, above the lists. -/
def page (about usage : String) (sections : List String) : String :=
  about ++ "\n\nUsage: " ++ programName ++ " " ++ usage ++ "\n\n" ++ "\n".intercalate sections

/-- The help on a topic. -/
def Topic.text : Topic → String
  | .program =>
    page "Run declarative and federated searches against Meilisearch or Algolia"
      "[OPTIONS] <COMMAND>"
      [listing "Commands"
        (CommandName.all.map (fun name => (name.text, name.about)) ++ [helpCommandRow]),
       listing "Options" [engineRow, helpRow]]
  | .command name =>
    page name.about
      (name.text ++ " [OPTIONS] " ++ " ".intercalate (name.operands.map Prod.fst))
      [listing "Arguments" name.operands, listing "Options" name.options]
  | .help =>
    page helpCommandRow.2 "help [COMMAND]..."
      [listing "Arguments" [("[COMMAND]...", "Print help for the subcommand(s)")]]

end Metasearch.CommandLine
