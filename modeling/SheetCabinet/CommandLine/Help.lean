import SheetCabinet.CommandLine.Arguments
import SheetCabinet.CommandLine.Page

/-!
# Help

A page of help says what a command is for, how its line is written, and what each of its values and
flags means, one to a row.
-/

namespace SheetCabinet.CommandLine

/-! ## Rows -/

/-- A row of a page: what is explained, and its explanation. -/
abbrev Row : Type := String × String

/-- The lines of a part of a page, with the explanations one below the other. -/
def sectionLines (title : String) (rows : List Row) : List String :=
  if rows.isEmpty then []
  else
    let width := (rows.map fun row => row.1.length).foldl max 0
    "" :: (title ++ ":") :: rows.map fun row => "  " ++ leftAligned width row.1 ++ "  " ++ row.2

def Flag.meaning (topic : Topic) : Flag → String
  | root => "Directory that holds the cabinets (defaults to config, then cwd)"
  | verbose => "Verbose output (repeat for more)"
  | description =>
    (if topic = .verb .create then "Description recorded in the control file"
      else "Text written as the sheet's first line") ++ " [default: ]"
  | sync => "Sync after every entry, even when the auto-sync config is off"
  | help => "Print help"
  | version => "Print version"

def Flag.row (topic : Topic) (flag : Flag) : Row :=
  let short := match flag.letter? with
    | some letter => "-" ++ String.ofList [letter] ++ ", "
    | none => "    "
  (short ++ flag.shown, flag.meaning topic)

/-! ## Commands -/

namespace Verb

def all : List Verb := [create, info, list, sheet, read, remove, settings]

/-- The name by which a command is listed. -/
def name : Verb → String
  | create => "create"
  | info => "info"
  | list => "list"
  | sheet => "sheet"
  | read => "show"
  | remove => "remove"
  | settings => "config"

def purpose : Verb → String
  | create => "Create a new cabinet"
  | info => "Show a cabinet's name, description and sheet count"
  | list => "List the sheets in a cabinet"
  | sheet => "Create a sheet and write entries to it (reads stdin if no entries given)"
  | read => "Print a sheet's description and entries"
  | remove => "Delete a cabinet and all of its sheets"
  | settings => "Get or set configuration"

end Verb

/-! ## Pages -/

def helpHelp : String := "Print this message or the help of the given subcommand(s)"

/-- The page of help about a command whose line has these words. -/
def Grammar.helpLines (name about : String) (grammar : Grammar) : List String :=
  let values := grammar.required.map (fun slot => ("<" ++ slot.name ++ ">", slot.meaning)) ++
    grammar.optional.map (fun slot => ("[" ++ slot.name ++ "]", slot.meaning)) ++
    grammar.row.toList.map (fun slot => ("[" ++ slot.name ++ "]...", slot.meaning))
  let options := if grammar.flags.isEmpty then [] else ["[OPTIONS]"]
  [about, "", "Usage: " ++ String.intercalate " " (["lcab", name] ++ options ++ values.map Prod.fst)]
    ++ sectionLines "Arguments" values
    ++ sectionLines "Options" (grammar.flags.map (Flag.row grammar.topic))

def helpPage : Topic → String
  | .program => page <|
    ["Manage cabinets of numbered, append-only log sheets", "", "Usage: lcab [OPTIONS] <COMMAND>"]
      ++ sectionLines "Commands"
        (Verb.all.map (fun verb => (verb.name, verb.purpose)) ++ [("help", helpHelp)])
      ++ sectionLines "Options" (Invocation.front.flags.map (Flag.row .program))
  | .verb verb => page (verb.grammar.helpLines verb.name verb.purpose)
  | .help => page <| Grammar.helpLines "help" helpHelp {
      topic := .help
      flags := []
      row := some ⟨"COMMAND", "Print help for the subcommand(s)"⟩ }

example : helpPage (.verb .read) = page [
    "Print a sheet's description and entries",
    "",
    "Usage: lcab show [OPTIONS] <CABINET> <SHEET>",
    "",
    "Arguments:",
    "  <CABINET>  ",
    "  <SHEET>    ",
    "",
    "Options:",
    "  -r, --root <ROOT>  Directory that holds the cabinets (defaults to config, then cwd)",
    "  -v, --verbose...   Verbose output (repeat for more)",
    "  -h, --help         Print help"] := by
  decide +kernel

end SheetCabinet.CommandLine
