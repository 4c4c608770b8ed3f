import SheetCabinet.CommandLine.Filter
import SheetCabinet.CommandLine.Help

/-!
# Running a command line

A command line is understood, the settings are read, and the command is carried out. What comes of
it is shown on one stream, and failures and the chosen events of the journal on another; the exit
code tells success, failure and a refused command line apart.

Entries that are not given as words are read from the input, one to a line.
-/

namespace SheetCabinet.CommandLine

/-! ## What is shown -/

structure Printout where
  exitCode : Nat
  /-- What is printed as the answer. -/
  output : String := ""
  /-- The events of the journal that are shown. -/
  log : List Event := []
  /-- What is printed about a failure. -/
  errors : String := ""
deriving DecidableEq, Repr

def versionText : String := "lcab 0.3.2\n"

/-- What is shown when the reading of a command line stopped. -/
def stopPrintout : Stop → Printout
  | .help topic => { exitCode := 0, output := helpPage topic }
  | .version => { exitCode := 0, output := versionText }
  | .nothing => { exitCode := 2, errors := helpPage .program }
  | .fault fault =>
    { exitCode := 2
      errors := "error: " ++ fault.message ++ "\n\nFor more information, try '--help'.\n" }

/-- Whether texts are shown in colours, which has to be asked for. -/
def isColoured (environment : Environment) : Bool :=
  match environment.get? "CLICOLOR_FORCE" with
  | some value => value ≠ "0"
  | none => false

/-- A character of the journal as it is shown: what would control the terminal is shown by its
code. -/
def guarded (c : Char) : List Char :=
  if c = '\x1b' then "\\x1b".toList
  else if c = '\x07' then "\\x07".toList
  else if c = '\x08' then "\\x08".toList
  else if c = '\x0c' then "\\x0c".toList
  else if c = '\x7f' then "\\x7f".toList
  else if 0x80 ≤ c.toNat ∧ c.toNat ≤ 0x9f then codePoint c
  else [c]

def logLine (event : Event) : String :=
  event.level.label ++ " " ++ String.ofList (event.message.toList.flatMap guarded)

def failureText (coloured : Bool) (failure : Failure) : String :=
  paint coloured .red "Error:" ++ " " ++ failure.message ++ "\n"

/-! ## Entries from the input -/

/-- The lines of the input, each without the carriage return at its end. -/
def inputLines (input : Bytes) : Except FileError (List String) :=
  match input.text? with
  | some text => .ok ((lines (dropReturns text.toList)).map String.ofList)
  | none => .error .notUtf8

/-- The entries that are given as words, or else the lines of the input. -/
def chooseEntries (entries : List String) (input : Bytes) : Except FileError (List String) :=
  if entries = [] then inputLines input else .ok entries

/-- The command with what the settings and the input add to it. -/
def complete (settings : Settings) (input : Bytes) (command : Command) : Work Command := fun store =>
  match command with
  | .sheet cabinet sheet description entries autoSync =>
    match chooseEntries entries input with
    | .ok entries =>
      .ok (.sheet cabinet sheet description entries (autoSync || settings.autoSync)) store
    | .error cause => .error (.io cause) store
  | _ => .ok command store

/-! ## Running -/

structure Call where
  words : List String
  input : Bytes := []
  environment : Environment := {}
  workingDirectory : Path
  /-- What befalls a request for a new sheet. -/
  chance : Chance := default
deriving Repr

/-- Carries out a command line that was understood, and answers with the page to show. -/
def carryOut (call : Call) (invocation : Invocation) : Work String := do
  let (places, settings) ← start call.environment invocation.root call.workingDirectory
  let command ← complete settings call.input invocation.command
  let report ← command.run call.chance places
  let zone := TimeZone.choose (call.environment.get? "TZ")
  pure (reportPage (isColoured call.environment) zone command report)

def runInvocation (call : Call) (invocation : Invocation) (files : FileSystem) :
    Printout × FileSystem :=
  let filter := Filter.choose (call.environment.get? "RUST_LOG") invocation.verbosity
  match carryOut call invocation { files := files } with
  | .ok text store =>
    ({ exitCode := 0, output := text, log := store.events.filter filter.shows }, store.files)
  | .error failure store =>
    ({ exitCode := 1
       log := store.events.filter filter.shows
       errors := failureText (isColoured call.environment) failure }, store.files)

def run (call : Call) (files : FileSystem) : Printout × FileSystem :=
  match Invocation.parse call.words with
  | .error stop => (stopPrintout stop, files)
  | .ok invocation => runInvocation call invocation files

end SheetCabinet.CommandLine
