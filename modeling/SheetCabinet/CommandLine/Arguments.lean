import SheetCabinet.Command

/-!
# Arguments

The words of a command line are read from left to right: flags in front of the name of a command,
then flags and values of that command. A flag that takes a value takes it from its own word, or
else the whole next word, unless that word is itself a flag. After two dashes every word is a
value, and so is every word after the first entry of a sheet.

Reading stops at the first word that is wrong, and at the first that asks for help or the version.
-/

namespace SheetCabinet.CommandLine

/-! ## Commands and flags -/

inductive Verb
  | create
  | info
  | list
  | sheet
  | read
  | remove
  | settings
deriving DecidableEq, Repr

namespace Verb

def names : List (String × Verb) :=
  [("create", create), ("new", create), ("info", info), ("list", list), ("ls", list),
    ("sheet", sheet), ("show", read), ("cat", read), ("remove", remove), ("rm", remove),
    ("config", settings)]

def ofName? (name : String) : Option Verb := names.lookup name

end Verb

/-- What help is given about. -/
inductive Topic
  | program
  | verb (verb : Verb)
  | help
deriving DecidableEq, Repr

inductive Flag
  | root
  | verbose
  | description
  | sync
  | help
  | version
deriving DecidableEq, Repr

namespace Flag

/-- The name of a flag, which follows two dashes. -/
def name : Flag → String
  | root => "root"
  | verbose => "verbose"
  | description => "description"
  | sync => "sync"
  | help => "help"
  | version => "version"

/-- The letter of a flag, which follows one dash. -/
def letter? : Flag → Option Char
  | root => some 'r'
  | verbose => some 'v'
  | description => some 'd'
  | sync => none
  | help => some 'h'
  | version => some 'V'

def takesValue : Flag → Bool
  | root | description => true
  | _ => false

/-- A flag as it is written where it is spoken of. -/
def shown : Flag → String
  | root => "--root <ROOT>"
  | verbose => "--verbose..."
  | description => "--description <DESCRIPTION>"
  | sync => "--sync"
  | help => "--help"
  | version => "--version"

end Flag

/-! ## Refusals -/

inductive UsageFault
  | missingCommand
  | unknownCommand (name : String)
  | unexpectedArgument (word : String)
  /-- A flag that takes no value was given one. -/
  | unexpectedValue (flag : Flag) (value : String)
  | missingValue (flag : Flag)
  | repeatedFlag (flag : Flag)
  | missingArguments (names : List String)
deriving DecidableEq, Repr

namespace UsageFault

def message : UsageFault → String
  | missingCommand => "'lcab' requires a subcommand but one was not provided\n  [subcommands: " ++
      String.intercalate ", " (Verb.names.map Prod.fst ++ ["help"]) ++ "]"
  | unknownCommand name => "unrecognized subcommand '" ++ name ++ "'"
  | unexpectedArgument word => "unexpected argument '" ++ word ++ "' found"
  | unexpectedValue flag value => "unexpected value '" ++ value ++ "' for '" ++ flag.shown ++
      "' found; no more were expected"
  | missingValue flag => "a value is required for '" ++ flag.shown ++ "' but none was supplied"
  | repeatedFlag flag => "the argument '" ++ flag.shown ++ "' cannot be used multiple times"
  | missingArguments names => "the following required arguments were not provided:" ++
      String.join (names.map fun name => "\n  <" ++ name ++ ">")

end UsageFault

inductive Stop
  | help (topic : Topic)
  | version
  /-- Nothing at all was asked for. -/
  | nothing
  | fault (fault : UsageFault)
deriving DecidableEq, Repr

/-! ## What is given -/

/-- What was given so far, in front of the command or after it. -/
structure Given where
  root : Option Path := none
  verbosity : Nat := 0
  description : Option String := none
  sync : Bool := false
  /-- The words that belong to no flag. -/
  values : List String := []
deriving DecidableEq, Repr

namespace Given

/-- Notes a flag that takes no value. -/
def note (topic : Topic) (given : Given) : Flag → Except Stop Given
  | .help => .error (.help topic)
  | .version => .error .version
  | .sync => if given.sync then .error (.fault (.repeatedFlag .sync))
      else .ok { given with sync := true }
  | _ => .ok { given with verbosity := given.verbosity + 1 }

def noteValue (given : Given) (flag : Flag) (value : String) : Except Stop Given :=
  if flag = .root then
    if value = "" then .error (.fault (.missingValue flag))
    else if given.root.isSome then .error (.fault (.repeatedFlag flag))
    else .ok { given with root := some value }
  else if given.description.isSome then .error (.fault (.repeatedFlag flag))
  else .ok { given with description := some value }

/-- Notes a word that belongs to no flag. -/
def addValue (given : Given) (word : String) : Given :=
  { given with values := given.values ++ [word] }

end Given

/-! ## Words -/

inductive Shape
  | dashes
  /-- A flag by its name, with the value that was attached to it, if one was. -/
  | named (name : String) (value : Option String)
  /-- Flags by their letters. -/
  | letters (letters : List Char)
  | plain
deriving DecidableEq, Repr

def Shape.ofWord (word : String) : Shape :=
  match word.toList with
  | '-' :: '-' :: [] => .dashes
  | '-' :: '-' :: rest =>
    let name := String.ofList (rest.takeWhile (· ≠ '='))
    match rest.dropWhile (· ≠ '=') with
    | [] => .named name none
    | _ :: value => .named name (some (String.ofList value))
  | '-' :: c :: rest => .letters (c :: rest)
  | _ => .plain

/-- Whether a word can be the value of the flag in the word before it. -/
def canBeValue (word : String) : Bool := Shape.ofWord word = .plain

/-! ## Command lines -/

structure Slot where
  name : String
  meaning : String := ""
deriving DecidableEq, Repr

/-- Which words a part of a command line may have. -/
structure Grammar where
  topic : Topic
  /-- The flags, in the order in which help lists them. -/
  flags : List Flag
  required : List Slot := []
  optional : List Slot := []
  /-- What may follow in any number, up to the end of the line. -/
  row : Option Slot := none
deriving Repr

namespace Grammar

/-- Notes flags that were given by their letters. The last of them may still want a value. -/
def readLetters (grammar : Grammar) (given : Given) : List Char → Except Stop (Given × Option Flag)
  | [] => .ok (given, none)
  | c :: rest =>
    match grammar.flags.find? fun flag => flag.letter? = some c with
    | none => .error (.fault (.unexpectedArgument (String.ofList ['-', c])))
    | some flag =>
      if flag.takesValue then
        match rest with
        | [] => .ok (given, some flag)
        | d :: more =>
          let value := if d = '=' then more else d :: more
          (given.noteValue flag (String.ofList value)).map fun noted => (noted, none)
      else
        match given.note grammar.topic flag with
        | .error stop => .error stop
        | .ok noted => readLetters grammar noted rest

/-- Notes a flag that was given by its name. It may still want a value. -/
def readNamed (grammar : Grammar) (given : Given) (name : String) (value : Option String) :
    Except Stop (Given × Option Flag) :=
  match grammar.flags.find? fun flag => flag.name = name with
  | none => .error (.fault (.unexpectedArgument ("--" ++ name)))
  | some flag =>
    if flag.takesValue then
      match value with
      | none => .ok (given, some flag)
      | some value => (given.noteValue flag value).map fun noted => (noted, none)
    else
      match value with
      | none => (given.note grammar.topic flag).map fun noted => (noted, none)
      | some value => .error (.fault (.unexpectedValue flag value))

/-- Whether one more value is allowed. -/
def allows (grammar : Grammar) (given : Given) : Bool :=
  grammar.row.isSome ||
    given.values.length < grammar.required.length + grammar.optional.length

/-- Whether the next word belongs to a row of values that only the end of the line ends. -/
def inRow (grammar : Grammar) (given : Given) : Bool :=
  grammar.row.isSome && grammar.required.length < given.values.length

/-- What is left to do after a word: read on with what is given, a flag that wants a value, and
whether all words from now on are values. -/
structure Position where
  given : Given := {}
  wanting : Option Flag := none
  literal : Bool := false

def readValue (grammar : Grammar) (position : Position) (word : String) : Except Stop Position :=
  if grammar.allows position.given then
    .ok { position with given := position.given.addValue word }
  else .error (.fault (.unexpectedArgument word))

/-- Reads a word that may be a flag. -/
def readFlag (grammar : Grammar) (position : Position) (word : String) : Except Stop Position :=
  match Shape.ofWord word with
  | .dashes => .ok { position with literal := true }
  | .named name value =>
    (grammar.readNamed position.given name value).map fun noted => ⟨noted.1, noted.2, false⟩
  | .letters letters =>
    (grammar.readLetters position.given letters).map fun noted => ⟨noted.1, noted.2, false⟩
  | .plain => readValue grammar position word

def readWord (grammar : Grammar) (position : Position) (word : String) : Except Stop Position :=
  match position.wanting with
  | some flag =>
    if canBeValue word then
      (position.given.noteValue flag word).map fun noted => ⟨noted, none, position.literal⟩
    else .error (.fault (.missingValue flag))
  | none =>
    if position.literal || grammar.inRow position.given then readValue grammar position word
    else readFlag grammar position word

def finish (grammar : Grammar) (position : Position) : Except Stop Given :=
  match position.wanting with
  | some flag => .error (.fault (.missingValue flag))
  | none =>
    match grammar.required.drop position.given.values.length with
    | [] => .ok position.given
    | missing => .error (.fault (.missingArguments (missing.map Slot.name)))

def readWords (grammar : Grammar) (words : List String) : Except Stop Given := do
  grammar.finish (← words.foldlM grammar.readWord {})

end Grammar

namespace Verb

/-- The words that may follow the name of a command. -/
def grammar (verb : Verb) : Grammar :=
  let common : Grammar := { topic := .verb verb, flags := [.root, .verbose, .help] }
  match verb with
  | create => { common with
      flags := [.description, .root, .verbose, .help], required := [{ name := "NAME" }] }
  | info | list | remove => { common with required := [{ name := "NAME" }] }
  | sheet => { common with
      flags := [.description, .root, .sync, .verbose, .help]
      required := [{ name := "CABINET" }, { name := "SHEET" }]
      row := some ⟨"ENTRIES", "Entries to write, one per argument"⟩ }
  | read => { common with required := [{ name := "CABINET" }, { name := "SHEET" }] }
  | settings => { common with
      optional := [⟨"KEY", "Configuration key (root, auto-sync)"⟩,
        ⟨"VALUE", "Value to set (if omitted, prints current value)"⟩] }

def errand : List String → SettingsErrand
  | [] => .showAll
  | [key] => .showKey key
  | key :: value :: _ => .set key value

def command (verb : Verb) (given : Given) : Command :=
  let value (index : Nat) : String := given.values.getD index ""
  let description := given.description.getD ""
  match verb with
  | create => .create (value 0) description
  | info => .info (value 0)
  | list => .list (value 0)
  | sheet => .sheet (value 0) (value 1) description (given.values.drop 2) given.sync
  | read => .read (value 0) (value 1)
  | remove => .remove (value 0)
  | settings => .settings (errand given.values)

end Verb

structure Invocation where
  root : Option Path
  verbosity : Nat
  command : Command
deriving DecidableEq, Repr

namespace Invocation

/-- The words that may stand in front of the name of a command. -/
def front : Grammar := { topic := .program, flags := [.root, .verbose, .help, .version] }

/-- What help can be asked about by a name. -/
def topicOf? (name : String) : Option Topic :=
  if name = "help" then some .help else (Verb.ofName? name).map .verb

/-- Reads the words after the one for help. -/
def readHelp : List String → Stop
  | [] => .help .program
  | name :: rest =>
    match topicOf? name, rest with
    | none, _ => .fault (.unknownCommand name)
    | some topic, [] => .help topic
    | some _, other :: _ => .fault (.unknownCommand other)

/-- Reads the words after the name of a command. What they say about root and verbosity counts
before what was said in front of the name. -/
def ofVerb (verb : Verb) (before : Given) (words : List String) : Except Stop Invocation := do
  let given ← verb.grammar.readWords words
  pure {
    root := given.root.or before.root
    verbosity := if given.verbosity = 0 then before.verbosity else given.verbosity
    command := verb.command given }

/-- Reads from the name of a command on. -/
def ofName (name : String) (before : Given) (words : List String) : Except Stop Invocation :=
  match Verb.ofName? name with
  | some verb => ofVerb verb before words
  | none =>
    if name = "help" then .error (readHelp words)
    else .error (.fault (.unknownCommand name))

/-- Reads on in front of the name of a command. -/
def readFront (position : Grammar.Position) : List String → Except Stop Invocation
  | [] =>
    match position.wanting with
    | some flag => .error (.fault (.missingValue flag))
    | none => .error (if position.given = {} then .nothing else .fault .missingCommand)
  | word :: rest =>
    if position.literal && position.wanting.isNone then
      .error (.fault (if (topicOf? word).isSome then .unexpectedArgument word
        else .unknownCommand word))
    else if position.wanting.isNone && canBeValue word then ofName word position.given rest
    else
      match front.readWord position word with
      | .error stop => .error stop
      | .ok next => readFront next rest

def parse (words : List String) : Except Stop Invocation := readFront {} words

example : parse ["-rv", "ls", "-vv", "c"] = .ok ⟨some "v", 2, .list "c"⟩ := by decide +kernel
example : parse ["sheet", "c", "s", "a", "--sync"] =
    .ok ⟨none, 0, .sheet "c" "s" "" ["a", "--sync"] false⟩ := by decide +kernel
example : parse ["sheet", "c", "s", "-5"] = .error (.fault (.unexpectedArgument "-5")) := by
  decide +kernel

end Invocation

end SheetCabinet.CommandLine
