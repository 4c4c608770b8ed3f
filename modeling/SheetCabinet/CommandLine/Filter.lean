import SheetCabinet.CommandLine.FieldValue
import SheetCabinet.Journal
import SheetCabinet.Text.Alphanumeric
import SheetCabinet.Text.Blank
import SheetCabinet.Text.Numeral

/-!
# Choosing from the journal

Which events are shown is said by directives, separated by commas. A directive names the beginning
of the targets it is about, or none if it is about all, and the last level that is shown. It may
also ask for a span around the event, or for a field of it: the events of this library are in no
span, and have one field, their message.

Of several directives about an event the one with the longest name counts, among those the one that
asks for a field, and of two that ask for the same the later one.
-/

namespace SheetCabinet.CommandLine

/-- What a directive asks of a field: to be there, or to have some value. -/
structure FieldTest where
  name : String
  valued : Bool
deriving DecidableEq, Repr

/-- What is to be shown of some events. -/
structure Directive where
  /-- The beginning of the targets; none for all of them. -/
  target : Option String := none
  /-- The span that an event has to be in, if it has to be in one. -/
  span : Option String := none
  field : Option FieldTest := none
  /-- The rank of the last level that is shown; 0 shows nothing. -/
  most : Nat
deriving DecidableEq, Repr

/-- The target under which a part of the library is known. -/
def targetOf : Origin → String
  | .sheet => "logcabinet::sheet"
  | .cabinet => "logcabinet::cabinet"
  | .image => "logcabinet::image"
  | .start => "logcabinet::init"

/-- The field that every event has. -/
def messageField : String := "message"

/-! ## Levels -/

def levelWords : List (String × Nat) :=
  [("off", 0), ("error", 1), ("warn", 2), ("info", 3), ("debug", 4), ("trace", 5)]

/-- The rank of the level that includes all others. -/
def allLevels : Nat := 5

def rank? (word : List Char) : Option Nat :=
  match (numeral? word).map UInt32.toNat with
  | some n => if n ≤ allLevels then some n else none
  | none => levelWords.lookup (String.ofList (word.map Char.toLower))

/-- The rank behind the sign of equality; nothing stands for all levels there. -/
def levelAfter? (word : List Char) : Option Nat :=
  if word = [] then some allLevels else rank? word

namespace Directive

/-! ## What a directive is about -/

/-- Whether a field that a directive asks for is there. -/
def fieldHolds (test : FieldTest) : Bool := test.name = messageField && !test.valued

/-- Whether the target of an event starts with a name. -/
def named (name : String) (event : Event) : Bool :=
  name.toList.isPrefixOf (targetOf event.origin).toList

def concerns (directive : Directive) (event : Event) : Bool :=
  directive.span.isNone && directive.field.all fieldHolds &&
    directive.target.all fun name => named name event

/-- How much a directive counts against others. -/
def weight (directive : Directive) : Nat :=
  let names := match directive.target with
    | none => 0
    | some name => name.utf8ByteSize + 1
  2 * names + if directive.field.isSome then 1 else 0

/-- Of two directives the one that counts, the second if they count the same. -/
def stronger (first : Option Directive) (second : Directive) : Option Directive :=
  match first with
  | none => some second
  | some first => if first.weight ≤ second.weight then some second else some first

/-! ## Reading a directive -/

/-- A character that a directive can start with, apart from letters and numbers. -/
def isJoint (c : Char) : Bool := c = '-' || c = ':' || c = '_'

def width (text : List Char) : Nat := text.foldr (fun c bytes => c.utf8Size + bytes) 0

/-- The first so many bytes of a text and the others, if no character is cut through. -/
def splitAt? (text : List Char) (bytes : Nat) : Option (List Char × List Char) :=
  if bytes = 0 then some ([], text)
  else match text with
    | [] => none
    | c :: rest =>
      if bytes < c.utf8Size then none
      else (splitAt? rest (bytes - c.utf8Size)).map fun (front, back) => (c :: front, back)

/-- The part of a text from one position up to another, both counted in bytes. -/
def cut (text : List Char) (start stop : Nat) : Option (List Char) :=
  (splitAt? text start).bind fun (_, back) => (splitAt? back (stop - start)).map Prod.fst

/-- The test that the text between braces stands for. What follows a second sign of equality does
not count. -/
def fieldOf? (text : List Char) : Option FieldTest :=
  let name := String.ofList (text.takeWhile (· ≠ '='))
  match text.dropWhile (· ≠ '=') with
  | [] => some ⟨name, false⟩
  | _ :: rest => if isValue (rest.takeWhile (· ≠ '=')) then some ⟨name, true⟩ else none

/-- Reads the level that stands in a text from a position on. -/
def withLevel (text : List Char) (directive : Directive) (start : Nat) : Option Directive :=
  (splitAt? text start).bind fun (_, word) =>
    (levelAfter? word).map fun most => { directive with most := most }

/-- Reads what follows the bracket that closes a scope. -/
def afterScope (text body : List Char) (directive : Directive) (start : Nat) : Option Directive :=
  match body with
  | [] => some { directive with most := allLevels }
  | c :: _ => if c = '=' then withLevel text directive (start + 1) else none

/-- Reads what follows the brace that opens a field. -/
def inField (text body : List Char) (directive : Directive) (start : Nat) : Option Directive :=
  let inside := body.takeWhile (· ≠ '}')
  let stop := start + width inside
  match body.dropWhile (· ≠ '}') with
  | '}' :: ']' :: rest =>
    if inside = [] then none
    else match (cut text start stop).bind fieldOf? with
      | some test => afterScope text rest { directive with field := some test } (stop + 2)
      | none => none
  | _ => none

/-- A character that ends the name of a span. -/
def endsSpan (c : Char) : Bool := c = ']' || c = '\x7b'

/-- Reads what follows the bracket that opens a scope. -/
def inScope (text body : List Char) (directive : Directive) (start : Nat) : Option Directive :=
  let inside := body.takeWhile fun c => !endsSpan c
  let stop := start + width inside
  match body.dropWhile fun c => !endsSpan c with
  | [] => none
  | c :: rest =>
    if c ≠ ']' && inside.isEmpty then inField text rest directive (stop + 1)
    else match cut text start stop with
      | none => none
      | some name =>
        let named := { directive with span := some (String.ofList name) }
        if c = ']' then afterScope text rest named (stop + 1)
        else inField text rest named (stop + 1)

/-- A character that ends the name of targets. -/
def endsTarget (c : Char) : Bool := c = '=' || c = '['

/-- Reads a directive that starts with a name, or is nothing but a level. A name on its own shows
all levels. -/
def inName (text body : List Char) : Option Directive :=
  let stop := width (body.takeWhile fun c => !endsTarget c)
  match body.dropWhile fun c => !endsTarget c with
  | [] =>
    match rank? text with
    | some rank => some { most := rank }
    | none => some { target := some (String.ofList text), most := allLevels }
  | c :: rest =>
    match cut text 0 stop with
    | none => none
    | some name =>
      let directive : Directive := { target := some (String.ofList name), most := allLevels }
      if c = '=' then withLevel text directive (stop + 1)
      else inScope text rest directive (stop + 1)

/-- The directive that a text stands for. White space at the ends does not count where the parts of
a directive are looked for, but the parts are cut out of the text as it was given; so with white
space in front of it a directive is refused, or about nothing. -/
def parse (text : List Char) : Option Directive :=
  let body := trim text
  match body with
  | [] => none
  | c :: _ =>
    if c = '[' then inScope text body.tail { most := allLevels } 1
    else if isJoint c || isAlphanumeric c then inName text body
    else none

end Directive

abbrev Filter := List Directive

namespace Filter

def shows (filter : Filter) (event : Event) : Bool :=
  match (filter.filter fun directive => directive.concerns event).foldl Directive.stronger none with
  | some directive => event.level.rank ≤ directive.most
  | none => false

/-- One character put in front of directives that are already split at commas. -/
def addToDirectives (c : Char) (rest : List (List Char)) : List (List Char) :=
  if c = ',' then [] :: rest
  else match rest with
    | [] => [[c]]
    | directive :: others => (c :: directive) :: others

/-- The texts of the directives; between commas there may be nothing. -/
def directiveTexts (text : String) : List (List Char) :=
  (text.toList.foldr addToDirectives [[]]).filter (· ≠ [])

/-- The filter that a text stands for, if every directive of it can be read; without any directive
errors are shown and nothing else. -/
def parse (text : String) : Option Filter :=
  match (directiveTexts text).mapM Directive.parse with
  | some [] => some [{ most := 1 }]
  | other => other

def ofVerbosity (verbosity : Nat) : Filter :=
  let most := match verbosity with
    | 0 => 2
    | 1 => 3
    | _ => 4
  [{ target := some "logcabinet", most := most }, { target := some "lcab", most := most }]

/-- The filter that a text asks for, if it asks for one, else the one for the verbosity. -/
def choose (text : Option String) (verbosity : Nat) : Filter :=
  (text.bind parse).getD (ofVerbosity verbosity)

example : parse "off" = some [{ most := 0 }] ∧ parse "!" = none ∧ parse "a, b=info" = none := by
  decide +kernel
example : parse "WARN,,logcabinet::sheet=debug" =
    some [{ most := 2 }, { target := some "logcabinet::sheet", most := 4 }] := by decide +kernel
example : parse "a[b\x7bmessage\x7d]=2" =
    some [{ target := some "a", span := some "b", field := some ⟨"message", false⟩, most := 2 }] := by
  decide +kernel

end Filter

end SheetCabinet.CommandLine
