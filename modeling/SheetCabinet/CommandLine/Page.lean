import SheetCabinet.Command
import SheetCabinet.CommandLine.Style
import SheetCabinet.CommandLine.TimeZone

/-!
# Reports on the screen

Each command shows the part of its report that was asked for, and then the notes, one to a line.
-/

namespace SheetCabinet.CommandLine

def leftAligned (width : Nat) (text : String) : String :=
  text ++ String.ofList (List.replicate (width - text.length) ' ')

def rightAligned (width : Nat) (text : String) : String :=
  String.ofList (List.replicate (width - text.length) ' ') ++ text

def nameWidth : Nat := 32

def numberWidth : Nat := 6

def page (lines : List String) : String := String.join (lines.map (· ++ "\n"))

def noteStyle : NoteKind → Style
  | .info => .dimmed
  | .success => .green
  | .warning => .yellow

def noteLine (coloured : Bool) (note : Note) : String :=
  paint coloured (noteStyle note.kind) note.text

def cabinetLines (coloured : Bool) (cabinet : Cabinet) : List String :=
  let label (text : String) : String := paint coloured .dimmed text
  [label "name:" ++ "  " ++ paint coloured .bold cabinet.name,
    label "description:" ++ "  " ++ cabinet.description,
    label "sheets:" ++ "  " ++ showNumber cabinet.count.toNat,
    label "directory:" ++ "  " ++ cabinet.directory]

def listingLine (coloured : Bool) (zone : TimeZone) (listing : Listing) : String :=
  leftAligned nameWidth listing.name ++ " " ++
    paint coloured .dimmed (zone.localTime listing.modified)

/-- The lines of an entry: the number stands before the first, and as much room before the others. -/
def entryLines (coloured : Bool) (entry : Entry) : List String :=
  let number := rightAligned numberWidth (showNumber entry.number.toNat)
  match (rows entry.text.toList).map String.ofList with
  | [] => []
  | first :: others =>
    (paint coloured .yellow number ++ " " ++ first) ::
      others.map fun line => rightAligned numberWidth "" ++ " " ++ line

def contentsLines (coloured : Bool) (contents : Contents) : List String :=
  paint coloured .bold contents.description :: contents.entries.flatMap (entryLines coloured)

def settingsLines (settings : Settings) : List String :=
  Settings.Key.all.map fun key => key.name ++ " = " ++ settings.text key

/-- The lines of what a command was asked for. -/
def answerLines (coloured : Bool) (zone : TimeZone) (command : Command) (report : Report) :
    List String :=
  match command with
  | .info _ => report.cabinet.toList.flatMap (cabinetLines coloured)
  | .list _ => report.sheets.map (listingLine coloured zone)
  | .read _ _ => report.contents.toList.flatMap (contentsLines coloured)
  | .settings .showAll => report.settings.toList.flatMap settingsLines
  | _ => []

def reportPage (coloured : Bool) (zone : TimeZone) (command : Command) (report : Report) : String :=
  page (answerLines coloured zone command report ++ report.notes.map (noteLine coloured))

example : page (entryLines false ⟨12, "a\nb"⟩) = "    12 a\n       b\n" := by decide +kernel

end SheetCabinet.CommandLine
