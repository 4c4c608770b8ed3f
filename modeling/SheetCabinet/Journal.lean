import SheetCabinet.Failure

/-!
# The journal

What the library tells about its own work while it works. An event has a level, words, and the
part of the library it comes from, by which readers of the journal choose what to see.
-/

namespace SheetCabinet

/-- How much an event matters; each level includes the ones before it. -/
inductive Level
  | error
  | warn
  | info
  | debug
  | trace
deriving DecidableEq, Repr

namespace Level

def label : Level → String
  | error => "ERROR"
  | warn => "WARN"
  | info => "INFO"
  | debug => "DEBUG"
  | trace => "TRACE"

/-- The place of a level, the gravest first. -/
def rank : Level → Nat
  | error => 1
  | warn => 2
  | info => 3
  | debug => 4
  | trace => 5

end Level

inductive Origin
  | sheet
  | cabinet
  | image
  | start
deriving DecidableEq, Repr

inductive Event
  | sheetCreated (path : Path)
  | sheetSynced (path : Path) (through : UInt32)
  /-- After a failed write the file could not be cut back to its last complete line. -/
  | cutBackFailed (path : Path) (length : Nat) (cause : FileError)
  /-- A sheet was closed with text staged for an entry. -/
  | stagedDiscarded (length : Nat) (path : Path)
  | cabinetCreated (directory : Path)
  | cabinetOpened (directory : Path)
  | cabinetRemoved (directory : Path)
  /-- A cabinet holds more sheets than its control file says. -/
  | sheetsUncounted (directory : Path) (present : Nat) (recorded : UInt32)
  | sheetCounted (cabinet : String) (count : UInt32) (sheet : String)
  /-- A sheet that could not be counted could not be taken away again either. -/
  | sheetLeftBehind (path : Path) (cause : FileError)
  /-- What a decoder reported could not be written to its sheet. -/
  | statusLost (path : Path) (failure : Failure)
  | rootChosen (root : Path)
deriving DecidableEq, Repr

namespace Event

def level : Event → Level
  | cutBackFailed .. | sheetsUncounted .. | sheetLeftBehind .. | statusLost .. => .warn
  | cabinetCreated _ | cabinetRemoved _ => .info
  | _ => .debug

def origin : Event → Origin
  | sheetCreated _ | sheetSynced .. | cutBackFailed .. | stagedDiscarded .. => .sheet
  | statusLost .. => .image
  | rootChosen _ => .start
  | _ => .cabinet

def message : Event → String
  | sheetCreated path => "Created log sheet " ++ path
  | sheetSynced path through =>
    "Synced " ++ path ++ " through entry " ++ showNumber through.toNat
  | cutBackFailed path length cause =>
    "Could not truncate " ++ path ++ " back to " ++ showNumber length ++
      " bytes after failed write: " ++ cause.message
  | stagedDiscarded length path =>
    "Discarding " ++ showNumber length ++ " staged bytes on close of " ++ path
  | cabinetCreated directory => "Created log cabinet " ++ directory
  | cabinetOpened directory => "Opened log cabinet " ++ directory
  | cabinetRemoved directory => "Removed log cabinet " ++ directory
  | sheetsUncounted directory present recorded =>
    "Cabinet " ++ directory ++ " holds " ++ showNumber present ++ " sheets but records " ++
      showNumber recorded.toNat
  | sheetCounted cabinet count sheet =>
    "Cabinet " ++ cabinet ++ " now holds " ++ showNumber count.toNat ++
      " sheets after adding " ++ sheet
  | sheetLeftBehind path cause =>
    "Left uncounted sheet " ++ path ++ " behind: " ++ cause.message
  | statusLost path failure =>
    "Could not log decoder status to " ++ path ++ ": " ++ failure.message
  | rootChosen root => "Using cabinet root " ++ root

end Event

end SheetCabinet
