import SheetCabinet.Cabinet
import SheetCabinet.Settings.Startup

/-!
# Commands

A command is a whole errand: it opens what it needs, does its work, and answers with a report that
whoever asked can show in a way of their own. Nothing stays open after a command.
-/

namespace SheetCabinet

inductive SettingsErrand
  | showAll
  | showKey (key : String)
  | set (key value : String)
deriving DecidableEq, Repr

inductive Command
  | create (name description : String)
  | info (name : String)
  | list (name : String)
  /-- Make a sheet and commit entries to it. -/
  | sheet (cabinet sheet description : String) (entries : List String) (autoSync : Bool)
  | read (cabinet sheet : String)
  | remove (name : String)
  | settings (errand : SettingsErrand)
deriving DecidableEq, Repr

inductive NoteKind
  | info
  | success
  | warning
deriving DecidableEq, Repr

structure Note where
  kind : NoteKind
  text : String
deriving DecidableEq, Repr

structure Listing where
  name : String
  /-- When the sheet was last changed, in seconds since 1970. -/
  modified : Int
deriving DecidableEq, Repr

structure Report where
  /-- The cabinet as the command left it. -/
  cabinet : Option Cabinet := none
  sheets : List Listing := []
  contents : Option Contents := none
  settings : Option Settings := none
  notes : List Note := []
deriving DecidableEq, Repr

namespace Command

/-! ## Cabinets -/

def runCreate (draft : Draft) (places : Places) (name description : String) : Work Report := do
  let cabinet ← Cabinet.create draft name description places.root
  pure {
    cabinet := some cabinet
    notes := [⟨.success, "Created cabinet " ++ cabinet.name ++ " at " ++ cabinet.directory⟩] }

/-- The remark on a cabinet whose count is not the number of its sheets. -/
def countNotes (cabinet : Cabinet) (present : Nat) : List Note :=
  if present = cabinet.count.toNat then []
  else [⟨.warning, showNumber present ++ " sheets on disk, " ++ showNumber cabinet.count.toNat ++
    " recorded in the control file"⟩]

def runInfo (places : Places) (name : String) : Work Report := do
  let cabinet ← Cabinet.openIn name places.root
  let present ← cabinet.sheetNames
  pure { cabinet := some cabinet, notes := countNotes cabinet present.length }

/-- Looks up when each of the sheets was last changed. -/
def listings (cabinet : Cabinet) : List String → Work (List Listing)
  | [] => pure []
  | name :: rest => do
    let modified ← Work.query fun files => files.modified (utf8 (cabinet.itemPath name))
    let others ← listings cabinet rest
    pure (⟨name, modified⟩ :: others)

def runList (places : Places) (name : String) : Work Report := do
  let cabinet ← Cabinet.openIn name places.root
  let names ← cabinet.sheetNames
  let sheets ← listings cabinet names
  pure {
    cabinet := some cabinet
    sheets := sheets
    notes := if sheets.isEmpty then [⟨.info, "No sheets in this cabinet."⟩] else [] }

def runRemove (places : Places) (name : String) : Work Report := do
  Cabinet.remove name places.root
  pure { notes := [⟨.success, "Removed cabinet " ++ name⟩] }

/-! ## Sheets -/

/-- Commits the entries; they are synced one by one, or all together at the end. -/
def writeEntries (entries : List String) (autoSync : Bool) : Sheet.Writing Unit := do
  Sheet.writeAll entries
  if autoSync then pure () else Sheet.sync

def runSheet (chance : Chance) (places : Places) (cabinet sheet description : String)
    (entries : List String) (autoSync : Bool) : Work Report := do
  let opened ← Cabinet.openIn cabinet places.root
  let (counted, fresh) ← opened.run (Cabinet.newSheet chance sheet description)
  (fresh.setAutoSync autoSync).run (writeEntries entries autoSync)
  pure {
    cabinet := some counted
    notes := [⟨.success, "Wrote " ++ showNumber entries.length ++ " entries to " ++
      counted.name ++ "/" ++ sheet⟩] }

def runRead (places : Places) (cabinet sheet : String) : Work Report := do
  let opened ← Cabinet.openIn cabinet places.root
  Work.accept (checkSheetName sheet)
  let contents ← Contents.load (opened.itemPath sheet)
  pure { cabinet := some opened, contents := some contents }

/-! ## Settings -/

/-- Goes on with a value, or fails for the cause that there is none. -/
def demand {α : Type} (asked : Except Cause α) : Work α := fun store =>
  match asked with
  | .ok value => .ok value store
  | .error cause => .error (.strategy cause) store

def runSettings (places : Places) (errand : SettingsErrand) : Work Report := do
  let settings ← Settings.load places.configuration
  match errand with
  | .showAll => pure { settings := some settings }
  | .showKey key =>
    let value ← demand (settings.get key)
    pure { settings := some settings, notes := [⟨.info, key ++ " = " ++ value⟩] }
  | .set key value =>
    let changed ← demand (settings.set key value)
    changed.save places.configuration
    let value ← demand (changed.get key)
    pure {
      settings := some changed
      notes := [⟨.success, "Set " ++ key ++ " = " ++ value⟩] }

def run (chance : Chance) (places : Places) : Command → Work Report
  | create name description => runCreate chance.draft places name description
  | info name => runInfo places name
  | list name => runList places name
  | sheet cabinet name description entries autoSync =>
    runSheet chance places cabinet name description entries autoSync
  | read cabinet name => runRead places cabinet name
  | remove name => runRemove places name
  | settings errand => runSettings places errand

end Command

end SheetCabinet
