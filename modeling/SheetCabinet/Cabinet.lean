import SheetCabinet.Control.Lock
import SheetCabinet.Sheet.Writing

/-!
# Cabinets

A cabinet is a directory of sheets with a control file. Whoever opens a cabinet keeps what the
control file said then; the file itself is what counts when several have the same cabinet open.

A new sheet is made first and counted afterwards, under the lock of the control file, with the
count read anew. A sheet that could not be counted is taken away again.

Work with an open cabinet ends in a value or a failure, and in both cases in a cabinet and a store.
-/

namespace SheetCabinet

structure Cabinet where
  name : String
  description : String
  /-- The directory that the cabinet's directory is in. -/
  parent : Path
  directory : Path
  /-- The number of sheets handed out, as last read or counted. -/
  count : UInt32
deriving DecidableEq, Repr

structure Office where
  cabinet : Cabinet
  store : Store

/-- What befalls a request for a new sheet. -/
structure Chance where
  /-- The bytes of the description that are stored before writing it fails, if it does. -/
  torn : Option Nat := none
  /-- The draft of the control file. -/
  draft : Draft
deriving DecidableEq, Repr, Inhabited

namespace Cabinet

/-! ## Work with an open cabinet -/

/-- A piece of work with an open cabinet. -/
abbrev Keeping (α : Type) : Type := EStateM Failure Office α

def aside {α : Type} (work : Work α) : Keeping α := fun office =>
  match work office.store with
  | .ok value store => .ok value { office with store := store }
  | .error failure store => .error failure { office with store := store }

/-- Does some work with a cabinet as part of other work, and answers with the cabinet as well. -/
def run {α : Type} (cabinet : Cabinet) (work : Keeping α) : Work (Cabinet × α) := fun store =>
  match work ⟨cabinet, store⟩ with
  | .ok value office => .ok (office.cabinet, value) office.store
  | .error failure office => .error failure office.store

def learn (cabinet : Cabinet) (record : ControlRecord) : Cabinet :=
  { cabinet with description := record.description, count := record.count }

def itemPath (cabinet : Cabinet) (item : String) : Path := Path.join cabinet.directory item

def sheetNames (cabinet : Cabinet) : Work (List String) := Work.listItems cabinet.directory

def reread : Keeping Unit := do
  let cabinet := (← get).cabinet
  let record ← aside (ControlRecord.load cabinet.directory)
  if record.name = cabinet.name then
    modify fun office => { office with cabinet := cabinet.learn record }
  else throw (.strategy (.otherCabinet cabinet.directory record.name))

/-- Writes what the cabinet holds to its control file. -/
def saveRecord (cabinet : Cabinet) (draft : Draft) : Work Unit :=
  ControlRecord.save ⟨cabinet.name, cabinet.description, cabinet.count⟩ draft cabinet.directory

/-! ## Making, opening and removing -/

/-- Makes an empty cabinet. Without its control file the directory does not stay. -/
def create (draft : Draft) (name description : String) (parent : Path) : Work Cabinet := do
  Work.accept (checkCabinetName name)
  Work.accept (checkDescription description)
  let directory := Path.join parent name
  let cabinet : Cabinet := ⟨name, description, parent, directory, 0⟩
  fun store =>
    match store.files.makeDirectory (utf8 directory) with
    | .error .alreadyExists => .error (.alreadyExists directory) store
    | .error cause => .error (.io cause) store
    | .ok made =>
      match cabinet.saveRecord draft { store with files := made } with
      | .ok () after => .ok cabinet (after.tell (.cabinetCreated directory))
      | .error failure after =>
        match after.files.removeTree (utf8 directory) with
        | .ok cleaned => .error failure { after with files := cleaned }
        | .error _ => .error failure after

/-- Goes on only if a path leads to a directory. -/
def requireDirectory (directory : Path) : Work Unit := fun store =>
  if store.files.isDirectory (utf8 directory) then .ok () store
  else .error (.doesNotExist directory) store

/-- Tells if there are more sheets than the cabinet has handed out. -/
def tellUncounted (cabinet : Cabinet) (present : Nat) : Work Unit :=
  if cabinet.count.toNat < present then
    Work.tell (.sheetsUncounted cabinet.directory present cabinet.count)
  else pure ()

def openIn (name : String) (parent : Path) : Work Cabinet := do
  Work.accept (checkCabinetName name)
  let directory := Path.join parent name
  requireDirectory directory
  let (cabinet, ()) ← run ⟨name, "", parent, directory, 0⟩ reread
  let present ← cabinet.sheetNames
  cabinet.tellUncounted present.length
  Work.tell (.cabinetOpened directory)
  pure cabinet

def remove (name : String) (parent : Path) : Work Unit := do
  Work.accept (checkCabinetName name)
  let directory := Path.join parent name
  requireDirectory directory
  Work.change fun files => files.removeTree (utf8 directory)
  Work.tell (.cabinetRemoved directory)

/-! ## New sheets -/

/-- Counts one more sheet in the control file, under its lock, and tells what the file says then. -/
def recordNext (cabinet : Cabinet) (draft : Draft) : Work ControlRecord :=
  ControlLock.holding cabinet.directory do
    let record ← ControlRecord.load cabinet.directory
    if record.count.toNat + 1 < UInt32.size then
      let counted := { record with count := record.count + 1 }
      counted.save draft cabinet.directory
      pure counted
    else throw (.strategy (.cabinetFull cabinet.name))

/-- Counts one more sheet, and takes over what the control file says. -/
def countUp (draft : Draft) : Keeping Unit := do
  let cabinet := (← get).cabinet
  let counted ← aside (cabinet.recordNext draft)
  modify fun office => { office with cabinet := cabinet.learn counted }

/-- Takes a sheet that could not be counted away again. -/
def withdraw (sheet : Sheet) (store : Store) : Store :=
  match store.files.removeFile (utf8 sheet.path) with
  | .ok files => { store with files := files }
  | .error cause => store.tell (.sheetLeftBehind sheet.path cause)

def newSheet (chance : Chance) (name description : String) : Keeping Sheet := do
  aside (Work.accept (checkSheetName name))
  let directory := (← get).cabinet.directory
  let sheet ← aside (Sheet.create chance.torn name description directory)
  fun office =>
    match countUp chance.draft office with
    | .error failure after =>
      .error failure { after with store := withdraw sheet (sheet.close after.store) }
    | .ok () after =>
      let counted := after.cabinet
      .ok sheet { after with
        store := after.store.tell (.sheetCounted counted.name counted.count name) }

end Cabinet

end SheetCabinet
