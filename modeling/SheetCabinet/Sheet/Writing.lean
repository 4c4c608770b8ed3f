import SheetCabinet.Sheet.Handle
import SheetCabinet.Store

/-!
# Writing a sheet

An open sheet numbers what is committed to it. A text is committed as the next entry in one write;
when the write fails the file is cut back to its last complete line, and the number stays. Text can
also be staged piece by piece and then committed as one entry; it stays staged if the entry never
reached the file. Staged text is never written by itself, and is lost when the sheet is closed.

Every operation ends in a value or a failure, and in both cases in a sheet and a store, because a
failure may come after the entry is in the file.

Results:
* an exhausted sheet refuses every entry and stays as it is (`write_of_exhausted`);
* text staged piece by piece is staged as one text (`stage_stage`).
-/

namespace SheetCabinet

structure Sheet where
  path : Path
  handle : Handle
  /-- The number of the next entry. -/
  number : UInt32 := 1
  /-- Whether the greatest number has been used. -/
  exhausted : Bool := false
  autoSync : Bool := false
  /-- The text staged for the next entry. -/
  staged : String := ""
  /-- The length of the file up to the end of its last complete line, in bytes. -/
  committed : Nat
deriving DecidableEq, Repr

/-- An open sheet, and the store its file is in. -/
structure Desk where
  sheet : Sheet
  store : Store

namespace Sheet

abbrev Writing (α : Type) : Type := EStateM Failure Desk α

def lastNumber (sheet : Sheet) : UInt32 :=
  if sheet.exhausted then UInt32.ofNat (UInt32.size - 1) else sheet.number - 1

/-- The sheet after one more entry, of the given length, was committed. -/
def advanced (sheet : Sheet) (length : Nat) : Sheet :=
  if sheet.number.toNat + 1 < UInt32.size then
    { sheet with committed := sheet.committed + length, number := sheet.number + 1 }
  else { sheet with committed := sheet.committed + length, exhausted := true }

/-! ## Staging -/

def stage (sheet : Sheet) (text : String) : Sheet := { sheet with staged := sheet.staged ++ text }

def clearStaged (sheet : Sheet) : Sheet := { sheet with staged := "" }

theorem stage_stage (sheet : Sheet) (first second : String) :
    (sheet.stage first).stage second = sheet.stage (first ++ second) := by
  simp [stage, String.append_assoc]

def setAutoSync (sheet : Sheet) (on : Bool) : Sheet := { sheet with autoSync := on }

def setNumber (sheet : Sheet) (number : UInt32) : Sheet := { sheet with number := number }

/-! ## Committing -/

/-- Makes sure that everything written so far is stored for good. -/
def sync : Writing Unit := fun desk =>
  match desk.sheet.handle.sync with
  | .ok () => .ok () { desk with
      store := desk.store.tell (.sheetSynced desk.sheet.path desk.sheet.lastNumber) }
  | .error cause => .error (.io cause) desk

/-- The store after the file was cut back to its last complete line, or after that failed. -/
def rollBack (sheet : Sheet) (store : Store) : Store :=
  match sheet.handle.cutBack sheet.committed store.files with
  | .ok files => { store with files := files }
  | .error cause => store.tell (.cutBackFailed sheet.path sheet.committed cause)

/-- Commits a text as the next entry. What is staged is not touched. -/
def write (text : String) : Writing Unit := fun desk =>
  let sheet := desk.sheet
  if sheet.exhausted then .error (.strategy .numbersExhausted) desk
  else
    let line := utf8 (entryLine sheet.number text)
    let written := { sheet with handle := sheet.handle.afterWrite }
    match sheet.handle.write line desk.store.files with
    | (.error cause, files) =>
      .error (.io cause) ⟨written, written.rollBack { desk.store with files := files }⟩
    | (.ok (), files) =>
      let next : Desk := ⟨written.advanced line.length, { desk.store with files := files }⟩
      if sheet.autoSync then sync next else .ok () next

/-- Commits what is staged as the next entry; it stays staged if it did not reach the file. -/
def commitStaged : Writing Unit := fun desk =>
  let staged := desk.sheet.staged
  match write staged { desk with sheet := desk.sheet.clearStaged } with
  | .ok () after => .ok () after
  | .error failure after =>
    if after.sheet.committed = desk.sheet.committed then
      .error failure { after with sheet := { after.sheet with staged := staged } }
    else .error failure after

/-- Commits texts one after the other, up to the first that fails. -/
def writeAll : List String → Writing Unit
  | [] => pure ()
  | text :: rest => do
    write text
    writeAll rest

/-! ## Opening and closing -/

/-- Writes a description into the new file at a path. Without it the file does not stay. -/
def describe (handle : Handle) (path : Path) (header : Bytes) : Work Unit := fun store =>
  match handle.write header store.files with
  | (.ok (), files) => .ok () { store with files := files }
  | (.error cause, files) => Work.discard (utf8 path) cause files store

/-- Makes a sheet in a directory and writes its description. The first write may be torn. -/
def create (torn : Option Nat) (name description : String) (parent : Path) : Work Sheet := do
  Work.accept (checkComponent name "sheet")
  let path := Path.join parent name
  let file ← Work.createFile path
  let handle : Handle := ⟨file, { torn := torn }⟩
  let header := utf8 (descriptionLine description)
  describe handle path header
  Work.tell (.sheetCreated path)
  pure { path := path, handle := handle.afterWrite, committed := header.length }

def close (sheet : Sheet) (store : Store) : Store :=
  if sheet.staged = "" then store
  else store.tell (.stagedDiscarded sheet.staged.utf8ByteSize sheet.path)

def run {α : Type} (sheet : Sheet) (work : Writing α) : Work α := fun store =>
  match work ⟨sheet, store⟩ with
  | .ok value desk => .ok value desk.store
  | .error failure desk => .error failure desk.store

theorem write_of_exhausted {desk : Desk} (used : desk.sheet.exhausted = true) (text : String) :
    write text desk = .error (.strategy .numbersExhausted) desk := by
  simp [write, used]

end Sheet

/-! ## Reading -/

def Contents.load (path : Path) : Work Contents := do
  let text ← Work.readText path
  match Contents.parse text with
  | .ok contents => pure contents
  | .error fault => throw (.strategy (.sheet fault))

end SheetCabinet
