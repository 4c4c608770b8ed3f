import SheetCabinet.Store

/-!
# The control file and its lock

Whoever counts a sheet holds the lock of the cabinet's lock file meanwhile. The lock belongs to the
file, whatever it contains, and is given back however the work under it ends.

Results:
* what comes of taking the lock (`ControlLock.take_apply`).
-/

namespace SheetCabinet

namespace ControlRecord

def load (directory : Path) : Work ControlRecord := do
  let text ← Work.readText (Path.join directory controlName)
  match parse text with
  | .ok record => pure record
  | .error fault => throw (.strategy (.control fault))

def save (record : ControlRecord) (draft : Draft) (directory : Path) : Work Unit :=
  Work.replaceFile draft directory controlName (utf8 record.render)

end ControlRecord

structure ControlLock where
  path : Path
  file : FileId
deriving DecidableEq, Repr

namespace ControlLock

/-- Opens the lock file of the cabinet in a directory, and makes it if it is missing. -/
def openAt (directory : Path) : Work ControlLock := fun store =>
  let path := Path.join directory lockName
  match store.files.openOrCreate (utf8 path) with
  | .error cause => .error (.io cause) store
  | .ok (file, files) => .ok ⟨path, file⟩ { store with files := files }

def tryHold (lock : ControlLock) : Work Unit := fun store =>
  match store.files.lock? lock.file with
  | some held => .ok () { store with files := held }
  | none => .error (.strategy (.locked lock.path)) store

/-- Takes the lock of the cabinet in a directory, if nobody holds it. The lock file is made if it
is missing. -/
def take (directory : Path) : Work FileId := do
  let lock ← openAt directory
  lock.tryHold
  pure lock.file

theorem take_apply (directory : Path) (store : Store) :
    take directory store =
      match store.files.openOrCreate (utf8 (Path.join directory lockName)) with
      | .error cause => .error (.io cause) store
      | .ok (file, files) =>
        match files.lock? file with
        | some held => .ok file { store with files := held }
        | none => .error (.strategy (.locked (Path.join directory lockName)))
            { store with files := files } := by
  unfold take
  rw [Work.bind_apply]
  unfold openAt
  dsimp only
  cases store.files.openOrCreate (utf8 (Path.join directory lockName)) with
  | error cause => rfl
  | ok opened =>
    dsimp only
    rw [Work.bind_apply]
    unfold tryHold
    dsimp only
    cases opened.2.lock? opened.1 <;> rfl

def release (file : FileId) (store : Store) : Store :=
  { store with files := store.files.unlock file }

def holding {α : Type} (directory : Path) (work : Work α) : Work α := fun store =>
  match take directory store with
  | .error failure after => .error failure after
  | .ok file held =>
    match work held with
    | .ok value after => .ok value (release file after)
    | .error failure after => .error failure (release file after)

end ControlLock

end SheetCabinet
