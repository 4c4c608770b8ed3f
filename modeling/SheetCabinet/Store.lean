import SheetCabinet.Draft
import SheetCabinet.Journal
import SheetCabinet.Files.ByPath

/-!
# Work on a store

The library works on a file system and tells of its work in a journal; both together are a store.
A piece of work ends in a value or in a failure, and in both cases in a store, because work that
fails halfway leaves what it has done.

A file is replaced in one step: the new contents go to a draft, which then takes the place of the old
file.

Results:
* how pieces of work are put together (`bind_apply`), and what comes of asking and of changing
  (`query_apply`, `change_apply`).
-/

namespace SheetCabinet

structure Store where
  files : FileSystem
  /-- The events that were told of, the last first. -/
  journal : List Event := []

abbrev Work (α : Type) : Type := EStateM Failure Store α

namespace Store

def events (store : Store) : List Event := store.journal.reverse

def tell (store : Store) (event : Event) : Store :=
  { store with journal := event :: store.journal }

@[simp] theorem events_tell (store : Store) (event : Event) :
    (store.tell event).events = store.events ++ [event] := by
  simp [events, tell]

end Store

namespace Work

/-! ## Basic pieces -/

def tell (event : Event) : Work Unit := fun store => .ok () (store.tell event)

def query {α : Type} (ask : FileSystem → Except FileError α) : Work α := fun store =>
  match ask store.files with
  | .ok answer => .ok answer store
  | .error cause => .error (.io cause) store

def change (act : FileSystem → Except FileError FileSystem) : Work Unit := fun store =>
  match act store.files with
  | .ok files => .ok () { store with files := files }
  | .error cause => .error (.io cause) store

/-- Goes on only if a name or a description is accepted. -/
def accept (checked : Except NameFault Unit) : Work Unit := fun store =>
  match checked with
  | .ok () => .ok () store
  | .error fault => .error (.strategy (.name fault)) store

theorem bind_apply {σ α β : Type} (first : EStateM Failure σ α) (next : α → EStateM Failure σ β)
    (state : σ) :
    (first >>= next) state = match first state with
      | .ok value after => next value after
      | .error failure after => .error failure after := by
  change EStateM.bind first next state = _
  unfold EStateM.bind
  cases first state <;> rfl

theorem pure_apply {α : Type} (value : α) (store : Store) :
    (pure value : Work α) store = .ok value store := rfl

theorem query_apply {α : Type} (ask : FileSystem → Except FileError α) (store : Store) :
    query ask store = match ask store.files with
      | .ok answer => .ok answer store
      | .error cause => .error (.io cause) store := rfl

theorem change_apply (act : FileSystem → Except FileError FileSystem) (store : Store) :
    change act store = match act store.files with
      | .ok files => .ok () { store with files := files }
      | .error cause => .error (.io cause) store := rfl

/-- Makes a directory and those it is in. What was made stays when a later one is refused. -/
def makeDirectories (path : Path) : Work Unit := fun store =>
  match store.files.makeDirectories (utf8 path) with
  | (.ok (), files) => .ok () { store with files := files }
  | (.error cause, files) => .error (.io cause) { store with files := files }

/-- Makes a file that must not be there yet; one that is there is reported by its path. -/
def createFile (path : Path) : Work FileId := fun store =>
  match store.files.createNew (utf8 path) with
  | .ok (file, files) => .ok file { store with files := files }
  | .error .alreadyExists => .error (.alreadyExists path) store
  | .error cause => .error (.io cause) store

/-! ## Replacing a file -/

/-- Takes away a file that could not be written, and fails. -/
def discard (path : Bytes) (cause : FileError) (written : FileSystem) : Work Unit := fun store =>
  match written.removeFile path with
  | .ok cleaned => .error (.io cause) { store with files := cleaned }
  | .error _ => .error (.io cause) { store with files := written }

/-- Writes a draft, and gives it the place of a file in the directory. -/
def placeDraft (draft : Draft) (directory file : Path) (contents : Bytes) : Work Unit := fun store =>
  let temporary := utf8 (Path.join directory draft.name)
  match store.files.write temporary (draft.stored contents) with
  | .error cause => .error (.io cause) store
  | .ok written =>
    match draft.stopped with
    | some (_, cause) => discard temporary cause written store
    | none =>
      match written.rename temporary (utf8 (Path.join directory file)) with
      | .error cause => discard temporary cause written store
      | .ok renamed => .ok () { store with files := renamed }

/-- Opens a directory and makes sure that its names are stored for good, unless there is a cause for
which they cannot be. -/
def syncDirectory (unsynced : Option FileError) (directory : Path) : Work Unit := fun store =>
  match store.files.status (utf8 directory), unsynced with
  | .error cause, _ => .error (.io cause) store
  | .ok _, some cause => .error (.io cause) store
  | .ok _, none => .ok () store

/-- Replaces a file in a directory, or makes it. Once the draft has taken its place it stays, even if
the directory cannot be synced afterwards. -/
def replaceFile (draft : Draft) (directory file : Path) (contents : Bytes) : Work Unit := do
  placeDraft draft directory file contents
  syncDirectory draft.unsynced directory

/-! ## Reading a text that may be missing -/

def readText (path : Path) : Work String := fun store =>
  match store.files.readText (utf8 path) with
  | .ok text => .ok text store
  | .error .notFound => .error (.doesNotExist path) store
  | .error cause => .error (.io cause) store

/-! ## Listing -/

def sortNames (names : List String) : List String :=
  names.mergeSort fun first second => utf8 first ≤ utf8 second

/-- The name of a directory entry that is somebody's file: a regular file whose name is a text and
not one that cabinets keep for themselves. -/
def itemName (entry : Bytes × Node) : Option String :=
  match entry.2 with
  | .file _ =>
    match entry.1.text? with
    | some name => if isReserved name then none else some name
    | none => none
  | _ => none

/-- The sorted names of the files in a directory that are not a cabinet's own. -/
def listItems (directory : Path) : Work (List String) :=
  query fun files =>
    match files.list (utf8 directory) with
    | .ok entries => .ok (sortNames (entries.filterMap itemName))
    | .error cause => .error cause

end Work

end SheetCabinet
