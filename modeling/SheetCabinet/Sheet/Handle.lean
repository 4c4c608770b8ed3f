import SheetCabinet.Files.System

/-!
# The file behind a sheet

A sheet keeps its file open for writing at the end. The file may be in trouble: the next write may
be torn, so that only the first of its bytes are stored, and syncing or cutting back may fail.
Without trouble every write is stored whole, and syncing and cutting back succeed.
-/

namespace SheetCabinet

structure Trouble where
  /-- The number of bytes that the next write stores before it fails, if it fails. -/
  torn : Option Nat := none
  syncFails : Bool := false
  cutFails : Bool := false
deriving DecidableEq, Repr

structure Handle where
  file : FileId
  trouble : Trouble := {}
deriving DecidableEq, Repr

namespace Handle

/-- The handle after a write: only the next write is torn. -/
def afterWrite (handle : Handle) : Handle :=
  { handle with trouble := { handle.trouble with torn := none } }

/-- Writes at the end of the file: the outcome, and the file system after it. -/
def write (handle : Handle) (bytes : Bytes) (files : FileSystem) :
    Except FileError Unit × FileSystem :=
  match handle.trouble.torn with
  | some stored => (.error .diskFull, files.append handle.file (bytes.take stored))
  | none => (.ok (), files.append handle.file bytes)

def cutBack (handle : Handle) (length : Nat) (files : FileSystem) :
    Except FileError FileSystem :=
  if handle.trouble.cutFails then .error .truncateFailed
  else .ok (files.resize handle.file length)

def sync (handle : Handle) : Except FileError Unit :=
  if handle.trouble.syncFails then .error .syncFailed else .ok ()

end Handle

end SheetCabinet
