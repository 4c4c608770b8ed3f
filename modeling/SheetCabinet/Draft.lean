import SheetCabinet.Naming
import SheetCabinet.Files.Error
import SheetCabinet.Text.Bytes

/-!
# Drafts

A file is replaced by another that is written beside it first, its draft. What a draft is called is
left to chance, and so is whether it can be stored, and whether the directory can be synced after the
draft took the other file's place: whoever replaces a file is given all this.

Results:
* the name of a draft is one that cabinets keep for themselves (`isReserved_name`).
-/

namespace SheetCabinet

def isUuidChar (c : Char) : Bool := c.isAlphanum || c == '-'

/-- What tells drafts apart: 36 letters, digits and hyphens. -/
structure Uuid where
  text : String
  length_eq : text.toList.length = 36
  plain : text.toList.all isUuidChar = true
deriving DecidableEq, Repr

instance : Inhabited Uuid :=
  ⟨⟨"00000000-0000-4000-8000-000000000000", by decide, by decide⟩⟩

def Uuid.ofText? (text : String) : Option Uuid :=
  if valid : text.toList.length = 36 ∧ text.toList.all isUuidChar = true then
    some ⟨text, valid.1, valid.2⟩
  else none

/-- A file that is written to take the place of another. -/
structure Draft where
  uuid : Uuid
  /-- What stops it from being stored: so many bytes are, and then there is a failure. -/
  stopped : Option (Nat × FileError) := none
  /-- Why the directory cannot be synced once the draft has taken the other file's place. -/
  unsynced : Option FileError := none
deriving DecidableEq, Repr, Inhabited

namespace Draft

def name (draft : Draft) : String := reservedPrefix ++ "tmp-" ++ draft.uuid.text

/-- What is stored of the contents that the draft is meant for. -/
def stored (draft : Draft) (contents : Bytes) : Bytes :=
  match draft.stopped with
  | some (length, _) => contents.take length
  | none => contents

/-- The draft that fares the same until the directory is synced, and that can be. -/
def synced (draft : Draft) : Draft := { draft with unsynced := none }

@[simp] theorem unsynced_synced (draft : Draft) : draft.synced.unsynced = none := rfl

theorem toList_name (draft : Draft) :
    draft.name.toList = ".lctmp-".toList ++ draft.uuid.text.toList := by
  simp [name, reservedPrefix, String.toList_append]

theorem isReserved_name (draft : Draft) : isReserved draft.name = true := by
  unfold name
  rw [String.append_assoc]
  exact isReserved_append _

end Draft

end SheetCabinet
