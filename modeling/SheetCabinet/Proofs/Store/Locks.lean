import SheetCabinet.Cabinet
import SheetCabinet.Proofs.Store.Reading

/-!
# Work that takes no notice of locks

A lock keeps nobody from reading, writing, making or moving files; it only keeps others from taking
the same lock. So work that asks for no lock does the same whatever locks are held, and leaves them
held.

Results:
* work is blind to locks if its pieces are (`LockBlind.bind`), and leaves the locks as they are
  (`LockBlind.locked`);
* reading and replacing the control file are blind to locks, and so is making a sheet
  (`lockBlind_load`, `lockBlind_saveRecord`, `Sheet.lockBlind_create`).
-/

namespace SheetCabinet

namespace FileSystem

def withLocks (files : FileSystem) (locked : List FileId) : FileSystem :=
  { files with locked := locked }

variable (files : FileSystem) (locked : List FileId)

theorem openOrCreate_withLocks (path : Bytes) : (files.withLocks locked).openOrCreate path =
    (files.openOrCreate path).map fun opened => (opened.1, opened.2.withLocks locked) := by
  have arrived : (files.withLocks locked).arrive true path = files.arrive true path := rfl
  unfold openOrCreate
  rw [arrived]
  cases files.arrive true path with
  | error cause => rfl
  | ok arrival =>
    cases arrival with
    | vacant place name => rfl
    | found place =>
      dsimp only
      have look : (files.withLocks locked).tree.get? place = files.tree.get? place := rfl
      rw [look]
      split <;> rfl

theorem write_withLocks (path contents : Bytes) : (files.withLocks locked).write path contents =
    (files.write path contents).map (·.withLocks locked) := by
  unfold write
  rw [openOrCreate_withLocks]
  cases files.openOrCreate path <;> rfl

theorem createNew_withLocks (path : Bytes) : (files.withLocks locked).createNew path =
    (files.createNew path).map fun made => (made.1, made.2.withLocks locked) := by
  have free (slash : Option FileError) :
      (files.withLocks locked).vacancy slash path = files.vacancy slash path := rfl
  unfold createNew
  rw [free]
  cases files.vacancy (some .isADirectory) path <;> rfl

theorem removeFile_withLocks (path : Bytes) : (files.withLocks locked).removeFile path =
    (files.removeFile path).map (·.withLocks locked) := by
  have last : (files.withLocks locked).lastNode path = files.lastNode path := rfl
  unfold removeFile
  rw [last]
  split
  · rfl
  · rfl
  · split <;> rfl

theorem rename_withLocks (path newPath : Bytes) : (files.withLocks locked).rename path newPath =
    (files.rename path newPath).map (·.withLocks locked) := by
  have outer (path : Bytes) : (files.withLocks locked).parent path = files.parent path := rfl
  have look (place : Location) :
      (files.withLocks locked).tree.get? place = files.tree.get? place := rfl
  have allowed (node : Node) (target : Location) :
      (files.withLocks locked).replaceable node target = files.replaceable node target := rfl
  have device (first second : Location) :
      (files.withLocks locked).onOneDevice first second = files.onOneDevice first second := rfl
  unfold rename
  simp only [outer, look, allowed, device, bind, Except.bind]
  cases files.parent path with
  | error cause => rfl
  | ok first =>
    cases files.parent newPath with
    | error cause => rfl
    | ok second =>
      dsimp only
      cases files.onOneDevice first.1 second.1 with
      | false => rfl
      | true =>
        cases first.2.name with
        | none => rfl
        | some oldName =>
          cases second.2.name with
          | none => rfl
          | some newName =>
            simp only [Bool.not_true, Bool.false_eq_true, if_false]
            cases files.tree.get? (first.1 ++ [oldName]) with
            | none => split <;> rfl
            | some node =>
              simp only [apply_ite (Except.map _)]
              cases files.replaceable node (second.1 ++ [newName]) <;> rfl

end FileSystem

def Store.withLocks (store : Store) (locked : List FileId) : Store :=
  { store with files := store.files.withLocks locked }

namespace Work

/-- The work does the same whatever locks are held, and takes and gives back none. -/
def LockBlind {α : Type} (work : Work α) : Prop := ∀ store locked,
  work (store.withLocks locked) = match work store with
    | .ok value after => .ok value (after.withLocks locked)
    | .error failure after => .error failure (after.withLocks locked)

namespace LockBlind

variable {α β : Type}

theorem locked {work : Work α} (blind : LockBlind work) (store : Store) :
    (leftBy (work store)).files.locked = store.files.locked := by
  have same : work store = _ := blind store store.files.locked
  cases done : work store with
  | ok value after =>
    rw [done] at same
    injection same with _ same
    exact congrArg (·.files.locked) same
  | error failure after =>
    rw [done] at same
    injection same with _ same
    exact congrArg (·.files.locked) same

theorem pure (value : α) : LockBlind (pure value : Work α) := fun _ _ => rfl

theorem throw (failure : Failure) : LockBlind (throw failure : Work α) := fun _ _ => rfl

theorem bind {first : Work α} {next : α → Work β} (one : LockBlind first)
    (other : ∀ value, LockBlind (next value)) : LockBlind (first >>= next) := by
  intro store locked
  rw [bind_apply, bind_apply, one store locked]
  cases first store with
  | error failure between => rfl
  | ok value between => exact other value between locked

theorem tell (event : Event) : LockBlind (tell event) := fun _ _ => rfl

theorem accept (checked : Except NameFault Unit) : LockBlind (accept checked) := by
  intro store locked
  unfold Work.accept
  cases checked <;> rfl

theorem readText (path : Path) : LockBlind (readText path) := by
  intro store locked
  have same : (store.withLocks locked).files.readText (utf8 path) =
      store.files.readText (utf8 path) := rfl
  unfold Work.readText
  rw [same]
  split <;> rfl

theorem createFile (path : Path) : LockBlind (createFile path) := by
  intro store locked
  have files : (store.withLocks locked).files = store.files.withLocks locked := rfl
  unfold Work.createFile
  rw [files, FileSystem.createNew_withLocks]
  cases store.files.createNew (utf8 path) with
  | ok made => rfl
  | error cause => cases cause <;> rfl

theorem discard (path : Bytes) (cause : FileError) (written : FileSystem) (store : Store)
    (locked : List FileId) :
    Work.discard path cause (written.withLocks locked) (store.withLocks locked) =
      match Work.discard path cause written store with
      | .ok value after => .ok value (after.withLocks locked)
      | .error failure after => .error failure (after.withLocks locked) := by
  unfold Work.discard
  rw [FileSystem.removeFile_withLocks]
  cases written.removeFile path <;> rfl

theorem placeDraft (draft : Draft) (directory file : Path) (contents : Bytes) :
    LockBlind (placeDraft draft directory file contents) := by
  intro store locked
  have files : (store.withLocks locked).files = store.files.withLocks locked := rfl
  unfold Work.placeDraft
  dsimp only
  rw [files, FileSystem.write_withLocks]
  cases store.files.write (utf8 (Path.join directory draft.name)) (draft.stored contents) with
  | error cause => rfl
  | ok written =>
    cases draft.stopped with
    | some stop =>
      dsimp only [Except.map]
      rw [discard]
      cases Work.discard _ stop.2 written store <;> rfl
    | none =>
      dsimp only [Except.map]
      rw [FileSystem.rename_withLocks]
      cases written.rename (utf8 (Path.join directory draft.name))
          (utf8 (Path.join directory file)) with
      | error cause =>
        dsimp only [Except.map]
        rw [discard]
        cases Work.discard _ cause written store <;> rfl
      | ok renamed => rfl

theorem syncDirectory (unsynced : Option FileError) (directory : Path) :
    LockBlind (syncDirectory unsynced directory) := by
  intro store locked
  have led : (store.withLocks locked).files.status (utf8 directory) =
      store.files.status (utf8 directory) := rfl
  unfold Work.syncDirectory
  rw [led]
  cases store.files.status (utf8 directory) <;> cases unsynced <;> rfl

theorem replaceFile (draft : Draft) (directory file : Path) (contents : Bytes) :
    LockBlind (replaceFile draft directory file contents) :=
  (placeDraft draft directory file contents).bind fun _ => syncDirectory draft.unsynced directory

end LockBlind

end Work

/-! ## Cabinets and sheets -/

theorem lockBlind_load (directory : Path) : Work.LockBlind (ControlRecord.load directory) := by
  refine (Work.LockBlind.readText _).bind ?_
  intro text
  split
  · exact .pure _
  · exact .throw _

theorem lockBlind_saveRecord (cabinet : Cabinet) (draft : Draft) :
    Work.LockBlind (cabinet.saveRecord draft) :=
  .replaceFile _ _ _ _

theorem Sheet.lockBlind_describe (handle : Handle) (path : Path) (header : Bytes) :
    Work.LockBlind (describe handle path header) := by
  intro store locked
  have files : (store.withLocks locked).files = store.files.withLocks locked := rfl
  unfold describe Handle.write
  cases handle.trouble.torn with
  | none => rfl
  | some stored =>
    have torn := Work.LockBlind.discard (utf8 path) .diskFull
      (store.files.append handle.file (header.take stored)) store locked
    refine torn.trans ?_
    dsimp only
    cases Work.discard _ _ _ store <;> rfl

theorem Sheet.lockBlind_create (torn : Option Nat) (name description : String) (parent : Path) :
    Work.LockBlind (Sheet.create torn name description parent) := by
  refine (Work.LockBlind.accept _).bind ?_
  intro _
  refine (Work.LockBlind.createFile _).bind ?_
  intro file
  refine (lockBlind_describe _ _ _).bind ?_
  intro _
  exact (Work.LockBlind.tell _).bind fun _ => .pure _

end SheetCabinet
