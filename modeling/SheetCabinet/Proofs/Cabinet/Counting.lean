import SheetCabinet.Cabinet
import SheetCabinet.Proofs.Store.Reading
import SheetCabinet.Proofs.Store.Replacement

/-!
# Counting a sheet

The count is read and replaced under the lock of the cabinet. Whatever goes wrong meanwhile, all that
may be left of the attempt is the lock file, empty.

Results:
* what is left when the lock was taken or refused (`take_cases`, `upToLock_of_take`);
* the control file is read without a change (`load_cases`), and says afterwards what it said with a
  count that is one higher, or nothing has changed (`recordNext_of_take`, `recordNext_cases`); which of
  the two is what is reported, unless the directory cannot be synced (`recordNext_eq`).
-/

namespace SheetCabinet

open FileSystem

/-! ## The lock file -/

/-- The file systems hold and show the same, but for an empty file that may have been made at the
place of the lock file. -/
inductive UpToLock (spot : Location) (files after : FileSystem) : Prop
  | same (same : SameBut [] files after)
  | made (id : FileId) (vacant : files.tree.get? spot = none) (unnamed : files.Unnamed id)
      (same : SameBut [spot] files after) (stands : after.Stands id spot [])

namespace UpToLock

variable {spot : Location} {files between after : FileSystem}

theorem sameBut (upTo : UpToLock spot files after) : SameBut [spot] files after := by
  cases upTo with
  | same same => exact same.settle fun _ absurd => by cases absurd
  | made _ _ _ same _ => exact same

/-- What is seen at a place is what was seen there, or the new lock file. -/
theorem item (upTo : UpToLock spot files after) (place : Location) :
    after.item place = files.item place ∨
      place = spot ∧ files.item place = none ∧ after.item place = some (.file []) := by
  cases upTo with
  | same same => exact .inl (same.item place List.not_mem_nil)
  | made id vacant _ same empty =>
    by_cases own : place = spot
    · subst own
      exact .inr ⟨rfl, item_eq_none_iff.2 vacant, empty.item⟩
    · exact .inl (same.item place (by simpa using own))

/-- A change of nothing that can be seen comes on top. -/
theorem trans_same (first : UpToLock spot files between) (second : SameBut [] between after) :
    UpToLock spot files after := by
  cases first with
  | same same => exact .same (same.trans second)
  | made id vacant unnamed same stands =>
    have whole := same.trans second
    rw [List.append_nil] at whole
    refine .made id vacant unnamed whole (stands.of_sameBut second ?_ ?_)
    · exact List.not_mem_nil
    · exact fun _ absurd => by cases absurd

/-- A file that is somewhere else stays what it is. -/
theorem stands {id : FileId} {place : Location} {contents : Bytes}
    (upTo : UpToLock spot files after) (stands : files.Stands id place contents)
    (distinct : place ≠ spot) : after.Stands id place contents := by
  cases upTo with
  | same same => exact stands.of_sameBut same List.not_mem_nil fun _ absurd => by cases absurd
  | made other _ unnamed same empty => exact stands.aside same unnamed empty.held distinct

/-- An empty file more is in nobody's way. -/
theorem folder {directory : Path} {place : Location} (upTo : UpToLock spot files after)
    (found : files.folder directory = .ok place) : after.folder directory = .ok place := by
  cases upTo with
  | same same => exact folder_of_sameBut same (fun _ absurd => by cases absurd) found
  | made id vacant _ same _ =>
    exact folder_of_sameBut same (by simpa using idle_of_vacant vacant) found

end UpToLock

namespace ControlLock

/-- The lock file is there, or is made, or the lock is refused. -/
theorem take_cases {directory : Path} {store : Store} {place : Location}
    (found : store.files.folder directory = .ok place)
    (solid : ∀ target, store.files.tree.get? (place ++ [utf8 lockName]) ≠ some (.link target)) :
    (∃ failure after, take directory store = .error failure after ∧
      UpToLock (place ++ [utf8 lockName]) store.files after.files) ∨
    ∃ id after, take directory store = .ok id after ∧
      UpToLock (place ++ [utf8 lockName]) store.files after.files ∧
      after.files.tree.get? (place ++ [utf8 lockName]) = some (.file id) := by
  rw [take_apply]
  cases done : store.files.openOrCreate (utf8 (Path.join directory lockName)) with
  | error cause => exact .inl ⟨_, store, rfl, .same (.refl _)⟩
  | ok opened =>
    obtain ⟨id, files⟩ := opened
    have reached : UpToLock (place ++ [utf8 lockName]) store.files files ∧
        files.tree.get? (place ++ [utf8 lockName]) = some (.file id) := by
      obtain ⟨other, within⟩ := within_of_openOrCreate component_lockName done
      obtain rfl : place = other := Except.ok.inj (found.symm.trans within.folder)
      rw [openOrCreate_within within solid] at done
      split at done
      · cases done
      · split at done
        · rename_i vacant
          have inside := directory_of_folder found
          cases done
          exact ⟨.made _ vacant (unnamed_freshId _) (sameBut_newFile inside vacant)
            (stands_newFile inside vacant), (stands_newFile inside vacant).held⟩
        · rename_i held
          cases done
          exact ⟨.same (.refl _), held⟩
        · cases done
    dsimp only
    cases taken : files.lock? id with
    | none => exact .inl ⟨_, _, rfl, reached.1⟩
    | some locked =>
      have same := sameBut_lock taken
      refine .inr ⟨id, _, rfl, reached.1.trans_same same, ?_⟩
      exact (same.look _ List.not_mem_nil).trans reached.2

/-- Whoever gets the lock may have made an empty file for it, wherever the path of the lock file
leads. -/
theorem upToLock_of_take {directory : Path} {store held : Store} {id : FileId}
    (taken : take directory store = .ok id held) : ∃ spot, UpToLock spot store.files held.files := by
  rw [take_apply] at taken
  split at taken
  · cases taken
  · rename_i file files opened
    split at taken
    · rename_i locked free
      cases taken
      have same := sameBut_lock free
      rcases openOrCreate_eq_ok opened with ⟨rfl, -⟩ | ⟨place, name, inside, vacant, made⟩
      · exact ⟨[], .same same⟩
      · cases made
        have upTo : UpToLock (place ++ [name]) store.files (store.files.newFile place name).2 :=
          .made _ vacant (unnamed_freshId _) (sameBut_newFile inside vacant)
            (stands_newFile inside vacant)
        exact ⟨_, upTo.trans_same same⟩
    · cases taken

end ControlLock

/-! ## The control file -/

namespace ControlRecord

theorem load_cases (directory : Path) (store : Store) :
    (∃ failure, load directory store = .error failure store) ∨
    ∃ record text, load directory store = .ok record store ∧
      store.files.read (utf8 (Path.join directory controlName)) = .ok (utf8 text) ∧
      parse text = .ok record := by
  unfold load
  rw [Work.bind_apply]
  rcases Work.readText_cases (Path.join directory controlName) store with
    ⟨failure, refused⟩ | ⟨text, done, read⟩
  · rw [refused]
    exact .inl ⟨failure, rfl⟩
  · rw [done]
    dsimp only
    cases parsed : parse text with
    | error fault => exact .inl ⟨_, rfl⟩
    | ok record => exact .inr ⟨record, text, rfl, read, parsed⟩

/-- Whoever reads a control file has reached it. -/
theorem load_eq_ok {directory : Path} {store after : Store} {record : ControlRecord}
    (done : load directory store = .ok record after) : after = store ∧ ∃ place text,
      store.files.Within directory controlName place ∧
      store.files.read (utf8 (Path.join directory controlName)) = .ok (utf8 text) ∧
      parse text = .ok record := by
  rcases load_cases directory store with ⟨failure, failed⟩ | ⟨other, text, loaded, read, parsed⟩
  · rw [failed] at done
    cases done
  · rw [loaded] at done
    cases done
    obtain ⟨place, within⟩ := within_of_read component_controlName read
    exact ⟨rfl, place, text, within, read, parsed⟩

end ControlRecord

/-- A file that is somewhere else is not replaced. -/
theorem Work.Replaced.stands_of_ne {files after : FileSystem} {spot place : Location} {id : FileId}
    {contents new : Bytes} (replaced : Work.Replaced files after spot new)
    (stands : files.Stands id place contents) (distinct : place ≠ spot) :
    after.Stands id place contents := by
  obtain ⟨same, other, unnamed, fresh⟩ := replaced
  exact stands.aside same unnamed fresh.held distinct

theorem Work.Replaced.unlock {files after : FileSystem} {spot : Location} {contents : Bytes}
    (replaced : Work.Replaced files after spot contents) (id : FileId) :
    Work.Replaced files (after.unlock id) spot contents := by
  obtain ⟨same, other, unnamed, stands⟩ := replaced
  have whole := same.trans (sameBut_unlock after id)
  rw [List.append_nil] at whole
  exact ⟨whole, other, unnamed, ⟨stands.held, stands.only⟩, stands.holds⟩

/-! ## Counting -/

/-- When somebody has taken the lock of the cabinet in a directory, nothing there has the name of the
draft. -/
def Draft.UnusedUnderLock (draft : Draft) (directory : Path) (store : Store) : Prop :=
  ∀ id held, ControlLock.take directory store = .ok id held → draft.Unused held.files directory

instance (draft : Draft) (directory : Path) (store : Store) :
    Decidable (draft.UnusedUnderLock directory store) :=
  match taken : ControlLock.take directory store with
  | .ok id held => decidable_of_iff (draft.Unused held.files directory)
      ⟨fun unused _ _ same => by cases taken.symm.trans same; exact unused,
        fun unused => unused id held taken⟩
  | .error _ _ => .isTrue fun _ _ same => nomatch taken.symm.trans same

namespace Cabinet

/-- What the count was taken from, and what there is after a sheet was counted. -/
structure CountedUp (cabinet : Cabinet) (files after : FileSystem) (place : Location)
    (record : ControlRecord) : Prop where
  room : record.count.toNat + 1 < UInt32.size
  /-- The record was read when the lock file was there. -/
  loaded : ∃ held : Store, UpToLock (place ++ [utf8 lockName]) files held.files ∧
    (∃ id, held.files.tree.get? (place ++ [utf8 lockName]) = some (.file id)) ∧
    ControlRecord.load cabinet.directory held = .ok record held ∧
    Work.Replaced held.files after (place ++ [utf8 controlName])
      (utf8 ({ record with count := record.count + 1 } : ControlRecord).render)

variable {cabinet : Cabinet} {draft : Draft} {store : Store} {place : Location}

/-- The directory is where it was. -/
theorem CountedUp.folder {files after : FileSystem} {record : ControlRecord}
    (counted : CountedUp cabinet files after place record)
    (found : files.folder cabinet.directory = .ok place) :
    after.folder cabinet.directory = .ok place := by
  obtain ⟨held, upTo, -, loaded, replaced⟩ := counted.loaded
  obtain ⟨-, other, text, within, read, -⟩ := ControlRecord.load_eq_ok loaded
  have still := upTo.folder found
  obtain rfl : place = other := Except.ok.inj (still.symm.trans within.folder)
  exact folder_of_sameBut replaced.same (by simpa using idle_of_read within read) still

/-- Whether the directory can be synced comes last, when the sheet is counted. -/
theorem recordNext_eq (cabinet : Cabinet) (draft : Draft) (store : Store) :
    cabinet.recordNext draft store =
      Work.reported draft.unsynced (cabinet.recordNext draft.synced store) := by
  unfold recordNext ControlLock.holding
  cases ControlLock.take cabinet.directory store with
  | error failure after => rfl
  | ok id held =>
    dsimp only
    rw [Work.bind_apply, Work.bind_apply]
    cases ControlRecord.load cabinet.directory held with
    | error failure after => rfl
    | ok record after =>
      dsimp only
      by_cases room : record.count.toNat + 1 < UInt32.size
      · rw [if_pos room, if_pos room, Work.bind_apply, Work.bind_apply]
        unfold ControlRecord.save
        rw [Work.replaceFile_eq]
        cases Work.replaceFile draft.synced cabinet.directory controlName
          (utf8 ({ record with count := record.count + 1 } : ControlRecord).render) after with
        | error failure left => rfl
        | ok value left => cases draft.unsynced <;> rfl
      · rw [if_neg room, if_neg room]
        rfl

/-- Once the lock is held, counting leaves everything as it is then, or replaces the control file. The
lock is given back either way. -/
theorem recordNext_of_take {held : Store} {id : FileId} (present : cabinet.directory ≠ "")
    (taken : ControlLock.take cabinet.directory store = .ok id held)
    (unused : draft.UnusedUnderLock cabinet.directory store)
    (found : held.files.folder cabinet.directory = .ok place) :
    (∃ failure after, cabinet.recordNext draft.synced store = .error failure after ∧
      SameBut [] held.files after.files) ∨
    ∃ record after, cabinet.recordNext draft.synced store =
        .ok { record with count := record.count + 1 } after ∧
      record.count.toNat + 1 < UInt32.size ∧
      ControlRecord.load cabinet.directory held = .ok record held ∧
      Work.Replaced held.files after.files (place ++ [utf8 controlName])
        (utf8 ({ record with count := record.count + 1 } : ControlRecord).render) := by
  have released (files : FileSystem) := sameBut_unlock files id
  unfold recordNext ControlLock.holding
  rw [taken]
  dsimp only
  rw [Work.bind_apply]
  rcases ControlRecord.load_cases cabinet.directory held with
    ⟨failure, failed⟩ | ⟨record, text, loaded, read, parsed⟩
  · rw [failed]
    exact .inl ⟨failure, _, rfl, released _⟩
  · rw [loaded]
    dsimp only
    by_cases room : record.count.toNat + 1 < UInt32.size
    · obtain ⟨other, within⟩ := within_of_read component_controlName read
      obtain rfl : place = other := Except.ok.inj (found.symm.trans within.folder)
      rw [if_pos room, Work.bind_apply]
      unfold ControlRecord.save
      rcases Work.replaceFile_cases (unused id held taken) within present (idle_of_read within read)
        (utf8 ({ record with count := record.count + 1 } : ControlRecord).render) with
        ⟨cause, files, same, failed⟩ | ⟨files, replaced, done⟩
      · rw [failed]
        exact .inl ⟨_, _, rfl, same.trans (released _)⟩
      · rw [done]
        exact .inr ⟨record, _, rfl, room, rfl, replaced.unlock id⟩
    · rw [if_neg room]
      exact .inl ⟨_, _, rfl, released _⟩

/-- A count that fails leaves an empty lock file at most, if the directory can be synced. -/
theorem recordNext_cases (present : cabinet.directory ≠ "")
    (unused : draft.UnusedUnderLock cabinet.directory store)
    (found : store.files.folder cabinet.directory = .ok place)
    (solid : ∀ target, store.files.tree.get? (place ++ [utf8 lockName]) ≠ some (.link target)) :
    (∃ failure after, cabinet.recordNext draft.synced store = .error failure after ∧
      UpToLock (place ++ [utf8 lockName]) store.files after.files) ∨
    ∃ record after, cabinet.recordNext draft.synced store =
        .ok { record with count := record.count + 1 } after ∧
      CountedUp cabinet store.files after.files place record := by
  rcases ControlLock.take_cases found solid with
    ⟨failure, after, refused, upTo⟩ | ⟨id, held, taken, upTo, locked⟩
  · unfold recordNext ControlLock.holding
    rw [refused]
    exact .inl ⟨failure, after, rfl, upTo⟩
  · rcases recordNext_of_take present taken unused (upTo.folder found) with
      ⟨failure, after, failed, same⟩ | ⟨record, after, done, room, loaded, replaced⟩
    · exact .inl ⟨failure, after, failed, upTo.trans_same same⟩
    · exact .inr ⟨record, after, done, room, held, upTo, ⟨id, locked⟩, loaded, replaced⟩

/-- Whatever the lock file is, a sheet was counted after at most an empty file was made for it. -/
theorem counted_of_recordNext {after : Store} {counted : ControlRecord}
    (present : cabinet.directory ≠ "") (unused : draft.UnusedUnderLock cabinet.directory store)
    (found : store.files.folder cabinet.directory = .ok place)
    (done : cabinet.recordNext draft store = .ok counted after) :
    ∃ spot record, ∃ held : Store, UpToLock spot store.files held.files ∧
      ControlRecord.load cabinet.directory held = .ok record held ∧
      counted = { record with count := record.count + 1 } ∧
      Work.Replaced held.files after.files (place ++ [utf8 controlName])
        (utf8 ({ record with count := record.count + 1 } : ControlRecord).render) := by
  rw [recordNext_eq] at done
  have done := Work.reported_eq_ok done
  cases taken : ControlLock.take cabinet.directory store with
  | error failure left =>
    unfold recordNext ControlLock.holding at done
    rw [taken] at done
    cases done
  | ok id held =>
    obtain ⟨spot, upTo⟩ := ControlLock.upToLock_of_take taken
    rcases recordNext_of_take present taken unused (upTo.folder found) with
      ⟨failure, left, failed, -⟩ | ⟨record, left, granted, -, loaded, replaced⟩
    · rw [failed] at done
      cases done
    · rw [granted] at done
      cases done
      exact ⟨spot, record, held, upTo, loaded, rfl, replaced⟩

/-- What those who count learn is what the control file says. -/
theorem countUp_apply (draft : Draft) (office : Office) :
    countUp draft office =
      match office.cabinet.recordNext draft office.store with
      | .ok counted after => .ok () ⟨office.cabinet.learn counted, after⟩
      | .error failure after => .error failure ⟨office.cabinet, after⟩ := by
  unfold countUp
  refine (Work.bind_apply _ _ office).trans ?_
  refine (Work.bind_apply _ _ office).trans ?_
  unfold aside
  cases office.cabinet.recordNext draft office.store <;> rfl

end Cabinet

end SheetCabinet
