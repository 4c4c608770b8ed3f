import SheetCabinet.Proofs.Cabinet.Opening
import SheetCabinet.Proofs.Sheet.Ledger

/-!
# The balance of a cabinet

A cabinet counts its sheets twice: the control file says how many were counted, and the directory
shows how many there are. The two stay as far apart as they are as long as everybody who changes the
directory does so by asking for new sheets, taking the lock, or writing to sheets, unless a sheet is
counted and then lost because the directory cannot be synced.

Results:
* what leaves both counts as they are: a lock taken or refused (`untouched_take`), and whatever is
  done with a sheet (`untouched_of_frame`);
* a new sheet that is refused leaves them too, one that is granted raises both by one, and one that is
  lost raises that of the control file (`reckoned_newSheet`).
-/

namespace SheetCabinet

open FileSystem

namespace Cabinet

/-! ## What leaves a cabinet as it is -/

/-- Nothing is different for the cabinet at the place but its lock file. -/
structure Untouched (place : Location) (files after : FileSystem) : Prop where
  folder : ∀ directory found, files.folder directory = .ok found →
    after.folder directory = .ok found
  look : ∀ spot, spot ≠ place ++ [utf8 lockName] → after.tree.get? spot = files.tree.get? spot
  unlinked : (∀ target, files.tree.get? (place ++ [utf8 lockName]) ≠ some (.link target)) →
    ∀ target, after.tree.get? (place ++ [utf8 lockName]) ≠ some (.link target)
  control : ∀ id contents, files.Stands id (place ++ [utf8 controlName]) contents →
    after.Stands id (place ++ [utf8 controlName]) contents

variable {place : Location} {files after : FileSystem}

theorem untouched_of_eq (place : Location) (same : after = files) : Untouched place files after := by
  subst same
  exact ⟨fun _ _ found => found, fun _ _ => rfl, fun unlinked => unlinked, fun _ _ stands => stands⟩

theorem untouched_of_upToLock (upTo : UpToLock (place ++ [utf8 lockName]) files after) :
    Untouched place files after where
  folder _ _ found := upTo.folder found
  look spot other := upTo.sameBut.look spot (by simpa using other)
  unlinked none target held := by
    cases upTo with
    | same same =>
      rw [same.look _ List.not_mem_nil] at held
      exact none target held
    | made id _ _ _ empty =>
      rw [empty.held] at held
      cases held
  control _ _ stands := upTo.stands stands (Added.controlName_ne_lockName place)

/-- What is done with a sheet is not done to another file. -/
theorem stands_of_frame {desk later : Desk} (frame : Frame desk later) {id : FileId}
    {spot : Location} {contents : Bytes}
    (other : desk.store.files.tree.get? spot ≠ some (.file desk.sheet.handle.file))
    (stands : desk.store.files.Stands id spot contents) :
    later.store.files.Stands id spot contents := by
  have distinct : id ≠ desk.sheet.handle.file := by
    rintro rfl
    exact other stands.held
  refine ⟨⟨?_, ?_⟩, ?_⟩
  · rw [frame.tree, stands.held]
  · intro found shown
    rw [frame.tree] at shown
    exact stands.only found shown
  · rw [frame.body id distinct, stands.holds]

/-- Whatever is done with a sheet is done to its own file. -/
theorem untouched_of_frame {desk later : Desk} (frame : Frame desk later) {item : String}
    (free : isReserved item = false) (held : desk.store.files.tree.get? (place ++ [utf8 item]) =
      some (.file desk.sheet.handle.file)) :
    Untouched place desk.store.files later.store.files where
  folder _ _ found := by
    rw [folder_eq_ok_iff, frame.tree, frame.home]
    exact folder_eq_ok_iff.1 found
  look _ _ := by rw [frame.tree]
  unlinked none target := by
    rw [frame.tree]
    exact none target
  control id contents stands := by
    have apart := ne_of_free free isReserved_controlName place
    refine stands_of_frame frame ?_ stands
    intro own
    rw [stands.held] at own
    cases own
    exact apart (stands.only _ held)

/-- Whoever tries to take a lock leaves nothing but a lock file. -/
theorem untouched_take {directory : Path} {store : Store}
    (unlinked : ∀ target, store.files.tree.get? (place ++ [utf8 lockName]) ≠ some (.link target))
    (fits : ∀ other, store.files.folder directory = .ok other → other = place) :
    Untouched place store.files (leftBy (ControlLock.take directory store)).files := by
  cases found : store.files.folder directory with
  | ok other =>
    obtain rfl := fits other found
    rcases ControlLock.take_cases found unlinked with
      ⟨failure, after, refused, upTo⟩ | ⟨id, after, taken, upTo, -⟩
    · rw [refused]
      exact untouched_of_upToLock upTo
    · rw [taken]
      exact untouched_of_upToLock upTo
  | error cause =>
    have refused : ∃ fault, store.files.openOrCreate (utf8 (Path.join directory lockName)) =
        .error fault := by
      cases opened : store.files.openOrCreate (utf8 (Path.join directory lockName)) with
      | error fault => exact ⟨fault, rfl⟩
      | ok reached =>
        obtain ⟨other, within⟩ := within_of_openOrCreate component_lockName opened
        rw [within.folder] at found
        cases found
    obtain ⟨fault, failed⟩ := refused
    rw [ControlLock.take_apply, failed]
    exact untouched_of_eq place rfl

/-! ## The balance -/

/-- The control file of the cabinet says this record, and there are so many names in the directory. -/
structure Balanced (directory : Path) (place : Location) (record : ControlRecord) (present : Nat)
    (files : FileSystem) : Prop where
  within : files.Within directory controlName place
  control : ∃ id, files.Stands id (place ++ [utf8 controlName]) (utf8 record.render)
  listed : (Work.itemNames files place).length = present
  /-- The lock file is no link to somewhere else. -/
  unlinked : ∀ target, files.tree.get? (place ++ [utf8 lockName]) ≠ some (.link target)

variable {directory : Path} {record : ControlRecord} {present : Nat}

theorem Balanced.untouched (balanced : Balanced directory place record present files)
    (untouched : Untouched place files after) : Balanced directory place record present after where
  within :=
    { component := balanced.within.component
      askable := balanced.within.askable
      folder := untouched.folder _ _ balanced.within.folder }
  control := by
    obtain ⟨id, stands⟩ := balanced.control
    exact ⟨id, untouched.control id _ stands⟩
  listed := by
    rw [← balanced.listed]
    refine Work.length_itemNames_congr ?_
    intro name free
    exact untouched.look _ (ne_of_free free isReserved_lockName place)
  unlinked := untouched.unlinked balanced.unlinked

/-- A new cabinet has no sheets and says so. -/
theorem balanced_of_made {cabinet : Cabinet} {name description : String} {parent : Path}
    (made : Made cabinet name description parent files place) :
    Balanced (Path.join parent name) place ⟨name, description, 0⟩ 0 files where
  within := made.within
  control := made.control
  listed := by
    refine List.length_eq_zero_iff.2 (List.eq_nil_iff_forall_not_mem.2 ?_)
    intro item member
    obtain ⟨free, id, held⟩ := Work.mem_itemNames_iff.1 member
    have other : item ≠ controlName := by
      rintro rfl
      exact absurd free (by decide +kernel)
    rw [made.alone item other] at held
    cases held
  unlinked target held := by
    rw [made.alone lockName (by decide +kernel)] at held
    cases held

/-! ## New sheets -/

/-- A sheet with a new name is there, and the other sheets are where they were. -/
structure Granted (place : Location) (name : String) (sheet : Sheet) (files after : FileSystem) :
    Prop where
  free : isReserved name = false
  vacant : files.tree.get? (place ++ [utf8 name]) = none
  held : after.tree.get? (place ++ [utf8 name]) = some (.file sheet.handle.file)
  look : ∀ item, isReserved item = false → item ≠ name →
    after.tree.get? (place ++ [utf8 item]) = files.tree.get? (place ++ [utf8 item])
  folder : ∀ directory found, files.folder directory = .ok found →
    after.folder directory = .ok found

/-- Nothing that is made or replaced for a new sheet was the way to a directory. -/
theorem granted_of_added {cabinet : Cabinet} {name description : String} {sheet : Sheet}
    {id : FileId} {contents : Bytes}
    (added : Added cabinet files after name description sheet place record)
    (stands : files.Stands id (place ++ [utf8 controlName]) contents) :
    Granted place name sheet files after := by
  obtain ⟨between, created, up⟩ := added.counted
  have free := (checkSheetName_eq_ok_iff.1 added.accepted).2
  obtain ⟨⟨lockId, locked⟩, lock⟩ := added.lock_kept
  have idle : files.Idle (place ++ [utf8 lockName]) := by
    rcases lock with ⟨same, -⟩ | ⟨vacant, -⟩
    · exact idle_of_file (same.symm.trans locked)
    · exact idle_of_vacant (item_eq_none_iff.1 vacant)
  refine ⟨free, created.vacant, added.sheet_stands.held, ?_, ?_⟩
  · intro item unreserved other
    refine added.sameBut.look _ ?_
    have new : place ++ [utf8 item] ≠ place ++ [utf8 name] := by simpa [utf8_inj] using other
    simp only [List.mem_cons, List.not_mem_nil, or_false, not_or]
    exact ⟨new, ne_of_free unreserved isReserved_lockName place,
      ne_of_free unreserved isReserved_controlName place⟩
  · -- no file that was made was a directory before, and none was a link to one
    intro directory found led
    refine folder_of_sameBut added.sameBut ?_ led
    intro spot member
    simp only [List.mem_cons, List.not_mem_nil, or_false] at member
    rcases member with rfl | rfl | rfl
    · exact idle_of_vacant created.vacant
    · exact idle
    · exact idle_of_file stands.held

/-- The record that was counted up is what the control file said. -/
theorem parsed_of_added {cabinet : Cabinet} {name description text : String} {sheet : Sheet}
    {read : ControlRecord} (added : Added cabinet files after name description sheet place read)
    (shown : files.item (place ++ [utf8 controlName]) = some (.file (utf8 text))) :
    ControlRecord.parse text = .ok read := by
  obtain ⟨accepted, between, created, up⟩ := added
  obtain ⟨held, upTo, -, loaded, -⟩ := up.loaded
  have apart := (ne_of_sheetName accepted isReserved_controlName place).symm
  -- the control file is neither the new sheet nor the lock file, so it was read as it stood before
  have seen : held.files.item (place ++ [utf8 controlName]) = some (.file (utf8 text)) := by
    rw [upTo.sameBut.item _ (by simpa using Added.controlName_ne_lockName place),
      created.same.item _ (by simpa using apart), shown]
  obtain ⟨-, other, written, within, bytes, parsed⟩ := ControlRecord.load_eq_ok loaded
  obtain rfl : place = other :=
    Except.ok.inj ((upTo.folder created.withinAfter.folder).symm.trans within.folder)
  have unlinked (target : Bytes) :
      held.files.tree.get? (place ++ [utf8 controlName]) ≠ some (.link target) := by
    intro linked
    unfold FileSystem.item at seen
    rw [linked] at seen
    cases seen
  rw [item_of_read within unlinked bytes] at seen
  have same : text = written := by simpa [utf8_inj, eq_comm] using seen
  rw [same, parsed]

theorem record_of_added {cabinet : Cabinet} {name description : String} {sheet : Sheet}
    {read : ControlRecord} {id : FileId} (plain : record.Plain)
    (added : Added cabinet files after name description sheet place read)
    (stands : files.Stands id (place ++ [utf8 controlName]) (utf8 record.render)) :
    read = record := by
  have parsed := parsed_of_added added stands.item
  rw [ControlRecord.parse_render plain] at parsed
  exact (Except.ok.inj parsed).symm

/-- Where the sheets are, and the way to any directory, are as they were. -/
structure Kept (place : Location) (files after : FileSystem) : Prop where
  look : ∀ item, isReserved item = false →
    after.tree.get? (place ++ [utf8 item]) = files.tree.get? (place ++ [utf8 item])
  folder : ∀ directory found, files.folder directory = .ok found →
    after.folder directory = .ok found

/-- What is left of a sheet that is taken away again. -/
theorem Granted.withdrawn {name : String} {sheet : Sheet}
    (granted : Granted place name sheet files after) :
    Kept place files (after.clear (place ++ [utf8 name])) where
  look item free := by
    rw [look_clear (solid_of_file granted.held)]
    by_cases own : item = name
    · rw [own, if_pos rfl, granted.vacant]
    · rw [if_neg (by simpa [utf8_inj] using own), granted.look item free own]
  folder directory found led :=
    folder_of_sameBut (sameBut_clear granted.held) (by simpa using idle_of_file granted.held)
      (granted.folder directory found led)

/-- What a request for a new sheet adds to the counts that were recorded: the count that whoever asked
got to know, or that it was told of nothing but a failure, because the directory could not be synced. -/
def tally (chance : Chance) (name description : String) (office : Office) : List (Option UInt32) :=
  match newSheet chance name description office, newSheet chance.synced name description office with
  | .ok _ after, _ => [some after.cabinet.count]
  | .error _ _, .ok _ _ => [none]
  | .error _ _, .error _ _ => []

/-- What comes of asking for a new sheet where the control file says the record and so many names are
listed. -/
inductive Reckoned (cabinet : Cabinet) (chance : Chance) (name description : String) (store : Store)
    (directory : Path) (place : Location) (record : ControlRecord) (present : Nat) :
    EStateM.Result Failure Office Sheet → Prop
  | refused {failure : Failure} {after : Store}
      (tally : tally chance name description ⟨cabinet, store⟩ = [])
      (untouched : Untouched place store.files after.files) :
      Reckoned cabinet chance name description store directory place record present
        (.error failure ⟨cabinet, after⟩)
  | granted {sheet : Sheet} {after : Store}
      (tally : tally chance name description ⟨cabinet, store⟩ = [some (record.count + 1)])
      (room : record.count.toNat + 1 < UInt32.size)
      (balanced : Balanced directory place { record with count := record.count + 1 } (present + 1)
        after.files)
      (granted : Granted place name sheet store.files after.files) :
      Reckoned cabinet chance name description store directory place record present
        (.ok sheet ⟨cabinet.learn { record with count := record.count + 1 }, after⟩)
  | lost {cause : FileError} {after : Store}
      (tally : tally chance name description ⟨cabinet, store⟩ = [none])
      (room : record.count.toNat + 1 < UInt32.size)
      (balanced : Balanced directory place { record with count := record.count + 1 } present
        after.files)
      (kept : Kept place store.files after.files) :
      Reckoned cabinet chance name description store directory place record present
        (.error (.io cause) ⟨cabinet, after⟩)

/-- The counts after a sheet was counted. -/
theorem balanced_of_added {cabinet : Cabinet} {name description : String} {sheet : Sheet}
    (balanced : Balanced directory place record present files)
    (added : Added cabinet files after name description sheet place record)
    (granted : Granted place name sheet files after) :
    Balanced directory place { record with count := record.count + 1 } (present + 1) after where
  within :=
    ⟨balanced.within.component, balanced.within.askable,
      granted.folder _ _ balanced.within.folder⟩
  control := added.control_stands
  listed := by
    rw [Work.length_itemNames_new granted.free granted.vacant granted.held granted.look,
      balanced.listed]
  unlinked target linked := by
    obtain ⟨⟨lockId, locked⟩, -⟩ := added.lock_kept
    rw [locked] at linked
    cases linked

/-- The counts after the sheet was taken away again. -/
theorem balanced_of_withdrawn {cabinet : Cabinet} {name description : String} {sheet : Sheet}
    (balanced : Balanced directory place record present files)
    (added : Added cabinet files after name description sheet place record)
    (granted : Granted place name sheet files after) :
    Balanced directory place { record with count := record.count + 1 } present
      (after.clear (place ++ [utf8 name])) where
  within :=
    ⟨balanced.within.component, balanced.within.askable,
      granted.withdrawn.folder _ _ balanced.within.folder⟩
  control := by
    obtain ⟨id, stands⟩ := added.control_stands
    refine ⟨id, stands.of_sameBut (sameBut_clear granted.held) ?_ ?_⟩
    · simpa using (ne_of_free granted.free isReserved_controlName place).symm
    · intro spot member held
      rw [List.mem_singleton.1 member, look_clear (solid_of_file granted.held), if_pos rfl] at held
      cases held
  listed := by
    rw [← balanced.listed]
    exact Work.length_itemNames_congr granted.withdrawn.look
  unlinked target linked := by
    obtain ⟨⟨lockId, locked⟩, -⟩ := added.lock_kept
    rw [look_clear (solid_of_file granted.held),
      if_neg (ne_of_free granted.free isReserved_lockName place).symm, locked] at linked
    cases linked

/-- Whoever has the cabinet open, however long ago, gets no sheet and leaves both counts as they are;
or gets one, and learns the new count; or loses one that was counted. -/
theorem reckoned_newSheet {cabinet : Cabinet} {chance : Chance} {name description : String}
    {store : Store} (placed : cabinet.Placed) (plain : record.Plain)
    (balanced : Balanced directory place record present store.files)
    (found : store.files.folder cabinet.directory = .ok place)
    (unused : chance.Unused cabinet name description store) :
    Reckoned cabinet chance name description store directory place record present
      (newSheet chance name description ⟨cabinet, store⟩) := by
  obtain ⟨id, stands⟩ := balanced.control
  have solid : ∀ other target, store.files.folder cabinet.directory = .ok other →
      store.files.tree.get? (other ++ [utf8 lockName]) ≠ some (.link target) := by
    intro other target led
    obtain rfl : place = other := Except.ok.inj (found.symm.trans led)
    exact balanced.unlinked target
  have same {other : Location} {read : ControlRecord} {sheet : Sheet} {after : FileSystem}
      (added : Added cabinet store.files after name description sheet other read) :
      place = other ∧ read = record := by
    obtain ⟨between, created, -⟩ := added.counted
    obtain rfl : place = other := Except.ok.inj (found.symm.trans created.within.folder)
    exact ⟨rfl, record_of_added plain added stands⟩
  have tallied : tally chance name description ⟨cabinet, store⟩ =
      match newSheet chance name description ⟨cabinet, store⟩,
        newSheet chance.synced name description ⟨cabinet, store⟩ with
      | .ok _ after, _ => [some after.cabinet.count]
      | .error _ _, .ok _ _ => [none]
      | .error _ _, .error _ _ => [] := rfl
  have answered := answered_newSheet placed unused solid
  generalize newSheet chance name description ⟨cabinet, store⟩ = result at answered tallied ⊢
  cases answered with
  | refused alike left =>
    rw [alike] at tallied
    refine .refused tallied ?_
    rcases left with same | ⟨other, led, upTo⟩
    · exact untouched_of_upToLock (.same same)
    · obtain rfl : place = other := Except.ok.inj (found.symm.trans led)
      exact untouched_of_upToLock upTo
  | granted synced added =>
    obtain ⟨rfl, rfl⟩ := same added
    have granted := granted_of_added added stands
    obtain ⟨between, -, up⟩ := added.counted
    exact .granted tallied up.room (balanced_of_added balanced added granted) granted
  | lost unsynced alike added withdrawn =>
    obtain ⟨rfl, rfl⟩ := same added
    have granted := granted_of_added added stands
    obtain ⟨between, -, up⟩ := added.counted
    rw [alike] at tallied
    refine .lost tallied up.room ?_ ?_
    · rw [withdrawn]
      exact balanced_of_withdrawn balanced added granted
    · rw [withdrawn]
      exact granted.withdrawn

end Cabinet

end SheetCabinet
