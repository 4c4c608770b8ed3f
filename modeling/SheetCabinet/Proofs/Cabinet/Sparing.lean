import SheetCabinet.Proofs.Cabinet.Containment
import SheetCabinet.Proofs.Cabinet.Verdict
import SheetCabinet.Proofs.Files.Sparing

/-!
# What is done with a cabinet spares the others

A cabinet is made where nothing was, and a sheet under a name that was free. So of the files that were
there before, only the control file and the lock file of a cabinet are touched when it gets a new sheet,
and none when a cabinet is made, however that ends.

Results:
* what a new sheet and whatever comes of making a cabinet spare (`Added.spares`, `spares_create`);
* a cabinet whose control file can be read, and names it, can be opened (`openIn_of_parsed`).
-/

namespace SheetCabinet

open FileSystem

variable {touched : Location → Prop} {files after : FileSystem} {spot place : Location}

/-! ## Single operations -/

theorem spares_of_replaced {contents : Bytes} (replaced : Work.Replaced files after spot contents)
    (solid : files.tree.get? spot ≠ some .directory) : Spares (· = spot) files after := by
  obtain ⟨id, unnamed, fresh⟩ := replaced.stands
  exact spares_of_one replaced.same solid unnamed fresh.held

theorem UpToLock.spares (upTo : UpToLock spot files after) : Spares (· = spot) files after := by
  cases upTo with
  | same same => exact spares_of_same _ same
  | made id vacant unnamed same empty =>
    exact spares_of_one same (by simp [vacant]) unnamed empty.held

/-- A new sheet is in nobody's way. -/
theorem Sheet.Created.spares {parent : Path} {name description : String} {sheet : Sheet}
    (created : Sheet.Created files after parent name description sheet place)
    (touched : Location → Prop) : Spares touched files after := by
  have made := spares_of_one created.same (by simp [created.vacant]) created.unnamed
    created.stands.held
  exact (Spares.refl touched files).trans_vacant made created.vacant

theorem spares_of_frame {desk later : Desk} (frame : Frame desk later) :
    Spares (fun spot => desk.store.files.tree.get? spot = some (.file desk.sheet.handle.file))
      desk.store.files later.store.files where
  home := frame.home
  linkless linkless := by
    rw [frame.tree]
    exact linkless
  directory spot held := by rw [frame.tree, held]
  stands _ _ _ other stands := Cabinet.stands_of_frame frame other stands

namespace Cabinet

/-! ## New sheets -/

/-- The places of the files that a new sheet in a directory is counted with. -/
def Counter (place spot : Location) : Prop :=
  spot = place ++ [utf8 lockName] ∨ spot = place ++ [utf8 controlName]

theorem Added.spares {cabinet : Cabinet} {name description : String} {sheet : Sheet}
    {record : ControlRecord}
    (added : Added cabinet files after name description sheet place record) :
    Spares (Counter place) files after := by
  obtain ⟨-, between, created, up⟩ := added
  obtain ⟨held, upTo, -, loaded, replaced⟩ := up.loaded
  obtain ⟨-, other, _, within, read, -⟩ := ControlRecord.load_eq_ok loaded
  obtain rfl : place = other :=
    Except.ok.inj ((upTo.folder created.withinAfter.folder).symm.trans within.folder)
  have counted := spares_of_replaced replaced (solid_of_read within read)
  exact ((created.spares _).trans (upTo.spares.mono fun _ own => .inl own)).trans
    (counted.mono fun _ own => .inr own)

/-- A control file that names a cabinet still does when a sheet is counted. -/
theorem Added.control_names {cabinet : Cabinet} {name description text : String} {sheet : Sheet}
    {record said : ControlRecord}
    (added : Added cabinet files after name description sheet place record)
    (shown : files.item (place ++ [utf8 controlName]) = some (.file (utf8 text)))
    (parsed : ControlRecord.parse text = .ok said)
    (named : checkCabinetName said.name = .ok ()) :
    ∃ id written again, after.Stands id (place ++ [utf8 controlName]) (utf8 written) ∧
      ControlRecord.parse written = .ok again ∧ again.name = said.name := by
  have read := parsed_of_added added shown
  rw [parsed] at read
  cases read
  have plain := (ControlRecord.clean_of_check named).2
  obtain ⟨again, reread, same⟩ := ControlRecord.reparse parsed plain (record.count + 1)
  obtain ⟨id, control⟩ := added.control_stands
  exact ⟨id, _, again, control, reread, same⟩

/-! ## New cabinets -/

/-- The control file of a cabinet whose directory was just made is not in the way of what was there
before. -/
theorem spares_saveRecord {cabinet : Cabinet} {draft : Draft} {store : Store} {outer : Location}
    (unused : draft.Unused store.files cabinet.directory)
    (vacant : files.tree.get? (outer ++ [utf8 cabinet.name]) = none)
    (spares : Spares touched files store.files)
    (found : store.files.folder cabinet.directory = .ok (outer ++ [utf8 cabinet.name])) :
    Spares touched files (leftBy (cabinet.saveRecord draft store)).files := by
  unfold saveRecord ControlRecord.save
  rcases Work.replaceFile_outcome component_controlName unused _ with
    same | ⟨place, within, solid, replaced⟩
  · exact spares.trans (spares_of_same _ same)
  · obtain rfl : place = outer ++ [utf8 cabinet.name] := Except.ok.inj (within.folder.symm.trans found)
    have inner : files.tree.get? (outer ++ [utf8 cabinet.name] ++ [utf8 controlName]) = none :=
      item_eq_none_iff.1 (item_below_vacant vacant _)
    exact spares.trans_vacant (spares_of_replaced replaced solid) inner

/-- However it ends, making a cabinet touches no file. -/
theorem spares_create (touched : Location → Prop) {store : Store}
    (linkless : Linkless store.files.tree.get?) (draft : Draft) (name description : String)
    (parent : Path) :
    Spares touched store.files (leftBy (create draft name description parent store)).files := by
  rcases create_attempt draft name description parent store with
    ⟨failure, refused⟩ | ⟨outer, founding, tried⟩
  · rw [refused]
    exact .refl _ _
  · let cabinet : Cabinet := ⟨name, description, parent, Path.join parent name, 0⟩
    let ready : Store := { store with files := store.files.place outer (utf8 name) .directory }
    have vacant := founding.vacant
    have empty : Spares touched store.files ready.files := spares_place touched vacant
    have written : Spares touched store.files (leftBy (cabinet.saveRecord draft ready)).files :=
      spares_saveRecord (founding.unused draft) vacant empty founding.folder
    rw [tried]
    cases saved : cabinet.saveRecord draft ready with
    | ok _ after =>
      rw [saved] at written
      exact written
    | error failure after =>
      rw [saved] at written
      dsimp only [concluded]
      cases removed : after.files.removeTree (utf8 cabinet.directory) with
      | error cause => exact written
      | ok cleared =>
        obtain ⟨other, again, rfl⟩ := removeTree_eq_ok founding.within.component removed
        obtain rfl : outer = other := Except.ok.inj
          ((written.folder linkless founding.within.folder).symm.trans again.folder)
        exact written.clear vacant

/-- Removing a cabinet takes nothing away but what is at its place and below it. -/
theorem files_remove (name : String) (parent : Path) (store : Store) :
    (leftBy (remove name parent store)).files = store.files ∨
      ∃ outer, store.files.folder parent = .ok outer ∧
        (leftBy (remove name parent store)).files = store.files.clear (outer ++ [utf8 name]) := by
  cases done : remove name parent store with
  | ok value after =>
    obtain ⟨outer, found, cleared⟩ := remove_eq_ok done
    exact .inr ⟨outer, found, cleared⟩
  | error failure after =>
    rw [remove_eq] at done
    split at done
    · cases done
      exact .inl rfl
    · split at done
      · split at done
        · cases done
          exact .inl rfl
        · cases done
      · cases done
        exact .inl rfl

/-! ## Opening -/

/-- A cabinet whose control file can be read, and names it, can be opened. -/
theorem openIn_of_parsed {name text : String} {parent : Path} {store : Store}
    {record : ControlRecord} (named : checkCabinetName name = .ok ())
    (within : store.files.Within (Path.join parent name) controlName place)
    (read : store.files.read (utf8 (Path.join (Path.join parent name) controlName)) =
      .ok (utf8 text))
    (parsed : ControlRecord.parse text = .ok record) (same : record.name = name) :
    ∃ after, openIn name parent store =
        .ok ⟨name, record.description, parent, Path.join parent name, record.count⟩ after ∧
      after.files = store.files := by
  have askable := checkPath_of_join component_controlName
    (join_ne_empty (component_of_check named) parent) within.askable
  have inside := status_folder askable within.folder
  have said := ((verdict_openIn name parent store).eq_ok_iff _).2
    ⟨named, inside, text, record, read, parsed, same, rfl⟩
  obtain ⟨after, opened⟩ := saidBy_eq_ok_iff.1 said
  exact ⟨after, opened, (quiet_openIn name parent).files_eq opened⟩

end Cabinet

end SheetCabinet
