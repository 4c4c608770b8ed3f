import SheetCabinet.Proofs.Cabinet.Session
import SheetCabinet.Proofs.Files.Confinement

/-!
# What is done with a cabinet stays in its directory

A cabinet is known by its name and by the path of the directory it is in. Names are single components
of a path, so whatever is made, written, replaced or taken away for the cabinet is at the place of its
name or below it, whatever the names and the paths are, as long as no symbolic link leads out of there.

Results:
* each operation is confined to that region (`confined_create`, `confined_newSheet`,
  `confined_saveRecord`, `confined_remove`, `confined_of_frame`);
* a cabinet is made at a free name (`vacant_of_create`), and removed with all that is below its place
  (`remove_eq_ok`);
* a new sheet is in the directory of its cabinet (`added_of_newSheet`).
-/

namespace SheetCabinet

open FileSystem

/-! ## Replacing a file -/

/-- Whatever comes of replacing a file, it happens at names in the directory. -/
theorem Work.confined_replaceFile {region : Location → Prop} {draft : Draft} {directory : Path}
    {item : String} {store : Store} (component : Component item)
    (unused : draft.Unused store.files directory)
    (inner : ∀ place, store.files.folder directory = .ok place → ∀ name, region (place ++ [name]))
    (contents : Bytes) : Confined region store.files
      (leftBy (replaceFile draft directory item contents store)).files := by
  rcases replaceFile_outcome component unused contents with
    same | ⟨place, within, -, same, id, -, stands⟩
  · exact confined_of_sameBut same (by simp) (by simp)
  · exact confined_of_one same (inner place within.folder _) (unlinked_of_file stands.held)

namespace Cabinet

/-! ## The region of a cabinet -/

/-- A region without links, in which the place of the name is, if the path leads to a directory. -/
structure Ground (region : Location → Prop) (parent : Path) (name : String) (files : FileSystem) :
    Prop where
  bare : Bare region files
  inside : ∀ outer, files.folder parent = .ok outer → ∀ place, outer ++ [utf8 name] <+: place →
    region place

namespace Ground

variable {region : Location → Prop} {parent : Path} {name : String} {files : FileSystem}

theorem unlinked (ground : Ground region parent name files) (outer : Location) (target : Bytes)
    (found : files.folder parent = .ok outer) :
    files.tree.get? (outer ++ [utf8 name]) ≠ some (.link target) :=
  ground.bare _ target (ground.inside outer found _ List.prefix_rfl)

/-- What is in the directory of the cabinet is in the region. -/
theorem inner (ground : Ground region parent name files) (component : Component name)
    {place : Location} (found : files.folder (Path.join parent name) = .ok place) (item : Bytes) :
    region (place ++ [item]) := by
  obtain ⟨outer, led, rfl, -⟩ := folder_of_join component ground.unlinked found
  exact ground.inside outer led _ (List.prefix_append _ _)

end Ground

section Region

variable {parent : Path} {name : String} {start : FileSystem} {store : Store}

/-- Whatever was done in the region so far, it is where it was. -/
theorem ground_of_confined {files : FileSystem} (bare : Bare (start.Below parent name) start)
    (confined : Confined (start.Below parent name) start files) :
    Ground (start.Below parent name) parent name files where
  bare := confined.bare bare
  inside outer found _ below := ⟨outer, folder_of_confined confined bare found, below⟩

theorem confined_removeTree {files cleared : FileSystem} (component : Component name)
    (bare : Bare (start.Below parent name) start)
    (confined : Confined (start.Below parent name) start files)
    (done : files.removeTree (utf8 (Path.join parent name)) = .ok cleared) :
    Confined (start.Below parent name) start cleared := by
  obtain ⟨outer, within, rfl⟩ := removeTree_eq_ok component done
  exact confined.trans
    (confined_clear ((ground_of_confined bare confined).inside outer within.folder))

theorem confined_founding {files : FileSystem} {description : String} {outer : Location}
    (founding : Founding files name description parent outer)
    (bare : Bare (start.Below parent name) start)
    (confined : Confined (start.Below parent name) start files) :
    Confined (start.Below parent name) start (files.place outer (utf8 name) .directory) := by
  have here : start.Below parent name (outer ++ [utf8 name]) :=
    (ground_of_confined bare confined).inside outer founding.within.folder _ List.prefix_rfl
  have held : (files.place outer (utf8 name) .directory).tree.get? (outer ++ [utf8 name]) =
      some .directory := (Tree.get?_put founding.inside founding.vacant _ _).trans (if_pos rfl)
  have same := sameBut_place founding.inside founding.vacant .directory
  refine confined.trans (confined_of_one same here ?_)
  intro target
  rw [held]
  exact fun linked => by cases linked

/-! ## Operations on a cabinet -/

/-- What is in the directory of the cabinet is below its place. -/
theorem below_of_folder {cabinet : Cabinet} (placed : cabinet.Placed)
    (bare : Bare (start.Below cabinet.parent cabinet.name) start)
    (confined : Confined (start.Below cabinet.parent cabinet.name) start store.files)
    {place : Location} (found : store.files.folder cabinet.directory = .ok place) (own : Bytes) :
    start.Below cabinet.parent cabinet.name (place ++ [own]) := by
  rw [placed.path] at found
  exact (ground_of_confined bare confined).inner placed.component found own

theorem confined_saveRecord {cabinet : Cabinet} {draft : Draft} (placed : cabinet.Placed)
    (bare : Bare (start.Below cabinet.parent cabinet.name) start)
    (confined : Confined (start.Below cabinet.parent cabinet.name) start store.files)
    (unused : draft.Unused store.files cabinet.directory) :
    Confined (start.Below cabinet.parent cabinet.name) start
      (leftBy (cabinet.saveRecord draft store)).files := by
  refine confined.trans (Work.confined_replaceFile component_controlName unused ?_ _)
  intro place found item
  exact below_of_folder placed bare confined found item

/-- A cabinet is made where nothing was. -/
theorem vacant_of_create {draft : Draft} {store after : Store} {description : String}
    {cabinet : Cabinet} (done : create draft name description parent store = .ok cabinet after) :
    ∃ outer,
      store.files.folder parent = .ok outer ∧ store.files.tree.get? (outer ++ [utf8 name]) = none := by
  rcases create_attempt draft name description parent store with
    ⟨failure, refused⟩ | ⟨outer, founding, -⟩
  · rw [refused] at done
    cases done
  · exact ⟨outer, founding.within.folder, founding.vacant⟩

theorem confined_create (bare : Bare (start.Below parent name) start)
    (confined : Confined (start.Below parent name) start store.files) (draft : Draft)
    (description : String) :
    Confined (start.Below parent name) start
      (leftBy (create draft name description parent store)).files := by
  rcases create_attempt draft name description parent store with
    ⟨failure, refused⟩ | ⟨outer, founding, tried⟩
  · rw [refused]
    exact confined
  · let cabinet : Cabinet := ⟨name, description, parent, Path.join parent name, 0⟩
    let ready : Store := { store with files := store.files.place outer (utf8 name) .directory }
    have component := founding.within.component
    have placed : cabinet.Placed := ⟨component, rfl⟩
    have empty : Confined (start.Below parent name) start ready.files :=
      confined_founding founding bare confined
    have written := confined_saveRecord placed bare empty (founding.unused draft)
    rw [tried]
    cases saved : cabinet.saveRecord draft ready with
    | ok _ after =>
      rw [saved] at written
      exact written
    | error failure after =>
      rw [saved] at written
      dsimp only [concluded]
      cases removed : after.files.removeTree (utf8 cabinet.directory) with
      | error cause => exact written
      | ok cleaned => exact confined_removeTree component bare written removed

/-- A cabinet is removed with its directory. -/
theorem remove_eq (name : String) (parent : Path) (store : Store) :
    remove name parent store =
      match checkCabinetName name with
      | .error fault => .error (.strategy (.name fault)) store
      | .ok () =>
        if store.files.isDirectory (utf8 (Path.join parent name)) then
          match store.files.removeTree (utf8 (Path.join parent name)) with
          | .error cause => .error (.io cause) store
          | .ok cleared =>
            .ok () (Store.tell { store with files := cleared }
              (.cabinetRemoved (Path.join parent name)))
        else .error (.doesNotExist (Path.join parent name)) store := by
  unfold remove
  rw [Work.bind_apply]
  unfold Work.accept
  cases checkCabinetName name with
  | error fault => rfl
  | ok _ =>
    refine (Work.bind_apply _ _ store).trans ?_
    unfold requireDirectory
    cases store.files.isDirectory (utf8 (Path.join parent name)) with
    | false => rfl
    | true =>
      refine (Work.bind_apply _ _ store).trans ?_
      rw [Work.change_apply]
      cases store.files.removeTree (utf8 (Path.join parent name)) <;> rfl

theorem confined_remove (bare : Bare (start.Below parent name) start)
    (confined : Confined (start.Below parent name) start store.files) :
    Confined (start.Below parent name) start (leftBy (remove name parent store)).files := by
  rw [remove_eq]
  cases named : checkCabinetName name with
  | error fault => exact confined
  | ok _ =>
    cases store.files.isDirectory (utf8 (Path.join parent name)) with
    | false => exact confined
    | true =>
      dsimp only
      cases removed : store.files.removeTree (utf8 (Path.join parent name)) with
      | error cause => exact confined
      | ok cleared => exact confined_removeTree (component_of_check named) bare confined removed

/-- A cabinet that was removed is gone with all that was below its place. -/
theorem remove_eq_ok {after : Store} {value : Unit}
    (done : remove name parent store = .ok value after) : ∃ outer,
      store.files.folder parent = .ok outer ∧
        after.files = store.files.clear (outer ++ [utf8 name]) := by
  rw [remove_eq] at done
  split at done
  · cases done
  · rename_i named
    split at done
    · split at done
      · cases done
      · rename_i removed
        obtain ⟨outer, within, rfl⟩ := removeTree_eq_ok (component_of_check named) removed
        cases done
        exact ⟨outer, within.folder, rfl⟩
    · cases done

theorem lock_unlinked {cabinet : Cabinet} (placed : cabinet.Placed)
    (bare : Bare (start.Below cabinet.parent cabinet.name) start)
    (confined : Confined (start.Below cabinet.parent cabinet.name) start store.files)
    (place : Location) (target : Bytes)
    (found : store.files.folder cabinet.directory = .ok place) :
    store.files.tree.get? (place ++ [utf8 lockName]) ≠ some (.link target) :=
  confined.bare bare _ target (below_of_folder placed bare confined found _)

/-- A new sheet, the lock file and the control file are in the directory of the cabinet. -/
theorem confined_added {cabinet : Cabinet} (placed : cabinet.Placed)
    (bare : Bare (start.Below cabinet.parent cabinet.name) start)
    (confined : Confined (start.Below cabinet.parent cabinet.name) start store.files)
    {after : FileSystem} {item description : String} {sheet : Sheet} {place : Location}
    {record : ControlRecord}
    (added : Added cabinet store.files after item description sheet place record) :
    Confined (start.Below cabinet.parent cabinet.name) start after := by
  obtain ⟨between, created, -⟩ := added.counted
  have inner (own : Bytes) : start.Below cabinet.parent cabinet.name (place ++ [own]) :=
    below_of_folder placed bare confined created.within.folder own
  obtain ⟨controlId, control⟩ := added.control_stands
  obtain ⟨⟨lockId, locked⟩, -⟩ := added.lock_kept
  refine confined.trans (confined_of_sameBut added.sameBut (by simp [inner]) ?_)
  intro spot member
  simp only [List.mem_cons, List.not_mem_nil, or_false] at member
  rcases member with rfl | rfl | rfl
  · exact unlinked_of_file added.sheet_stands.held
  · exact unlinked_of_file locked
  · exact unlinked_of_file control.held

theorem confined_newSheet {cabinet : Cabinet} {chance : Chance} {item description : String}
    (placed : cabinet.Placed) (bare : Bare (start.Below cabinet.parent cabinet.name) start)
    (confined : Confined (start.Below cabinet.parent cabinet.name) start store.files)
    (unused : chance.Unused cabinet item description store) :
    Confined (start.Below cabinet.parent cabinet.name) start
      (leftBy (newSheet chance item description ⟨cabinet, store⟩)).store.files := by
  have answered := answered_newSheet placed unused (lock_unlinked placed bare confined)
  generalize newSheet chance item description ⟨cabinet, store⟩ = result at answered ⊢
  cases answered with
  | refused _ left =>
    refine confined.trans ?_
    rcases left with same | ⟨place, found, upTo⟩
    · exact confined_of_sameBut same (by simp) (by simp)
    · cases upTo with
      | same same => exact confined_of_sameBut same (by simp) (by simp)
      | made id _ _ same stands =>
        exact confined_of_one same (below_of_folder placed bare confined found _)
          (unlinked_of_file stands.held)
  | granted _ added => exact confined_added placed bare confined added
  | lost _ _ added withdrawn =>
    obtain ⟨between, created, -⟩ := added.counted
    have held := added.sheet_stands.held
    rw [leftBy_error, withdrawn]
    refine (confined_added placed bare confined added).trans ?_
    refine confined_of_one (sameBut_clear held)
      (below_of_folder placed bare confined created.within.folder _) ?_
    intro target linked
    rw [look_clear (solid_of_file held), if_pos rfl] at linked
    cases linked

/-- What is done with a sheet changes the file that it has open. -/
theorem confined_of_frame {region : Location → Prop} {desk after : Desk} (frame : Frame desk after)
    (own : ∀ place, desk.store.files.tree.get? place = some (.file desk.sheet.handle.file) →
      region place) : Confined region desk.store.files after.store.files where
  home := frame.home
  look place _ := by rw [frame.tree]
  item place outside := by
    unfold FileSystem.item
    rw [frame.tree]
    cases held : desk.store.files.tree.get? place with
    | none => rfl
    | some node =>
      cases node with
      | directory => rfl
      | link target => rfl
      | file id =>
        have other : id ≠ desk.sheet.handle.file := by
          rintro rfl
          exact outside (own place held)
        simp only [Option.map_some, itemOf, frame.body id other]
  bare before place target inside := by
    rw [frame.tree]
    exact before place target inside

/-- The new sheet of whoever gets one, and what they know of the cabinet then. -/
theorem added_of_newSheet {cabinet : Cabinet} {chance : Chance} {item description : String}
    (placed : cabinet.Placed) (bare : Bare (start.Below cabinet.parent cabinet.name) start)
    (confined : Confined (start.Below cabinet.parent cabinet.name) start store.files)
    (unused : chance.Unused cabinet item description store) {sheet : Sheet} {office : Office}
    (done : newSheet chance item description ⟨cabinet, store⟩ = .ok sheet office) :
    ∃ outer record, start.folder cabinet.parent = .ok outer ∧
      office.cabinet = cabinet.learn { record with count := record.count + 1 } ∧
      Added cabinet store.files office.store.files item description sheet
        (outer ++ [utf8 cabinet.name]) record := by
  have answered := answered_newSheet placed unused (lock_unlinked placed bare confined)
  rw [done] at answered
  cases answered with
  | @granted place record _ after _ added =>
    obtain ⟨between, created, -⟩ := added.counted
    have found := created.within.folder
    rw [placed.path] at found
    obtain ⟨outer, led, rfl, -⟩ :=
      folder_of_join placed.component (ground_of_confined bare confined).unlinked found
    exact ⟨outer, record, folder_of_confined confined bare led, rfl, added⟩

end Region

end Cabinet

end SheetCabinet
