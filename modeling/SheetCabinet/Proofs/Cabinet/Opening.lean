import SheetCabinet.Proofs.Cabinet.NewSheet
import SheetCabinet.Proofs.Control.RoundTrip
import SheetCabinet.Proofs.Store.Listing

/-!
# Making and opening a cabinet

A new cabinet is a directory with nothing in it but a control file that counts no sheet. Whoever
opens a cabinet reads the control file and looks at the directory, and changes nothing.

Results:
* what comes of writing the control file (`saveRecord_cases`), also into a new directory
  (`saveRecord_fresh`);
* making a cabinet is refused, or comes to that (`create_attempt`), and what there is after one was
  made (`made_of_create`);
* opening is quiet (`quiet_openIn`), and takes over what the control file says (`openIn_eq_ok`).
-/

namespace SheetCabinet

open FileSystem

namespace Cabinet

/-! ## Making -/

/-- What there is after a cabinet was made. -/
structure Made (cabinet : Cabinet) (name description : String) (parent : Path)
    (files : FileSystem) (place : Location) : Prop where
  cabinet_eq : cabinet = ⟨name, description, parent, Path.join parent name, 0⟩
  named : checkCabinetName name = .ok ()
  described : checkDescription description = .ok ()
  within : files.Within (Path.join parent name) controlName place
  control : ∃ id, files.Stands id (place ++ [utf8 controlName])
    (utf8 (ControlRecord.mk name description 0).render)
  /-- There is nothing else in the directory. -/
  alone : ∀ item, item ≠ controlName → files.tree.get? (place ++ [utf8 item]) = none

/-- A new directory is empty. -/
theorem look_inner {files : FileSystem} {outer : Location} {name : Bytes}
    (inside : files.tree.get? outer = some .directory)
    (vacant : files.tree.get? (outer ++ [name]) = none) (item : Bytes) :
    (files.place outer name .directory).tree.get? (outer ++ [name] ++ [item]) = none := by
  have placed : (files.place outer name .directory).tree.get? (outer ++ [name] ++ [item]) =
      if outer ++ [name] ++ [item] = outer ++ [name] then some .directory
      else files.tree.get? (outer ++ [name] ++ [item]) := Tree.get?_put inside vacant _ _
  rw [placed, if_neg (by simp)]
  exact Tree.get?_below_none (by simp [vacant]) item []

/-- Whether the directory can be synced comes last, when the control file is written. -/
theorem saveRecord_eq (cabinet : Cabinet) (draft : Draft) (store : Store) :
    cabinet.saveRecord draft store =
      Work.reported draft.unsynced (cabinet.saveRecord draft.synced store) :=
  Work.replaceFile_eq draft cabinet.directory controlName _ store

/-- Writing the control file into a directory fails and changes nothing, or replaces it. -/
theorem saveRecord_cases {cabinet : Cabinet} {draft : Draft} {store : Store} {place : Location}
    (present : cabinet.directory ≠ "") (unused : draft.Unused store.files cabinet.directory)
    (found : store.files.folder cabinet.directory = .ok place)
    (idle : store.files.Idle (place ++ [utf8 controlName])) :
    (∃ failure after, cabinet.saveRecord draft.synced store = .error failure after ∧
      SameBut [] store.files after.files) ∨
    ∃ after, cabinet.saveRecord draft.synced store = .ok () after ∧
      store.files.Within cabinet.directory controlName place ∧
      Work.Replaced store.files after.files (place ++ [utf8 controlName])
        (utf8 (ControlRecord.mk cabinet.name cabinet.description cabinet.count).render) := by
  cases askable : checkPath (utf8 (Path.join cabinet.directory controlName)) with
  | ok _ =>
    have within : store.files.Within cabinet.directory controlName place :=
      ⟨component_controlName, askable, found⟩
    rcases Work.replaceFile_cases unused within present idle
        (utf8 (ControlRecord.mk cabinet.name cabinet.description cabinet.count).render) with
      ⟨cause, files, same, failed⟩ | ⟨files, replaced, done⟩
    · exact .inl ⟨_, _, failed, same⟩
    · exact .inr ⟨_, done, within, replaced⟩
  | error cause =>
    have outcome := Work.replaceFile_outcome component_controlName unused.synced
      (utf8 (ControlRecord.mk cabinet.name cabinet.description cabinet.count).render)
    cases done : cabinet.saveRecord draft.synced store with
    | ok value after =>
      have asked := Work.askable_of_replaceFile component_controlName unused.synced done
      rw [askable] at asked
      cases asked
    | error failure after =>
      unfold saveRecord ControlRecord.save at done
      rw [done] at outcome
      rcases outcome with same | ⟨other, within, -⟩
      · exact .inl ⟨failure, after, rfl, same⟩
      · have asked := within.askable
        rw [askable] at asked
        cases asked

/-- What making a cabinet comes to once its directory is there. Without the control file the directory
goes away again. -/
def concluded (cabinet : Cabinet) :
    EStateM.Result Failure Store Unit → EStateM.Result Failure Store Cabinet
  | .ok () after => .ok cabinet (after.tell (.cabinetCreated cabinet.directory))
  | .error failure after =>
    match after.files.removeTree (utf8 cabinet.directory) with
    | .ok cleaned => .error failure { after with files := cleaned }
    | .error _ => .error failure after

/-- A new cabinet is a directory at a free name, with its control file in it. -/
theorem create_eq (draft : Draft) (name description : String) (parent : Path) (store : Store) :
    create draft name description parent store =
      match checkCabinetName name with
      | .error fault => .error (.strategy (.name fault)) store
      | .ok () =>
        match checkDescription description with
        | .error fault => .error (.strategy (.name fault)) store
        | .ok () =>
          match store.files.makeDirectory (utf8 (Path.join parent name)) with
          | .error .alreadyExists => .error (.alreadyExists (Path.join parent name)) store
          | .error cause => .error (.io cause) store
          | .ok made =>
            let cabinet : Cabinet := ⟨name, description, parent, Path.join parent name, 0⟩
            cabinet.concluded (cabinet.saveRecord draft { store with files := made }) := by
  unfold create
  rw [Work.bind_apply]
  unfold Work.accept
  cases checkCabinetName name with
  | error fault => rfl
  | ok _ =>
    refine (Work.bind_apply _ _ store).trans ?_
    cases checkDescription description with
    | error fault => rfl
    | ok _ =>
      dsimp only
      cases store.files.makeDirectory (utf8 (Path.join parent name)) with
      | error cause => rfl
      | ok made =>
        dsimp only
        cases saveRecord ⟨name, description, parent, Path.join parent name, 0⟩ draft
          { store with files := made } <;> rfl

/-- What is so when the directory of a cabinet is made. -/
structure Founding (files : FileSystem) (name description : String) (parent : Path)
    (outer : Location) : Prop where
  named : checkCabinetName name = .ok ()
  described : checkDescription description = .ok ()
  within : files.Within parent name outer
  vacant : files.tree.get? (outer ++ [utf8 name]) = none
  short : (utf8 name).length ≤ longestName

/-- Making a cabinet is refused before anything is done, or comes to what writing the control file
into the new directory comes to. -/
theorem create_attempt (draft : Draft) (name description : String) (parent : Path) (store : Store) :
    (∃ failure, create draft name description parent store = .error failure store) ∨
    ∃ outer, Founding store.files name description parent outer ∧
      let cabinet : Cabinet := ⟨name, description, parent, Path.join parent name, 0⟩
      create draft name description parent store = cabinet.concluded (cabinet.saveRecord draft
        { store with files := store.files.place outer (utf8 name) .directory }) := by
  rw [create_eq]
  cases named : checkCabinetName name with
  | error fault => exact .inl ⟨_, rfl⟩
  | ok _ =>
    cases described : checkDescription description with
    | error fault => exact .inl ⟨_, rfl⟩
    | ok _ =>
      dsimp only
      cases prepared : store.files.makeDirectory (utf8 (Path.join parent name)) with
      | error cause =>
        refine .inl ?_
        cases cause <;> exact ⟨_, rfl⟩
      | ok made =>
        obtain ⟨outer, within, vacant, short, rfl⟩ :=
          makeDirectory_eq_ok (component_of_check named) prepared
        exact .inr ⟨outer, ⟨named, described, within, vacant, short⟩, rfl⟩

namespace Founding

variable {files : FileSystem} {name description : String} {parent : Path} {outer : Location}

theorem inside (founding : Founding files name description parent outer) :
    files.tree.get? outer = some .directory := directory_of_folder founding.within.folder

theorem folder (founding : Founding files name description parent outer) :
    (files.place outer (utf8 name) .directory).folder (Path.join parent name) =
      .ok (outer ++ [utf8 name]) :=
  folder_place founding.within.component founding.within.folder founding.vacant founding.short

/-- Nothing is in the new directory. -/
theorem look (founding : Founding files name description parent outer) (item : Bytes) :
    (files.place outer (utf8 name) .directory).tree.get? (outer ++ [utf8 name] ++ [item]) = none :=
  look_inner founding.inside founding.vacant item

/-- No draft is in the way there. -/
theorem unused (founding : Founding files name description parent outer) (draft : Draft) :
    draft.Unused (files.place outer (utf8 name) .directory) (Path.join parent name) := by
  intro other again
  rw [← Except.ok.inj (founding.folder.symm.trans again)]
  exact founding.look (utf8 draft.name)

end Founding

/-- The control file of a cabinet whose directory was just made is written, or not; nothing else is
different either way. -/
theorem saveRecord_fresh {name description : String} {parent : Path} {store : Store}
    {outer : Location} (founding : Founding store.files name description parent outer)
    (draft : Draft) :
    let cabinet : Cabinet := ⟨name, description, parent, Path.join parent name, 0⟩
    let ready : Store :=
      { store with files := store.files.place outer (utf8 name) .directory }
    let place := outer ++ [utf8 name]
    (∃ failure after, cabinet.saveRecord draft ready = .error failure after ∧
      SameBut [place ++ [utf8 controlName]] ready.files after.files) ∨
    ∃ after, cabinet.saveRecord draft ready = .ok () after ∧
      after.files.Within cabinet.directory controlName place ∧
      Work.Replaced ready.files after.files (place ++ [utf8 controlName])
        (utf8 (ControlRecord.mk name description 0).render) := by
  intro cabinet ready place
  have placed : cabinet.Placed := ⟨founding.within.component, rfl⟩
  have free : ready.files.Idle (place ++ [utf8 controlName]) :=
    idle_of_vacant (founding.look (utf8 controlName))
  rw [saveRecord_eq]
  rcases saveRecord_cases placed.directory_ne_empty (founding.unused draft) founding.folder free with
    ⟨failure, after, failed, same⟩ | ⟨after, saved, within, replaced⟩
  · rw [failed]
    exact .inl ⟨failure, after, rfl, same.settle fun _ absurd => by cases absurd⟩
  · rw [saved]
    cases draft.unsynced with
    | some cause => exact .inl ⟨_, after, rfl, replaced.same⟩
    | none =>
      have there := folder_of_sameBut replaced.same (by simpa using free) within.folder
      exact .inr ⟨after, rfl, ⟨within.component, within.askable, there⟩, replaced⟩

theorem made_of_create {draft : Draft} {name description : String} {parent : Path}
    {store after : Store} {cabinet : Cabinet}
    (done : create draft name description parent store = .ok cabinet after) :
    ∃ place, Made cabinet name description parent after.files place := by
  rcases create_attempt draft name description parent store with
    ⟨failure, refused⟩ | ⟨outer, founding, tried⟩
  · rw [refused] at done
    cases done
  · rw [tried] at done
    rcases saveRecord_fresh founding draft with
      ⟨failure, left, failed, -⟩ | ⟨left, saved, within, replaced⟩
    · rw [failed] at done
      dsimp only [concluded] at done
      split at done <;> cases done
    · rw [saved] at done
      cases done
      obtain ⟨id, -, stands⟩ := replaced.stands
      refine ⟨outer ++ [utf8 name], rfl, founding.named, founding.described, within,
        ⟨id, stands⟩, ?_⟩
      intro item other
      have apart : outer ++ [utf8 name] ++ [utf8 item] ∉
          [outer ++ [utf8 name] ++ [utf8 controlName]] := by
        simpa [utf8_inj] using other
      rw [Store.tell, replaced.same.look _ apart]
      exact founding.look (utf8 item)

/-! ## Opening -/

theorem quiet_load (directory : Path) : Work.Quiet (ControlRecord.load directory) := by
  refine (Work.Quiet.readText _).bind ?_
  intro text
  split
  · exact .pure _
  · exact .throw _

/-- Whoever reads the control file again changes nothing. -/
theorem quiet_reread (cabinet : Cabinet) : Work.Quiet (cabinet.run reread) := by
  intro store
  unfold run
  rcases reread_cases cabinet store with ⟨failure, failed⟩ | ⟨record, done, -, -⟩
  · rw [failed]
    rfl
  · rw [done]
    rfl

theorem quiet_sheetNames (cabinet : Cabinet) : Work.Quiet cabinet.sheetNames := by
  unfold sheetNames Work.listItems
  exact .query _

theorem quiet_requireDirectory (directory : Path) : Work.Quiet (requireDirectory directory) := by
  intro store
  unfold requireDirectory
  split <;> rfl

theorem quiet_tellUncounted (cabinet : Cabinet) (present : Nat) :
    Work.Quiet (cabinet.tellUncounted present) := by
  unfold tellUncounted
  split
  · exact .tell _
  · exact .pure _

theorem quiet_openIn (name : String) (parent : Path) : Work.Quiet (openIn name parent) := by
  refine (Work.Quiet.accept _).bind ?_
  intro _
  refine (quiet_requireDirectory _).bind ?_
  intro _
  refine (quiet_reread _).bind ?_
  intro (cabinet, _)
  refine (quiet_sheetNames cabinet).bind ?_
  intro present
  refine (quiet_tellUncounted cabinet present.length).bind ?_
  intro _
  exact (Work.Quiet.tell _).bind fun _ => .pure cabinet

/-- Whoever opens a cabinet has what its control file says. -/
theorem openIn_eq_ok {name : String} {parent : Path} {store after : Store} {cabinet : Cabinet}
    (done : openIn name parent store = .ok cabinet after) :
    after.files = store.files ∧ ∃ record,
      ControlRecord.load (Path.join parent name) store = .ok record store ∧ record.name = name ∧
      cabinet = ⟨name, record.description, parent, Path.join parent name, record.count⟩ := by
  have same := (quiet_openIn name parent).files_eq done
  obtain ⟨-, work⟩ := Work.accept_bind_eq_ok.1 done
  obtain ⟨_, _, there, work⟩ := Work.bind_eq_ok.1 work
  obtain ⟨⟨fresh, ⟨⟩⟩, _, read, work⟩ := Work.bind_eq_ok.1 work
  obtain ⟨_, _, _, work⟩ := Work.bind_eq_ok.1 work
  obtain ⟨_, _, _, work⟩ := Work.bind_eq_ok.1 work
  obtain ⟨_, _, _, work⟩ := Work.bind_eq_ok.1 work
  cases work
  unfold requireDirectory at there
  split at there
  · cases there
    rw [run_eq_ok] at read
    rcases reread_cases ⟨name, "", parent, Path.join parent name, 0⟩ store with
      ⟨failure, failed⟩ | ⟨record, known, loaded, named⟩
    · rw [failed] at read
      cases read
    · rw [known] at read
      cases read
      exact ⟨same, record, loaded, named, rfl⟩
  · cases there

end Cabinet

end SheetCabinet
