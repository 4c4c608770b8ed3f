import SheetCabinet.Proofs.Cabinet.Counting
import SheetCabinet.Proofs.Sheet.Creation

/-!
# New sheets, all or nothing

A new sheet is made, counted, and taken away again if it could not be counted. Whoever holds the
cabinet has either one more sheet and the record that was read with a count that is one higher, or
the cabinet as it was; and then nothing is different but an empty lock file that may have been made.

Results:
* every cabinet that was handed out is a named directory in another (`placed_of_handed`);
* what there is after a new sheet was asked for (`answered_newSheet`, `newSheet_all_or_nothing`).
-/

namespace SheetCabinet

open FileSystem

namespace Chance

/-- The request that fares the same until the directory is synced, and where that can be done. -/
def synced (chance : Chance) : Chance := { chance with draft := chance.draft.synced }

/-- When the control file is replaced for a new sheet, nothing in the directory of the cabinet has the
name of the draft. -/
def Unused (chance : Chance) (cabinet : Cabinet) (name description : String) (store : Store) : Prop :=
  ∀ sheet made, Sheet.create chance.torn name description cabinet.directory store = .ok sheet made →
    chance.draft.UnusedUnderLock cabinet.directory made

instance (chance : Chance) (cabinet : Cabinet) (name description : String) (store : Store) :
    Decidable (chance.Unused cabinet name description store) :=
  match done : Sheet.create chance.torn name description cabinet.directory store with
  | .ok sheet made => decidable_of_iff (chance.draft.UnusedUnderLock cabinet.directory made)
      ⟨fun unused _ _ same => by cases done.symm.trans same; exact unused,
        fun unused => unused sheet made done⟩
  | .error _ _ => .isTrue fun _ _ same => nomatch done.symm.trans same

end Chance

namespace Cabinet

/-! ## Cabinets that are handed out -/

/-- The cabinets that whoever uses the library can have. -/
inductive Handed : Cabinet → Prop
  | created {draft : Draft} {name description : String} {parent : Path} {store after : Store}
      {cabinet : Cabinet} (done : create draft name description parent store = .ok cabinet after) :
      Handed cabinet
  | opened {name : String} {parent : Path} {store after : Store} {cabinet : Cabinet}
      (done : openIn name parent store = .ok cabinet after) : Handed cabinet
  | newSheet {cabinet : Cabinet} (chance : Chance) (name description : String) (store : Store)
      (handed : Handed cabinet) :
      Handed (leftBy (newSheet chance name description ⟨cabinet, store⟩)).cabinet
  | reread {cabinet : Cabinet} (store : Store) (handed : Handed cabinet) :
      Handed (leftBy (reread ⟨cabinet, store⟩)).cabinet

/-- The cabinet is in a directory with its name. -/
structure Placed (cabinet : Cabinet) : Prop where
  component : Component cabinet.name
  path : cabinet.directory = Path.join cabinet.parent cabinet.name

theorem Placed.directory_ne_empty {cabinet : Cabinet} (placed : cabinet.Placed) :
    cabinet.directory ≠ "" := by
  rw [placed.path]
  exact join_ne_empty placed.component cabinet.parent

/-- Only the description and the count are taken from a record. -/
theorem Placed.learn {cabinet : Cabinet} (placed : cabinet.Placed) (record : ControlRecord) :
    (cabinet.learn record).Placed :=
  ⟨placed.component, placed.path⟩

theorem reread_apply (office : Office) :
    reread office =
      match ControlRecord.load office.cabinet.directory office.store with
      | .ok record after =>
        if record.name = office.cabinet.name then .ok () ⟨office.cabinet.learn record, after⟩
        else .error (.strategy (.otherCabinet office.cabinet.directory record.name))
          ⟨office.cabinet, after⟩
      | .error failure after => .error failure ⟨office.cabinet, after⟩ := by
  unfold reread
  refine (Work.bind_apply _ _ office).trans ?_
  refine (Work.bind_apply _ _ office).trans ?_
  unfold aside
  cases ControlRecord.load office.cabinet.directory office.store with
  | error failure after => rfl
  | ok record after =>
    dsimp only [EStateM.get]
    split <;> rfl

/-- Whoever reads the control file again learns what it says, or knows what was known before. -/
theorem reread_cases (cabinet : Cabinet) (store : Store) :
    (∃ failure, reread ⟨cabinet, store⟩ = .error failure ⟨cabinet, store⟩) ∨
    ∃ record, reread ⟨cabinet, store⟩ = .ok () ⟨cabinet.learn record, store⟩ ∧
      ControlRecord.load cabinet.directory store = .ok record store ∧ record.name = cabinet.name := by
  rw [reread_apply]
  rcases ControlRecord.load_cases cabinet.directory store with
    ⟨failure, failed⟩ | ⟨record, text, loaded, -, -⟩
  · rw [failed]
    exact .inl ⟨failure, rfl⟩
  · rw [loaded]
    dsimp only
    by_cases own : record.name = cabinet.name
    · rw [if_pos own]
      exact .inr ⟨record, rfl, rfl, own⟩
    · rw [if_neg own]
      exact .inl ⟨_, rfl⟩

theorem placed_of_reread {cabinet : Cabinet} (placed : cabinet.Placed) (store : Store) :
    (leftBy (reread ⟨cabinet, store⟩)).cabinet.Placed := by
  rcases reread_cases cabinet store with ⟨failure, failed⟩ | ⟨record, done, -, -⟩
  · rw [failed]
    exact placed
  · rw [done]
    exact placed.learn record

theorem placed_of_create {draft : Draft} {name description : String} {parent : Path}
    {store after : Store} {cabinet : Cabinet}
    (done : create draft name description parent store = .ok cabinet after) : cabinet.Placed := by
  obtain ⟨_, _, accepted, done⟩ := Work.bind_eq_ok.1 done
  obtain ⟨_, _, _, done⟩ := Work.bind_eq_ok.1 done
  have component := component_of_check (Work.accept_eq_ok.1 accepted).1
  split at done
  · cases done
  · cases done
  · split at done
    · cases done
      exact ⟨component, rfl⟩
    · split at done <;> cases done

/-- Work with a cabinet that is done as part of other work. -/
theorem run_eq_ok {α : Type} {cabinet other : Cabinet} {work : Keeping α} {value : α}
    {store after : Store} : cabinet.run work store = .ok (other, value) after ↔
      work ⟨cabinet, store⟩ = .ok value ⟨other, after⟩ := by
  unfold run
  cases work ⟨cabinet, store⟩ with
  | error failure office => simp
  | ok found office =>
    obtain ⟨held, left⟩ := office
    simp only [EStateM.Result.ok.injEq, Prod.mk.injEq, Office.mk.injEq]
    exact ⟨fun ⟨⟨first, second⟩, third⟩ => ⟨second, first, third⟩,
      fun ⟨second, first, third⟩ => ⟨⟨first, second⟩, third⟩⟩

theorem placed_of_openIn {name : String} {parent : Path} {store after : Store} {cabinet : Cabinet}
    (done : openIn name parent store = .ok cabinet after) : cabinet.Placed := by
  obtain ⟨_, _, accepted, done⟩ := Work.bind_eq_ok.1 done
  obtain ⟨_, there, _, done⟩ := Work.bind_eq_ok.1 done
  obtain ⟨⟨fresh, ⟨⟩⟩, between, read, done⟩ := Work.bind_eq_ok.1 done
  obtain ⟨_, _, _, done⟩ := Work.bind_eq_ok.1 done
  obtain ⟨_, _, _, done⟩ := Work.bind_eq_ok.1 done
  obtain ⟨_, _, _, done⟩ := Work.bind_eq_ok.1 done
  cases done
  have placed : Placed ⟨name, "", parent, Path.join parent name, 0⟩ :=
    ⟨component_of_check (Work.accept_eq_ok.1 accepted).1, rfl⟩
  have later := placed_of_reread placed there
  rw [run_eq_ok.1 read] at later
  exact later

theorem newSheet_apply (chance : Chance) (name description : String) (office : Office) :
    newSheet chance name description office =
      match checkSheetName name with
      | .error fault => .error (.strategy (.name fault)) office
      | .ok () =>
        match Sheet.create chance.torn name description office.cabinet.directory office.store with
        | .error failure after => .error failure ⟨office.cabinet, after⟩
        | .ok sheet made =>
          match office.cabinet.recordNext chance.draft made with
          | .error failure after =>
            .error failure ⟨office.cabinet, withdraw sheet (sheet.close after)⟩
          | .ok counted after =>
            .ok sheet ⟨office.cabinet.learn counted,
              after.tell (.sheetCounted office.cabinet.name counted.count name)⟩ := by
  unfold newSheet
  refine (Work.bind_apply _ _ office).trans ?_
  unfold aside Work.accept
  cases checkSheetName name with
  | error fault => rfl
  | ok _ =>
    refine (Work.bind_apply _ _ office).trans ?_
    refine (Work.bind_apply _ _ office).trans ?_
    dsimp only [get, getThe, MonadStateOf.get, EStateM.get]
    cases Sheet.create chance.torn name description office.cabinet.directory office.store with
    | error failure after => rfl
    | ok sheet made =>
      dsimp only
      rw [countUp_apply]
      dsimp only
      cases office.cabinet.recordNext chance.draft made <;> rfl

/-- Whoever gets a new sheet had it made and counted. -/
theorem newSheet_eq_ok {cabinet : Cabinet} {chance : Chance} {name description : String}
    {store : Store} {after : Office} {sheet : Sheet}
    (done : newSheet chance name description ⟨cabinet, store⟩ = .ok sheet after) :
    checkSheetName name = .ok () ∧ ∃ made counted up,
      Sheet.create chance.torn name description cabinet.directory store = .ok sheet made ∧
      cabinet.recordNext chance.draft made = .ok counted up ∧
      after.cabinet = cabinet.learn counted ∧ after.store.files = up.files := by
  rw [newSheet_apply] at done
  split at done
  · cases done
  · rename_i accepted
    split at done
    · cases done
    · rename_i made created
      split at done
      · cases done
      · rename_i counted up counts
        cases done
        exact ⟨accepted, made, counted, up, created, counts, rfl, rfl⟩

/-- Whoever asked for a new sheet knows what was known before, or has taken over a record. -/
theorem cabinet_of_newSheet (cabinet : Cabinet) (chance : Chance) (name description : String)
    (store : Store) :
    (leftBy (newSheet chance name description ⟨cabinet, store⟩)).cabinet = cabinet ∨
      ∃ record, (leftBy (newSheet chance name description ⟨cabinet, store⟩)).cabinet =
        cabinet.learn record := by
  rw [newSheet_apply]
  split
  · exact .inl rfl
  · split
    · exact .inl rfl
    · split
      · exact .inl rfl
      · exact .inr ⟨_, rfl⟩

theorem placed_of_newSheet {cabinet : Cabinet} (placed : cabinet.Placed) (chance : Chance)
    (name description : String) (store : Store) :
    (leftBy (newSheet chance name description ⟨cabinet, store⟩)).cabinet.Placed := by
  rcases cabinet_of_newSheet cabinet chance name description store with same | ⟨record, learned⟩
  · rw [same]
    exact placed
  · rw [learned]
    exact placed.learn record

theorem placed_of_handed {cabinet : Cabinet} (handed : Handed cabinet) : cabinet.Placed := by
  induction handed with
  | created done => exact placed_of_create done
  | opened done => exact placed_of_openIn done
  | newSheet chance name description store _ ih =>
    exact placed_of_newSheet ih chance name description store
  | reread store _ ih => exact placed_of_reread ih store

/-! ## What a new sheet leaves -/

/-- A name that a cabinet does not keep for itself is not that of one of its own files. -/
theorem ne_of_free {item own : String} (free : isReserved item = false)
    (reserved : isReserved own = true) (place : Location) :
    place ++ [utf8 item] ≠ place ++ [utf8 own] := by
  intro same
  rw [utf8_inj.1 (List.singleton_inj.1 (List.append_cancel_left same)), reserved] at free
  cases free

theorem ne_of_sheetName {name own : String} (accepted : checkSheetName name = .ok ())
    (reserved : isReserved own = true) (place : Location) :
    place ++ [utf8 name] ≠ place ++ [utf8 own] :=
  ne_of_free (checkSheetName_eq_ok_iff.1 accepted).2 reserved place

theorem isReserved_lockName : isReserved lockName = true := by decide +kernel

theorem isReserved_controlName : isReserved controlName = true := by decide +kernel

/-- A sheet was made, and then counted. -/
structure Added (cabinet : Cabinet) (files after : FileSystem) (name description : String)
    (sheet : Sheet) (place : Location) (record : ControlRecord) : Prop where
  accepted : checkSheetName name = .ok ()
  counted : ∃ between : FileSystem,
    Sheet.Created files between cabinet.directory name description sheet place ∧
      CountedUp cabinet between after place record

/-- Nothing is left of a sheet that was made and taken away again. -/
theorem sameBut_withdraw {files between after : FileSystem} {parent : Path}
    {name description : String} {sheet : Sheet} {place : Location}
    (created : Sheet.Created files between parent name description sheet place)
    (same : SameBut [] between after) : SameBut [] files (after.clear (place ++ [utf8 name])) := by
  have held := (same.look _ List.not_mem_nil).trans created.stands.held
  refine ((created.same.trans same).trans (sameBut_clear held)).settle ?_
  intro spot member _
  obtain rfl : spot = place ++ [utf8 name] := by simpa using member
  refine both_none ?_ created.vacant
  rw [look_clear (solid_of_file held), if_pos rfl]

/-- What is left of a sheet that could not be counted: nothing, and perhaps an empty lock file. -/
theorem upToLock_withdraw {files between after : FileSystem} {parent : Path}
    {name description : String} {sheet : Sheet} {place : Location}
    (created : Sheet.Created files between parent name description sheet place)
    (distinct : place ++ [utf8 name] ≠ place ++ [utf8 lockName])
    (upTo : UpToLock (place ++ [utf8 lockName]) between after) :
    UpToLock (place ++ [utf8 lockName]) files (after.clear (place ++ [utf8 name])) := by
  have stands := upTo.stands created.stands distinct
  have cleared := sameBut_clear stands.held
  have gone : (after.clear (place ++ [utf8 name])).tree.get? (place ++ [utf8 name]) = none := by
    rw [look_clear (solid_of_file stands.held), if_pos rfl]
  have free := both_none gone created.vacant
  cases upTo with
  | same same => exact .same (sameBut_withdraw created same)
  | made id vacant unnamed same empty =>
    have whole : SameBut [place ++ [utf8 lockName]] files
        (after.clear (place ++ [utf8 name])) := by
      refine ((created.same.trans same).trans cleared).settle ?_
      intro spot member outside
      obtain rfl : spot = place ++ [utf8 name] := by
        simp only [List.cons_append, List.nil_append, List.mem_cons, List.not_mem_nil,
          or_false] at member outside
        rcases member with same | same | same
        · exact same
        · exact absurd same outside
        · exact same
      exact free
    have before (spot : Location) (other : spot ≠ place ++ [utf8 name]) :
        between.tree.get? spot = files.tree.get? spot :=
      created.same.look_ne spot other
    refine .made id ((before _ distinct.symm).symm.trans vacant) ?_ whole ?_
    · intro spot held
      by_cases inside : spot = place ++ [utf8 name]
      · rw [inside, created.vacant] at held
        cases held
      · exact unnamed spot ((before spot inside).trans held)
    · refine empty.of_sameBut cleared (by simpa using distinct.symm) ?_
      intro spot member held
      rw [List.mem_singleton.1 member, gone] at held
      cases held

/-- A sheet that is where it was made goes away by its path. -/
theorem files_withdraw_of_held {files between : FileSystem} {store : Store} {parent : Path}
    {name description : String} {sheet : Sheet} {place : Location} {id : FileId}
    (created : Sheet.Created files between parent name description sheet place)
    (found : store.files.folder parent = .ok place)
    (held : store.files.tree.get? (place ++ [utf8 name]) = some (.file id)) :
    (withdraw sheet (sheet.close store)).files = store.files.clear (place ++ [utf8 name]) := by
  have within : store.files.Within parent name place :=
    ⟨created.within.component, created.within.askable, found⟩
  have closed : sheet.close store = store := by
    rw [created.sheet_eq]
    exact if_pos rfl
  unfold withdraw
  rw [closed, created.path_eq, removeFile_within within created.short held]

/-- The sheet that could not be counted goes away by its path. -/
theorem files_withdraw {files : FileSystem} {store : Store} {between : FileSystem} {parent : Path}
    {name description : String} {sheet : Sheet} {place : Location}
    (created : Sheet.Created files between parent name description sheet place)
    (distinct : place ++ [utf8 name] ≠ place ++ [utf8 lockName])
    (upTo : UpToLock (place ++ [utf8 lockName]) between store.files) :
    (withdraw sheet (sheet.close store)).files = store.files.clear (place ++ [utf8 name]) :=
  files_withdraw_of_held created (upTo.folder created.withinAfter.folder)
    (upTo.stands created.stands distinct).held

/-! ## What is seen afterwards -/

namespace Added

variable {cabinet : Cabinet} {files after : FileSystem} {name description : String} {sheet : Sheet}
  {place : Location} {record : ControlRecord}

theorem controlName_ne_lockName (place : Location) :
    place ++ [utf8 controlName] ≠ place ++ [utf8 lockName] := by
  intro same
  have names := utf8_inj.1 (List.singleton_inj.1 (List.append_cancel_left same))
  exact absurd names (by decide +kernel)

/-- The places that are different afterwards. -/
theorem sameBut (added : Added cabinet files after name description sheet place record) :
    SameBut [place ++ [utf8 name], place ++ [utf8 lockName], place ++ [utf8 controlName]]
      files after := by
  obtain ⟨-, between, created, up⟩ := added
  obtain ⟨held, upTo, -, -, replaced⟩ := up.loaded
  have whole := (created.same.trans upTo.sameBut).trans replaced.same
  simpa only [List.cons_append, List.nil_append] using whole

/-- The new sheet holds its description. -/
theorem sheet_stands (added : Added cabinet files after name description sheet place record) :
    after.Stands sheet.handle.file (place ++ [utf8 name]) (utf8 (descriptionLine description)) := by
  obtain ⟨accepted, between, created, up⟩ := added
  obtain ⟨held, upTo, -, -, replaced⟩ := up.loaded
  have inside := upTo.stands created.stands (ne_of_sheetName accepted isReserved_lockName place)
  exact replaced.stands_of_ne inside (ne_of_sheetName accepted isReserved_controlName place)

/-- The control file says what it said, with a count that is one higher. -/
theorem control_stands (added : Added cabinet files after name description sheet place record) :
    ∃ id, after.Stands id (place ++ [utf8 controlName])
      (utf8 ({ record with count := record.count + 1 } : ControlRecord).render) := by
  obtain ⟨-, between, -, up⟩ := added
  obtain ⟨held, -, -, -, replaced⟩ := up.loaded
  obtain ⟨-, id, -, stands⟩ := replaced
  exact ⟨id, stands⟩

/-- The lock file is the one that was there, or is new and empty. -/
theorem lock_kept (added : Added cabinet files after name description sheet place record) :
    (∃ id, after.tree.get? (place ++ [utf8 lockName]) = some (.file id)) ∧
      (after.tree.get? (place ++ [utf8 lockName]) = files.tree.get? (place ++ [utf8 lockName]) ∧
          after.item (place ++ [utf8 lockName]) = files.item (place ++ [utf8 lockName]) ∨
        files.item (place ++ [utf8 lockName]) = none ∧
          after.item (place ++ [utf8 lockName]) = some (.file [])) := by
  obtain ⟨accepted, between, created, up⟩ := added
  obtain ⟨held, upTo, ⟨id, locked⟩, -, replaced⟩ := up.loaded
  have outside : place ++ [utf8 lockName] ∉ [place ++ [utf8 controlName]] := by
    simpa using (controlName_ne_lockName place).symm
  have apart : place ++ [utf8 lockName] ∉ [place ++ [utf8 name]] := by
    simpa using (ne_of_sheetName accepted isReserved_lockName place).symm
  refine ⟨⟨id, (replaced.same.look _ outside).trans locked⟩, ?_⟩
  rw [replaced.same.look _ outside, replaced.same.item _ outside,
    ← created.same.look _ apart, ← created.same.item _ apart]
  cases upTo with
  | same same => exact .inl ⟨same.look _ List.not_mem_nil, same.item _ List.not_mem_nil⟩
  | made other vacant _ _ empty => exact .inr ⟨item_eq_none_iff.2 vacant, empty.item⟩

/-- What is seen afterwards, anywhere. -/
theorem item (added : Added cabinet files after name description sheet place record)
    (spot : Location) :
    after.item spot =
      if spot = place ++ [utf8 name] then some (.file (utf8 (descriptionLine description)))
      else if spot = place ++ [utf8 controlName] then
        some (.file (utf8 ({ record with count := record.count + 1 } : ControlRecord).render))
      else if spot = place ++ [utf8 lockName] ∧ files.item spot = none then some (.file [])
      else files.item spot := by
  obtain ⟨⟨lockId, locked⟩, lock⟩ := added.lock_kept
  obtain ⟨controlId, control⟩ := added.control_stands
  by_cases new : spot = place ++ [utf8 name]
  · rw [if_pos new, new, added.sheet_stands.item]
  · rw [if_neg new]
    by_cases counted : spot = place ++ [utf8 controlName]
    · rw [if_pos counted, counted, control.item]
    · rw [if_neg counted]
      by_cases own : spot = place ++ [utf8 lockName]
      · subst own
        rcases lock with ⟨-, same⟩ | ⟨free, empty⟩
        · -- the lock file was there, so its place was not free
          have present := item_of_look locked
          rw [same] at present
          rw [if_neg, same]
          rintro ⟨-, free⟩
          rw [free] at present
          cases present
        · rw [if_pos ⟨rfl, free⟩, empty]
      · rw [if_neg fun both => own both.1]
        exact added.sameBut.item spot (by simp [new, counted, own])

end Added

/-! ## What comes of asking for a new sheet -/

/-- What comes of asking for a new sheet. It is refused, and an empty lock file is all that may be left;
it is granted; or it is counted, and then taken away because the directory cannot be synced. -/
inductive Answered (cabinet : Cabinet) (chance : Chance) (name description : String) (store : Store) :
    EStateM.Result Failure Office Sheet → Prop
  | refused {failure : Failure} {after : Store}
      (alike : newSheet chance.synced name description ⟨cabinet, store⟩ =
        .error failure ⟨cabinet, after⟩)
      (left : SameBut [] store.files after.files ∨
        ∃ place, store.files.folder cabinet.directory = .ok place ∧
          UpToLock (place ++ [utf8 lockName]) store.files after.files) :
      Answered cabinet chance name description store (.error failure ⟨cabinet, after⟩)
  | granted {place : Location} {record : ControlRecord} {sheet : Sheet} {after : Store}
      (synced : chance.draft.unsynced = none)
      (added : Added cabinet store.files after.files name description sheet place record) :
      Answered cabinet chance name description store
        (.ok sheet ⟨cabinet.learn { record with count := record.count + 1 }, after⟩)
  | lost {cause : FileError} {place : Location} {record : ControlRecord} {sheet : Sheet}
      {counted after : Store} (unsynced : chance.draft.unsynced = some cause)
      (alike : newSheet chance.synced name description ⟨cabinet, store⟩ =
        .ok sheet ⟨cabinet.learn { record with count := record.count + 1 }, counted⟩)
      (added : Added cabinet store.files counted.files name description sheet place record)
      (withdrawn : after.files = counted.files.clear (place ++ [utf8 name])) :
      Answered cabinet chance name description store (.error (.io cause) ⟨cabinet, after⟩)

theorem answered_newSheet {cabinet : Cabinet} (placed : cabinet.Placed) {chance : Chance}
    {name description : String} {store : Store}
    (unused : chance.Unused cabinet name description store)
    (solid : ∀ place target, store.files.folder cabinet.directory = .ok place →
      store.files.tree.get? (place ++ [utf8 lockName]) ≠ some (.link target)) :
    Answered cabinet chance name description store
      (newSheet chance name description ⟨cabinet, store⟩) := by
  have alike := newSheet_apply chance.synced name description ⟨cabinet, store⟩
  rw [newSheet_apply]
  cases accepted : checkSheetName name with
  | error fault =>
    rw [accepted] at alike
    exact .refused alike (.inl (.refl _))
  | ok _ =>
    rw [accepted] at alike
    dsimp only [Chance.synced] at alike ⊢
    rcases Sheet.create_cases chance.torn name description cabinet.directory store with
      ⟨failure, after, refused, same⟩ | ⟨sheet, made, place, done, -, created⟩
    · rw [refused] at alike ⊢
      exact .refused alike (.inl same)
    · have distinct := ne_of_sheetName accepted isReserved_lockName place
      have inner : ∀ target, made.files.tree.get? (place ++ [utf8 lockName]) ≠
          some (.link target) := by
        intro target
        rw [created.same.look_ne _ distinct.symm]
        exact solid place target created.within.folder
      rw [done] at alike ⊢
      dsimp only at alike ⊢
      rw [recordNext_eq]
      rcases recordNext_cases placed.directory_ne_empty (unused sheet made done)
          created.withinAfter.folder inner with
        ⟨failure, after, failed, upTo⟩ | ⟨record, counted, worked, up⟩
      · rw [failed] at alike ⊢
        refine .refused alike (.inr ⟨place, created.within.folder, ?_⟩)
        rw [files_withdraw created distinct upTo]
        exact upToLock_withdraw created distinct upTo
      · rw [worked] at alike ⊢
        have added : Added cabinet store.files counted.files name description sheet place record :=
          ⟨accepted, made.files, created, up⟩
        cases unsynced : chance.draft.unsynced with
        | none => exact .granted unsynced added
        | some cause =>
          refine .lost unsynced alike added ?_
          exact files_withdraw_of_held created (up.folder created.withinAfter.folder)
            added.sheet_stands.held

/-- A new sheet that is refused leaves everything as it was, but for an empty lock file that may have
been made. One that is handed out is there with its description, is counted in the control file and
in the cabinet, and nothing else is different but the lock file, which is there. -/
theorem newSheet_all_or_nothing {cabinet : Cabinet} (handed : Handed cabinet) {store : Store}
    (noLink : ∀ place target, store.files.folder cabinet.directory = .ok place →
      store.files.item (place ++ [utf8 lockName]) ≠ some (.link target))
    {chance : Chance} (synced : chance.draft.unsynced = none) (name description : String)
    (unused : chance.Unused cabinet name description store) :
    let result := newSheet chance name description ⟨cabinet, store⟩
    (∃ failure after, result = .error failure ⟨cabinet, after⟩ ∧
      ∀ spot, after.files.item spot = store.files.item spot ∨
        ∃ place, store.files.folder cabinet.directory = .ok place ∧
          spot = place ++ [utf8 lockName] ∧ store.files.item spot = none ∧
          after.files.item spot = some (.file [])) ∨
    ∃ place record sheet after, result =
        .ok sheet ⟨{ cabinet with description := record.description, count := record.count + 1 },
          after⟩ ∧
      record.count.toNat + 1 < UInt32.size ∧
      store.files.folder cabinet.directory = .ok place ∧
      (∃ held : Store, ControlRecord.load cabinet.directory held = .ok record held ∧
        SameBut [place ++ [utf8 name], place ++ [utf8 lockName]] store.files held.files) ∧
      store.files.item (place ++ [utf8 name]) = none ∧
      (∃ bytes, after.files.item (place ++ [utf8 lockName]) = some (.file bytes)) ∧
      ∀ spot, after.files.item spot =
        if spot = place ++ [utf8 name] then some (.file (utf8 (descriptionLine description)))
        else if spot = place ++ [utf8 controlName] then
          some (.file (utf8 ({ record with count := record.count + 1 } : ControlRecord).render))
        else if spot = place ++ [utf8 lockName] ∧ store.files.item spot = none then
          some (.file [])
        else store.files.item spot := by
  have solid : ∀ place target, store.files.folder cabinet.directory = .ok place →
      store.files.tree.get? (place ++ [utf8 lockName]) ≠ some (.link target) := by
    intro place target found held
    refine noLink place target found ?_
    unfold item
    rw [held]
    rfl
  have answered := answered_newSheet (placed_of_handed handed) unused solid
  dsimp only
  generalize newSheet chance name description ⟨cabinet, store⟩ = result at answered ⊢
  cases answered with
  | @refused failure after _ left =>
    refine .inl ⟨failure, after, rfl, ?_⟩
    intro spot
    rcases left with same | ⟨place, found, upTo⟩
    · exact .inl (same.item spot List.not_mem_nil)
    · rcases upTo.item spot with same | ⟨own, free, empty⟩
      · exact .inl same
      · exact .inr ⟨place, found, own, free, empty⟩
  | @granted place record sheet after _ added =>
    obtain ⟨between, created, up⟩ := added.counted
    obtain ⟨held, upTo, -, loaded, -⟩ := up.loaded
    obtain ⟨⟨lockId, locked⟩, -⟩ := added.lock_kept
    have reached : SameBut [place ++ [utf8 name], place ++ [utf8 lockName]] store.files held.files :=
      created.same.trans upTo.sameBut
    exact .inr ⟨place, record, sheet, after, rfl, up.room, created.within.folder,
      ⟨held, loaded, reached⟩, item_eq_none_iff.2 created.vacant, ⟨_, item_of_look locked⟩,
      added.item⟩
  | lost unsynced =>
    rw [synced] at unsynced
    cases unsynced

/-- Whether there is no symbolic link anywhere. -/
def linkless (files : FileSystem) : Bool :=
  files.tree.entries.all fun entry => match entry.2 with
    | .link _ => false
    | _ => true

theorem item_ne_link {files : FileSystem} (none : linkless files = true) (place : Location)
    (name target : Bytes) : files.item (place ++ [name]) ≠ some (.link target) := by
  intro shown
  obtain ⟨node, held, same⟩ := Option.map_eq_some_iff.1 shown
  have member := (Tree.mem_entries_iff (by simp) node).2 held
  have other := List.all_eq_true.1 none _ member
  cases node with
  | link _ => cases other
  | file id => cases same
  | directory => cases same

theorem no_link_of_linkless {files : FileSystem} (none : linkless files = true) (place : Location)
    (target : Bytes) : files.item place ≠ some (.link target) := by
  rcases List.eq_nil_or_concat place with rfl | ⟨front, last, rfl⟩
  · intro shown
    cases shown
  · rw [List.concat_eq_append]
    exact item_ne_link none front last target

theorem newSheet_all_or_nothing_first :
    ∃ cabinet made counted sheet after,
      create default "c" "d" "" { files := {} } = .ok cabinet made ∧
      newSheet default "s" "x" ⟨cabinet, made⟩ = .ok sheet ⟨counted, after⟩ ∧
      ∃ place, made.files.folder cabinet.directory = .ok place ∧
        after.files.item (place ++ [utf8 "s"]) = some (.file (utf8 "x\n")) := by
  have facts : Work.passes (fun cabinet made => linkless made.files &&
        decide (Chance.Unused default cabinet "s" "x" made) &&
        Work.passes (fun _ _ => true) (newSheet default "s" "x" ⟨cabinet, made⟩))
      (create default "c" "d" "" { files := {} }) = true := by decide +kernel
  obtain ⟨cabinet, made, created, facts⟩ := Work.exists_of_passes facts
  rw [Bool.and_eq_true, Bool.and_eq_true, decide_eq_true_eq] at facts
  obtain ⟨⟨unlinked, unused⟩, granted⟩ := facts
  rcases newSheet_all_or_nothing (.created created)
      (fun place target _ => item_ne_link unlinked place _ target) rfl "s" "x" unused with
    ⟨failure, after, refused, -⟩ | ⟨place, record, sheet, after, done, -, found, -, -, -, seen⟩
  · rw [refused] at granted
    cases granted
  · refine ⟨cabinet, made, _, sheet, after, created, done, place, found, ?_⟩
    rw [seen, if_pos rfl]
    decide +kernel

end Cabinet

end SheetCabinet
