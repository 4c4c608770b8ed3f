import SheetCabinet.Proofs.Cabinet.NewSheet
import SheetCabinet.Proofs.Files.Sparing

/-!
# Whoever has a file open meanwhile

A file stays what it is for whoever has it open, even when its name is taken by another. So what a
cabinet does leaves two things to those who work beside it: what every file holds that was ever
written, whether or not it still has a name; and the way to it by its path, unless that is the path of
a control file, which is replaced whenever a sheet is counted.

Results:
* what is made at a vacant place, and a control file that is replaced, are in nobody's way
  (`respects_newFile`, `respects_save`);
* making a sheet, counting it, and taking it away again respect all that was there before
  (`respects_create`, `respects_recordNext`, `respects_newSheet`), whatever comes of it and whatever
  links lead anywhere.
-/

namespace SheetCabinet

open FileSystem

/-- Whoever has a file open finds in it what was there before, every directory is where it was, and
every file is that is no control file. -/
structure Respects (files after : FileSystem) : Prop where
  written : ∀ id body, files.bodies.get? id = some body → after.bodies.get? id = some body
  folder : ∀ directory place, files.folder directory = .ok place →
    after.folder directory = .ok place
  stands : ∀ id place name contents, name ≠ utf8 controlName →
    files.Stands id (place ++ [name]) contents → after.Stands id (place ++ [name]) contents

variable {files between after : FileSystem} {place : Location}

namespace Respects

theorem refl (files : FileSystem) : Respects files files :=
  ⟨fun _ _ held => held, fun _ _ found => found, fun _ _ _ _ _ stands => stands⟩

theorem trans (first : Respects files between) (second : Respects between after) :
    Respects files after where
  written id body held := second.written id body (first.written id body held)
  folder directory place found := second.folder directory place (first.folder directory place found)
  stands id place name contents other stands :=
    second.stands id place name contents other (first.stands id place name contents other stands)

end Respects

/-! ## What files hold -/

theorem bodies_removeFile {path : Bytes} (done : files.removeFile path = .ok after) :
    after.bodies = files.bodies := by
  unfold removeFile at done
  split at done
  · cases done
  · cases done
  · split at done
    · cases done
    · cases done
      rfl

theorem bodies_rename {path newPath : Bytes} (done : files.rename path newPath = .ok after) :
    after.bodies = files.bodies := by
  unfold rename at done
  simp only [bind, Except.bind] at done
  repeat' split at done
  all_goals first
    | cases done; rfl
    | cases done

theorem ne_freshId {id : FileId} {body : Body} (held : files.bodies.get? id = some body) :
    id ≠ files.freshId := by
  rintro rfl
  rw [freshId_not_mem_bodies] at held
  cases held

theorem written_setBody {id other : FileId} {body : Body} (held : files.bodies.get? id = some body)
    (distinct : id ≠ other) (new : Body) : (files.setBody other new).bodies.get? id = some body :=
  (Table.get?_set _ _ _ _).trans ((if_neg distinct).trans held)

/-- A file that is made is none that was ever written. -/
theorem written_newFile {id : FileId} {body : Body} (held : files.bodies.get? id = some body)
    (place : Location) (name : Bytes) : (files.newFile place name).2.bodies.get? id = some body := by
  have placed : ({ files with tree := files.tree.put place name (.file files.freshId) } :
      FileSystem).bodies.get? id = some body := held
  exact written_setBody placed (ne_freshId held) _

theorem written_discard {id : FileId} {body : Body} (held : files.bodies.get? id = some body)
    (path : Bytes) (cause : FileError) (store : Store) :
    (leftBy (Work.discard path cause files store)).files.bodies.get? id = some body := by
  unfold Work.discard
  split
  · rename_i removed
    exact (congrArg (Table.get? · id) (bodies_removeFile removed)).trans held
  · exact held

theorem written_replaceFile {id : FileId} {body : Body} {draft : Draft} {directory : Path}
    {item : String} {contents : Bytes} {store : Store} (unused : draft.Unused store.files directory)
    (held : store.files.bodies.get? id = some body) :
    (leftBy (Work.replaceFile draft directory item contents store)).files.bodies.get? id =
      some body := by
  have placed : (leftBy (Work.placeDraft draft directory item contents store)).files.bodies.get? id =
      some body := by
    unfold Work.placeDraft
    dsimp only
    cases done : store.files.write (utf8 (Path.join directory draft.name)) (draft.stored contents) with
    | error cause => exact held
    | ok written =>
      have kept : written.bodies.get? id = some body := by
        obtain ⟨place, within⟩ := Work.within_of_write draft.component_name done
        rw [Work.write_vacant within (unused place within.folder)] at done
        split at done
        · cases done
        · cases done
          exact written_setBody (written_newFile held _ _) (ne_freshId held) _
      dsimp only
      split
      · exact written_discard kept _ _ _
      · split
        · exact written_discard kept _ _ _
        · rename_i renamed
          exact (congrArg (Table.get? · id) (bodies_rename renamed)).trans kept
  unfold Work.replaceFile
  rw [Work.bind_apply]
  cases done : Work.placeDraft draft directory item contents store with
  | error failure after =>
    rw [done] at placed
    exact placed
  | ok value after =>
    rw [done] at placed
    dsimp only
    rw [Work.syncDirectory_store]
    exact placed

/-! ## Single changes -/

/-- What changes nothing that can be seen or was written. -/
theorem respects_of_same (same : SameBut [] files after) (bodies : after.bodies = files.bodies) :
    Respects files after where
  written id body held := by rw [bodies, held]
  folder _ _ found := folder_of_sameBut same (by simp) found
  stands _ _ _ _ _ stands := stands.of_sameBut same List.not_mem_nil (by simp)

/-- What is made where nothing was. -/
theorem respects_of_made {spot : Location} {id : FileId} (same : SameBut [spot] files after)
    (vacant : files.tree.get? spot = none) (unnamed : files.Unnamed id)
    (held : after.tree.get? spot = some (.file id))
    (written : ∀ id body, files.bodies.get? id = some body → after.bodies.get? id = some body) :
    Respects files after where
  written := written
  folder _ _ found := folder_of_sameBut same (by simpa using idle_of_vacant vacant) found
  stands _ _ _ _ _ stands :=
    stands.aside same unnamed held (ne_of_vacant stands.held vacant)

theorem respects_newFile {name : Bytes} (inside : files.tree.get? place = some .directory)
    (vacant : files.tree.get? (place ++ [name]) = none) :
    Respects files (files.newFile place name).2 :=
  respects_of_made (sameBut_newFile inside vacant) vacant (unnamed_freshId files)
    (stands_newFile inside vacant).held fun _ _ held => written_newFile held place name

/-! ## Counting -/

theorem respects_take (directory : Path) (store : Store) :
    Respects store.files (leftBy (ControlLock.take directory store)).files := by
  rw [ControlLock.take_apply]
  cases done : store.files.openOrCreate (utf8 (Path.join directory lockName)) with
  | error cause => exact .refl _
  | ok opened =>
    obtain ⟨id, files⟩ := opened
    have opened : Respects store.files files := by
      rcases openOrCreate_eq_ok done with ⟨rfl, -⟩ | ⟨place, name, inside, vacant, made⟩
      · exact .refl _
      · cases made
        exact respects_newFile inside vacant
    dsimp only
    cases taken : files.lock? id with
    | none => exact opened
    | some locked =>
      have bodies : locked.bodies = files.bodies := by
        unfold lock? at taken
        split at taken
        · cases taken
        · cases taken
          rfl
      exact opened.trans (respects_of_same (sameBut_lock taken) bodies)

/-- A control file that can be read is in nobody's way when it is replaced. -/
theorem respects_save {draft : Draft} {directory : Path} {store : Store} {said : ControlRecord}
    (unused : draft.Unused store.files directory)
    (loaded : ControlRecord.load directory store = .ok said store) (record : ControlRecord) :
    Respects store.files (leftBy (record.save draft directory store)).files := by
  obtain ⟨-, place, text, within, read, -⟩ := ControlRecord.load_eq_ok loaded
  have written (id : FileId) (body : Body) (held : store.files.bodies.get? id = some body) :
      (leftBy (record.save draft directory store)).files.bodies.get? id = some body :=
    written_replaceFile unused held
  rcases Work.replaceFile_outcome component_controlName unused (utf8 record.render) with
    same | ⟨other, inside, -, replaced⟩
  · exact ⟨written, fun _ _ found => folder_of_sameBut same (by simp) found,
      fun _ _ _ _ _ stands => stands.of_sameBut same List.not_mem_nil (by simp)⟩
  · obtain rfl : place = other := Except.ok.inj (within.folder.symm.trans inside.folder)
    refine ⟨written, fun _ _ found => ?_, fun id spot name contents free stands => ?_⟩
    · exact folder_of_sameBut replaced.same (by simpa using idle_of_read within read) found
    · refine replaced.stands_of_ne stands fun same => free ?_
      exact List.singleton_inj.1 (List.append_inj' same rfl).2

namespace Cabinet

theorem respects_recordNext {cabinet : Cabinet} {draft : Draft} {store : Store}
    (unused : draft.UnusedUnderLock cabinet.directory store) :
    Respects store.files (leftBy (cabinet.recordNext draft store)).files := by
  have taken := respects_take cabinet.directory store
  have released (files : FileSystem) (id : FileId) : Respects files (files.unlock id) :=
    respects_of_same (sameBut_unlock files id) rfl
  unfold recordNext ControlLock.holding
  cases took : ControlLock.take cabinet.directory store with
  | error failure after =>
    rw [took] at taken
    exact taken
  | ok id held =>
    rw [took] at taken
    have back := taken.trans (released held.files id)
    dsimp only
    rw [Work.bind_apply]
    rcases ControlRecord.load_cases cabinet.directory held with
      ⟨failure, failed⟩ | ⟨said, -, loaded, -, -⟩
    · rw [failed]
      exact back
    · rw [loaded]
      dsimp only
      by_cases room : said.count.toNat + 1 < UInt32.size
      · have saved := respects_save (unused id held took) loaded { said with count := said.count + 1 }
        rw [if_pos room, Work.bind_apply]
        cases done : ControlRecord.save { said with count := said.count + 1 } draft cabinet.directory
            held with
        | ok value after =>
          rw [done] at saved
          exact (taken.trans saved).trans (released _ _)
        | error failure after =>
          rw [done] at saved
          exact (taken.trans saved).trans (released _ _)
      · rw [if_neg room]
        exact back

end Cabinet

/-! ## New sheets -/

/-- A new sheet has a file that was not there before. -/
theorem Sheet.fresh_of_create {torn : Option Nat} {name description : String} {parent : Path}
    {store made : Store} {sheet : Sheet}
    (done : create torn name description parent store = .ok sheet made) :
    sheet.handle.file = store.files.freshId := by
  rcases create_attempt torn name description parent store with
    ⟨failure, refused⟩ | ⟨place, -, -, -, -, tried⟩
  · rw [refused] at done
    cases done
  · rw [tried] at done
    split at done
    · cases done
      rfl
    · cases done

theorem Sheet.written_describe {handle : Handle} {path : Path} {header : Bytes} {store : Store}
    {id : FileId} {body : Body} (held : store.files.bodies.get? id = some body)
    (other : id ≠ handle.file) :
    (leftBy (describe handle path header store)).files.bodies.get? id = some body := by
  unfold describe Handle.write
  cases handle.trouble.torn with
  | none => exact written_setBody held other _
  | some stored => exact written_discard (written_setBody held other _) _ _ _

/-- Whether or not a sheet is made, what was written before is still there. -/
theorem Sheet.written_create {torn : Option Nat} {name description : String} {parent : Path}
    {store : Store} {id : FileId} {body : Body} (held : store.files.bodies.get? id = some body) :
    (leftBy (create torn name description parent store)).files.bodies.get? id = some body := by
  rcases create_attempt torn name description parent store with
    ⟨failure, refused⟩ | ⟨place, -, -, -, -, tried⟩
  · rw [refused]
    exact held
  · have kept : (leftBy (describe ⟨store.files.freshId, { torn := torn }⟩ (Path.join parent name)
        (utf8 (descriptionLine description))
        { store with files := (store.files.newFile place (utf8 name)).2 })).files.bodies.get? id =
          some body :=
      written_describe (written_newFile held place (utf8 name)) (ne_freshId held)
    rw [tried]
    split
    · rename_i done
      rw [done] at kept
      exact kept
    · rename_i done
      rw [done] at kept
      exact kept

theorem Sheet.respects_create (torn : Option Nat) (name description : String) (parent : Path)
    (store : Store) :
    Respects store.files (leftBy (create torn name description parent store)).files := by
  have written (id : FileId) (body : Body) (held : store.files.bodies.get? id = some body) :
      (leftBy (create torn name description parent store)).files.bodies.get? id = some body :=
    written_create held
  rcases create_cases torn name description parent store with
    ⟨failure, after, refused, same⟩ | ⟨sheet, made, place, done, -, created⟩
  · rw [refused] at written ⊢
    exact ⟨written, fun _ _ found => folder_of_sameBut same (by simp) found,
      fun _ _ _ _ _ stands => stands.of_sameBut same List.not_mem_nil (by simp)⟩
  · rw [done] at written ⊢
    exact respects_of_made created.same created.vacant created.unnamed created.stands.held written

namespace Cabinet

/-- A sheet that could not be counted is taken away, and nothing else. -/
theorem respects_withdraw {files made : FileSystem} {store : Store} {parent : Path}
    {name description : String} {sheet : Sheet} (accepted : checkSheetName name = .ok ())
    (created : Sheet.Created files made parent name description sheet place)
    (before : Respects files made) (counted : Respects made store.files) :
    Respects files (withdraw sheet (sheet.close store)).files := by
  have found := counted.folder _ _ created.withinAfter.folder
  have free : utf8 name ≠ utf8 controlName := fun same =>
    ne_of_sheetName accepted isReserved_controlName place (by rw [same])
  have stands := counted.stands _ _ _ _ free created.stands
  have whole := before.trans counted
  rw [files_withdraw_of_held created found stands.held]
  refine ⟨whole.written, fun _ _ inside => ?_, fun id spot item contents other there => ?_⟩
  · exact folder_of_sameBut (sameBut_clear stands.held)
      (by simpa using idle_of_file stands.held) (whole.folder _ _ inside)
  · exact (whole.stands id spot item contents other there).cleared
      (not_below_vacant there.held created.vacant)

/-- Whatever comes of asking for a new sheet, whoever works beside it is respected. -/
theorem respects_newSheet {cabinet : Cabinet} {chance : Chance} {name description : String}
    {store : Store} (unused : chance.Unused cabinet name description store) :
    Respects store.files
      (leftBy (newSheet chance name description ⟨cabinet, store⟩)).store.files := by
  rw [newSheet_apply]
  cases accepted : checkSheetName name with
  | error fault => exact .refl _
  | ok _ =>
    have before := Sheet.respects_create chance.torn name description cabinet.directory store
    dsimp only
    rcases Sheet.create_cases chance.torn name description cabinet.directory store with
      ⟨failure, after, refused, -⟩ | ⟨sheet, made, place, done, -, created⟩
    · rw [refused] at before ⊢
      exact before
    · have counted := respects_recordNext (unused sheet made done)
      rw [done] at before ⊢
      dsimp only
      cases counts : cabinet.recordNext chance.draft made with
      | ok value after =>
        rw [counts] at counted
        exact before.trans counted
      | error failure after =>
        rw [counts] at counted
        exact respects_withdraw accepted created before counted

end Cabinet

end SheetCabinet
