import SheetCabinet.Proofs.Cabinet.Sparing

/-!
# Opening a cabinet after it was counted up

Whoever opens a cabinet, or reads its control file again, looks whether the control file names the
cabinet. Whoever counts a sheet does not: the record that was read is counted up and written again,
whatever name it has, and a carriage return at the end of the name or the description gets lost
because it now ends a line. So what whoever asked for the sheet knows is not always what others find.

Results:
* what was read, and what stands there after a new sheet was counted (`recounted_of_newSheet`);
* what whoever opens a cabinet finds in the record that stands there (`openIn_iff_of_stands`);
* a cabinet that got a new sheet is opened as whoever asked knows it exactly if the record that was
  read names the cabinet and no carriage return gets lost (`reopened_iff`).
-/

namespace SheetCabinet

open FileSystem

namespace Cabinet

/-! ## Names that were checked -/

theorem named_of_openIn {name : String} {parent : Path} {store after : Store} {cabinet : Cabinet}
    (done : openIn name parent store = .ok cabinet after) : checkCabinetName name = .ok () :=
  (Work.accept_bind_eq_ok.1 done).1

theorem named_of_handed {cabinet : Cabinet} (handed : Handed cabinet) :
    checkCabinetName cabinet.name = .ok () := by
  induction handed with
  | created done =>
    obtain ⟨place, made⟩ := made_of_create done
    rw [made.cabinet_eq]
    exact made.named
  | opened done =>
    have named := named_of_openIn done
    obtain ⟨-, record, -, -, rfl⟩ := openIn_eq_ok done
    exact named
  | @newSheet cabinet chance item description store _ ih =>
    rcases cabinet_of_newSheet cabinet chance item description store with same | ⟨record, learned⟩
    · rw [same]
      exact ih
    · rw [learned]
      exact ih
  | @reread cabinet store _ ih =>
    rcases reread_cases cabinet store with ⟨failure, failed⟩ | ⟨record, done, -, -⟩
    · rw [failed]
      exact ih
    · rw [done]
      exact ih

/-! ## What is counted, and what stands there -/

variable {cabinet : Cabinet} {chance : Chance} {name description : String} {store : Store}
  {office : Office} {sheet : Sheet} {place : Location}

/-- A sheet was counted: the record was read when the new sheet was there, and perhaps an empty lock
file, and stands in the directory with a count that is one higher. -/
structure Recounted (cabinet : Cabinet) (files : FileSystem) (held : Store) (after : FileSystem)
    (place : Location) (name : String) (record : ControlRecord) : Prop where
  between : ∃ spot, SameBut [place ++ [utf8 name], spot] files held.files
  loaded : ControlRecord.load cabinet.directory held = .ok record held
  within : after.Within cabinet.directory controlName place
  stands : ∃ id, after.Stands id (place ++ [utf8 controlName])
    (utf8 ({ record with count := record.count + 1 } : ControlRecord).render)

theorem recounted_of_newSheet (placed : cabinet.Placed)
    (unused : chance.Unused cabinet name description store)
    (done : newSheet chance name description ⟨cabinet, store⟩ = .ok sheet office) :
    ∃ place record held, Recounted cabinet store.files held office.store.files place name record ∧
      office.cabinet =
        { cabinet with description := record.description, count := record.count + 1 } := by
  obtain ⟨-, made, counted, up, created, counts, learned, same⟩ := newSheet_eq_ok done
  obtain ⟨place, whole⟩ := Sheet.created_of_create created
  obtain ⟨spot, record, held, upTo, loaded, rfl, replaced⟩ := counted_of_recordNext
    placed.directory_ne_empty (unused sheet made created) whole.withinAfter.folder counts
  rw [← same] at replaced
  obtain ⟨-, other, _, within, read, -⟩ := ControlRecord.load_eq_ok loaded
  obtain rfl : place = other :=
    Except.ok.inj ((upTo.folder whole.withinAfter.folder).symm.trans within.folder)
  have kept := folder_of_sameBut replaced.same (by simpa using idle_of_read within read)
    within.folder
  obtain ⟨id, -, stands⟩ := replaced.stands
  exact ⟨place, record, held, ⟨⟨spot, whole.same.trans upTo.sameBut⟩, loaded,
    ⟨within.component, within.askable, kept⟩, ⟨id, stands⟩⟩, learned⟩

/-! ## What whoever opens the cabinet finds -/

/-- Whoever opens a cabinet takes over what its control file says, if that names the cabinet. -/
theorem openIn_iff_of_read {parent : Path} {text : String}
    (named : checkCabinetName name = .ok ())
    (within : store.files.Within (Path.join parent name) controlName place)
    (read : store.files.read (utf8 (Path.join (Path.join parent name) controlName)) =
      .ok (utf8 text)) :
    (∃ later, openIn name parent store = .ok cabinet later) ↔
      ∃ record, ControlRecord.parse text = .ok record ∧ record.name = name ∧
        cabinet = ⟨name, record.description, parent, Path.join parent name, record.count⟩ := by
  constructor
  · rintro ⟨later, opened⟩
    obtain ⟨-, record, loaded, same, rfl⟩ := openIn_eq_ok opened
    obtain ⟨-, _, other, -, bytes, parsed⟩ := ControlRecord.load_eq_ok loaded
    obtain rfl : text = other := utf8_inj.1 (Except.ok.inj (read.symm.trans bytes))
    exact ⟨record, parsed, same, rfl⟩
  · rintro ⟨record, parsed, same, rfl⟩
    obtain ⟨later, opened, -⟩ := openIn_of_parsed named within read parsed same
    exact ⟨later, opened⟩

/-- What whoever opens a cabinet finds when a record was written there is what is left of it. -/
theorem openIn_iff_of_stands {parent : Path} {record : ControlRecord} {id : FileId}
    (named : checkCabinetName name = .ok ())
    (within : store.files.Within (Path.join parent name) controlName place)
    (stands : store.files.Stands id (place ++ [utf8 controlName]) (utf8 record.render))
    (unbroken : '\n' ∉ record.name.toList ∧ '\n' ∉ record.description.toList) :
    (∃ later, openIn name parent store = .ok cabinet later) ↔
      withoutReturn record.name = name ∧ cabinet =
        ⟨name, withoutReturn record.description, parent, Path.join parent name, record.count⟩ := by
  have short : (utf8 controlName).length ≤ longestName := by decide +kernel
  have read := read_within within short stands.held
  rw [stands.holds] at read
  have parsed (again : ControlRecord) :=
    @ControlRecord.parse_render_eq_ok_iff record again unbroken.1 unbroken.2
  rw [openIn_iff_of_read named within read]
  constructor
  · rintro ⟨found, again, same, rfl⟩
    obtain ⟨-, rfl⟩ := (parsed found).1 again
    exact ⟨same, rfl⟩
  · rintro ⟨same, rfl⟩
    have present : withoutReturn record.name ≠ "" := by
      rw [same]
      exact (checkComponent_eq_ok_iff.1 named).1
    exact ⟨_, (parsed _).2 ⟨present, rfl⟩, same, rfl⟩

/-- Whoever reads the control file again takes it over if it names the cabinet. -/
theorem reread_iff_of_load {record : ControlRecord}
    (loaded : ControlRecord.load cabinet.directory store = .ok record store) :
    (∃ later, reread ⟨cabinet, store⟩ = .ok () later) ↔ record.name = cabinet.name := by
  rcases reread_cases cabinet store with ⟨failure, failed⟩ | ⟨other, done, again, same⟩
  · rw [reread_apply, loaded] at failed ⊢
    dsimp only at failed ⊢
    by_cases same : record.name = cabinet.name
    · rw [if_pos same] at failed
      cases failed
    · simp [same]
  · rw [loaded] at again
    cases again
    exact iff_of_true ⟨_, done⟩ same

/-- Whoever opens a cabinet whose control file can be read takes it over if it names the cabinet. -/
theorem openIn_iff_of_load {parent : Path} {record : ControlRecord}
    (named : checkCabinetName name = .ok ())
    (loaded : ControlRecord.load (Path.join parent name) store = .ok record store) :
    (∃ opened later, openIn name parent store = .ok opened later) ↔ record.name = name := by
  obtain ⟨-, place, text, within, read, parsed⟩ := ControlRecord.load_eq_ok loaded
  constructor
  · rintro ⟨opened, opens⟩
    obtain ⟨other, again, same, -⟩ := (openIn_iff_of_read named within read).1 opens
    rw [parsed] at again
    cases again
    exact same
  · intro same
    exact ⟨_, (openIn_iff_of_read named within read).2 ⟨record, parsed, same, rfl⟩⟩

/-! ## After a new sheet -/

/-- What whoever opens a cabinet finds after it got a new sheet: what whoever asked for the sheet
knows now, up to a carriage return at the end of the description, if the name in the record that was
counted up is that of the cabinet, up to a carriage return at its end. Whether the control file that
was counted up could have been opened or read again just before depends on the name alone. -/
theorem reopened_iff (handed : Handed cabinet)
    (unused : chance.Unused cabinet name description store)
    (done : newSheet chance name description ⟨cabinet, store⟩ = .ok sheet office) :
    ∃ place spot record held, SameBut [place ++ [utf8 name], spot] store.files held.files ∧
      ControlRecord.load cabinet.directory held = .ok record held ∧
      office.cabinet =
        { cabinet with description := record.description, count := record.count + 1 } ∧
      ((∃ later, reread ⟨cabinet, held⟩ = .ok () later) ↔ record.name = cabinet.name) ∧
      ((∃ opened later, openIn cabinet.name cabinet.parent held = .ok opened later) ↔
        record.name = cabinet.name) ∧
      (∀ opened, (∃ later, openIn cabinet.name cabinet.parent office.store = .ok opened later) ↔
        withoutReturn record.name = cabinet.name ∧
          opened = { office.cabinet with
            description := withoutReturn office.cabinet.description }) := by
  have placed := placed_of_handed handed
  have named := named_of_handed handed
  obtain ⟨place, record, held, recounted, learned⟩ := recounted_of_newSheet placed unused done
  obtain ⟨spot, between⟩ := recounted.between
  obtain ⟨-, _, _, -, -, parsed⟩ := ControlRecord.load_eq_ok recounted.loaded
  obtain ⟨-, unbroken⟩ := ControlRecord.unbroken_of_parse parsed
  refine ⟨place, spot, record, held, between, recounted.loaded, learned,
    reread_iff_of_load recounted.loaded, ?_, ?_⟩
  · have loaded := recounted.loaded
    rw [placed.path] at loaded
    exact openIn_iff_of_load named loaded
  · intro opened
    obtain ⟨id, stands⟩ := recounted.stands
    have within := recounted.within
    rw [placed.path] at within
    have found := @openIn_iff_of_stands opened cabinet.name office.store place cabinet.parent _ id
      named within stands unbroken
    rw [found, learned]
    dsimp only
    rw [← placed.path]

theorem reopened_iff_own :
    ∃ cabinet made sheet office later,
      create default "c" "d" "." { files := {} } = .ok cabinet made ∧
      newSheet default "s" "" ⟨cabinet, made⟩ = .ok sheet office ∧
      openIn cabinet.name cabinet.parent office.store = .ok office.cabinet later := by
  have facts : Work.passes (fun cabinet made =>
        Chance.Unused default cabinet "s" "" made && Work.passes (fun _ office =>
          office.cabinet.description = "d" &&
            Work.passes (fun _ _ => true) (openIn cabinet.name cabinet.parent office.store))
        (newSheet default "s" "" ⟨cabinet, made⟩))
      (create default "c" "d" "." { files := {} }) = true := by decide +kernel
  obtain ⟨cabinet, made, created, facts⟩ := Work.exists_of_passes facts
  rw [Bool.and_eq_true, decide_eq_true_eq] at facts
  obtain ⟨sheet, office, done, known⟩ := Work.exists_of_passes facts.2
  rw [Bool.and_eq_true, decide_eq_true_eq] at known
  obtain ⟨reopened, later, opened, -⟩ := Work.exists_of_passes known.2
  refine ⟨cabinet, made, sheet, office, later, created, done, ?_⟩
  obtain ⟨_, _, _, _, -, -, -, -, -, found⟩ := reopened_iff (.created created) facts.1 done
  obtain ⟨-, same⟩ := (found reopened).1 ⟨later, opened⟩
  have kept : withoutReturn office.cabinet.description = office.cabinet.description := by
    rw [known.1]
    decide +kernel
  rw [kept] at same
  rw [opened, same]

/-- A record with another name is counted up, and the cabinet is not opened afterwards. -/
theorem counted_under_other_name :
    ∃ cabinet made rewritten sheet office later,
      create default "c" "" "." { files := {} } = .ok cabinet made ∧
      Work.change (fun files =>
        files.write (utf8 "./c/.lccontrol") (utf8 "other\nd\n0\n")) made = .ok () rewritten ∧
      newSheet default "s" "" ⟨cabinet, rewritten⟩ = .ok sheet office ∧
      openIn cabinet.name cabinet.parent office.store =
        .error (.strategy (.otherCabinet "./c" "other")) later := by
  have facts : Work.passes (fun cabinet made => Work.passes (fun _ rewritten =>
          Work.passes (fun _ office =>
            Work.fails (.strategy (.otherCabinet "./c" "other"))
              (openIn cabinet.name cabinet.parent office.store))
            (newSheet default "s" "" ⟨cabinet, rewritten⟩))
        (Work.change (fun files =>
          files.write (utf8 "./c/.lccontrol") (utf8 "other\nd\n0\n")) made))
      (create default "c" "" "." { files := {} }) = true := by decide +kernel
  obtain ⟨cabinet, made, created, facts⟩ := Work.exists_of_passes facts
  obtain ⟨⟨⟩, rewritten, changed, facts⟩ := Work.exists_of_passes facts
  obtain ⟨sheet, office, done, facts⟩ := Work.exists_of_passes facts
  obtain ⟨later, refused⟩ := Work.exists_of_fails facts
  exact ⟨cabinet, made, rewritten, sheet, office, later, created, changed, done, refused⟩

end Cabinet

end SheetCabinet
