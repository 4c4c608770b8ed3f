import SheetCabinet.Proofs.Cabinet.Opening

/-!
# What comes of opening a cabinet

Whoever opens a cabinet looks for five things one after the other: a name that is accepted, a directory
by that name, a control file in it, a record in the file, and the name of the cabinet in the record. The
first that is missing decides how opening fails, and if none is missing it cannot fail any more: the
directory is listed as well, but a directory can be listed.

Results:
* what comes of reading a control file (`loading_load`), and of opening a cabinet (`verdict_openIn`);
* exactly when a cabinet is opened and as what, and exactly when it is reported as missing; either way
  nothing changes (`openIn_decides`).
-/

namespace SheetCabinet

open FileSystem

namespace FileSystem

variable {files : FileSystem} {path : Bytes}

theorem isDirectory_iff : files.isDirectory path = true ↔ files.status path = .ok .directory := by
  unfold isDirectory
  split
  · rename_i inside
    exact iff_of_true rfl inside
  · rename_i other
    exact iff_of_false Bool.false_ne_true other

/-- Reading fails for want of a file exactly where there is nothing. -/
theorem read_eq_notFound_iff :
    files.read path = .error .notFound ↔ files.status path = .error .notFound := by
  unfold read
  cases files.status path with
  | error cause => simp
  | ok node => cases node <;> simp

theorem present_of_read {answer : Except FileError Bytes} (read : files.read path = answer)
    (found : answer ≠ .error .notFound) : files.status path ≠ .error .notFound := by
  rw [ne_eq, ← read_eq_notFound_iff, read]
  exact found

end FileSystem

/-- A directory can be listed. -/
theorem Work.listItems_of_status {path : Path} {store : Store}
    (inside : store.files.status (utf8 path) = .ok .directory) :
    ∃ names, listItems path store = .ok names store := by
  unfold FileSystem.status at inside
  split at inside
  · rename_i place found
    cases held : store.files.tree.get? place with
    | none =>
      rw [held] at inside
      cases inside
    | some node =>
      rw [held] at inside
      cases inside
      exact ⟨_, listItems_of_locate found held⟩
  · cases inside

/-! ## The control file -/

/-- What comes of reading the control file at a path. -/
inductive ControlRecord.Loading (files : FileSystem) (path : Path) :
    Except Failure ControlRecord → Prop
  | missing (missing : files.status (utf8 path) = .error .notFound) :
      Loading files path (.error (.doesNotExist path))
  | unreadable {cause : FileError} (there : files.status (utf8 path) ≠ .error .notFound)
      (unread : ∀ text, files.read (utf8 path) ≠ .ok (utf8 text)) :
      Loading files path (.error (.io cause))
  | unparsed {text : String} {fault : ControlFault} (read : files.read (utf8 path) = .ok (utf8 text))
      (unparsed : ControlRecord.parse text = .error fault) :
      Loading files path (.error (.strategy (.control fault)))
  | parsed {text : String} {record : ControlRecord} (read : files.read (utf8 path) = .ok (utf8 text))
      (parsed : ControlRecord.parse text = .ok record) : Loading files path (.ok record)

namespace ControlRecord

theorem loading_load (directory : Path) (store : Store) :
    Loading store.files (Path.join directory controlName) (saidBy (load directory store)) := by
  unfold load
  rw [Work.bind_apply]
  cases read : store.files.read (utf8 (Path.join directory controlName)) with
  | ok bytes =>
    rw [Work.readText_of_read read]
    cases said : bytes.text? with
    | none =>
      refine .unreadable (present_of_read read nofun) ?_
      intro text same
      rw [Except.ok.inj (read.symm.trans same), Bytes.text?_utf8] at said
      cases said
    | some text =>
      rw [Bytes.text?_eq_some_iff.1 said] at read
      cases parsed : parse text with
      | error fault =>
        simp only [parsed]
        exact .unparsed read parsed
      | ok record =>
        simp only [parsed]
        exact .parsed read parsed
  | error cause =>
    unfold Work.readText FileSystem.readText
    rw [read]
    cases cause with
    | notFound => exact .missing (read_eq_notFound_iff.1 read)
    | _ =>
      refine .unreadable (present_of_read read nofun) ?_
      intro text
      rw [read]
      exact nofun

/-- A record is read exactly if the file holds a text that says it. -/
theorem Loading.eq_ok_iff {files : FileSystem} {path : Path} {answer : Except Failure ControlRecord}
    (loading : Loading files path answer) (record : ControlRecord) :
    answer = .ok record ↔
      ∃ text, files.read (utf8 path) = .ok (utf8 text) ∧ parse text = .ok record := by
  cases loading with
  | missing missing =>
    rw [← read_eq_notFound_iff] at missing
    simp [missing]
  | unreadable there unread => simp [unread]
  | unparsed read unparsed =>
    constructor
    · exact nofun
    · rintro ⟨other, again, parsed⟩
      rw [← utf8_inj.1 (Except.ok.inj (read.symm.trans again)), unparsed] at parsed
      cases parsed
  | @parsed text found read parsed =>
    constructor
    · rintro same
      cases same
      exact ⟨text, read, parsed⟩
    · rintro ⟨other, again, also⟩
      rw [← utf8_inj.1 (Except.ok.inj (read.symm.trans again)), parsed] at also
      rw [Except.ok.inj also]

/-- It is reported as missing exactly if nothing is there, and everything else as trouble. -/
theorem Loading.kind_of_error {files : FileSystem} {path : Path} {failure : Failure}
    (loading : Loading files path (.error failure)) :
    (failure.kind = .doesNotExist ∧ files.status (utf8 path) = .error .notFound) ∨
      (failure.kind = .strategy ∧ files.status (utf8 path) ≠ .error .notFound) := by
  cases loading with
  | missing missing => exact .inl ⟨rfl, missing⟩
  | unreadable there unread => exact .inr ⟨rfl, there⟩
  | unparsed read unparsed => exact .inr ⟨rfl, present_of_read read nofun⟩

/-- Where a record was read there is something. -/
theorem Loading.there {files : FileSystem} {path : Path} {record : ControlRecord}
    (loading : Loading files path (.ok record)) : files.status (utf8 path) ≠ .error .notFound := by
  obtain ⟨text, read, -⟩ := (loading.eq_ok_iff record).1 rfl
  exact present_of_read read nofun

end ControlRecord

namespace Cabinet

/-! ## The cabinet -/

/-- What comes of opening a cabinet, by the first of the things that are looked for and missing. -/
inductive Verdict (files : FileSystem) (name : String) (parent : Path) :
    Except Failure Cabinet → Prop
  | refused {fault : NameFault} (refusal : checkCabinetName name = .error fault) :
      Verdict files name parent (.error (.strategy (.name fault)))
  | elsewhere (named : checkCabinetName name = .ok ())
      (away : files.status (utf8 (Path.join parent name)) ≠ .ok .directory) :
      Verdict files name parent (.error (.doesNotExist (Path.join parent name)))
  | unrecorded {failure : Failure} (named : checkCabinetName name = .ok ())
      (inside : files.status (utf8 (Path.join parent name)) = .ok .directory)
      (loading : ControlRecord.Loading files (Path.join (Path.join parent name) controlName)
        (.error failure)) :
      Verdict files name parent (.error failure)
  | foreign {record : ControlRecord} (named : checkCabinetName name = .ok ())
      (inside : files.status (utf8 (Path.join parent name)) = .ok .directory)
      (loading : ControlRecord.Loading files (Path.join (Path.join parent name) controlName)
        (.ok record)) (other : record.name ≠ name) :
      Verdict files name parent
        (.error (.strategy (.otherCabinet (Path.join parent name) record.name)))
  | opened {record : ControlRecord} (named : checkCabinetName name = .ok ())
      (inside : files.status (utf8 (Path.join parent name)) = .ok .directory)
      (loading : ControlRecord.Loading files (Path.join (Path.join parent name) controlName)
        (.ok record)) (same : record.name = name) :
      Verdict files name parent
        (.ok ⟨name, record.description, parent, Path.join parent name, record.count⟩)

namespace Verdict

variable {files : FileSystem} {name : String} {parent : Path} {answer : Except Failure Cabinet}

theorem eq_ok_iff (verdict : Verdict files name parent answer) (cabinet : Cabinet) :
    answer = .ok cabinet ↔
      checkCabinetName name = .ok () ∧ files.status (utf8 (Path.join parent name)) = .ok .directory ∧
        ∃ text record,
          files.read (utf8 (Path.join (Path.join parent name) controlName)) = .ok (utf8 text) ∧
          ControlRecord.parse text = .ok record ∧ record.name = name ∧
          cabinet = ⟨name, record.description, parent, Path.join parent name, record.count⟩ := by
  cases verdict with
  | refused refusal => simp [refusal]
  | elsewhere named away => simp [away]
  | unrecorded named inside loading =>
    constructor
    · exact nofun
    · rintro ⟨-, -, text, record, read, parsed, -⟩
      cases (loading.eq_ok_iff record).2 ⟨text, read, parsed⟩
  | foreign named inside loading other =>
    constructor
    · exact nofun
    · rintro ⟨-, -, text, record, read, parsed, same, -⟩
      cases (loading.eq_ok_iff record).2 ⟨text, read, parsed⟩
      exact absurd same other
  | @opened record named inside loading same =>
    constructor
    · rintro whole
      cases whole
      obtain ⟨text, read, parsed⟩ := (loading.eq_ok_iff record).1 rfl
      exact ⟨named, inside, text, record, read, parsed, same, rfl⟩
    · rintro ⟨-, -, text, other, read, parsed, -, rfl⟩
      cases (loading.eq_ok_iff other).2 ⟨text, read, parsed⟩
      rfl

theorem missing_iff (verdict : Verdict files name parent answer) :
    (∃ failure, answer = .error failure ∧ failure.kind = .doesNotExist) ↔
      checkCabinetName name = .ok () ∧
        (files.status (utf8 (Path.join parent name)) ≠ .ok .directory ∨
          files.status (utf8 (Path.join (Path.join parent name) controlName)) =
            .error .notFound) := by
  cases verdict with
  | refused refusal => simp [refusal, Failure.kind]
  | elsewhere named away => exact iff_of_true ⟨_, rfl, rfl⟩ ⟨named, .inl away⟩
  | @unrecorded failure named inside loading =>
    rcases loading.kind_of_error with ⟨missing, lost⟩ | ⟨trouble, there⟩
    · exact iff_of_true ⟨_, rfl, missing⟩ ⟨named, .inr lost⟩
    · simp [trouble, named, inside, there]
  | foreign named inside loading other => simp [named, inside, loading.there, Failure.kind]
  | opened named inside loading same => simp [named, inside, loading.there]

theorem kind_of_error {failure : Failure} (verdict : Verdict files name parent (.error failure)) :
    failure.kind = .doesNotExist ∨ failure.kind = .strategy := by
  cases verdict with
  | refused refusal => exact .inr rfl
  | elsewhere named away => exact .inl rfl
  | unrecorded named inside loading => exact loading.kind_of_error.imp And.left And.left
  | foreign named inside loading other => exact .inr rfl

end Verdict

theorem verdict_openIn (name : String) (parent : Path) (store : Store) :
    Verdict store.files name parent (saidBy (openIn name parent store)) := by
  unfold openIn
  rw [Work.bind_apply]
  cases named : checkCabinetName name with
  | error fault => exact .refused named
  | ok _ =>
    unfold Work.accept
    dsimp only
    rw [Work.bind_apply]
    unfold requireDirectory
    by_cases inside : store.files.status (utf8 (Path.join parent name)) = .ok .directory
    · rw [if_pos (isDirectory_iff.2 inside)]
      dsimp only
      rw [Work.bind_apply]
      unfold run
      rw [reread_apply]
      have loading := ControlRecord.loading_load (Path.join parent name) store
      have kept := quiet_load (Path.join parent name) store
      dsimp only
      cases done : ControlRecord.load (Path.join parent name) store with
      | error failure after =>
        rw [done] at loading
        exact .unrecorded named inside loading
      | ok record after =>
        rw [done] at loading kept
        dsimp only
        by_cases same : record.name = name
        · rw [if_pos same]
          have still : after.files.status (utf8 (Path.join parent name)) = .ok .directory := by
            rw [← inside, ← kept]
            rfl
          obtain ⟨names, listed⟩ := Work.listItems_of_status still
          have seen : sheetNames (learn ⟨name, "", parent, Path.join parent name, 0⟩ record) after =
              .ok names after := listed
          dsimp only
          rw [Work.bind_apply, seen]
          dsimp only
          unfold tellUncounted
          split <;> exact .opened named inside loading same
        · rw [if_neg same]
          exact .foreign named inside loading same
    · rw [if_neg fun led => inside (isDirectory_iff.1 led)]
      exact .elsewhere named inside

/-- A cabinet is opened exactly if its name is accepted, there is a directory by that name, and the
control file in it is a text that says a record with that name; the rest is what the record says. It is
reported as missing exactly if the name is accepted and there is no such directory, or nothing where the
control file should be; every other failure is trouble. Whatever comes of it, nothing has changed. -/
theorem openIn_decides (name : String) (parent : Path) (store : Store) :
    let directory := Path.join parent name
    let control := utf8 (Path.join directory controlName)
    let answer := saidBy (openIn name parent store)
    (∀ cabinet, answer = .ok cabinet ↔
      checkCabinetName name = .ok () ∧ store.files.status (utf8 directory) = .ok .directory ∧
        ∃ text record, store.files.read control = .ok (utf8 text) ∧
          ControlRecord.parse text = .ok record ∧ record.name = name ∧
          cabinet = ⟨name, record.description, parent, directory, record.count⟩) ∧
    ((∃ failure, answer = .error failure ∧ failure.kind = .doesNotExist) ↔
      checkCabinetName name = .ok () ∧
        (store.files.status (utf8 directory) ≠ .ok .directory ∨
          store.files.status control = .error .notFound)) ∧
    (∀ failure, answer = .error failure →
      failure.kind = .doesNotExist ∨ failure.kind = .strategy) ∧
    (leftBy (openIn name parent store)).files = store.files := by
  intro directory control answer
  have verdict : Verdict store.files name parent answer := verdict_openIn name parent store
  exact ⟨verdict.eq_ok_iff, verdict.missing_iff, fun failure failed => (failed ▸ verdict).kind_of_error,
    quiet_openIn name parent store⟩

end Cabinet

end SheetCabinet
