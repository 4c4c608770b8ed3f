import SheetCabinet.Sheet.Writing
import SheetCabinet.Proofs.Files.Change
import SheetCabinet.Proofs.Store.Replacement

/-!
# Making a sheet

A sheet is a new file with its description in it, or nothing is left of it.

Results:
* making a sheet is refused, or a description is written into a new file (`create_attempt`);
* what there is after a sheet was made (`create_cases`), and that its file can be read by its path
  (`Contents.load_eq_ok_iff`).
-/

namespace SheetCabinet

open FileSystem

namespace Sheet

/-- What the file systems are before and after a sheet was made at a place. -/
structure Created (files after : FileSystem) (parent : Path) (name description : String)
    (sheet : Sheet) (place : Location) : Prop
    extends Work.Drafted files after parent name place sheet.handle.file
      (utf8 (descriptionLine description)) where
  sheet_eq : sheet =
    { path := Path.join parent name
      handle := ⟨sheet.handle.file, {}⟩
      committed := (utf8 (descriptionLine description)).length }

theorem createNew_cases {files : FileSystem} {parent : Path} {name : String}
    {made : FileId × FileSystem} (component : Component name)
    (done : files.createNew (utf8 (Path.join parent name)) = .ok made) :
    ∃ place, files.Within parent name place ∧ files.tree.get? (place ++ [utf8 name]) = none ∧
      (utf8 name).length ≤ longestName ∧ made = files.newFile place (utf8 name) := by
  unfold createNew at done
  split at done
  · rename_i place last free
    obtain ⟨within, rfl⟩ := within_of_vacancy component free
    obtain ⟨-, vacant, short⟩ := vacancy_eq_ok free
    cases done
    exact ⟨place, within, vacant, short, rfl⟩
  · cases done

/-- What is written into a new file is all that there is. -/
theorem drafted_append {files : FileSystem} {parent : Path} {name : String} {place : Location}
    (within : files.Within parent name place)
    (vacant : files.tree.get? (place ++ [utf8 name]) = none)
    (short : (utf8 name).length ≤ longestName) (bytes : Bytes) :
    Work.Drafted files ((files.newFile place (utf8 name)).2.append files.freshId bytes) parent name
      place files.freshId bytes := by
  have inside := directory_of_folder within.folder
  have stands := stands_newFile inside vacant
  have written := sameBut_append stands.toOnlyAt bytes
  exact
    { within := within
      vacant := vacant
      short := short
      same := (sameBut_newFile inside vacant).again written
      unnamed := unnamed_freshId files
      stands := stands_append stands _ }

/-- Making a sheet is refused before anything is done, or comes to what writing its description into
a new file comes to. -/
theorem create_attempt (torn : Option Nat) (name description : String) (parent : Path)
    (store : Store) :
    (∃ failure, create torn name description parent store = .error failure store) ∨
    ∃ place, checkComponent name "sheet" = .ok () ∧ store.files.Within parent name place ∧
      store.files.tree.get? (place ++ [utf8 name]) = none ∧ (utf8 name).length ≤ longestName ∧
      let handle : Handle := ⟨store.files.freshId, { torn := torn }⟩
      let header := utf8 (descriptionLine description)
      create torn name description parent store =
        match describe handle (Path.join parent name) header
            { store with files := (store.files.newFile place (utf8 name)).2 } with
        | .ok () after => .ok
            { path := Path.join parent name
              handle := handle.afterWrite
              committed := header.length }
            (after.tell (.sheetCreated (Path.join parent name)))
        | .error failure after => .error failure after := by
  unfold create
  simp only [Work.bind_apply, Work.accept]
  cases checked : checkComponent name "sheet" with
  | error fault => exact .inl ⟨_, rfl⟩
  | ok _ =>
    dsimp only
    unfold Work.createFile
    cases done : store.files.createNew (utf8 (Path.join parent name)) with
    | error cause =>
      refine .inl ?_
      cases cause <;> exact ⟨_, rfl⟩
    | ok made =>
      obtain ⟨place, within, vacant, short, rfl⟩ :=
        createNew_cases (component_of_check checked) done
      refine .inr ⟨place, rfl, within, vacant, short, ?_⟩
      dsimp only
      have same : (store.files.newFile place (utf8 name)).1 = store.files.freshId := rfl
      rw [same]
      cases describe ⟨store.files.freshId, { torn := torn }⟩ (Path.join parent name)
        (utf8 (descriptionLine description))
        { store with files := (store.files.newFile place (utf8 name)).2 } <;> rfl

/-- A sheet that is not made leaves everything as it was. -/
theorem create_cases (torn : Option Nat) (name description : String) (parent : Path) (store : Store) :
    (∃ failure after, create torn name description parent store = .error failure after ∧
      SameBut [] store.files after.files) ∨
    ∃ sheet after place, create torn name description parent store = .ok sheet after ∧
      checkComponent name "sheet" = .ok () ∧
      Created store.files after.files parent name description sheet place := by
  rcases create_attempt torn name description parent store with
    ⟨failure, refused⟩ | ⟨place, checked, within, vacant, short, tried⟩
  · exact .inl ⟨failure, store, refused, .refl _⟩
  · have drafted := drafted_append within vacant short
    rw [tried]
    unfold describe Handle.write
    cases torn with
    | none => exact .inr ⟨_, _, place, rfl, checked, drafted _, rfl⟩
    | some stored =>
      have torn := drafted ((utf8 (descriptionLine description)).take stored)
      refine .inl ⟨.io .diskFull, { store with files := _ }, ?_, torn.cleared.2⟩
      dsimp only
      rw [torn.discarded]
      rfl

/-- Whoever holds a new sheet knows what was made. -/
theorem created_of_create {torn : Option Nat} {name description : String} {parent : Path}
    {store made : Store} {sheet : Sheet}
    (done : create torn name description parent store = .ok sheet made) :
    ∃ place, Created store.files made.files parent name description sheet place := by
  rcases create_cases torn name description parent store with
    ⟨failure, after, refused, -⟩ | ⟨other, after, place, created, -, whole⟩
  · rw [refused] at done
    cases done
  · rw [created] at done
    cases done
    exact ⟨place, whole⟩

/-- A sheet whose making succeeds, as running it shows, is handed out. -/
theorem exists_created (torn : Option Nat) (name description : String) (parent : Path) (store : Store)
    (passed : Work.passes (fun _ _ => true) (create torn name description parent store) = true) :
    ∃ sheet made place, create torn name description parent store = .ok sheet made ∧
      Created store.files made.files parent name description sheet place := by
  obtain ⟨sheet, made, done, -⟩ := Work.exists_of_passes passed
  obtain ⟨place, created⟩ := created_of_create done
  exact ⟨sheet, made, place, done, created⟩

namespace Created

variable {files after : FileSystem} {parent : Path} {name description : String} {sheet : Sheet}
  {place : Location}

theorem path_eq (created : Created files after parent name description sheet place) :
    sheet.path = Path.join parent name := by
  rw [created.sheet_eq]

/-- The directory of a new sheet is where it was. -/
theorem withinAfter (created : Created files after parent name description sheet place) :
    after.Within parent name place where
  component := created.within.component
  askable := created.within.askable
  folder := folder_of_sameBut created.same (by simpa using idle_of_vacant created.vacant)
    created.within.folder

end Created

end Sheet

/-! ## Reading by path -/

/-- A sheet is read by its path as long as its file is where it was made. -/
theorem Contents.load_eq_ok_iff {store after : Store} {parent : Path} {name : String}
    {place : Location} {id : FileId} {bytes : Bytes} {contents : Contents}
    (within : store.files.Within parent name place) (short : (utf8 name).length ≤ longestName)
    (stands : store.files.Stands id (place ++ [utf8 name]) bytes) :
    Contents.load (Path.join parent name) store = .ok contents after ↔
      after = store ∧ ∃ text, bytes = utf8 text ∧ Contents.parse text = .ok contents := by
  have read := read_within within short stands.held
  rw [stands.holds] at read
  unfold Contents.load
  rw [Work.bind_apply, Work.readText_of_read read]
  cases texts : bytes.text? with
  | none =>
    constructor
    · intro loaded
      cases loaded
    · rintro ⟨-, text, rfl, -⟩
      rw [Bytes.text?_utf8] at texts
      cases texts
  | some text =>
    obtain rfl := Bytes.text?_eq_some_iff.1 texts
    dsimp only
    constructor
    · intro loaded
      cases parsed : Contents.parse text with
      | error fault =>
        rw [parsed] at loaded
        cases loaded
      | ok found =>
        rw [parsed] at loaded
        cases loaded
        exact ⟨rfl, text, rfl, parsed⟩
    · rintro ⟨rfl, other, same, parsed⟩
      rw [utf8_inj.1 same, parsed]
      rfl

end SheetCabinet
