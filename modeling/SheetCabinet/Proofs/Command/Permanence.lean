import SheetCabinet.Proofs.Cabinet.Sparing
import SheetCabinet.Proofs.Settings.RoundTrip
import SheetCabinet.Proofs.Sheet.Account

/-!
# Sheets are permanent

What was written to a sheet by a command can be read by a command from then on. Nobody writes to the
file of a sheet again: a new sheet needs a free name, a new cabinet too, and whoever counts a sheet
replaces the control file by one that still names the cabinet. Only three things could take the sheet
away: removing its cabinet, removing a directory that the path of the root leads through, and keeping
the settings in the file of the sheet itself.

Results:
* a sheet that stands is read as it was written (`read_of_standing`);
* it stands after every command that is none of these three (`maintains_run`), and so after any number
  of them (`sheet_permanent`).
-/

namespace SheetCabinet

open FileSystem

/-! ## Where a sheet is -/

/-- The names by which a sheet is asked for, and the working directory. -/
structure Site where
  home : Location
  places : Places
  cabinet : String
  sheet : String

namespace Site

variable (site : Site)

def outer : Location := endOf site.home (utf8 site.places.root)

def inner : Location := site.outer ++ [utf8 site.cabinet]

def control : Location := site.inner ++ [utf8 controlName]

def place : Location := site.inner ++ [utf8 site.sheet]

def directory : Path := Path.join site.places.root site.cabinet

/-- The names are accepted, and the paths can be asked for. -/
structure Named : Prop where
  cabinet : checkCabinetName site.cabinet = .ok ()
  sheet : checkSheetName site.sheet = .ok ()
  cabinetShort : (utf8 site.cabinet).length ≤ longestName
  sheetShort : (utf8 site.sheet).length ≤ longestName
  control : checkPath (utf8 (Path.join site.directory controlName)) = .ok ()
  path : checkPath (utf8 (Path.join site.directory site.sheet)) = .ok ()

end Site

/-- The sheet is there and holds these bytes, and nothing is in the way to it: the root is where its
path says, there are no symbolic links, and the control file names the cabinet. -/
structure Standing (site : Site) (contents : Bytes) (files : FileSystem) : Prop where
  named : site.Named
  home : files.home = site.home
  linkless : Linkless files.tree.get?
  folder : files.folder site.places.root = .ok site.outer
  control : ∃ id text record, files.Stands id site.control (utf8 text) ∧
    ControlRecord.parse text = .ok record ∧ record.name = site.cabinet
  sheet : ∃ id, files.Stands id site.place contents

/-- Two names in directories are two places. -/
theorem append_ne_append {first second : String} (distinct : first ≠ second)
    (place other : Location) : place ++ [utf8 first] ≠ other ++ [utf8 second] := by
  intro same
  exact distinct (utf8_inj.1 (List.singleton_inj.1 (List.append_inj' same rfl).2))

/-- What a new sheet is counted with is no sheet's file. -/
theorem Site.Named.not_counter {site : Site} (named : site.Named) (place : Location) :
    ¬Cabinet.Counter place site.place := by
  have free := (checkSheetName_eq_ok_iff.1 named.sheet).2
  have other {own : String} (reserved : isReserved own = true) : site.sheet ≠ own := by
    rintro same
    rw [same, reserved] at free
    cases free
  rintro (lock | control)
  · exact append_ne_append (other Cabinet.isReserved_lockName) _ _ lock
  · exact append_ne_append (other Cabinet.isReserved_controlName) _ _ control

namespace Standing

variable {site : Site} {contents : Bytes} {files after : FileSystem} {touched : Location → Prop}

theorem within (standing : Standing site contents files) {item : String}
    (component : Component item)
    (askable : checkPath (utf8 (Path.join site.directory item)) = .ok ()) :
    files.Within site.directory item site.inner := by
  obtain ⟨id, stands⟩ := standing.sheet
  have held : files.tree.get? (site.inner ++ [utf8 site.sheet]) = some (.file id) := stands.held
  have inside : files.tree.get? site.inner = some .directory :=
    Tree.directory_of_child (by rw [held]; rfl)
  exact ⟨component, askable, folder_join (component_of_check standing.named.cabinet)
    standing.folder standing.named.cabinetShort inside⟩

/-- A sheet stands as long as neither its file nor the control file is touched. -/
theorem spared (standing : Standing site contents files) (spares : Spares touched files after)
    (control : ¬touched site.control) (sheet : ¬touched site.place) :
    Standing site contents after where
  named := standing.named
  home := spares.home.trans standing.home
  linkless := spares.linkless standing.linkless
  folder := spares.folder standing.linkless standing.folder
  control := by
    obtain ⟨id, text, record, stands, said⟩ := standing.control
    exact ⟨id, text, record, spares.stands id _ _ control stands, said⟩
  sheet := by
    obtain ⟨id, stands⟩ := standing.sheet
    exact ⟨id, spares.stands id _ _ sheet stands⟩

end Standing

/-! ## Reading -/

/-- A sheet that stands is read as what its file says. -/
theorem read_of_standing {site : Site} {text : String} {store : Store} {said : Contents}
    (standing : Standing site (utf8 text) store.files) (parsed : Contents.parse text = .ok said) :
    ∃ report after, Command.runRead site.places site.cabinet site.sheet store = .ok report after ∧
      report.contents = some said := by
  obtain ⟨id, written, record, stands, names, same⟩ := standing.control
  have within := standing.within component_controlName standing.named.control
  have short : (utf8 controlName).length ≤ longestName := by decide +kernel
  have bytes := read_within within short stands.held
  rw [stands.holds] at bytes
  obtain ⟨opened, done, kept⟩ :=
    Cabinet.openIn_of_parsed standing.named.cabinet within bytes names same
  rw [← kept] at standing
  obtain ⟨sheetId, sheet⟩ := standing.sheet
  have component := component_of_check (checkSheetName_eq_ok_iff.1 standing.named.sheet).1
  have loaded : Contents.load (Path.join site.directory site.sheet) opened = .ok said opened :=
    (Contents.load_eq_ok_iff (standing.within component standing.named.path)
      standing.named.sheetShort sheet).2 ⟨rfl, text, rfl, parsed⟩
  exact ⟨_, _, Work.bind_eq_ok.2 ⟨_, _, done, Work.accept_bind_eq_ok.2
    ⟨standing.named.sheet, Work.bind_eq_ok.2 ⟨_, _, loaded, rfl⟩⟩⟩, rfl⟩

/-! ## Commands that leave the sheet where it is -/

/-- The command takes away neither the sheet nor the way to it: it removes no cabinet that the sheet is
in or that the path of the root passes, and keeps the settings in another file. -/
def Command.Harmless (site : Site) : Command → Prop
  | .remove other => other ≠ site.cabinet ∧
      ∀ spot ∈ wayOf site.home (utf8 site.places.root), ¬site.outer ++ [utf8 other] <+: spot
  | .settings (.set _ _) =>
      endOf site.home (utf8 (Settings.pathIn site.places.configuration)) ≠ site.place
  | .create _ _ | .info _ | .list _ | .sheet _ _ _ _ _ | .read _ _ | .settings _ => True

instance (site : Site) : (command : Command) → Decidable (command.Harmless site)
  | .remove other => inferInstanceAs (Decidable (other ≠ site.cabinet ∧
      ∀ spot ∈ wayOf site.home (utf8 site.places.root), ¬site.outer ++ [utf8 other] <+: spot))
  | .settings (.set _ _) => inferInstanceAs (Decidable
      (endOf site.home (utf8 (Settings.pathIn site.places.configuration)) ≠ site.place))
  | .settings .showAll | .settings (.showKey _) => .isTrue trivial
  | .create _ _ | .info _ | .list _ | .sheet _ _ _ _ _ | .read _ _ => .isTrue trivial

/-- Whatever comes of the work, what was so of the files is so afterwards. -/
def Work.Maintains {α : Type} (holds : FileSystem → Prop) (work : Work α) : Prop :=
  ∀ store, holds store.files → holds (leftBy (work store)).files

namespace Work

variable {α β : Type} {holds : FileSystem → Prop}

theorem Quiet.maintains {work : Work α} (quiet : Quiet work) : Maintains holds work := by
  intro store before
  rw [quiet store]
  exact before

theorem Maintains.bind {first : Work α} {next : α → Work β} (one : Maintains holds first)
    (other : ∀ value, Maintains holds (next value)) : Maintains holds (first >>= next) := by
  intro store before
  have between := one store before
  rw [bind_apply]
  cases done : first store with
  | error failure after =>
    rw [done] at between
    exact between
  | ok value after =>
    rw [done] at between
    exact other value after between

end Work

namespace Command

variable {site : Site} {contents : Bytes}

theorem maintains_create (draft : Draft) (name description : String) :
    Work.Maintains (Standing site contents) (runCreate draft site.places name description) := by
  refine Work.Maintains.bind ?_ fun _ => (Work.Quiet.pure _).maintains
  intro store standing
  have spares := Cabinet.spares_create (fun _ => False) standing.linkless draft name description
    site.places.root
  exact standing.spared spares not_false not_false

/-! ### Removing -/

theorem standing_clear {files : FileSystem} {gone : Location} (standing : Standing site contents files)
    (way : ∀ spot ∈ wayOf site.home (utf8 site.places.root), ¬gone <+: spot)
    (control : ¬gone <+: site.control) (sheet : ¬gone <+: site.place) :
    Standing site contents (files.clear gone) where
  named := standing.named
  home := standing.home
  linkless := linkless_clear standing.linkless gone
  folder := by
    refine folder_of_way standing.linkless rfl ?_ standing.folder
    intro spot passed held
    rw [standing.home] at passed
    rw [look_cleared, if_neg fun below => way spot passed below.2, held]
  control := by
    obtain ⟨id, text, record, stands, said⟩ := standing.control
    exact ⟨id, text, record, stands.cleared control, said⟩
  sheet := by
    obtain ⟨id, stands⟩ := standing.sheet
    exact ⟨id, stands.cleared sheet⟩

theorem maintains_remove {other : String} (harmless : (Command.remove other).Harmless site) :
    Work.Maintains (Standing site contents) (runRemove site.places other) := by
  obtain ⟨distinct, way⟩ := harmless
  refine Work.Maintains.bind ?_ fun _ => (Work.Quiet.pure _).maintains
  intro store standing
  rcases Cabinet.files_remove other site.places.root store with same | ⟨outer, found, cleared⟩
  · rw [same]
    exact standing
  · obtain rfl : site.outer = outer := Except.ok.inj (standing.folder.symm.trans found)
    have aside (item : Bytes) : ¬site.outer ++ [utf8 other] <+: site.inner ++ [item] := by
      intro below
      unfold Site.inner at below
      rw [List.append_assoc, List.prefix_append_right_inj] at below
      have same : utf8 other = utf8 site.cabinet := (List.cons_prefix_cons.1 below).1
      exact distinct (utf8_inj.1 same)
    rw [cleared]
    exact standing_clear standing way (aside _) (aside _)

/-! ### Settings -/

theorem quiet_demand {α : Type} (asked : Except Cause α) : Work.Quiet (demand asked) := by
  intro store
  unfold demand
  split <;> rfl

theorem maintains_save {key value : String}
    (harmless : (Command.settings (.set key value)).Harmless site) (settings : Settings) :
    Work.Maintains (Standing site contents) (settings.save site.places.configuration) := by
  have apart : site.control ≠ endOf site.home (utf8 (Settings.pathIn site.places.configuration)) := by
    unfold Settings.pathIn
    rw [endOf_join Settings.component_settingsName]
    exact append_ne_append (by decide +kernel) _ _
  refine Work.Maintains.bind ?_ fun _ => ?_
  · intro store standing
    have spares := spares_makeDirectories (fun _ => False) store.files
      (utf8 site.places.configuration)
    unfold Work.makeDirectories
    split
    · rename_i made
      rw [made] at spares
      exact standing.spared spares not_false not_false
    · rename_i made
      rw [made] at spares
      exact standing.spared spares not_false not_false
  · intro store standing
    rw [Work.change_apply]
    split
    · rename_i written
      have spares := spares_write standing.linkless written
      rw [standing.home] at spares
      exact standing.spared spares apart (Ne.symm harmless)
    · exact standing

theorem maintains_settings {errand : SettingsErrand}
    (harmless : (Command.settings errand).Harmless site) :
    Work.Maintains (Standing site contents) (runSettings site.places errand) := by
  refine (Settings.quiet_load _).maintains.bind ?_
  intro settings
  cases errand with
  | showAll => exact (Work.Quiet.pure _).maintains
  | showKey key =>
    exact (quiet_demand _).maintains.bind fun _ => (Work.Quiet.pure _).maintains
  | set key value =>
    refine (quiet_demand _).maintains.bind fun changed => ?_
    refine (maintains_save harmless changed).bind fun _ => ?_
    exact (quiet_demand _).maintains.bind fun _ => (Work.Quiet.pure _).maintains

/-! ### New sheets -/

/-- A new sheet of any cabinet leaves the sheet where it is, and the control file readable, also when
it is taken away again. -/
theorem standing_counted {cabinet : Cabinet} {files counted after : FileSystem}
    {name description : String} {sheet : Sheet} {place : Location} {record : ControlRecord}
    (standing : Standing site contents files)
    (added : Cabinet.Added cabinet files counted name description sheet place record)
    (spares : Spares (Cabinet.Counter place) files after)
    (kept : ∀ id written, counted.Stands id (place ++ [utf8 controlName]) written →
      after.Stands id (place ++ [utf8 controlName]) written) :
    Standing site contents after := by
  obtain ⟨sheetId, held⟩ := standing.sheet
  refine ⟨standing.named, spares.home.trans standing.home, spares.linkless standing.linkless,
    spares.folder standing.linkless standing.folder, ?_,
    ⟨sheetId, spares.stands sheetId _ _ (standing.named.not_counter place) held⟩⟩
  obtain ⟨id, text, said, stands, parsed, same⟩ := standing.control
  by_cases own : place ++ [utf8 controlName] = site.control
  · rw [← own] at stands ⊢
    rw [← same]
    obtain ⟨id, written, again, control, read, named⟩ :=
      added.control_names stands.item parsed (same ▸ standing.named.cabinet)
    exact ⟨id, written, again, kept id _ control, read, named⟩
  · refine ⟨id, text, said, spares.stands id _ _ ?_ stands, parsed, same⟩
    rintro (lock | control)
    · exact append_ne_append (by decide +kernel) _ _ lock
    · exact own control.symm

theorem standing_added {cabinet : Cabinet} {files after : FileSystem} {name description : String}
    {sheet : Sheet} {place : Location} {record : ControlRecord}
    (standing : Standing site contents files)
    (added : Cabinet.Added cabinet files after name description sheet place record) :
    Standing site contents after :=
  standing_counted standing added added.spares fun _ _ control => control

theorem standing_withdrawn {cabinet : Cabinet} {files counted : FileSystem}
    {name description : String} {sheet : Sheet} {place : Location} {record : ControlRecord}
    (standing : Standing site contents files)
    (added : Cabinet.Added cabinet files counted name description sheet place record) :
    Standing site contents (counted.clear (place ++ [utf8 name])) := by
  obtain ⟨between, created, -⟩ := added.counted
  refine standing_counted standing added (added.spares.clear created.vacant) ?_
  intro id written control
  refine control.cleared ?_
  intro below
  rw [List.prefix_append_right_inj] at below
  have same : utf8 name = utf8 controlName := (List.cons_prefix_cons.1 below).1
  exact Cabinet.ne_of_sheetName added.accepted Cabinet.isReserved_controlName place
    (congrArg (fun item => place ++ [item]) same)

/-- What is written to a sheet that was just added is not written to another one. -/
theorem standing_written {cabinet : Cabinet} {files : FileSystem} {name description : String}
    {sheet : Sheet} {place : Location} {record : ControlRecord} {desk later : Desk}
    (standing : Standing site contents files)
    (added : Cabinet.Added cabinet files desk.store.files name description sheet place record)
    (own : desk.sheet.handle.file = sheet.handle.file) (frame : Frame desk later) :
    Standing site contents later.store.files := by
  obtain ⟨between, created, -⟩ := added.counted
  -- the file of the new sheet is at a place that was vacant before, and nowhere else
  have apart {spot : Location} {node : Node} (held : files.tree.get? spot = some node) :
      desk.store.files.tree.get? spot ≠ some (.file desk.sheet.handle.file) := by
    intro shown
    rw [own] at shown
    exact ne_of_vacant held created.vacant (added.sheet_stands.only spot shown)
  obtain ⟨_, _, _, control, -⟩ := standing.control
  obtain ⟨_, kept⟩ := standing.sheet
  exact (standing_added standing added).spared (spares_of_frame frame) (apart control.held)
    (apart kept.held)

theorem standing_sheet {chance : Chance} {cabinet sheet description : String}
    {entries : List String} {autoSync : Bool} {store : Store}
    (unused : chance.UnusedBy site.places store
      (.sheet cabinet sheet description entries autoSync))
    (standing : Standing site contents store.files) :
    Standing site contents
      (leftBy (runSheet chance site.places cabinet sheet description entries autoSync store)).files := by
  have quiet := Cabinet.quiet_openIn cabinet site.places.root store
  unfold runSheet
  rw [Work.bind_apply]
  cases done : Cabinet.openIn cabinet site.places.root store with
  | error failure after =>
    rw [done] at quiet
    have same : after.files = store.files := quiet
    show Standing site contents after.files
    rw [same]
    exact standing
  | ok opened between =>
    rw [done] at quiet
    have same : between.files = store.files := quiet
    rw [← same] at standing
    have linkless := standing.linkless
    have answered := Cabinet.answered_newSheet (Cabinet.placed_of_openIn done)
      (unused opened between done) fun place target _ => linkless _ target
    dsimp only
    rw [Work.bind_apply]
    unfold Cabinet.run
    generalize Cabinet.newSheet chance sheet description ⟨opened, between⟩ = result at answered
    cases answered with
    | refused alike left =>
      rcases left with same | ⟨place, -, upTo⟩
      · exact standing.spared (spares_of_same (fun _ => False) same) not_false not_false
      · exact standing.spared upTo.spares (append_ne_append (by decide +kernel) _ _)
          fun own => standing.named.not_counter place (.inl own)
    | @granted place record fresh after _ added =>
      dsimp only
      let desk : Desk := ⟨fresh.setAutoSync autoSync, after⟩
      have own : desk.sheet.handle.file = fresh.handle.file := rfl
      have frame := frame_writeEntries entries autoSync desk
      rw [leftBy_run]
      exact standing_written standing added own frame
    | @lost cause place record fresh counted after _ _ added withdrawn =>
      show Standing site contents after.files
      rw [withdrawn]
      exact standing_withdrawn standing added

/-- The sheet stands after every command that leaves it where it is, whether the command succeeds or
fails. -/
theorem standing_run {command : Command} (harmless : command.Harmless site) {chance : Chance}
    {store : Store} (unused : chance.UnusedBy site.places store command)
    (standing : Standing site contents store.files) :
    Standing site contents (leftBy (command.run chance site.places store)).files := by
  cases command with
  | create name description => exact maintains_create chance.draft name description store standing
  | info name => exact (quiet_info site.places name).maintains store standing
  | list name => exact (quiet_list site.places name).maintains store standing
  | sheet cabinet sheet description entries autoSync => exact standing_sheet unused standing
  | read cabinet sheet => exact (quiet_read site.places cabinet sheet).maintains store standing
  | remove other => exact maintains_remove harmless store standing
  | settings errand => exact maintains_settings harmless store standing

/-! ### Commands one after the other -/

/-- The store after commands that are given one after the other, whether they succeed or fail. -/
def runAll (places : Places) (commands : List (Chance × Command)) (store : Store) : Store :=
  commands.foldl (fun store (chance, command) => leftBy (command.run chance places store)) store

/-- No draft is in the way of any of the commands, when its turn comes. -/
def AllUnused (places : Places) (store : Store) : List (Chance × Command) → Prop
  | [] => True
  | (chance, command) :: rest =>
    chance.UnusedBy places store command ∧
      AllUnused places (leftBy (command.run chance places store)) rest

instance (places : Places) :
    (store : Store) → (commands : List (Chance × Command)) → Decidable (AllUnused places store commands)
  | _, [] => .isTrue trivial
  | store, (chance, command) :: rest =>
    have := instDecidableAllUnused places (leftBy (command.run chance places store)) rest
    inferInstanceAs (Decidable (chance.UnusedBy places store command ∧
      AllUnused places (leftBy (command.run chance places store)) rest))

theorem standing_runAll {commands : List (Chance × Command)}
    (harmless : ∀ chance command, (chance, command) ∈ commands → command.Harmless site)
    {store : Store} (unused : AllUnused site.places store commands)
    (standing : Standing site contents store.files) :
    Standing site contents (runAll site.places commands store).files := by
  induction commands generalizing store with
  | nil => exact standing
  | cons turn rest ih =>
    have next := standing_run (harmless _ _ List.mem_cons_self) unused.1 standing
    exact ih (fun _ _ member => harmless _ _ (List.mem_cons_of_mem _ member)) unused.2 next

end Command

/-! ## Writing -/

/-- A sheet that was just added is numbered from its first entry on. -/
theorem kept_of_added {cabinet : Cabinet} {files : FileSystem} {name description : String}
    {sheet : Sheet} {place : Location} {record : ControlRecord} {after : Store} (autoSync : Bool)
    (added : Cabinet.Added cabinet files after.files name description sheet place record) :
    Kept description [] [] (Desk.mk (sheet.setAutoSync autoSync) after).ledger := by
  obtain ⟨between, created, -⟩ := added.counted
  have bytes : (Desk.mk (sheet.setAutoSync autoSync) after).bytes = utf8 (descriptionLine description) :=
    added.sheet_stands.holds
  unfold Desk.ledger
  rw [bytes, created.sheet_eq]
  exact ⟨(List.append_nil _).symm, rfl, by decide, fun _ => rfl, rfl⟩

/-- Once all entries are committed the file holds them. -/
theorem kept_writeEntries {description : String} {entries : List String} {autoSync : Bool}
    {desk after : Desk} {value : Unit} (kept : Kept description [] [] desk.ledger)
    (done : Command.writeEntries entries autoSync desk = .ok value after) :
    Kept description entries [] after.ledger := by
  obtain ⟨_, between, written, rest⟩ := Work.bind_eq_ok.1 done
  have all := kept_writeAll kept written
  cases autoSync with
  | true =>
    cases rest
    exact all
  | false =>
    have same := ledger_sync between
    have synced : Sheet.sync between = .ok value after := rest
    rw [synced, leftBy_ok] at same
    rw [← same] at all
    exact all

/-- What is written to the sheet itself is what it holds then. -/
theorem Standing.rewritten {site : Site} {contents : Bytes} {desk later : Desk}
    (standing : Standing site contents desk.store.files)
    (own : desk.store.files.Stands desk.sheet.handle.file site.place contents)
    (frame : Frame desk later) : Standing site later.bytes later.store.files := by
  have spares := spares_of_frame frame
  obtain ⟨id, text, record, control, said⟩ := standing.control
  refine ⟨standing.named, spares.home.trans standing.home, spares.linkless standing.linkless,
    spares.folder standing.linkless standing.folder, ⟨id, text, record, ?_, said⟩,
    ⟨_, frame.stands own⟩⟩
  refine spares.stands id _ _ ?_ control
  intro shared
  exact standing.named.not_counter site.inner (.inr (own.only _ shared).symm)

/-- A new sheet of a cabinet that was just opened stands. -/
theorem standing_of_newSheet {site : Site} {chance : Chance} {description : String}
    {store between made : Store} {opened counted : Cabinet} {fresh : Sheet}
    (home : store.files.home = site.home) (linkless : Linkless store.files.tree.get?)
    (first : Cabinet.openIn site.cabinet site.places.root store = .ok opened between)
    (unused : chance.Unused opened site.sheet description between)
    (second : Cabinet.newSheet chance site.sheet description ⟨opened, between⟩ =
      .ok fresh ⟨counted, made⟩) :
    ∃ record, Cabinet.Added opened between.files made.files site.sheet description fresh site.inner
        record ∧
      Standing site (utf8 (descriptionLine description)) made.files := by
  have named := (Work.accept_bind_eq_ok.1 first).1
  have component := component_of_check named
  have placed := Cabinet.placed_of_openIn first
  obtain ⟨same, said, loaded, calls, rfl⟩ := Cabinet.openIn_eq_ok first
  obtain ⟨-, place, text, within, read, parsed⟩ := ControlRecord.load_eq_ok loaded
  rw [← same] at home linkless within read
  have unlinked (spot : Location) (target : Bytes) := linkless spot target
  obtain ⟨outer, found, rfl, short⟩ :=
    folder_of_join component (fun _ target _ => unlinked _ target) within.folder
  obtain rfl : outer = site.outer := by
    rw [folder_lead linkless found, home]
    rfl
  have answered := Cabinet.answered_newSheet placed unused fun _ target _ => unlinked _ target
  rw [second] at answered
  cases answered with
  | @granted place record _ _ _ added =>
    obtain ⟨_, created, -⟩ := added.counted
    obtain rfl : site.inner = place := Except.ok.inj (within.folder.symm.trans created.within.folder)
    have spares := added.spares
    have shown := item_of_read within (unlinked _) read
    refine ⟨record, added, ⟨named, added.accepted, short, created.short, within.askable,
      created.within.askable⟩, spares.home.trans home, spares.linkless linkless,
      spares.folder linkless found, ?_, ⟨_, added.sheet_stands⟩⟩
    rw [← calls] at named ⊢
    exact added.control_names shown parsed named

/-- A sheet that was written by a command stands. -/
theorem standing_of_sheet {site : Site} {chance : Chance} {description : String}
    {entries : List String} {autoSync : Bool} {store after : Store} {report : Report}
    (home : store.files.home = site.home) (linkless : Linkless store.files.tree.get?)
    (unused : chance.UnusedBy site.places store
      (.sheet site.cabinet site.sheet description entries autoSync))
    (done : Command.runSheet chance site.places site.cabinet site.sheet description entries autoSync
      store = .ok report after) :
    Standing site (utf8 (fileText description entries)) after.files ∧
      entries.length < UInt32.size := by
  obtain ⟨opened, between, first, done⟩ := Work.bind_eq_ok.1 done
  obtain ⟨⟨counted, fresh⟩, made, second, done⟩ := Work.bind_eq_ok.1 done
  obtain ⟨_, _, third, done⟩ := Work.bind_eq_ok.1 done
  cases done
  obtain ⟨record, added, standing⟩ := standing_of_newSheet home linkless first
    (unused opened between first) (Cabinet.run_eq_ok.1 second)
  let desk : Desk := ⟨fresh.setAutoSync autoSync, made⟩
  have frame := Command.frame_writeEntries entries autoSync desk
  unfold Sheet.run at third
  split at third
  · rename_i later written
    cases third
    rw [written] at frame
    have kept := kept_writeEntries (kept_of_added autoSync added) written
    have bytes : later.bytes = utf8 (fileText description entries) :=
      kept.bytes.trans (List.append_nil _)
    rw [← bytes]
    exact ⟨standing.rewritten added.sheet_stands frame, kept.bound⟩
  · cases third

/-- Whatever a sheet is written with, once the command that writes it succeeds it is read with this
description and with these entries, numbered from one; and it is read so after all further commands,
whether they succeed or fail, as long as none of them takes away the sheet or the way to it. -/
theorem sheet_permanent {places : Places} {cabinet sheet description : String}
    {entries : List String} {autoSync : Bool} {chance : Chance} {store written : Store}
    {report : Report} (noLink : ∀ place target, store.files.item place ≠ some (.link target))
    (unused : chance.UnusedBy places store (.sheet cabinet sheet description entries autoSync))
    (done : Command.run chance places (.sheet cabinet sheet description entries autoSync) store =
      .ok report written)
    (later : List (Chance × Command)) (allUnused : Command.AllUnused places written later)
    (harmless : ∀ chance command, (chance, command) ∈ later →
      command.Harmless ⟨store.files.home, places, cabinet, sheet⟩) (last : Chance) :
    entries.length < UInt32.size ∧
    ∃ shown after, Command.run last places (.read cabinet sheet)
        (Command.runAll places later written) = .ok shown after ∧
      shown.contents = some ⟨description, entriesOf entries⟩ := by
  let site : Site := ⟨store.files.home, places, cabinet, sheet⟩
  have linkless : Linkless store.files.tree.get? := by
    intro place target held
    refine noLink place target ?_
    unfold FileSystem.item
    rw [held]
    rfl
  have home : store.files.home = site.home := rfl
  obtain ⟨standing, bound⟩ := standing_of_sheet home linkless unused done
  exact ⟨bound, read_of_standing (Command.standing_runAll harmless allUnused standing)
    (parse_fileText description bound)⟩

/-- The same sheet is asked for again, a cabinet next to it comes and goes, and settings are made. -/
theorem sheet_permanent_later :
    let places : Places := ⟨".", "cfg"⟩
    let store := Command.runAll places [(default, .create "c" "")] { files := {} }
    let later : List (Chance × Command) := [(default, .sheet "c" "s" "" [] false),
      (default, .create "b" ""), (default, .remove "b"), (default, .settings (.set "root" "x")),
      (default, .sheet "c" "t" "" ["y"] false)]
    ∃ report written,
      Command.run default places (.sheet "c" "s" "of\nall" ["\t1 x", ""] true) store =
        .ok report written ∧
      ∃ shown after, Command.run default places (.read "c" "s")
          (Command.runAll places later written) = .ok shown after ∧
        shown.contents = some ⟨"of\nall", [⟨1, "\t1 x"⟩, ⟨2, ""⟩]⟩ := by
  intro places store later
  have unused : Chance.UnusedBy default places store
      (.sheet "c" "s" "of\nall" ["\t1 x", ""] true) := by decide +kernel
  have facts : Work.passes (fun _ written => Cabinet.linkless store.files &&
        decide (Command.AllUnused places written later))
      (Command.run default places (.sheet "c" "s" "of\nall" ["\t1 x", ""] true) store) = true := by
    decide +kernel
  obtain ⟨report, written, done, facts⟩ := Work.exists_of_passes facts
  rw [Bool.and_eq_true, decide_eq_true_eq] at facts
  have harmless : ∀ chance command, (chance, command) ∈ later →
      command.Harmless ⟨store.files.home, places, "c", "s"⟩ := by
    have all : ∀ turn ∈ later, turn.2.Harmless ⟨store.files.home, places, "c", "s"⟩ := by
      decide +kernel
    exact fun chance command member => all (chance, command) member
  exact ⟨report, written, done, (sheet_permanent (Cabinet.no_link_of_linkless facts.1) unused done
    later facts.2 harmless default).2⟩

/-- The path of the root may lead through another cabinet: when that one is removed, what is in the
root cannot be reached by the path any more. -/
theorem sheet_lost_on_the_way :
    let places : Places := ⟨"c2/..", "cfg"⟩
    let store := Command.runAll places [(default, .create "c" "")]
      (Command.runAll ⟨".", "cfg"⟩ [(default, .create "c2" "")] { files := {} })
    (∀ place target, store.files.item place ≠ some (.link target)) ∧
    endOf store.files.home (utf8 (Settings.pathIn places.configuration)) ≠
      endOf store.files.home (utf8 (Path.join (Path.join places.root "c") "s1")) ∧
    ∃ report written, Command.run default places (.sheet "c" "s1" "d" ["one"] false) store =
        .ok report written ∧
      (∃ shown after, Command.run default places (.read "c" "s1") written = .ok shown after ∧
        shown.contents = some ⟨"d", [⟨1, "one"⟩]⟩) ∧
      ∃ after, Command.run default places (.read "c" "s1")
          (Command.runAll places [(default, .remove "c2")] written) =
        .error (.doesNotExist "c2/../c") after := by
  intro places store
  have none : Cabinet.linkless store.files = true := by decide +kernel
  have facts : Work.passes (fun _ written =>
      Work.passes (fun shown _ => shown.contents = some ⟨"d", [⟨1, "one"⟩]⟩)
          (Command.run default places (.read "c" "s1") written) &&
        Work.fails (.doesNotExist "c2/../c") (Command.run default places (.read "c" "s1")
          (Command.runAll places [(default, .remove "c2")] written)))
      (Command.run default places (.sheet "c" "s1" "d" ["one"] false) store) = true := by
    decide +kernel
  obtain ⟨report, written, done, facts⟩ := Work.exists_of_passes facts
  rw [Bool.and_eq_true] at facts
  obtain ⟨shown, after, read, contents⟩ := Work.exists_of_passes facts.1
  exact ⟨Cabinet.no_link_of_linkless none, by decide +kernel, report, written, done,
    ⟨shown, after, read, of_decide_eq_true contents⟩, Work.exists_of_fails facts.2⟩

end SheetCabinet
