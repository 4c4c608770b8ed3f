import SheetCabinet.Proofs.Cabinet.Session

/-!
# The counts of a cabinet

A cabinet's sheets are counted in its control file, by the names in its directory, and by everyone
who has it open. The first two counts agree as long as no sheet is counted and then lost because the
directory cannot be synced; the others lag behind until whoever holds them asks.

Results:
* one move keeps all counts in step (`sound_after`), and so does every session (`sound_of_reached`);
* in every session the control file counts the new sheets that were granted and those that were lost,
  and as many names are listed as were granted; so the counts agree exactly if no sheet was lost
  (`counts_agree_iff`), and once one was lost they do not (`not_agree_of_unsynced`).
-/

namespace SheetCabinet

open FileSystem

/-! ## What was counted -/

namespace Session

/-- All that raised the count were granted exactly if none was lost. -/
theorem length_granted_iff (session : Session) :
    session.granted.length = session.counted.length ↔ none ∉ session.counted := by
  have lost := @List.reduceOption_length_lt_iff _ session.counted
  have most := List.reduceOption_length_le session.counted
  rw [← lost]
  unfold granted
  omega

/-- What was granted has the counts in order if none was lost. -/
theorem granted_in_order {session : Session}
    (inOrder : ∀ k count, session.counted[k]? = some (some count) → count.toNat = k + 1)
    (all : none ∉ session.counted) :
    session.granted.map UInt32.toNat = List.range' 1 session.granted.length := by
  have whole : session.granted.map some = session.counted := by
    unfold granted
    generalize session.counted = entries at all
    induction entries with
    | nil => rfl
    | cons entry rest ih =>
      obtain ⟨other, none⟩ := not_or.1 (List.mem_cons.not.1 all)
      cases entry with
      | none => exact absurd rfl other
      | some count => rw [List.reduceOption_cons_of_some, List.map_cons, ih none]
  refine List.ext_getElem? fun k => ?_
  by_cases inside : k < session.granted.length
  · have here : session.counted[k]? = some (some session.granted[k]) := by
      rw [← whole, List.getElem?_map, List.getElem?_eq_getElem inside]
      rfl
    rw [List.getElem?_map, List.getElem?_eq_getElem inside, List.getElem?_range' inside,
      Option.map_some, inOrder k _ here, Nat.one_mul, Nat.add_comm]
  · rw [List.getElem?_eq_none (by simpa using inside), List.getElem?_eq_none (by simpa using inside)]

end Session

/-! ## The invariant -/

/-- Somebody who has the cabinet open knows it by its place, and counts no sheet that is not there. -/
structure Holds (place : Location) (files : FileSystem) (count : Nat) (cabinet : Cabinet) :
    Prop where
  placed : cabinet.Placed
  found : files.folder cabinet.directory = .ok place
  known : cabinet.count.toNat ≤ count

/-- A sheet's file is in the directory, under a name that is not one of the cabinet's own. -/
def Lies (place : Location) (files : FileSystem) (sheet : Sheet) : Prop :=
  ∃ item, isReserved item = false ∧
    files.tree.get? (place ++ [utf8 item]) = some (.file sheet.handle.file)

/-- What the control file is to say. -/
def Session.record (session : Session) (name description : String) : ControlRecord :=
  ⟨name, description, UInt32.ofNat session.counted.length⟩

/-- All counts of the cabinet are in step. -/
structure Sound (home : Path) (name description : String) (place : Location) (session : Session) :
    Prop where
  balanced : Cabinet.Balanced home place (session.record name description) session.granted.length
    session.store.files
  room : session.counted.length < UInt32.size
  inOrder : ∀ k count, session.counted[k]? = some (some count) → count.toNat = k + 1
  cabinets : ∀ cabinet ∈ session.cabinets,
    Holds place session.store.files session.counted.length cabinet
  sheets : ∀ sheet ∈ session.sheets, Lies place session.store.files sheet

theorem Holds.untouched {place : Location} {files after : FileSystem} {count : Nat}
    {cabinet : Cabinet} (holds : Holds place files count cabinet)
    (untouched : Cabinet.Untouched place files after) : Holds place after count cabinet :=
  ⟨holds.placed, untouched.folder _ _ holds.found, holds.known⟩

theorem Lies.untouched {place : Location} {files after : FileSystem} {sheet : Sheet}
    (lies : Lies place files sheet) (untouched : Cabinet.Untouched place files after) :
    Lies place after sheet := by
  obtain ⟨item, free, held⟩ := lies
  refine ⟨item, free, ?_⟩
  rw [untouched.look _ (Cabinet.ne_of_free free Cabinet.isReserved_lockName place), held]

namespace Sound

variable {home : Path} {name description : String} {place : Location} {session : Session}

theorem toNat_record (sound : Sound home name description place session) :
    (session.record name description).count.toNat = session.counted.length :=
  UInt32.toNat_ofNat_of_lt' sound.room

/-- What touches neither the control file nor a sheet's name keeps everything in step. -/
theorem untouched (sound : Sound home name description place session) {after : Store}
    (untouched : Cabinet.Untouched place session.store.files after.files) :
    Sound home name description place { session with store := after } where
  balanced := sound.balanced.untouched untouched
  room := sound.room
  inOrder := sound.inOrder
  cabinets cabinet member := (sound.cabinets cabinet member).untouched untouched
  sheets sheet member := (sound.sheets sheet member).untouched untouched

theorem withCabinets (sound : Sound home name description place session)
    {cabinets : List Cabinet} (hold : ∀ cabinet ∈ cabinets,
      Holds place session.store.files session.counted.length cabinet) :
    Sound home name description place { session with cabinets := cabinets } :=
  ⟨sound.balanced, sound.room, sound.inOrder, hold, sound.sheets⟩

theorem withSheets (sound : Sound home name description place session)
    {sheets : List Sheet} (lie : ∀ sheet ∈ sheets, Lies place session.store.files sheet) :
    Sound home name description place { session with sheets := sheets } :=
  ⟨sound.balanced, sound.room, sound.inOrder, sound.cabinets, lie⟩

/-- Somebody who had the cabinet open knows of it anew. -/
theorem setCabinet (sound : Sound home name description place session) (holder : Nat)
    {fresh : Cabinet} (holds : Holds place session.store.files session.counted.length fresh) :
    Sound home name description place
      { session with cabinets := session.cabinets.set holder fresh } := by
  refine sound.withCabinets ?_
  intro other member
  rcases List.mem_or_eq_of_mem_set member with old | rfl
  · exact sound.cabinets other old
  · exact holds

/-- Whoever reads the control file reads what it is to say. -/
theorem eq_of_load (sound : Sound home name description place session)
    (plain : (ControlRecord.mk name description 0).Plain) {directory : Path} {after : Store}
    {read : ControlRecord} (found : session.store.files.folder directory = .ok place)
    (loaded : ControlRecord.load directory session.store = .ok read after) :
    read = session.record name description := by
  obtain ⟨id, stands⟩ := sound.balanced.control
  exact ControlRecord.eq_of_load (plain.recount _) found stands loaded

/-- Whoever opens a cabinet opens this one, and knows of it what its control file is to say. -/
theorem eq_of_openIn (sound : Sound home name description place session)
    (plain : (ControlRecord.mk name description 0).Plain) {called : String} {parent : Path}
    {opened : Cabinet} {after : Store}
    (fits : session.store.files.Fits home (Path.join parent called))
    (done : Cabinet.openIn called parent session.store = .ok opened after) :
    session.store.files.folder (Path.join parent called) = .ok place ∧ opened =
      ⟨name, description, parent, Path.join parent called,
        (session.record name description).count⟩ := by
  obtain ⟨-, record, loaded, same, rfl⟩ := Cabinet.openIn_eq_ok done
  obtain ⟨-, other, _, ⟨-, -, found⟩, -, -⟩ := ControlRecord.load_eq_ok loaded
  obtain rfl : place = other :=
    Except.ok.inj (sound.balanced.within.folder.symm.trans (fits other found))
  obtain rfl := sound.eq_of_load plain found loaded
  obtain rfl : name = called := same
  exact ⟨found, rfl⟩

/-- A cabinet that is opened is known with all its sheets. -/
theorem opened (sound : Sound home name description place session)
    (plain : (ControlRecord.mk name description 0).Plain) {called : String} {parent : Path}
    {opened : Cabinet} {after : Store}
    (fits : session.store.files.Fits home (Path.join parent called))
    (done : Cabinet.openIn called parent session.store = .ok opened after) :
    after.files = session.store.files ∧ opened.count.toNat = session.counted.length ∧
      Holds place session.store.files session.counted.length opened := by
  have same := (Cabinet.quiet_openIn called parent).files_eq done
  have placed := Cabinet.placed_of_openIn done
  obtain ⟨found, rfl⟩ := sound.eq_of_openIn plain fits done
  have known := sound.toNat_record
  exact ⟨same, known, placed, found, Nat.le_of_eq known⟩

/-- With one more in the control file and at most one more in the directory, all is in step again. -/
theorem record (sound : Sound home name description place session)
    (room : session.counted.length + 1 < UInt32.size) {after : Store} {entry : Option UInt32}
    {sheets : List Sheet}
    (balanced : Cabinet.Balanced home place { session.record name description with
      count := (session.record name description).count + 1 }
      (session.granted.length + entry.toList.length) after.files)
    (number : ∀ count, entry = some count → count.toNat = session.counted.length + 1)
    (folder : ∀ directory found, session.store.files.folder directory = .ok found →
      after.files.folder directory = .ok found)
    (lie : ∀ sheet ∈ sheets, Lies place after.files sheet) :
    Sound home name description place
      { store := after
        cabinets := session.cabinets
        sheets := sheets
        counted := session.counted ++ [entry] } where
  balanced := by
    have counts : ({ session.record name description with
        count := (session.record name description).count + 1 } : ControlRecord) =
        ⟨name, description, UInt32.ofNat (session.counted ++ [entry]).length⟩ := by
      have count := toNat_add_one (sound.toNat_record.symm ▸ room)
      rw [List.length_append, List.length_singleton, ← sound.toNat_record, ← count,
        UInt32.ofNat_toNat]
      rfl
    have listed : Session.granted ⟨after, session.cabinets, sheets, session.counted ++ [entry]⟩ =
        session.granted ++ entry.toList := by
      unfold Session.granted
      rw [List.reduceOption_append, List.reduceOption_singleton]
    rw [listed, List.length_append]
    rw [counts] at balanced
    exact balanced
  room := by
    rw [List.length_append]
    exact room
  inOrder k count held := by
    rcases getElem?_push held with before | ⟨rfl, same⟩
    · exact sound.inOrder k count before
    · exact number count same.symm
  cabinets other member := by
    have known := sound.cabinets other member
    refine ⟨known.placed, folder _ _ known.found, ?_⟩
    rw [List.length_append]
    exact Nat.le_succ_of_le known.known
  sheets := lie

/-- Whatever comes of asking for a new sheet, all is in step afterwards, and whoever asked counts no
sheet that is not in the control file. -/
theorem newSheet (sound : Sound home name description place session)
    (plain : (ControlRecord.mk name description 0).Plain) {cabinet : Cabinet}
    (holds : Holds place session.store.files session.counted.length cabinet) {chance : Chance}
    {sheetName sheetDescription : String}
    (unused : chance.Unused cabinet sheetName sheetDescription session.store) :
    let result := Cabinet.newSheet chance sheetName sheetDescription ⟨cabinet, session.store⟩
    let counted := session.counted ++
      Cabinet.tally chance sheetName sheetDescription ⟨cabinet, session.store⟩
    Holds place (leftBy result).store.files counted.length (leftBy result).cabinet ∧
      Sound home name description place
        { store := (leftBy result).store
          cabinets := session.cabinets
          sheets := session.sheets ++ (saidBy result).toOption.toList
          counted := counted } := by
  have reckoned := Cabinet.reckoned_newSheet holds.placed (plain.recount _) sound.balanced
    holds.found unused
  have number := sound.toNat_record
  have counting (room : (session.record name description).count.toNat + 1 < UInt32.size) :
      session.counted.length + 1 < UInt32.size ∧
        ((session.record name description).count + 1).toNat = session.counted.length + 1 := by
    have count := toNat_add_one room
    rw [number] at room count
    exact ⟨room, count⟩
  dsimp only
  generalize Cabinet.newSheet chance sheetName sheetDescription ⟨cabinet, session.store⟩ = result
    at reckoned ⊢
  cases reckoned with
  | refused tally untouched =>
    rw [tally, List.append_nil]
    dsimp only [saidBy, Except.toOption, Option.toList]
    rw [List.append_nil]
    exact ⟨holds.untouched untouched, sound.untouched untouched⟩
  | granted tally room balanced granted =>
    obtain ⟨enough, count⟩ := counting room
    rw [tally]
    refine ⟨⟨holds.placed.learn _, granted.folder _ _ holds.found, ?_⟩, ?_⟩
    · rw [List.length_append]
      exact Nat.le_of_eq count
    · refine sound.record enough balanced ?_ granted.folder ?_
      · rintro _ ⟨⟩
        exact count
      · intro other member
        rcases List.mem_append.1 member with old | new
        · obtain ⟨item, free, held⟩ := sound.sheets other old
          have apart : item ≠ sheetName := by
            rintro rfl
            rw [granted.vacant] at held
            cases held
          exact ⟨item, free, (granted.look item free apart).trans held⟩
        · rw [List.mem_singleton.1 new]
          exact ⟨sheetName, granted.free, granted.held⟩
  | lost tally room balanced kept =>
    obtain ⟨enough, -⟩ := counting room
    rw [tally]
    refine ⟨⟨holds.placed, kept.folder _ _ holds.found, ?_⟩, ?_⟩
    · rw [List.length_append]
      exact Nat.le_succ_of_le holds.known
    · dsimp only [saidBy, Except.toOption, Option.toList]
      rw [List.append_nil]
      refine sound.record enough balanced nofun kept.folder ?_
      intro other member
      obtain ⟨item, free, held⟩ := sound.sheets other member
      exact ⟨item, free, (kept.look item free).trans held⟩

end Sound

/-! ## Moves -/

section Moves

variable {home : Path} {name description : String} {place : Location} {session : Session}

theorem sound_openIn (sound : Sound home name description place session)
    (plain : (ControlRecord.mk name description 0).Plain) {called : String} {parent : Path}
    (fits : session.store.files.Fits home (Path.join parent called)) :
    Sound home name description place (session.after (.openIn called parent)) := by
  have quiet := Cabinet.quiet_openIn called parent session.store
  unfold Session.after
  dsimp only
  cases done : Cabinet.openIn called parent session.store with
  | error failure after =>
    rw [done] at quiet
    show Sound home name description place { session with store := after }
    exact sound.untouched (Cabinet.untouched_of_eq place quiet)
  | ok opened after =>
    obtain ⟨same, -, holds⟩ := sound.opened plain fits done
    have still := Cabinet.untouched_of_eq place same
    show Sound home name description place
      { session with store := after, cabinets := session.cabinets ++ [opened] }
    refine (sound.untouched still).withCabinets ?_
    intro cabinet member
    rcases List.mem_append.1 member with old | new
    · exact (sound.cabinets cabinet old).untouched still
    · rw [List.mem_singleton.1 new]
      exact holds.untouched still

theorem sound_newSheet (sound : Sound home name description place session)
    (plain : (ControlRecord.mk name description 0).Plain) {chance : Chance} {holder : Nat}
    {sheetName sheetDescription : String}
    (unused : ∀ cabinet, session.cabinets[holder]? = some cabinet →
      chance.Unused cabinet sheetName sheetDescription session.store) :
    Sound home name description place
      (session.after (.newSheet chance holder sheetName sheetDescription)) := by
  unfold Session.after
  dsimp only
  split
  · exact sound
  · rename_i cabinet held
    have holds := sound.cabinets cabinet (List.mem_of_getElem? held)
    obtain ⟨known, later⟩ := sound.newSheet plain holds (unused cabinet held)
    have every := later.setCabinet holder known
    cases done : Cabinet.newSheet chance sheetName sheetDescription ⟨cabinet, session.store⟩ with
    | error failure office =>
      rw [done] at every
      simpa [saidBy, Except.toOption] using every
    | ok sheet office =>
      rw [done] at every
      exact every

theorem sound_reread (sound : Sound home name description place session)
    (plain : (ControlRecord.mk name description 0).Plain) (holder : Nat) :
    Sound home name description place (session.after (.reread holder)) := by
  unfold Session.after
  dsimp only
  split
  · exact sound
  · rename_i cabinet held
    have holds := sound.cabinets cabinet (List.mem_of_getElem? held)
    rcases Cabinet.reread_cases cabinet session.store with
      ⟨failure, failed⟩ | ⟨record, done, loaded, -⟩
    · rw [failed]
      exact sound.setCabinet holder holds
    · obtain rfl := sound.eq_of_load plain holds.found loaded
      rw [done]
      exact sound.setCabinet holder
        ⟨holds.placed.learn _, holds.found, Nat.le_of_eq sound.toNat_record⟩

theorem sound_write (sound : Sound home name description place session) (index : Nat)
    (step : Step) : Sound home name description place (session.after (.write index step)) := by
  unfold Session.after
  dsimp only
  split
  · exact sound
  · rename_i sheet kept
    have frame := frame_after step ⟨sheet, session.store⟩
    obtain ⟨item, free, held⟩ := sound.sheets sheet (List.mem_of_getElem? kept)
    have untouched := Cabinet.untouched_of_frame frame free held
    refine (sound.untouched untouched).withSheets ?_
    intro other member
    rcases List.mem_or_eq_of_mem_set member with old | new
    · exact (sound.sheets other old).untouched untouched
    · rw [new]
      refine ⟨item, free, ?_⟩
      rw [frame.file, frame.tree, held]

theorem sound_close (sound : Sound home name description place session) (index : Nat) :
    Sound home name description place (session.after (.close index)) := by
  unfold Session.after
  dsimp only
  split
  · exact sound
  · rename_i sheet kept
    have still := Cabinet.untouched_of_eq place (Sheet.files_close sheet session.store)
    refine (sound.untouched still).withSheets ?_
    intro other member
    exact (sound.sheets other (List.mem_of_mem_eraseIdx member)).untouched still

/-- A command for a new sheet does what somebody does who opens the cabinet, asks for the sheet and
writes to it. -/
theorem sound_sheet (sound : Sound home name description place session)
    (plain : (ControlRecord.mk name description 0).Plain) {chance : Chance} {places : Places}
    {called sheetName sheetDescription : String} {entries : List String} {autoSync : Bool}
    (fits : session.store.files.Fits home (Path.join places.root called))
    (unused : chance.UnusedBy places session.store
      (.sheet called sheetName sheetDescription entries autoSync)) :
    Sound home name description place
      (session.after (.errand chance places
        (.sheet called sheetName sheetDescription entries autoSync))) := by
  have quiet := Cabinet.quiet_openIn called places.root session.store
  unfold Session.after Command.run Command.runSheet Command.tally
  dsimp only
  rw [Work.bind_apply]
  cases done : Cabinet.openIn called places.root session.store with
  | error failure after =>
    rw [done] at quiet
    simpa using sound.untouched (Cabinet.untouched_of_eq place quiet)
  | ok opened between =>
    obtain ⟨same, -, holds⟩ := sound.opened plain fits done
    have still := Cabinet.untouched_of_eq place same
    have here := sound.untouched still
    obtain ⟨-, later⟩ := here.newSheet plain (holds.untouched still) (unused opened between done)
    dsimp only at later ⊢
    rw [Work.bind_apply]
    unfold Cabinet.run
    cases granted : Cabinet.newSheet chance sheetName sheetDescription ⟨opened, between⟩ with
    | error failure office =>
      rw [granted] at later
      simpa [saidBy, Except.toOption] using later
    | ok fresh office =>
      rw [granted] at later
      dsimp only [leftBy_ok] at later ⊢
      obtain ⟨item, free, held⟩ := later.sheets fresh (by simp [saidBy, Except.toOption])
      let desk : Desk := ⟨fresh.setAutoSync autoSync, office.store⟩
      have frame := Command.frame_writeEntries entries autoSync desk
      have lies : desk.store.files.tree.get? (place ++ [utf8 item]) =
          some (.file desk.sheet.handle.file) := held
      have untouched := Cabinet.untouched_of_frame frame free lies
      rw [Command.leftBy_run]
      refine (later.untouched untouched).withSheets ?_
      intro other member
      exact (later.sheets other (List.mem_append_left _ member)).untouched untouched

theorem sound_quiet (sound : Sound home name description place session) {α : Type} {work : Work α}
    (quiet : Work.Quiet work) :
    Sound home name description place { session with store := leftBy (work session.store) } :=
  sound.untouched (Cabinet.untouched_of_eq place (quiet session.store))

/-- A command that changes no files gets no new sheet either. -/
theorem sound_quiet_errand (sound : Sound home name description place session) {chance : Chance}
    {places : Places} {command : Command} (quiet : Work.Quiet (command.run chance places))
    (none : command.tally chance places session.store = []) :
    Sound home name description place (session.after (.errand chance places command)) := by
  show Sound home name description place
    { session with
      store := leftBy (command.run chance places session.store)
      counted := session.counted ++ command.tally chance places session.store }
  rw [none, List.append_nil]
  exact sound_quiet sound quiet

theorem sound_errand (sound : Sound home name description place session)
    (plain : (ControlRecord.mk name description 0).Plain) {chance : Chance} {places : Places}
    {command : Command} (allowed : (Move.errand chance places command).Allowed home session) :
    Sound home name description place (session.after (.errand chance places command)) := by
  obtain ⟨⟨called, about, fits⟩, unused⟩ := allowed
  cases command with
  | info other => exact sound_quiet_errand sound (Command.quiet_info places other) rfl
  | list other => exact sound_quiet_errand sound (Command.quiet_list places other) rfl
  | read other sheet => exact sound_quiet_errand sound (Command.quiet_read places other sheet) rfl
  | sheet other sheet text entries autoSync =>
    cases about
    exact sound_sheet sound plain fits unused
  | create other text => cases about
  | remove other => cases about
  | settings errand => cases about

/-- Whatever happens next, all counts stay in step. -/
theorem sound_after (sound : Sound home name description place session)
    (plain : (ControlRecord.mk name description 0).Plain) {move : Move}
    (allowed : move.Allowed home session) :
    Sound home name description place (session.after move) := by
  cases move with
  | openIn called parent => exact sound_openIn sound plain allowed
  | newSheet chance holder sheetName text => exact sound_newSheet sound plain allowed
  | reread holder => exact sound_reread sound plain holder
  | sheetNames holder =>
    unfold Session.after
    dsimp only
    split
    · exact sound
    · exact sound_quiet sound (Cabinet.quiet_sheetNames _)
  | forget holder =>
    exact sound.withCabinets fun cabinet member =>
      sound.cabinets cabinet (List.mem_of_mem_eraseIdx member)
  | takeLock directory =>
    refine sound.untouched (Cabinet.untouched_take sound.balanced.unlinked ?_)
    intro other found
    exact Except.ok.inj ((allowed other found).symm.trans sound.balanced.within.folder)
  | releaseLock file =>
    exact sound.untouched (Cabinet.untouched_of_upToLock (.same (sameBut_unlock _ file)))
  | write index step => exact sound_write sound index step
  | close index => exact sound_close sound index
  | errand chance places command => exact sound_errand sound plain allowed

end Moves

/-! ## Whole sessions -/

/-- From when the cabinet was made, all counts are in step. -/
theorem sound_of_reached {draft : Draft} {name description : String} {parent : Path}
    {store made : Store} {first : Cabinet}
    (created : Cabinet.create draft name description parent store = .ok first made)
    {session : Session} (reached : Reached first made session) :
    (ControlRecord.mk name description 0).Plain ∧
      ∃ place, Sound first.directory name description place session := by
  obtain ⟨place, fresh⟩ := Cabinet.made_of_create created
  have plain := ControlRecord.plain_of_check fresh.named fresh.described 0
  refine ⟨plain, place, ?_⟩
  -- by induction on the moves; the place of the cabinet is the one where it was made
  induction reached with
  | start =>
    have balanced := Cabinet.balanced_of_made fresh
    rw [fresh.cabinet_eq] at created ⊢
    have room : 0 < UInt32.size := by decide
    refine ⟨balanced, room, nofun, ?_, fun _ absurd => by cases absurd⟩
    intro cabinet member
    rw [List.mem_singleton.1 member]
    exact ⟨Cabinet.placed_of_create created, balanced.within.folder, Nat.le_refl 0⟩
  | next _ allowed ih => exact sound_after ih plain allowed

/-- What is told of a cabinet whose counts are in step. -/
theorem Sound.notes_of_info {home : Path} {name description : String} {place : Location}
    {session : Session} (sound : Sound home name description place session)
    (plain : (ControlRecord.mk name description 0).Plain) {places : Places} {called : String}
    {report : Report} {after : Store}
    (fits : session.store.files.Fits home (Path.join places.root called))
    (done : Command.runInfo places called session.store = .ok report after) :
    report.notes = [] ↔ none ∉ session.counted := by
  obtain ⟨opened, between, first, rest⟩ := Work.bind_eq_ok.1 done
  obtain ⟨names, later, listed, rest⟩ := Work.bind_eq_ok.1 rest
  obtain ⟨same, known, holds⟩ := sound.opened plain fits first
  have found : between.files.folder opened.directory = .ok place := by
    rw [same]
    exact holds.found
  obtain ⟨-, number⟩ := Work.listItems_eq_ok found listed
  rw [same, sound.balanced.listed] at number
  cases rest
  unfold Command.countNotes
  rw [number, known, ← session.length_granted_iff]
  split <;> simp_all

/-- The counts of a cabinet agree: the k-th sheet that was granted left a count of k with whoever asked,
the control file counts all of them, as many names are listed, nobody who has the cabinet open counts
more, and whoever asks about the cabinet is not told of a mismatch. -/
structure Agree (home : Path) (session : Session) : Prop where
  inOrder : session.granted.map UInt32.toNat = List.range' 1 session.granted.length
  recorded : ∃ record, ControlRecord.load home session.store = .ok record session.store ∧
    record.count.toNat = session.granted.length
  listed : ∃ names, Work.listItems home session.store = .ok names session.store ∧
    names.length = session.granted.length
  known : ∀ cabinet ∈ session.cabinets, cabinet.count.toNat ≤ session.granted.length
  told : ∀ chance places called report after,
    session.store.files.Fits home (Path.join places.root called) →
    Command.run chance places (.info called) session.store = .ok report after → report.notes = []

/-- Whatever happens to a cabinet from when it was made: the control file counts the sheets that were
granted, and those that were counted and then lost because the directory could not be synced; whoever
was granted the k-th of all these counts k then, and nobody who has the cabinet open counts more than
the control file; as many names are listed as were granted. So all the counts agree exactly if no sheet
was lost. -/
theorem counts_agree_iff {draft : Draft} {name description : String} {parent : Path}
    {store made : Store} {first : Cabinet}
    (created : Cabinet.create draft name description parent store = .ok first made)
    {session : Session} (reached : Reached first made session) :
    (∀ k count, session.counted[k]? = some (some count) → count.toNat = k + 1) ∧
    (∃ record, ControlRecord.load first.directory session.store = .ok record session.store ∧
      record.name = name ∧ record.description = description ∧
      record.count.toNat = session.counted.length) ∧
    (∃ names, Work.listItems first.directory session.store = .ok names session.store ∧
      names.length = session.granted.length) ∧
    (∀ cabinet ∈ session.cabinets, cabinet.count.toNat ≤ session.counted.length) ∧
    (∀ chance places called report after,
      session.store.files.Fits first.directory (Path.join places.root called) →
      Command.run chance places (.info called) session.store = .ok report after →
      (report.notes = [] ↔ none ∉ session.counted)) ∧
    (Agree first.directory session ↔ none ∉ session.counted) := by
  obtain ⟨plain, place, sound⟩ := sound_of_reached created reached
  have within := sound.balanced.within
  obtain ⟨id, stands⟩ := sound.balanced.control
  have present : first.directory ≠ "" := (Cabinet.placed_of_create created).directory_ne_empty
  have loaded : ControlRecord.load first.directory session.store =
      .ok (session.record name description) session.store :=
    ControlRecord.load_of_stands (plain.recount _) within stands
  have listed := Work.listItems_of_folder
    (checkPath_of_join component_controlName present within.askable) within.folder
  have number := (Work.length_sortNames _).trans sound.balanced.listed
  have known := fun cabinet member => (sound.cabinets cabinet member).known
  refine ⟨sound.inOrder, ⟨_, loaded, rfl, rfl, sound.toNat_record⟩, ⟨_, listed, number⟩, known,
    fun _ _ _ _ _ fits done => sound.notes_of_info plain fits done, ?_⟩
  rw [← session.length_granted_iff]
  constructor
  · rintro ⟨-, ⟨record, again, count⟩, -, -, -⟩
    rw [loaded] at again
    cases again
    exact count.symm.trans sound.toNat_record
  · intro all
    have none := session.length_granted_iff.1 all
    refine ⟨session.granted_in_order sound.inOrder none, ⟨_, loaded, ?_⟩, ⟨_, listed, number⟩, ?_,
      fun _ _ _ _ _ fits done => (sound.notes_of_info plain fits done).2 none⟩
    · exact sound.toNat_record.trans all.symm
    · rw [all]
      exact known

/-- The one who made the cabinet gets a sheet, then another who opened it later, and then the first asks
for the same name, knowing of one sheet only. -/
theorem counts_agree_iff_two :
    ∃ first made session, Cabinet.create default "c" "d" "" { files := {} } = .ok first made ∧
      Reached first made session ∧ session.granted = [1, 2] ∧ Agree first.directory session := by
  let start (first : Cabinet) (made : Store) : Session := { store := made, cabinets := [first] }
  let once (first : Cabinet) (made : Store) := (start first made).after (.newSheet default 0 "a" "")
  let opened (first : Cabinet) (made : Store) := (once first made).after (.openIn "c" "")
  let twice (first : Cabinet) (made : Store) :=
    (opened first made).after (.newSheet default 1 "b" "")
  let whole (first : Cabinet) (made : Store) := (twice first made).after (.newSheet default 0 "b" "")
  have facts : Work.passes (fun first made => decide
      ((Move.newSheet default 0 "a" "").Allowed first.directory (start first made) ∧
        (Move.openIn "c" "").Allowed first.directory (once first made) ∧
        (Move.newSheet default 1 "b" "").Allowed first.directory (opened first made) ∧
        (Move.newSheet default 0 "b" "").Allowed first.directory (twice first made) ∧
        (whole first made).counted = [some 1, some 2]))
      (Cabinet.create default "c" "d" "" { files := {} }) = true := by decide +kernel
  obtain ⟨first, made, created, facts⟩ := Work.exists_of_passes facts
  obtain ⟨one, two, three, four, counted⟩ := of_decide_eq_true facts
  have reached : Reached first made (whole first made) :=
    .next (.next (.next (.next .start one) two) three) four
  obtain ⟨-, -, -, -, -, agree⟩ := counts_agree_iff created reached
  refine ⟨first, made, _, created, reached, congrArg List.reduceOption counted, agree.2 ?_⟩
  rw [counted]
  decide

/-- The one who made the cabinet asks for a sheet, and the directory cannot be synced when the sheet is
counted: it is not handed out, and counted all the same. -/
theorem not_agree_of_unsynced :
    ∃ first made session record, Cabinet.create default "c" "d" "" { files := {} } = .ok first made ∧
      Reached first made session ∧ session.granted = [] ∧
      (∃ after, Work.listItems first.directory session.store = .ok [] after) ∧
      ControlRecord.load first.directory session.store = .ok record session.store ∧
      record.count = 1 ∧ ¬Agree first.directory session := by
  let chance : Chance := { draft := { uuid := default, unsynced := some .syncFailed } }
  let start (first : Cabinet) (made : Store) : Session := { store := made, cabinets := [first] }
  let whole (first : Cabinet) (made : Store) := (start first made).after (.newSheet chance 0 "s" "")
  have facts : Work.passes (fun first made =>
      let session := whole first made
      (Move.newSheet chance 0 "s" "").Allowed first.directory (start first made) &&
        session.granted = [] &&
        Work.passes (fun names _ => names = []) (Work.listItems first.directory session.store) &&
        Work.passes (fun record _ => record.count = 1)
          (ControlRecord.load first.directory session.store))
      (Cabinet.create default "c" "d" "" { files := {} }) = true := by decide +kernel
  obtain ⟨first, made, created, facts⟩ := Work.exists_of_passes facts
  simp only [Bool.and_eq_true, decide_eq_true_eq] at facts
  obtain ⟨⟨⟨allowed, granted⟩, lists⟩, loads⟩ := facts
  obtain ⟨names, left, listed, none⟩ := Work.exists_of_passes lists
  obtain ⟨record, after, loaded, one⟩ := Work.exists_of_passes loads
  obtain rfl := of_decide_eq_true none
  obtain ⟨rfl, -⟩ := ControlRecord.load_eq_ok loaded
  have count := of_decide_eq_true one
  refine ⟨first, made, whole first made, record, created, .next .start allowed,
    granted, ⟨left, listed⟩, loaded, count, fun agree => ?_⟩
  obtain ⟨other, again, same⟩ := agree.recorded
  rw [loaded] at again
  cases again
  rw [count, granted] at same
  exact absurd same (by decide)

end SheetCabinet
