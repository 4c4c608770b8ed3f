import Mathlib.Data.List.ReduceOption
import SheetCabinet.Command
import SheetCabinet.Proofs.Cabinet.Balance

/-!
# Sessions of a cabinet

Several hold the same cabinet open, each knowing of it what they read or counted last. They ask for
new sheets, read the control file again, list the sheets, take and give back the lock, write to the
sheets they got, and carry out commands, in any order, while nobody else touches the directory.

Results:
* commands that only tell are quiet (`quiet_info`, `quiet_list`, `quiet_read`), and those that write
  touch the sheet they write to (`frame_writeEntries`).
-/

namespace SheetCabinet

/-! ## What commands do to the files -/

namespace Command

theorem quiet_info (places : Places) (name : String) : Work.Quiet (runInfo places name) := by
  refine (Cabinet.quiet_openIn name places.root).bind ?_
  intro cabinet
  exact (Cabinet.quiet_sheetNames cabinet).bind fun _ => .pure _

theorem quiet_listings (cabinet : Cabinet) (names : List String) :
    Work.Quiet (listings cabinet names) := by
  induction names with
  | nil => exact .pure _
  | cons name rest ih => exact (Work.Quiet.query _).bind fun _ => ih.bind fun _ => .pure _

theorem quiet_list (places : Places) (name : String) : Work.Quiet (runList places name) := by
  refine (Cabinet.quiet_openIn name places.root).bind ?_
  intro cabinet
  refine (Cabinet.quiet_sheetNames cabinet).bind ?_
  intro names
  exact (quiet_listings cabinet names).bind fun _ => .pure _

theorem quiet_contents (path : Path) : Work.Quiet (Contents.load path) := by
  refine (Work.Quiet.readText path).bind ?_
  intro text
  split
  · exact .pure _
  · exact .throw _

theorem quiet_read (places : Places) (cabinet sheet : String) :
    Work.Quiet (runRead places cabinet sheet) := by
  refine (Cabinet.quiet_openIn cabinet places.root).bind ?_
  intro opened
  refine (Work.Quiet.accept _).bind ?_
  intro _
  exact (quiet_contents _).bind fun _ => .pure _

/-- Committing entries touches the sheet they are committed to. -/
theorem frame_writeEntries (entries : List String) (autoSync : Bool) (desk : Desk) :
    Frame desk (leftBy (writeEntries entries autoSync desk)) := by
  refine frame_bind (frame_writeAll entries) (fun _ later => ?_) desk
  cases autoSync with
  | true => exact .refl later
  | false => exact frame_sync later

/-- However the work on a sheet ends, its store is what is left when the sheet is closed. -/
theorem leftBy_run {α β : Type} (sheet : Sheet) (work : Sheet.Writing α) (value : β) (store : Store) :
    leftBy ((sheet.run work >>= fun _ => (pure value : Work β)) store) =
      (leftBy (work ⟨sheet, store⟩)).store := by
  rw [Work.bind_apply]
  unfold Sheet.run
  cases work ⟨sheet, store⟩ <;> rfl

end Command

/-! ## Sessions -/

/-- With one more at the end, each is one of those before or the last. -/
theorem getElem?_push {α : Type} {items : List α} {item found : α} {index : Nat}
    (held : (items ++ [item])[index]? = some found) :
    items[index]? = some found ∨ index = items.length ∧ found = item := by
  rw [List.getElem?_append] at held
  split at held
  · exact .inl held
  · rename_i beyond
    obtain ⟨here, same⟩ := List.getElem?_eq_some_iff.1 held
    rw [List.length_singleton] at here
    refine .inr ⟨by omega, ?_⟩
    rw [← same, List.getElem_singleton]

structure Session where
  store : Store
  /-- What those who have the cabinet open know of it. -/
  cabinets : List Cabinet
  /-- The sheets that were handed out and are open. -/
  sheets : List Sheet := []
  /-- The requests for a new sheet that raised the count in the control file, in their order: the count
  that was left with whoever asked, if the request was granted. -/
  counted : List (Option UInt32) := []

/-- What can happen to a cabinet that is in use. Those who have it open, and the open sheets, are
told apart by their number. -/
inductive Move
  | openIn (name : String) (parent : Path)
  | newSheet (chance : Chance) (holder : Nat) (name description : String)
  | reread (holder : Nat)
  | sheetNames (holder : Nat)
  | forget (holder : Nat)
  | takeLock (directory : Path)
  | releaseLock (file : FileId)
  | write (sheet : Nat) (step : Step)
  | close (sheet : Nat)
  | errand (chance : Chance) (places : Places) (command : Command)

/-- What a command adds to the counts that were recorded. -/
def Command.tally (chance : Chance) (places : Places) (store : Store) :
    Command → List (Option UInt32)
  | .sheet cabinet name description _ _ =>
    match Cabinet.openIn cabinet places.root store with
    | .ok opened after => Cabinet.tally chance name description ⟨opened, after⟩
    | .error _ _ => []
  | _ => []

/-- When a command replaces the control file for a new sheet, nothing in the directory of the cabinet
has the name of the draft. -/
def Chance.UnusedBy (chance : Chance) (places : Places) (store : Store) : Command → Prop
  | .sheet cabinet name description _ _ => ∀ opened after,
    Cabinet.openIn cabinet places.root store = .ok opened after →
      chance.Unused opened name description after
  | _ => True

instance (chance : Chance) (places : Places) (store : Store) (command : Command) :
    Decidable (chance.UnusedBy places store command) :=
  match command with
  | .sheet cabinet name description _ _ =>
    match done : Cabinet.openIn cabinet places.root store with
    | .ok opened after => decidable_of_iff (chance.Unused opened name description after)
        ⟨fun unused _ _ same => by cases done.symm.trans same; exact unused,
          fun unused => unused opened after done⟩
    | .error _ _ => .isTrue fun _ _ same => nomatch done.symm.trans same
  | .create .. | .info _ | .list _ | .read .. | .remove _ | .settings _ => .isTrue trivial

/-- The name of the cabinet that a command works on, if it is one that works on a cabinet that stays
where it is. -/
def Command.called : Command → Option String
  | .info name | .list name | .read name _ | .sheet name _ _ _ _ => some name
  | .create _ _ | .remove _ | .settings _ => none

namespace Session

/-- The counts that were left with those who got a new sheet, in their order. -/
def granted (session : Session) : List UInt32 := session.counted.reduceOption

def after (session : Session) : Move → Session
  | .openIn name parent =>
    match Cabinet.openIn name parent session.store with
    | .ok opened after =>
      { session with store := after, cabinets := session.cabinets ++ [opened] }
    | .error _ after => { session with store := after }
  | .newSheet chance holder name description =>
    match session.cabinets[holder]? with
    | none => session
    | some cabinet =>
      let counted := session.counted ++
        Cabinet.tally chance name description ⟨cabinet, session.store⟩
      match Cabinet.newSheet chance name description ⟨cabinet, session.store⟩ with
      | .ok sheet office =>
        { store := office.store
          cabinets := session.cabinets.set holder office.cabinet
          sheets := session.sheets ++ [sheet]
          counted := counted }
      | .error _ office =>
        { store := office.store
          cabinets := session.cabinets.set holder office.cabinet
          sheets := session.sheets
          counted := counted }
  | .reread holder =>
    match session.cabinets[holder]? with
    | none => session
    | some cabinet =>
      let office := leftBy (Cabinet.reread ⟨cabinet, session.store⟩)
      { session with
        store := office.store, cabinets := session.cabinets.set holder office.cabinet }
  | .sheetNames holder =>
    match session.cabinets[holder]? with
    | none => session
    | some cabinet => { session with store := leftBy (cabinet.sheetNames session.store) }
  | .forget holder => { session with cabinets := session.cabinets.eraseIdx holder }
  | .takeLock directory =>
    { session with store := leftBy (ControlLock.take directory session.store) }
  | .releaseLock file => { session with store := ControlLock.release file session.store }
  | .write index step =>
    match session.sheets[index]? with
    | none => session
    | some sheet =>
      let desk := step.after ⟨sheet, session.store⟩
      { session with store := desk.store, sheets := session.sheets.set index desk.sheet }
  | .close index =>
    match session.sheets[index]? with
    | none => session
    | some sheet =>
      { session with
        store := sheet.close session.store, sheets := session.sheets.eraseIdx index }
  | .errand chance places command =>
    { session with
      store := leftBy (command.run chance places session.store)
      counted := session.counted ++ command.tally chance places session.store }

end Session

/-- A path leads to the directory that another path leads to, if it leads to one at all. -/
def FileSystem.Fits (files : FileSystem) (home path : Path) : Prop :=
  ∀ place, files.folder path = .ok place → files.folder home = .ok place

instance FileSystem.instDecidableFits (files : FileSystem) (home path : Path) :
    Decidable (files.Fits home path) :=
  match found : files.folder path with
  | .ok place => decidable_of_iff (files.folder home = .ok place)
      ⟨fun same _ led => same.trans (found.symm.trans led), fun fits => fits place found⟩
  | .error _ => .isTrue fun _ led => nomatch found.symm.trans led

/-- A move is about no other cabinet, and no draft is in its way. -/
def Move.Allowed (home : Path) (session : Session) : Move → Prop
  | .openIn name parent => session.store.files.Fits home (Path.join parent name)
  | .newSheet chance holder name description => ∀ cabinet, session.cabinets[holder]? = some cabinet →
    chance.Unused cabinet name description session.store
  | .takeLock directory => session.store.files.Fits home directory
  | .errand chance places command =>
    (∃ name, command.called = some name ∧
      session.store.files.Fits home (Path.join places.root name)) ∧
      chance.UnusedBy places session.store command
  | .reread _ | .sheetNames _ | .forget _ | .releaseLock _ | .write _ _ | .close _ => True

instance (home : Path) (session : Session) (move : Move) : Decidable (move.Allowed home session) :=
  match move with
  | .openIn name parent =>
    inferInstanceAs (Decidable (session.store.files.Fits home (Path.join parent name)))
  | .newSheet chance holder name description =>
    inferInstanceAs (Decidable (∀ cabinet, session.cabinets[holder]? = some cabinet →
      chance.Unused cabinet name description session.store))
  | .takeLock directory => inferInstanceAs (Decidable (session.store.files.Fits home directory))
  | .errand chance places command =>
    inferInstanceAs (Decidable ((∃ name, command.called = some name ∧
      session.store.files.Fits home (Path.join places.root name)) ∧
      chance.UnusedBy places session.store command))
  | .reread _ | .sheetNames _ | .forget _ | .releaseLock _ | .write .. | .close _ => .isTrue trivial

/-- The sessions of a cabinet from when it was made. -/
inductive Reached (first : Cabinet) (made : Store) : Session → Prop
  | start : Reached first made { store := made, cabinets := [first] }
  | next {session : Session} {move : Move} (reached : Reached first made session)
      (allowed : move.Allowed first.directory session) : Reached first made (session.after move)

end SheetCabinet
