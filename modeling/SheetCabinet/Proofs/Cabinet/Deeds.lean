import SheetCabinet.Proofs.Cabinet.Containment

/-!
# Runs of deeds

A cabinet is made, opened by several, given sheets, written to and removed, and perhaps made anew, in
any order and with any names, in a store that holds anything else.

Results:
* after every run only what is at the place of the cabinet or below it is different
  (`contained_run`);
* a new sheet is a file of its own in the cabinet's directory, and making a cabinet is undone by
  removing it, whatever was done with it meanwhile (`run_stays_inside`).
-/

namespace SheetCabinet

open FileSystem

namespace Cabinet

/-! ## Deeds -/

/-- What can be done with the cabinet of a name in a directory. Those who have it open, and the open
sheets, are told apart by their number. -/
inductive Deed
  | create (draft : Draft) (description : String)
  | openIn
  | newSheet (chance : Chance) (holder : Nat) (item description : String)
  | reread (holder : Nat)
  | saveRecord (draft : Draft) (holder : Nat)
  | write (sheet : Nat) (step : Step)
  | close (sheet : Nat)
  | remove

def Deed.after (parent : Path) (name : String) (session : Session) : Deed → Session
  | .create draft description =>
    match Cabinet.create draft name description parent session.store with
    | .ok cabinet after =>
      { session with store := after, cabinets := session.cabinets ++ [cabinet] }
    | .error _ after => { session with store := after }
  | .openIn => session.after (.openIn name parent)
  | .newSheet chance holder item description =>
    session.after (.newSheet chance holder item description)
  | .reread holder => session.after (.reread holder)
  | .saveRecord draft holder =>
    match session.cabinets[holder]? with
    | none => session
    | some cabinet => { session with store := leftBy (cabinet.saveRecord draft session.store) }
  | .write index step => session.after (.write index step)
  | .close index => session.after (.close index)
  | .remove => { session with store := leftBy (Cabinet.remove name parent session.store) }

def runDeeds (parent : Path) (name : String) (session : Session) (deeds : List Deed) : Session :=
  deeds.foldl (fun session deed => deed.after parent name session) session

/-- No draft is in the way of a deed. -/
def Deed.Unused (session : Session) : Deed → Prop
  | .newSheet chance holder item description => ∀ cabinet, session.cabinets[holder]? = some cabinet →
    chance.Unused cabinet item description session.store
  | .saveRecord draft holder => ∀ cabinet, session.cabinets[holder]? = some cabinet →
    draft.Unused session.store.files cabinet.directory
  | _ => True

instance (session : Session) (deed : Deed) : Decidable (deed.Unused session) :=
  match deed with
  | .newSheet chance holder item description =>
    inferInstanceAs (Decidable (∀ cabinet, session.cabinets[holder]? = some cabinet →
      chance.Unused cabinet item description session.store))
  | .saveRecord draft holder =>
    inferInstanceAs (Decidable (∀ cabinet, session.cabinets[holder]? = some cabinet →
      draft.Unused session.store.files cabinet.directory))
  | .create .. | .openIn | .reread _ | .write .. | .close _ | .remove => .isTrue trivial

/-- Nor of any deed of a run, when its turn comes. -/
def AllUnused (parent : Path) (name : String) (session : Session) : List Deed → Prop
  | [] => True
  | deed :: rest =>
    deed.Unused session ∧ AllUnused parent name (deed.after parent name session) rest

instance decidableAllUnused (parent : Path) (name : String) (session : Session) :
    (deeds : List Deed) → Decidable (AllUnused parent name session deeds)
  | [] => .isTrue trivial
  | deed :: rest =>
    have := decidableAllUnused parent name (deed.after parent name session) rest
    inferInstanceAs (Decidable (deed.Unused session ∧ _))

/-- Nothing has changed but below the place of the cabinet. Whoever has a cabinet open has this one,
and whoever has a sheet open has one that is there or gone. -/
structure Contained (start : FileSystem) (parent : Path) (name : String) (session : Session) :
    Prop where
  confined : Confined (start.Below parent name) start session.store.files
  cabinets : ∀ cabinet ∈ session.cabinets,
    cabinet.Placed ∧ cabinet.parent = parent ∧ cabinet.name = name
  sheets : ∀ sheet ∈ session.sheets, ∀ place,
    session.store.files.tree.get? place = some (.file sheet.handle.file) →
      start.Below parent name place

namespace Contained

variable {start : FileSystem} {parent : Path} {name : String} {session : Session}

/-- The sheets that are open stay in the region. -/
theorem sheets_kept (contained : Contained start parent name session) {files : FileSystem}
    (confined : Confined (start.Below parent name) start files) {sheet : Sheet}
    (member : sheet ∈ session.sheets) {place : Location}
    (held : files.tree.get? place = some (.file sheet.handle.file)) :
    start.Below parent name place := by
  by_contra outside
  rw [confined.look place outside, ← contained.confined.look place outside] at held
  exact outside (contained.sheets sheet member place held)

/-- Something was done in the region. -/
theorem withStore (contained : Contained start parent name session) {store : Store}
    (confined : Confined (start.Below parent name) start store.files) :
    Contained start parent name { session with store := store } where
  confined := confined
  cabinets := contained.cabinets
  sheets _ member _ held := contained.sheets_kept confined member held

/-- Someone opened the cabinet. -/
theorem withCabinet (contained : Contained start parent name session) {cabinet : Cabinet}
    (placed : cabinet.Placed) (same : cabinet.parent = parent ∧ cabinet.name = name) :
    Contained start parent name
      { session with cabinets := session.cabinets ++ [cabinet] } where
  confined := contained.confined
  cabinets other member := by
    rcases List.mem_append.1 member with before | new
    · exact contained.cabinets other before
    · rw [List.mem_singleton.1 new]
      exact ⟨placed, same⟩
  sheets := contained.sheets

/-- Someone who has the cabinet open knows more of it now. -/
theorem setCabinet (contained : Contained start parent name session) {holder : Nat}
    {cabinet fresh : Cabinet} (held : session.cabinets[holder]? = some cabinet)
    (same : fresh = cabinet ∨ ∃ record, fresh = cabinet.learn record) :
    Contained start parent name
      { session with cabinets := session.cabinets.set holder fresh } where
  confined := contained.confined
  cabinets other member := by
    have known := contained.cabinets cabinet (List.mem_of_getElem? held)
    rcases List.mem_or_eq_of_mem_set member with before | rfl
    · exact contained.cabinets other before
    · rcases same with rfl | ⟨record, rfl⟩
      · exact known
      · exact ⟨known.1.learn record, known.2⟩
  sheets := contained.sheets

end Contained

variable {start : FileSystem} {parent : Path} {name : String} {session : Session}

theorem contained_create (bare : Bare (start.Below parent name) start)
    (contained : Contained start parent name session) (draft : Draft) (description : String) :
    Contained start parent name ((Deed.create draft description).after parent name session) := by
  have kept := confined_create bare contained.confined draft description
  unfold Deed.after
  dsimp only
  cases done : create draft name description parent session.store with
  | error failure after =>
    rw [done] at kept
    exact contained.withStore kept
  | ok cabinet after =>
    rw [done] at kept
    obtain ⟨place, made⟩ := made_of_create done
    refine (contained.withStore kept).withCabinet (placed_of_create done) ?_
    rw [made.cabinet_eq]
    exact ⟨rfl, rfl⟩

theorem contained_openIn (contained : Contained start parent name session) :
    Contained start parent name (Deed.openIn.after parent name session) := by
  have same := quiet_openIn name parent session.store
  unfold Deed.after Session.after
  dsimp only
  cases done : openIn name parent session.store with
  | error failure after =>
    rw [done] at same
    exact contained.withStore (same ▸ contained.confined)
  | ok cabinet after =>
    rw [done] at same
    obtain ⟨-, record, -, -, rfl⟩ := openIn_eq_ok done
    exact (contained.withStore (same ▸ contained.confined)).withCabinet (placed_of_openIn done)
      ⟨rfl, rfl⟩

theorem contained_newSheet (bare : Bare (start.Below parent name) start)
    (contained : Contained start parent name session) {chance : Chance} {holder : Nat}
    {item description : String}
    (unused : (Deed.newSheet chance holder item description).Unused session) :
    Contained start parent name
      ((Deed.newSheet chance holder item description).after parent name session) := by
  unfold Deed.after Session.after
  dsimp only
  split
  · exact contained
  · rename_i cabinet held
    obtain ⟨placed, rfl, rfl⟩ := contained.cabinets cabinet (List.mem_of_getElem? held)
    have kept := confined_newSheet placed bare contained.confined (unused cabinet held)
    have learns := cabinet_of_newSheet cabinet chance item description session.store
    cases done : newSheet chance item description ⟨cabinet, session.store⟩ with
    | error failure office =>
      rw [done] at kept learns
      have both := (contained.withStore kept).setCabinet held learns
      exact ⟨both.confined, both.cabinets, both.sheets⟩
    | ok sheet office =>
      rw [done] at kept learns
      obtain ⟨outer, record, found, -, added⟩ :=
        added_of_newSheet placed bare contained.confined (unused cabinet held) done
      have both := (contained.withStore kept).setCabinet held learns
      refine ⟨both.confined, both.cabinets, ?_⟩
      intro other member place shown
      rcases List.mem_append.1 member with before | new
      · exact both.sheets other before place shown
      · -- the new sheet is at its own place and nowhere else
        rw [List.mem_singleton.1 new] at shown
        rw [added.sheet_stands.only place shown]
        exact ⟨outer, found, List.prefix_append _ _⟩

theorem contained_reread (contained : Contained start parent name session) (holder : Nat) :
    Contained start parent name ((Deed.reread holder).after parent name session) := by
  unfold Deed.after Session.after
  dsimp only
  split
  · exact contained
  · rename_i cabinet held
    rcases reread_cases cabinet session.store with ⟨failure, failed⟩ | ⟨record, done, -, -⟩
    · rw [failed]
      exact contained.setCabinet held (.inl rfl)
    · rw [done]
      exact contained.setCabinet held (.inr ⟨record, rfl⟩)

theorem contained_saveRecord (bare : Bare (start.Below parent name) start)
    (contained : Contained start parent name session) {draft : Draft} {holder : Nat}
    (unused : (Deed.saveRecord draft holder).Unused session) :
    Contained start parent name ((Deed.saveRecord draft holder).after parent name session) := by
  unfold Deed.after
  dsimp only
  split
  · exact contained
  · rename_i cabinet held
    obtain ⟨placed, rfl, rfl⟩ := contained.cabinets cabinet (List.mem_of_getElem? held)
    exact contained.withStore
      (confined_saveRecord placed bare contained.confined (unused cabinet held))

theorem contained_write (contained : Contained start parent name session) (index : Nat)
    (step : Step) :
    Contained start parent name ((Deed.write index step).after parent name session) := by
  unfold Deed.after Session.after
  dsimp only
  split
  · exact contained
  · rename_i sheet held
    have frame := frame_after step ⟨sheet, session.store⟩
    have own := contained.sheets sheet (List.mem_of_getElem? held)
    have kept := contained.withStore (contained.confined.trans (confined_of_frame frame own))
    refine ⟨kept.confined, kept.cabinets, ?_⟩
    intro other member place shown
    rcases List.mem_or_eq_of_mem_set member with before | rfl
    · exact kept.sheets other before place shown
    · refine own place ?_
      rw [frame.file] at shown
      rw [← frame.tree]
      exact shown

theorem contained_close (contained : Contained start parent name session) (index : Nat) :
    Contained start parent name ((Deed.close index).after parent name session) := by
  unfold Deed.after Session.after
  dsimp only
  split
  · exact contained
  · rename_i sheet held
    have left : Confined (start.Below parent name) start (sheet.close session.store).files :=
      (Sheet.files_close sheet session.store).symm ▸ contained.confined
    have kept := contained.withStore left
    exact ⟨kept.confined, kept.cabinets,
      fun other member => kept.sheets other (List.mem_of_mem_eraseIdx member)⟩

/-- Whatever is done with the cabinet, it is done in the region. -/
theorem contained_after (bare : Bare (start.Below parent name) start)
    (contained : Contained start parent name session) {deed : Deed} (unused : deed.Unused session) :
    Contained start parent name (deed.after parent name session) := by
  cases deed with
  | create draft description => exact contained_create bare contained draft description
  | openIn => exact contained_openIn contained
  | newSheet chance holder item description => exact contained_newSheet bare contained unused
  | reread holder => exact contained_reread contained holder
  | saveRecord draft holder => exact contained_saveRecord bare contained unused
  | write index step => exact contained_write contained index step
  | close index => exact contained_close contained index
  | remove => exact contained.withStore (confined_remove bare contained.confined)

theorem contained_run (bare : Bare (start.Below parent name) start)
    (contained : Contained start parent name session) {deeds : List Deed}
    (unused : AllUnused parent name session deeds) :
    Contained start parent name (runDeeds parent name session deeds) := by
  induction deeds generalizing session with
  | nil => exact contained
  | cons deed rest ih => exact ih (contained_after bare contained unused.1) unused.2

theorem bare_of_noLink (noLink : ∀ outer, start.folder parent = .ok outer → ∀ rest target,
    start.item (outer ++ [utf8 name] ++ rest) ≠ some (.link target)) :
    Bare (start.Below parent name) start := by
  rintro place target ⟨outer, found, rest, rfl⟩ held
  refine noLink outer found rest target ?_
  unfold FileSystem.item
  rw [held]
  rfl

/-- A cabinet that was removed, after it was made where nothing was, has left nothing. -/
theorem item_of_removed {store after : Store} {outer : Location}
    (bare : Bare (start.Below parent name) start)
    (confined : Confined (start.Below parent name) start store.files)
    (found : start.folder parent = .ok outer)
    (vacant : start.tree.get? (outer ++ [utf8 name]) = none)
    (removed : remove name parent store = .ok () after) (place : Location) :
    after.files.item place = start.item place := by
  obtain ⟨other, led, files⟩ := remove_eq_ok removed
  obtain rfl : outer = other :=
    Except.ok.inj (found.symm.trans (folder_of_confined confined bare led))
  rw [files, item_clear]
  split
  · rename_i below
    obtain ⟨rest, rfl⟩ := below.2
    exact (item_below_vacant vacant rest).symm
  · rename_i aside
    refine confined.item place ?_
    rintro ⟨other, led, below⟩
    obtain rfl : outer = other := Except.ok.inj (found.symm.trans led)
    refine aside ⟨?_, below⟩
    rintro rfl
    exact absurd (List.prefix_nil.1 below) (by simp)

/-- Whatever the names and the path are: what is done with the cabinet of a name in a directory
changes nothing outside of its own place, as long as no symbolic link is there; a new sheet is a file
in the cabinet's directory with a name that the cabinet does not keep for itself; and when the cabinet
is removed everything is again as it was before it was made. -/
theorem run_stays_inside (parent : Path) (name : String) (start : Store)
    (noLink : ∀ outer, start.files.folder parent = .ok outer → ∀ rest target,
      start.files.item (outer ++ [utf8 name] ++ rest) ≠ some (.link target)) :
    let session (deeds : List Deed) := runDeeds parent name { store := start, cabinets := [] } deeds
    (∀ deeds place, AllUnused parent name { store := start, cabinets := [] } deeds →
      (∀ outer, start.files.folder parent = .ok outer → ¬outer ++ [utf8 name] <+: place) →
        (session deeds).store.files.item place = start.files.item place) ∧
    (∀ deeds chance (holder : Nat) (cabinet : Cabinet) (sheet : Sheet) item description office,
      AllUnused parent name { store := start, cabinets := [] } deeds →
      (session deeds).cabinets[holder]? = some cabinet →
      chance.Unused cabinet item description (session deeds).store →
      newSheet chance item description ⟨cabinet, (session deeds).store⟩ = .ok sheet office →
        sheet.path = Path.join (Path.join parent name) item ∧
        ∃ outer, start.files.folder parent = .ok outer ∧
          (∀ place, office.store.files.tree.get? place = some (.file sheet.handle.file) ↔
            place = outer ++ [utf8 name] ++ [utf8 item]) ∧
          isReserved item = false ∧ item ≠ controlName ∧ item ≠ lockName ∧
          ∀ draft : Draft, item ≠ draft.name) ∧
    ∀ draft description cabinet made deeds after,
      create draft name description parent start = .ok cabinet made →
      AllUnused parent name { store := made, cabinets := [cabinet] } deeds →
      remove name parent
        (runDeeds parent name { store := made, cabinets := [cabinet] } deeds).store = .ok () after →
        ∀ place, after.files.item place = start.files.item place := by
  have bare := bare_of_noLink noLink
  have begin : Contained start.files parent name { store := start, cabinets := [] } :=
    ⟨.refl _ _, by simp, by simp⟩
  refine ⟨?_, ?_, ?_⟩
  · intro deeds place unused outside
    refine (contained_run bare begin unused).confined.item place ?_
    rintro ⟨outer, found, below⟩
    exact outside outer found below
  · intro deeds chance holder cabinet sheet item description office clear held unused done
    have contained := contained_run bare begin clear
    obtain ⟨placed, rfl, rfl⟩ := contained.cabinets cabinet (List.mem_of_getElem? held)
    obtain ⟨outer, record, found, -, added⟩ :=
      added_of_newSheet placed bare contained.confined unused done
    obtain ⟨between, created, -⟩ := added.counted
    have free := (checkSheetName_eq_ok_iff.1 added.accepted).2
    have other {own : String} (reserved : isReserved own = true) : item ≠ own := by
      rintro rfl
      rw [free] at reserved
      cases reserved
    refine ⟨by rw [created.path_eq, placed.path], outer, found, ?_, free,
      other isReserved_controlName, other isReserved_lockName,
      fun draft => other draft.isReserved_name⟩
    intro place
    refine ⟨added.sheet_stands.only place, ?_⟩
    rintro rfl
    exact added.sheet_stands.held
  · intro draft description cabinet made deeds after done unused removed
    obtain ⟨outer, found, vacant⟩ := vacant_of_create done
    have first := contained_create bare begin draft description
    have made_eq : (Deed.create draft description).after parent name
        { store := start, cabinets := [] } = { store := made, cabinets := [cabinet] } := by
      show (match create draft name description parent start with
        | .ok cabinet after => ({ store := after, cabinets := [] ++ [cabinet] } : Session)
        | .error _ after => { store := after, cabinets := [] }) = _
      rw [done]
      rfl
    rw [made_eq] at first
    exact item_of_removed bare (contained_run bare first unused).confined found vacant removed

/-- A cabinet next to another directory is used and removed. -/
theorem run_stays_inside_removed :
    let start : Store := { files := { tree := Tree.empty.put [] (utf8 "x") .directory } }
    let deeds : List Deed :=
      [.newSheet default 0 "s" "y", .write 0 ⟨.write "one", {}⟩, .saveRecord default 0]
    ∃ cabinet made after, create default "c" "d" "" start = .ok cabinet made ∧
      remove "c" "" (runDeeds "" "c" { store := made, cabinets := [cabinet] } deeds).store =
        .ok () after ∧
      ∀ place, after.files.item place = start.files.item place := by
  intro start deeds
  have facts : Work.passes (fun cabinet made =>
      let session : Session := { store := made, cabinets := [cabinet] }
      AllUnused "" "c" session deeds &&
        Work.passes (fun _ _ => true) (remove "c" "" (runDeeds "" "c" session deeds).store))
      (create default "c" "d" "" start) = true := by decide +kernel
  obtain ⟨cabinet, made, created, facts⟩ := Work.exists_of_passes facts
  rw [Bool.and_eq_true, decide_eq_true_eq] at facts
  obtain ⟨⟨⟩, after, removed, -⟩ := Work.exists_of_passes facts.2
  have none : linkless start.files = true := by decide +kernel
  refine ⟨cabinet, made, after, created, removed, ?_⟩
  exact (run_stays_inside "" "c" start fun outer _ rest target =>
    no_link_of_linkless none _ target).2.2 _ _ _ _ deeds after created facts.1 removed

end Cabinet

end SheetCabinet
