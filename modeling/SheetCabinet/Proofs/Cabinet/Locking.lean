import SheetCabinet.Proofs.Cabinet.NewSheet
import SheetCabinet.Proofs.Files.Leading
import SheetCabinet.Proofs.Sheet.Ledger
import SheetCabinet.Proofs.Store.Locks

/-!
# The lock of a cabinet

Whoever has the lock file of a cabinet open can try to hold its lock, and gives it back later. Who asks
for a new sheet does the same meanwhile. Many do so by many paths, and other things happen to the files
as well; as long as the lock file is not taken away or replaced, they all mean the same file.

Results:
* a new sheet leaves the locks as they are, however it ends (`locked_newSheet`), and is refused without
  a trace while somebody holds the lock (`newSheet_of_held`);
* at any time one holds the lock at most; while one does nobody else gets it, and no new sheet; while
  nobody does everybody can (`lock_is_exclusive`).
-/

namespace SheetCabinet

open FileSystem

/-! ## Taking and giving back -/

namespace ControlLock

variable {directory : Path} {store after : Store} {lock : ControlLock} {place : Location} {id : FileId}

theorem openAt_eq_ok (done : openAt directory store = .ok lock after) :
    store.files.openOrCreate (utf8 (Path.join directory lockName)) = .ok (lock.file, after.files) ∧
      lock.path = Path.join directory lockName ∧
      after = { store with files := after.files } := by
  unfold openAt at done
  dsimp only at done
  split at done
  · cases done
  · rename_i opened
    cases done
    exact ⟨opened, rfl, rfl⟩

/-- A lock file that cannot be opened is not made. -/
theorem openAt_eq_error {failure : Failure} (failed : openAt directory store = .error failure after) :
    after = store := by
  unfold openAt at failed
  dsimp only at failed
  split at failed
  · cases failed
    rfl
  · cases failed

theorem lockBlind_openAt (directory : Path) : Work.LockBlind (openAt directory) := by
  intro store locked
  have files : (store.withLocks locked).files = store.files.withLocks locked := rfl
  unfold openAt
  dsimp only
  rw [files, openOrCreate_withLocks]
  cases store.files.openOrCreate (utf8 (Path.join directory lockName)) <;> rfl

/-- Where the name of the lock file leads to a file, that file is opened. -/
theorem openAt_of_leads (found : store.files.folder directory = .ok place)
    (leads : store.files.Leads place lockName id) (done : openAt directory store = .ok lock after) :
    lock = ⟨Path.join directory lockName, id⟩ ∧ after = store := by
  obtain ⟨opened, path, rest⟩ := openAt_eq_ok done
  obtain ⟨file, same⟩ := openOrCreate_of_leads component_lockName found leads opened
  rw [same] at rest
  cases lock
  cases path
  cases file
  exact ⟨rfl, rest⟩

/-- A lock file that was left behind is opened as it is, whatever it holds. -/
theorem openAt_of_look (within : store.files.Within directory lockName place)
    (held : store.files.tree.get? (place ++ [utf8 lockName]) = some (.file id)) :
    openAt directory store = .ok ⟨Path.join directory lockName, id⟩ store := by
  have short : (utf8 lockName).length ≤ longestName := by decide +kernel
  have opened := openOrCreate_within within (by simp [held])
  rw [if_neg (Nat.not_lt.2 short), held] at opened
  unfold openAt
  dsimp only
  rw [opened]

theorem tryHold_eq (lock : ControlLock) (store : Store) : lock.tryHold store =
    if lock.file ∈ store.files.locked then .error (.strategy (.locked lock.path)) store
    else .ok () (store.withLocks (lock.file :: store.files.locked)) := by
  unfold tryHold lock?
  by_cases taken : lock.file ∈ store.files.locked
  · rw [if_pos taken, if_pos taken]
  · rw [if_neg taken, if_neg taken]
    rfl

/-- What was not locked is not locked after the lock was taken and given back. -/
theorem filter_locked {locked : List FileId} (free : id ∉ locked) :
    (id :: locked).filter (· ≠ id) = locked := by
  rw [List.filter_cons_of_neg (by simp), List.filter_eq_self]
  intro other member
  rw [decide_eq_true_eq]
  rintro rfl
  exact free member

/-- However the work under the lock ends, the lock is given back. -/
theorem locked_holding {α : Type} {work : Work α} (blind : work.LockBlind) (directory : Path)
    (store : Store) :
    (leftBy (holding directory work store)).files.locked = store.files.locked := by
  have opens := (lockBlind_openAt directory).locked store
  unfold holding take
  rw [Work.bind_apply]
  cases opened : openAt directory store with
  | error failure after =>
    rw [opened] at opens
    exact opens
  | ok lock after =>
    rw [opened] at opens
    dsimp only
    rw [Work.bind_apply, tryHold_eq]
    by_cases taken : lock.file ∈ after.files.locked
    · rw [if_pos taken]
      exact opens
    · rw [if_neg taken]
      have works := blind.locked (after.withLocks (lock.file :: after.files.locked))
      have given (left : Store) (kept : left.files.locked = lock.file :: after.files.locked) :
          (release lock.file left).files.locked = store.files.locked := by
        show left.files.locked.filter (· ≠ lock.file) = store.files.locked
        rw [kept, filter_locked taken]
        exact opens
      simp only [Work.pure_apply]
      cases done : work (after.withLocks (lock.file :: after.files.locked)) with
      | ok value left =>
        rw [done] at works
        exact given left works
      | error failure left =>
        rw [done] at works
        exact given left works

end ControlLock

/-! ## New sheets -/

namespace Cabinet

variable {cabinet : Cabinet} {draft : Draft} {chance : Chance} {name description : String}
  {store : Store} {place : Location} {id : FileId}

/-- What is done under the lock asks for no lock. -/
theorem locked_recordNext (cabinet : Cabinet) (draft : Draft) (store : Store) :
    (leftBy (cabinet.recordNext draft store)).files.locked = store.files.locked := by
  refine ControlLock.locked_holding ?_ cabinet.directory store
  refine (lockBlind_load cabinet.directory).bind ?_
  intro record
  split
  · exact (Work.LockBlind.replaceFile _ _ _ _).bind fun _ => .pure _
  · exact .throw _

theorem locked_withdraw (sheet : Sheet) (store : Store) :
    (withdraw sheet store).files.locked = store.files.locked := by
  unfold withdraw removeFile
  cases store.files.lastNode (utf8 sheet.path) with
  | error cause => rfl
  | ok last =>
    obtain ⟨spot, node, slashed⟩ := last
    cases node <;> cases slashed <;> rfl

/-- However asking for a new sheet ends, the same locks are held as before. -/
theorem locked_newSheet (cabinet : Cabinet) (chance : Chance) (name description : String)
    (store : Store) :
    (leftBy (newSheet chance name description ⟨cabinet, store⟩)).store.files.locked =
      store.files.locked := by
  have creates :=
    (Sheet.lockBlind_create chance.torn name description cabinet.directory).locked store
  rw [newSheet_apply]
  split
  · rfl
  · dsimp only
    cases created : Sheet.create chance.torn name description cabinet.directory store with
    | error failure after =>
      rw [created] at creates
      exact creates
    | ok sheet made =>
      rw [created] at creates
      have counts := (locked_recordNext cabinet chance.draft made).trans creates
      dsimp only
      cases counted : cabinet.recordNext chance.draft made with
      | error failure after =>
        rw [counted] at counts
        exact (locked_withdraw sheet (sheet.close after)).trans
          ((congrArg FileSystem.locked (Sheet.files_close sheet after)).trans counts)
      | ok other after =>
        rw [counted] at counts
        exact counts

/-- Whoever asks for a new sheet gets as far as counting it: the sheet is made, and the lock file is
open. -/
def GetsToCount (cabinet : Cabinet) (chance : Chance) (name description : String) (store : Store) :
    Prop :=
  checkSheetName name = .ok () ∧ ∃ sheet made lock opened,
    Sheet.create chance.torn name description cabinet.directory store = .ok sheet made ∧
      ControlLock.openAt cabinet.directory made = .ok lock opened

/-- While somebody holds the lock, no sheet is counted, and nothing changes. -/
theorem recordNext_of_held (found : store.files.folder cabinet.directory = .ok place)
    (leads : store.files.Leads place lockName id) (held : id ∈ store.files.locked) :
    ∃ failure, cabinet.recordNext draft store = .error failure store ∧
      ∀ lock opened, ControlLock.openAt cabinet.directory store = .ok lock opened →
        failure = .strategy (.locked (Path.join cabinet.directory lockName)) := by
  unfold recordNext ControlLock.holding ControlLock.take
  rw [Work.bind_apply]
  cases opens : ControlLock.openAt cabinet.directory store with
  | error failure after =>
    obtain rfl := ControlLock.openAt_eq_error opens
    exact ⟨failure, rfl, fun _ _ absurd => by cases absurd⟩
  | ok lock after =>
    obtain ⟨rfl, rfl⟩ := ControlLock.openAt_of_leads found leads opens
    dsimp only
    rw [Work.bind_apply, ControlLock.tryHold_eq, if_pos held]
    exact ⟨_, rfl, fun _ _ _ => rfl⟩

/-- While somebody holds the lock, no new sheet is handed out, and whoever asks for one leaves nothing
behind and learns nothing of the cabinet. -/
theorem newSheet_of_held
    (heads : ∀ other, store.files.folder cabinet.directory = .ok other → other = place)
    (leads : store.files.Leads place lockName id) (held : id ∈ store.files.locked)
    (chance : Chance) (name description : String) :
    ∃ failure after, newSheet chance name description ⟨cabinet, store⟩ =
        .error failure ⟨cabinet, after⟩ ∧
      SameBut [] store.files after.files ∧
      (cabinet.GetsToCount chance name description store →
        failure = .strategy (.locked (Path.join cabinet.directory lockName))) := by
  rw [newSheet_apply]
  cases accepted : checkSheetName name with
  | error fault =>
    refine ⟨_, store, rfl, .refl _, ?_⟩
    rintro ⟨accepts, -⟩
    rw [accepted] at accepts
    cases accepts
  | ok _ =>
    dsimp only
    rcases Sheet.create_cases chance.torn name description cabinet.directory store with
      ⟨failure, after, refused, same⟩ | ⟨sheet, made, other, done, -, created⟩
    · rw [refused]
      refine ⟨failure, after, rfl, same, ?_⟩
      rintro ⟨-, _, _, _, _, granted, -⟩
      rw [refused] at granted
      cases granted
    · obtain rfl : other = place := heads other created.within.folder
      have still := leads.grown (grows_of_sameBut created.same created.vacant)
      have kept : id ∈ made.files.locked := by
        have creates :=
          (Sheet.lockBlind_create chance.torn name description cabinet.directory).locked store
        rw [done, leftBy_ok] at creates
        rwa [creates]
      obtain ⟨failure, failed, locked⟩ := recordNext_of_held created.withinAfter.folder still kept
      rw [done]
      dsimp only
      rw [failed]
      refine ⟨failure, _, rfl, ?_, ?_⟩
      · have distinct := ne_of_sheetName accepted isReserved_lockName other
        rw [files_withdraw created distinct (.same (.refl _))]
        exact sameBut_withdraw created (.refl _)
      · rintro ⟨-, _, _, lock, opened, again, opens⟩
        rw [done] at again
        cases again
        exact locked lock opened opens

end Cabinet

/-! ## Many who lock -/

/-- Somebody who has the lock file open. -/
structure Keeper where
  lock : ControlLock
  /-- Whether the lock is held. -/
  holding : Bool := false

/-- A cabinet's directory, and those who have its lock file open, told apart by their number. -/
structure Watch where
  store : Store
  keepers : List Keeper := []

/-- What can happen around the lock of a cabinet. A new sheet is asked for by anybody who has the
cabinet open, whatever is known of it. Other things may happen to the files at any time. -/
inductive LockMove
  | openAt (directory : Path)
  | tryHold (keeper : Nat)
  | drop (keeper : Nat)
  | newSheet (chance : Chance) (cabinet : Cabinet) (name description : String)
  | other (files : FileSystem)

def Watch.after (watch : Watch) : LockMove → Watch
  | .openAt directory =>
    match ControlLock.openAt directory watch.store with
    | .ok lock after => { store := after, keepers := watch.keepers ++ [{ lock := lock }] }
    | .error _ after => { watch with store := after }
  | .tryHold index =>
    match watch.keepers[index]? with
    | none => watch
    | some keeper =>
      match keeper.lock.tryHold watch.store with
      | .ok _ after =>
        { store := after, keepers := watch.keepers.set index { keeper with holding := true } }
      | .error _ after => { watch with store := after }
  | .drop index =>
    match watch.keepers[index]? with
    | none => watch
    | some keeper =>
      if keeper.holding then
        { store := ControlLock.release keeper.lock.file watch.store
          keepers := watch.keepers.set index { keeper with holding := false } }
      else watch
  | .newSheet chance cabinet name description =>
    { watch with
      store := (leftBy (Cabinet.newSheet chance name description ⟨cabinet, watch.store⟩)).store }
  | .other files => { watch with store := { watch.store with files := files } }

/-- A path leads to the directory at the place, if it leads to one at all. -/
def Heads (place : Location) (files : FileSystem) (directory : Path) : Prop :=
  ∀ other, files.folder directory = .ok other → other = place

/-- The lock file of the cabinet is not taken away or replaced. -/
def Steady (place : Location) (files after : FileSystem) : Prop :=
  ∀ id, files.Leads place lockName id → after.Leads place lockName id

/-- A move is about this cabinet, and leaves its lock file alone. -/
def LockMove.Allowed (place : Location) (watch : Watch) : LockMove → Prop
  | .openAt directory => Heads place watch.store.files directory
  | .newSheet chance cabinet name description =>
    Heads place watch.store.files cabinet.directory ∧
      Steady place watch.store.files
        (leftBy (Cabinet.newSheet chance name description ⟨cabinet, watch.store⟩)).store.files
  | .other files =>
    files.locked = watch.store.files.locked ∧ Steady place watch.store.files files
  | .tryHold _ | .drop _ => True

inductive Watched (place : Location) (start : Store) : Watch → Prop
  | start : Watched place start { store := start }
  | next {watch : Watch} {move : LockMove} (watched : Watched place start watch)
      (allowed : move.Allowed place watch) : Watched place start (watch.after move)

/-! ## One at a time -/

/-- The one with the number holds the lock of the file. -/
def HeldBy (keepers : List Keeper) (index : Nat) (id : FileId) : Prop :=
  ∃ keeper, keepers[index]? = some keeper ∧ keeper.holding = true ∧ keeper.lock.file = id

/-- All have the same file open, it is locked exactly while one of them holds the lock, and no two
do. -/
structure Guarded (place : Location) (watch : Watch) : Prop where
  opened : ∀ keeper ∈ watch.keepers, watch.store.files.Leads place lockName keeper.lock.file
  held : ∀ id, id ∈ watch.store.files.locked ↔ ∃ index, HeldBy watch.keepers index id
  alone : ∀ i j first second, HeldBy watch.keepers i first → HeldBy watch.keepers j second → i = j

/-- Whoever has just opened the lock file does not hold the lock. -/
theorem heldBy_concat {keepers : List Keeper} {lock : ControlLock} {index : Nat} {id : FileId} :
    HeldBy (keepers ++ [{ lock := lock }]) index id ↔ HeldBy keepers index id := by
  unfold HeldBy
  rw [List.getElem?_append]
  split
  · rfl
  · rename_i beyond
    rw [List.getElem?_eq_none (Nat.le_of_not_lt beyond)]
    cases index - keepers.length <;> simp

theorem heldBy_set {keepers : List Keeper} {old keeper : Keeper} {here index : Nat} {id : FileId}
    (present : keepers[here]? = some old) : HeldBy (keepers.set here keeper) index id ↔
      if index = here then keeper.holding = true ∧ keeper.lock.file = id
      else HeldBy keepers index id := by
  unfold HeldBy
  have inside := (List.getElem?_eq_some_iff.1 present).1
  by_cases same : index = here
  · subst same
    simp [inside]
  · rw [List.getElem?_set_ne (Ne.symm same), if_neg same]

namespace Guarded

variable {place : Location} {watch : Watch}

/-- Whoever has the lock file open has the one file open that its name leads to. -/
theorem file_eq (guarded : Guarded place watch) {index : Nat} {id : FileId}
    (held : HeldBy watch.keepers index id) {keeper : Keeper} (member : keeper ∈ watch.keepers) :
    keeper.lock.file = id := by
  obtain ⟨other, present, -, rfl⟩ := held
  exact (guarded.opened keeper member).unique (guarded.opened other (List.mem_of_getElem? present))

/-- What locks no file and leaves the lock file alone keeps the lock. -/
theorem of_steady (guarded : Guarded place watch) {after : Store}
    (locked : after.files.locked = watch.store.files.locked)
    (steady : Steady place watch.store.files after.files) :
    Guarded place { watch with store := after } where
  opened keeper member := steady _ (guarded.opened keeper member)
  held id := by
    show id ∈ after.files.locked ↔ _
    rw [locked]
    exact guarded.held id
  alone := guarded.alone

theorem openAt (guarded : Guarded place watch) {directory : Path}
    (heads : Heads place watch.store.files directory) :
    Guarded place (watch.after (.openAt directory)) := by
  have locked := (ControlLock.lockBlind_openAt directory).locked watch.store
  unfold Watch.after
  dsimp only
  cases opens : ControlLock.openAt directory watch.store with
  | error failure after =>
    obtain rfl := ControlLock.openAt_eq_error opens
    exact guarded
  | ok lock after =>
    rw [opens, leftBy_ok] at locked
    obtain ⟨opened, -, -⟩ := ControlLock.openAt_eq_ok opens
    obtain ⟨other, within⟩ := within_of_openOrCreate component_lockName opened
    obtain rfl : other = place := heads other within.folder
    refine ⟨?_, ?_, ?_⟩
    · intro keeper member
      rcases List.mem_append.1 member with old | new
      · have leads := guarded.opened keeper old
        obtain ⟨-, rfl⟩ := ControlLock.openAt_of_leads within.folder leads opens
        exact leads
      · rw [List.mem_singleton.1 new]
        exact leads_of_openOrCreate component_lockName within.folder opened
    · intro id
      show id ∈ after.files.locked ↔ _
      rw [locked, guarded.held id]
      exact exists_congr fun index => heldBy_concat.symm
    · intro i j first second one two
      exact guarded.alone i j first second (heldBy_concat.1 one) (heldBy_concat.1 two)

theorem tryHold (guarded : Guarded place watch) (index : Nat) :
    Guarded place (watch.after (.tryHold index)) := by
  unfold Watch.after
  dsimp only
  split
  · exact guarded
  · rename_i keeper present
    have leads := guarded.opened keeper (List.mem_of_getElem? present)
    rw [ControlLock.tryHold_eq]
    by_cases taken : keeper.lock.file ∈ watch.store.files.locked
    · rw [if_pos taken]
      exact guarded
    · rw [if_neg taken]
      -- nobody held the lock before, as it would be the lock of the same file
      have none (j : Nat) (id : FileId) : ¬HeldBy watch.keepers j id := by
        intro held
        rw [guarded.file_eq held (List.mem_of_getElem? present)] at taken
        exact taken ((guarded.held id).2 ⟨j, held⟩)
      have now (j : Nat) (id : FileId) :
          HeldBy (watch.keepers.set index { keeper with holding := true }) j id ↔
            j = index ∧ keeper.lock.file = id := by
        rw [heldBy_set present]
        by_cases same : j = index
        · simp [same]
        · simp [same, none]
      refine ⟨?_, ?_, ?_⟩
      · intro other member
        rcases List.mem_or_eq_of_mem_set member with old | new
        · exact guarded.opened other old
        · rw [new]
          exact leads
      · intro id
        show id ∈ keeper.lock.file :: watch.store.files.locked ↔ _
        have before : id ∉ watch.store.files.locked := by
          rw [guarded.held id]
          rintro ⟨j, held⟩
          exact none j id held
        simp [now, before, eq_comm]
      · intro i j first second one two
        rw [((now i first).1 one).1, ((now j second).1 two).1]

theorem drop (guarded : Guarded place watch) (index : Nat) :
    Guarded place (watch.after (.drop index)) := by
  unfold Watch.after
  dsimp only
  split
  · exact guarded
  · rename_i keeper present
    split
    · rename_i holding
      have own : HeldBy watch.keepers index keeper.lock.file := ⟨keeper, present, holding, rfl⟩
      have none (j : Nat) (id : FileId) :
          ¬HeldBy (watch.keepers.set index { keeper with holding := false }) j id := by
        rw [heldBy_set present]
        by_cases same : j = index
        · simp [same]
        · rw [if_neg same]
          exact fun held => same (guarded.alone j index id _ held own)
      refine ⟨?_, ?_, fun i _ first _ one => absurd one (none i first)⟩
      · intro other member
        rcases List.mem_or_eq_of_mem_set member with old | new
        · exact guarded.opened other old
        · rw [new]
          exact guarded.opened keeper (List.mem_of_getElem? present)
      · intro id
        show id ∈ watch.store.files.locked.filter (· ≠ keeper.lock.file) ↔ _
        have gone : id ∉ watch.store.files.locked.filter (· ≠ keeper.lock.file) := by
          rw [List.mem_filter, decide_eq_true_eq, guarded.held id]
          rintro ⟨⟨j, other, there, held⟩, distinct⟩
          obtain rfl := guarded.alone j index id _ ⟨other, there, held⟩ own
          rw [present] at there
          cases there
          exact distinct held.2.symm
        exact ⟨fun absurd => (gone absurd).elim, fun ⟨j, held⟩ => (none j id held).elim⟩
    · exact guarded

/-- Whatever happens next, no two hold the lock. -/
theorem after (guarded : Guarded place watch) {move : LockMove}
    (allowed : move.Allowed place watch) : Guarded place (watch.after move) := by
  cases move with
  | openAt directory => exact guarded.openAt allowed
  | tryHold index => exact guarded.tryHold index
  | drop index => exact guarded.drop index
  | newSheet chance cabinet name description =>
    exact guarded.of_steady
      (Cabinet.locked_newSheet cabinet chance name description watch.store) allowed.2
  | other files => exact guarded.of_steady allowed.1 allowed.2

end Guarded

theorem guarded_of_watched {place : Location} {start : Store} {watch : Watch}
    (free : start.files.locked = []) (watched : Watched place start watch) :
    Guarded place watch := by
  induction watched with
  | start =>
    refine ⟨?_, ?_, ?_⟩
    · intro keeper absurd
      cases absurd
    · intro id
      rw [free]
      simp [HeldBy]
    · rintro i j first second ⟨_, absurd, -⟩
      cases absurd
  | next _ allowed ih => exact ih.after allowed

namespace Guarded

variable {place : Location} {watch : Watch}

/-- While the lock is held, the file that its name leads to is locked. -/
theorem locked (guarded : Guarded place watch) {index : Nat} {id : FileId}
    (held : HeldBy watch.keepers index id) :
    watch.store.files.Leads place lockName id ∧ id ∈ watch.store.files.locked := by
  refine ⟨?_, (guarded.held id).2 ⟨index, held⟩⟩
  obtain ⟨keeper, present, -, rfl⟩ := held
  exact guarded.opened keeper (List.mem_of_getElem? present)

/-- While nobody holds the lock, nothing is locked. -/
theorem free (guarded : Guarded place watch) (none : ∀ index id, ¬HeldBy watch.keepers index id)
    (id : FileId) : id ∉ watch.store.files.locked := by
  rw [guarded.held id]
  rintro ⟨index, held⟩
  exact none index id held

/-- While the lock is held, whoever opens the lock file anew does not get the lock either. -/
theorem tryHold_of_openAt (guarded : Guarded place watch) {index : Nat} {id : FileId}
    (held : HeldBy watch.keepers index id) {directory : Path} {lock : ControlLock} {opened : Store}
    (heads : Heads place watch.store.files directory)
    (opens : ControlLock.openAt directory watch.store = .ok lock opened) :
    lock.tryHold opened =
      .error (.strategy (.locked (Path.join directory lockName))) watch.store := by
  obtain ⟨leads, locked⟩ := guarded.locked held
  obtain ⟨reached, -, -⟩ := ControlLock.openAt_eq_ok opens
  obtain ⟨other, within⟩ := within_of_openOrCreate component_lockName reached
  obtain rfl := heads other within.folder
  obtain ⟨rfl, rfl⟩ := ControlLock.openAt_of_leads within.folder leads opens
  rw [ControlLock.tryHold_eq, if_pos locked]

end Guarded

/-- Whatever is done around the lock of a cabinet, by whomever and in whatever order, as long as its
lock file is not taken away or replaced. One holds the lock at most. While one does, nobody else gets
it, by a lock file opened before or just now, and whoever asks for a new sheet gets none, changes
nothing, and is told of the lock if it comes to counting. While nobody does, everybody who has the lock
file open gets the lock, and so does whoever opens one that was left behind, whatever it holds. And a
new sheet leaves the lock held or free as it was, however it ends. -/
theorem lock_is_exclusive {place : Location} {start : Store} {watch : Watch}
    (free : start.files.locked = []) (watched : Watched place start watch) :
    (∀ i j first second, HeldBy watch.keepers i first → HeldBy watch.keepers j second → i = j) ∧
    (∀ index id, HeldBy watch.keepers index id →
      (∀ keeper ∈ watch.keepers, keeper.lock.tryHold watch.store =
        .error (.strategy (.locked keeper.lock.path)) watch.store) ∧
      (∀ directory lock opened, Heads place watch.store.files directory →
        ControlLock.openAt directory watch.store = .ok lock opened →
        lock.tryHold opened =
          .error (.strategy (.locked (Path.join directory lockName))) watch.store) ∧
      ∀ (cabinet : Cabinet) chance name description,
        Heads place watch.store.files cabinet.directory →
        ∃ failure after, Cabinet.newSheet chance name description ⟨cabinet, watch.store⟩ =
            .error failure ⟨cabinet, after⟩ ∧
          (∀ spot, after.files.item spot = watch.store.files.item spot) ∧
          (cabinet.GetsToCount chance name description watch.store →
            failure = .strategy (.locked (Path.join cabinet.directory lockName)))) ∧
    ((∀ index id, ¬HeldBy watch.keepers index id) →
      (∀ keeper ∈ watch.keepers, ∃ after, keeper.lock.tryHold watch.store = .ok () after) ∧
      ∀ directory id, watch.store.files.Within directory lockName place →
        watch.store.files.tree.get? (place ++ [utf8 lockName]) = some (.file id) →
        ∃ lock after, ControlLock.openAt directory watch.store = .ok lock watch.store ∧
          lock.tryHold watch.store = .ok () after ∧
          ∀ spot, after.files.item spot = watch.store.files.item spot) ∧
    ∀ cabinet chance name description,
      (leftBy (Cabinet.newSheet chance name description ⟨cabinet, watch.store⟩)).store.files.locked =
        watch.store.files.locked := by
  have guarded := guarded_of_watched free watched
  refine ⟨guarded.alone, ?_, ?_, fun cabinet chance name description =>
    Cabinet.locked_newSheet cabinet chance name description watch.store⟩
  · intro index id held
    obtain ⟨leads, locked⟩ := guarded.locked held
    refine ⟨?_, fun _ _ _ heads opens => guarded.tryHold_of_openAt held heads opens, ?_⟩
    · intro keeper member
      rw [ControlLock.tryHold_eq, guarded.file_eq held member, if_pos locked]
    · intro cabinet chance name description heads
      obtain ⟨failure, after, refused, same, told⟩ :=
        Cabinet.newSheet_of_held heads leads locked chance name description
      exact ⟨failure, after, refused, fun spot => same.item spot List.not_mem_nil, told⟩
  · intro none
    have granted (lock : ControlLock) : lock.tryHold watch.store =
        .ok () (watch.store.withLocks (lock.file :: watch.store.files.locked)) := by
      rw [ControlLock.tryHold_eq, if_neg (guarded.free none lock.file)]
    refine ⟨fun keeper _ => ⟨_, granted keeper.lock⟩, ?_⟩
    intro directory id within held
    exact ⟨_, _, ControlLock.openAt_of_look within held, granted _, fun _ => rfl⟩

/-- While one who opened the lock file holds the lock, whoever made the cabinet gets no new sheet. -/
theorem lock_is_exclusive_one :
    ∃ cabinet made watch after, Cabinet.create default "c" "" "" { files := {} } = .ok cabinet made ∧
      Watched [utf8 "c"] made watch ∧ (∃ id, HeldBy watch.keepers 0 id) ∧
      Cabinet.newSheet default "s" "" ⟨cabinet, watch.store⟩ =
        .error (.strategy (.locked (Path.join cabinet.directory lockName))) ⟨cabinet, after⟩ := by
  let whole (cabinet : Cabinet) (made : Store) : Watch :=
    ((Watch.mk made []).after (.openAt cabinet.directory)).after (.tryHold 0)
  have facts : Work.passes (fun cabinet made =>
      let store := (whole cabinet made).store
      made.files.locked = [] && made.files.folder cabinet.directory = .ok [utf8 "c"] &&
        (whole cabinet made).keepers[0]?.map Keeper.holding = some true &&
        store.files.folder cabinet.directory = .ok [utf8 "c"] &&
        Work.passes (fun _ there => Work.passes (fun _ _ => true)
            (ControlLock.openAt cabinet.directory there))
          (Sheet.create none "s" "" cabinet.directory store))
      (Cabinet.create default "c" "" "" { files := {} }) = true := by decide +kernel
  obtain ⟨cabinet, made, created, facts⟩ := Work.exists_of_passes facts
  simp only [Bool.and_eq_true, decide_eq_true_eq] at facts
  obtain ⟨⟨⟨⟨free, found⟩, holds⟩, still⟩, counts⟩ := facts
  obtain ⟨sheet, there, done, opens⟩ := Work.exists_of_passes counts
  obtain ⟨lock, opened, opens, -⟩ := Work.exists_of_passes opens
  have watched : Watched [utf8 "c"] made (whole cabinet made) := by
    refine .next (.next .start ?_) trivial
    intro other led
    exact Except.ok.inj (led.symm.trans found)
  obtain ⟨keeper, present, holding⟩ := Option.map_eq_some_iff.1 holds
  have held : HeldBy (whole cabinet made).keepers 0 keeper.lock.file :=
    ⟨keeper, present, holding, rfl⟩
  obtain ⟨-, -, refusal⟩ := (lock_is_exclusive free watched).2.1 0 _ held
  obtain ⟨failure, after, refused, -, told⟩ :=
    refusal cabinet default "s" "" fun other led => Except.ok.inj (led.symm.trans still)
  rw [told ⟨by decide +kernel, sheet, there, lock, opened, done, opens⟩] at refused
  exact ⟨cabinet, made, _, after, created, watched, ⟨_, held⟩, refused⟩

end SheetCabinet
