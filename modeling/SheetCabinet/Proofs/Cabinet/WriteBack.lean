import Mathlib.Data.List.Induction
import SheetCabinet.Proofs.Cabinet.Counts
import SheetCabinet.Proofs.Store.Locks

/-!
# Writing a record back

Whoever has a cabinet open can write what it knows of the cabinet to the control file. Nothing is
read for that, and no lock is asked for: the count that was known when the cabinet was last opened,
read or counted up takes the place of the count that is there.

Results:
* writing a record back does the same whatever locks are held (`lockBlind_saveRecord`);
* what there is after a record was written back (`Consistent.saveRecord_cases`);
* in a run in which records are written back, the control file always counts all granted sheets, and
  never fewer than before, exactly if nobody writes back a count that is out of date
  (`noneLost_iff_current`).
-/

namespace SheetCabinet

open FileSystem

/-! ## Runs -/

/-- What those who have a cabinet open do: what can happen in a session, and writing back what one of
them knows of the cabinet. -/
inductive Turn
  | move (next : Move)
  | saveRecord (draft : Draft) (holder : Nat)

/-- A turn is about no other cabinet, and no draft is in its way. -/
def Turn.Allowed (home : Path) (session : Session) : Turn → Prop
  | .move next => next.Allowed home session
  | .saveRecord draft holder => ∀ cabinet, session.cabinets[holder]? = some cabinet →
    draft.Unused session.store.files cabinet.directory

instance (home : Path) (session : Session) (turn : Turn) : Decidable (turn.Allowed home session) :=
  match turn with
  | .move next => inferInstanceAs (Decidable (next.Allowed home session))
  | .saveRecord draft holder =>
    inferInstanceAs (Decidable (∀ cabinet, session.cabinets[holder]? = some cabinet →
      draft.Unused session.store.files cabinet.directory))

namespace Session

def turned (session : Session) : Turn → Session
  | .move next => session.after next
  | .saveRecord draft holder =>
    match session.cabinets[holder]? with
    | none => session
    | some cabinet => { session with store := leftBy (cabinet.saveRecord draft session.store) }

def run (session : Session) (turns : List Turn) : Session := turns.foldl turned session

/-- The control file can be read, and says this count. -/
def Records (session : Session) (home : Path) (count : Nat) : Prop :=
  ∃ record, ControlRecord.load home session.store = .ok record session.store ∧
    record.count.toNat = count

theorem run_concat (session : Session) (front : List Turn) (turn : Turn) :
    session.run (front ++ [turn]) = (session.run front).turned turn := by
  simp [run]

theorem Records.unique {session : Session} {home : Path} {count other : Nat}
    (first : session.Records home count) (second : session.Records home other) : count = other := by
  obtain ⟨record, loaded, rfl⟩ := first
  obtain ⟨again, reloaded, rfl⟩ := second
  rw [loaded] at reloaded
  cases reloaded
  rfl

end Session

def Allowed (home : Path) (start : Session) (turns : List Turn) : Prop :=
  ∀ front turn, front ++ [turn] <+: turns → turn.Allowed home (start.run front)

/-- At every moment of a run the control file counts all sheets that were granted, and no turn lowers
its count. -/
structure NoneLost (home : Path) (start : Session) (turns : List Turn) : Prop where
  covers : ∀ front, front <+: turns → ∃ count, (start.run front).Records home count ∧
    (start.run front).granted.length ≤ count
  grows : ∀ front turn, front ++ [turn] <+: turns → ∀ count later,
    (start.run front).Records home count → (start.run (front ++ [turn])).Records home later →
    count ≤ later

/-- Whoever writes its record back in a run, and succeeds but perhaps for syncing the directory, knows
the count that the control file says. -/
def Current (home : Path) (start : Session) (turns : List Turn) : Prop :=
  ∀ front draft holder, front ++ [.saveRecord draft holder] <+: turns → ∀ cabinet after,
    (start.run front).cabinets[holder]? = some cabinet →
    cabinet.saveRecord draft.synced (start.run front).store = .ok () after →
    (start.run front).Records home cabinet.count.toNat

/-! ## The invariant -/

/-- All counts are in step, and everybody knows the name and the description of the cabinet. -/
structure Consistent (home : Path) (name description : String) (place : Location)
    (session : Session) : Prop where
  plain : (ControlRecord.mk name description 0).Plain
  sound : Sound home name description place session
  known : ∀ cabinet ∈ session.cabinets, cabinet.name = name ∧ cabinet.description = description

namespace Consistent

variable {home : Path} {name description : String} {place : Location} {session : Session}

/-- The control file counts the sheets that were counted. -/
theorem records (consistent : Consistent home name description place session) :
    session.Records home session.counted.length := by
  obtain ⟨plain, sound, -⟩ := consistent
  obtain ⟨id, stands⟩ := sound.balanced.control
  exact ⟨_, ControlRecord.load_of_stands (plain.recount _) sound.balanced.within stands,
    sound.toNat_record⟩

/-- Whoever learns of the cabinet in a move learns its name and its description. -/
theorem known_after (consistent : Consistent home name description place session) {move : Move}
    (allowed : move.Allowed home session) :
    ∀ cabinet ∈ (session.after move).cabinets,
      cabinet.name = name ∧ cabinet.description = description := by
  obtain ⟨plain, sound, known⟩ := consistent
  have renewed {holder : Nat} {fresh : Cabinet} (own : fresh.name = name)
      (text : fresh.description = description) :
      ∀ cabinet ∈ session.cabinets.set holder fresh,
        cabinet.name = name ∧ cabinet.description = description := by
    intro cabinet member
    rcases List.mem_or_eq_of_mem_set member with old | rfl
    · exact known cabinet old
    · exact ⟨own, text⟩
  cases move with
  | openIn called parent =>
    unfold Session.after
    dsimp only
    cases done : Cabinet.openIn called parent session.store with
    | error failure after => exact known
    | ok opened after =>
      obtain ⟨-, rfl⟩ := sound.eq_of_openIn plain allowed done
      intro cabinet member
      rcases List.mem_append.1 member with old | new
      · exact known cabinet old
      · rw [List.mem_singleton.1 new]
        exact ⟨rfl, rfl⟩
  | newSheet chance holder sheetName text =>
    unfold Session.after
    dsimp only
    split
    · exact known
    · rename_i cabinet held
      have member := List.mem_of_getElem? held
      have holds := sound.cabinets cabinet member
      have reckoned := Cabinet.reckoned_newSheet holds.placed (plain.recount _) sound.balanced
        holds.found (allowed cabinet held)
      generalize Cabinet.newSheet chance sheetName text ⟨cabinet, session.store⟩ = result at reckoned ⊢
      cases reckoned with
      | refused _ _ => exact renewed (known cabinet member).1 (known cabinet member).2
      | granted _ _ _ _ => exact renewed (known cabinet member).1 rfl
      | lost _ _ _ _ => exact renewed (known cabinet member).1 (known cabinet member).2
  | reread holder =>
    unfold Session.after
    dsimp only
    split
    · exact known
    · rename_i cabinet held
      have member := List.mem_of_getElem? held
      rcases Cabinet.reread_cases cabinet session.store with
        ⟨failure, failed⟩ | ⟨record, done, loaded, -⟩
      · rw [failed]
        exact renewed (known cabinet member).1 (known cabinet member).2
      · obtain rfl := sound.eq_of_load plain (sound.cabinets cabinet member).found loaded
        rw [done]
        exact renewed (known cabinet member).1 rfl
  | forget holder => exact fun cabinet member => known cabinet (List.mem_of_mem_eraseIdx member)
  | sheetNames _ | write _ _ | close _ =>
    unfold Session.after
    dsimp only
    split <;> exact known
  | takeLock _ | releaseLock _ | errand _ _ _ => exact known

theorem after (consistent : Consistent home name description place session) {move : Move}
    (allowed : move.Allowed home session) :
    Consistent home name description place (session.after move) :=
  ⟨consistent.plain, sound_after consistent.sound consistent.plain allowed,
    consistent.known_after allowed⟩

/-! ## Writing back -/

/-- Writing a record back fails and changes nothing, or puts the count that is known into the control
file. -/
theorem saveRecord_cases (consistent : Consistent home name description place session)
    {cabinet : Cabinet} (member : cabinet ∈ session.cabinets) {draft : Draft}
    (unused : draft.Unused session.store.files cabinet.directory) :
    (∃ failure after, cabinet.saveRecord draft.synced session.store = .error failure after ∧
      SameBut [] session.store.files after.files) ∨
    ∃ after, cabinet.saveRecord draft.synced session.store = .ok () after ∧
      Work.Replaced session.store.files after.files (place ++ [utf8 controlName])
        (utf8 (ControlRecord.mk name description cabinet.count).render) := by
  have holds := consistent.sound.cabinets cabinet member
  obtain ⟨own, text⟩ := consistent.known cabinet member
  obtain ⟨id, stands⟩ := consistent.sound.balanced.control
  rw [← own, ← text]
  rcases Cabinet.saveRecord_cases holds.placed.directory_ne_empty unused holds.found
      (idle_of_file stands.held) with failed | ⟨after, done, -, replaced⟩
  · exact .inl failed
  · exact .inr ⟨after, done, replaced⟩

/-- After a record was written back, the control file says the count that was known. -/
theorem records_of_replaced (consistent : Consistent home name description place session)
    {after : Store} {count : UInt32} (replaced : Work.Replaced session.store.files after.files
      (place ++ [utf8 controlName]) (utf8 (ControlRecord.mk name description count).render)) :
    ({ session with store := after } : Session).Records home count.toNat := by
  obtain ⟨id, old⟩ := consistent.sound.balanced.control
  obtain ⟨new, -, stands⟩ := replaced.stands
  have within := consistent.sound.balanced.within
  have still := folder_of_sameBut replaced.same (by simpa using idle_of_file old.held) within.folder
  exact ⟨_, ControlRecord.load_of_stands (consistent.plain.recount count)
    ⟨within.component, within.askable, still⟩ stands, rfl⟩

/-- A record that is written back with the count of all sheets that were counted changes nothing that
matters. -/
theorem of_replaced (consistent : Consistent home name description place session) {after : Store}
    (replaced : Work.Replaced session.store.files after.files (place ++ [utf8 controlName])
      (utf8 (session.record name description).render)) :
    Consistent home name description place { session with store := after } := by
  obtain ⟨plain, ⟨balanced, room, inOrder, cabinets, sheets⟩, known⟩ := consistent
  obtain ⟨id, old⟩ := balanced.control
  obtain ⟨new, -, stands⟩ := replaced.stands
  have folder {directory : Path} (found : session.store.files.folder directory = .ok place) :
      after.files.folder directory = .ok place :=
    folder_of_sameBut replaced.same (by simpa using idle_of_file old.held) found
  have look {spot : Location} (other : spot ≠ place ++ [utf8 controlName]) :
      after.files.tree.get? spot = session.store.files.tree.get? spot :=
    replaced.same.look_ne spot other
  refine ⟨plain, ⟨⟨?_, ⟨new, stands⟩, ?_, ?_⟩, room, inOrder, ?_, ?_⟩, known⟩
  · exact ⟨balanced.within.component, balanced.within.askable, folder balanced.within.folder⟩
  · refine Eq.trans (Work.length_itemNames_congr ?_) balanced.listed
    intro item free
    exact look (Cabinet.ne_of_free free Cabinet.isReserved_controlName place)
  · intro target
    rw [look (Cabinet.Added.controlName_ne_lockName place).symm]
    exact balanced.unlinked target
  · intro cabinet member
    obtain ⟨placed, found, counted⟩ := cabinets cabinet member
    exact ⟨placed, folder found, counted⟩
  · intro sheet member
    obtain ⟨item, free, held⟩ := sheets sheet member
    refine ⟨item, free, ?_⟩
    rw [look (Cabinet.ne_of_free free Cabinet.isReserved_controlName place), held]

/-! ## Turns -/

/-- What is left when a record is written back is what would be if the directory could be synced. -/
theorem turned_saveRecord {draft : Draft} {holder : Nat} {cabinet : Cabinet}
    (held : session.cabinets[holder]? = some cabinet) :
    session.turned (.saveRecord draft holder) =
      { session with store := leftBy (cabinet.saveRecord draft.synced session.store) } := by
  unfold Session.turned
  dsimp only
  rw [held]
  dsimp only
  rw [Cabinet.saveRecord_eq, Work.leftBy_reported]

/-- Whatever turn comes next, all counts stay in step, unless a count that is out of date is written
back. -/
theorem turned (consistent : Consistent home name description place session) {turn : Turn}
    (allowed : turn.Allowed home session)
    (current : ∀ draft holder cabinet after, turn = .saveRecord draft holder →
      session.cabinets[holder]? = some cabinet →
      cabinet.saveRecord draft.synced session.store = .ok () after →
      session.counted.length ≤ cabinet.count.toNat) :
    Consistent home name description place (session.turned turn) := by
  cases turn with
  | move next => exact consistent.after allowed
  | saveRecord draft holder =>
    cases held : session.cabinets[holder]? with
    | none =>
      unfold Session.turned
      dsimp only
      rw [held]
      exact consistent
    | some cabinet =>
      have member := List.mem_of_getElem? held
      rw [turned_saveRecord held]
      rcases consistent.saveRecord_cases member (allowed cabinet held) with
        ⟨failure, after, failed, same⟩ | ⟨after, done, replaced⟩
      · rw [failed]
        exact ⟨consistent.plain,
          consistent.sound.untouched (Cabinet.untouched_of_upToLock (.same same)), consistent.known⟩
      · rw [done]
        have all : cabinet.count.toNat = session.counted.length := Nat.le_antisymm
          (consistent.sound.cabinets cabinet member).known
          (current draft holder cabinet after rfl held done)
        have record : ControlRecord.mk name description cabinet.count =
            session.record name description := by
          unfold Session.record
          rw [← all, UInt32.ofNat_toNat]
        rw [record] at replaced
        exact consistent.of_replaced replaced

end Consistent

/-- What was counted stays counted. -/
theorem Session.counted_turned (session : Session) (turn : Turn) :
    session.counted.length ≤ (session.turned turn).counted.length := by
  cases turn with
  | saveRecord draft holder =>
    unfold turned
    dsimp only
    split <;> exact Nat.le_refl _
  | move next =>
    cases next with
    | newSheet chance holder name description =>
      unfold turned after
      dsimp only
      split
      · exact Nat.le_refl _
      · split <;> exact (List.prefix_append _ _).length_le
    | errand chance places command => exact (List.prefix_append _ _).length_le
    | openIn _ _ | reread _ | sheetNames _ | write _ _ | close _ =>
      unfold turned after
      dsimp only
      repeat' split
      all_goals exact Nat.le_refl _
    | forget _ | takeLock _ | releaseLock _ => exact Nat.le_refl _

/-! ## Whole runs -/

/-- The session of whoever made a cabinet. -/
def Session.begun (first : Cabinet) (made : Store) : Session := { store := made, cabinets := [first] }

theorem consistent_begun {draft : Draft} {name description : String} {parent : Path}
    {store made : Store} {first : Cabinet}
    (created : Cabinet.create draft name description parent store = .ok first made) :
    ∃ place, Consistent first.directory name description place (.begun first made) := by
  obtain ⟨plain, place, sound⟩ := sound_of_reached created .start
  refine ⟨place, plain, sound, ?_⟩
  intro cabinet member
  obtain ⟨_, fresh⟩ := Cabinet.made_of_create created
  rw [List.mem_singleton.1 member, fresh.cabinet_eq]
  exact ⟨rfl, rfl⟩

section Runs

variable {home : Path} {name description : String} {place : Location} {start : Session}
  {turns : List Turn}

/-- All counts are in step at every moment of a run, if no turn that comes when they are writes back
a count that is out of date. -/
theorem consistent_of_prefix (begun : Consistent home name description place start)
    (allowed : Allowed home start turns)
    (current : ∀ front draft holder cabinet after, front ++ [.saveRecord draft holder] <+: turns →
      Consistent home name description place (start.run front) →
      (start.run front).cabinets[holder]? = some cabinet →
      cabinet.saveRecord draft.synced (start.run front).store = .ok () after →
      (start.run front).counted.length ≤ cabinet.count.toNat) {front : List Turn}
    (begins : front <+: turns) : Consistent home name description place (start.run front) := by
  -- by induction on the turns that were taken, the last one taken off
  induction front using List.reverseRecOn with
  | nil => exact begun
  | append_singleton front turn ih =>
    have consistent := ih ((List.prefix_append front [turn]).trans begins)
    rw [Session.run_concat]
    refine consistent.turned (allowed front turn begins) ?_
    rintro draft holder cabinet after rfl held done
    exact current front draft holder cabinet after begins consistent held done

/-- What is written back is what the control file says afterwards, so it is no less than what that said
before if its count never gets lower. -/
theorem le_count_of_grows {front : List Turn} {draft : Draft} {holder : Nat} {cabinet : Cabinet}
    {after : Store} (consistent : Consistent home name description place (start.run front))
    (allowed : (Turn.saveRecord draft holder).Allowed home (start.run front))
    (grows : ∀ count later, (start.run front).Records home count →
      (start.run (front ++ [.saveRecord draft holder])).Records home later → count ≤ later)
    (held : (start.run front).cabinets[holder]? = some cabinet)
    (done : cabinet.saveRecord draft.synced (start.run front).store = .ok () after) :
    (start.run front).counted.length ≤ cabinet.count.toNat := by
  rcases consistent.saveRecord_cases (List.mem_of_getElem? held) (allowed cabinet held) with
    ⟨_, _, failed, -⟩ | ⟨_, again, replaced⟩
  · rw [done] at failed
    cases failed
  · rw [done] at again
    cases again
    refine grows _ _ consistent.records ?_
    rw [Session.run_concat, Consistent.turned_saveRecord held, done]
    exact consistent.records_of_replaced replaced

theorem current_of_noneLost (begun : Consistent home name description place start)
    (allowed : Allowed home start turns) (kept : NoneLost home start turns) :
    Current home start turns := by
  have enough {front : List Turn} {draft : Draft} {holder : Nat} {cabinet : Cabinet} {after : Store}
      (begins : front ++ [.saveRecord draft holder] <+: turns)
      (here : Consistent home name description place (start.run front)) :=
    @le_count_of_grows _ _ _ _ _ front draft holder cabinet after here (allowed front _ begins)
      (kept.grows front _ begins)
  intro front draft holder begins cabinet after held done
  have here := consistent_of_prefix begun allowed
    (fun _ _ _ _ _ begins here held done => enough begins here held done)
    ((List.prefix_append front _).trans begins)
  have all := Nat.le_antisymm (here.sound.cabinets cabinet (List.mem_of_getElem? held)).known
    (enough begins here held done)
  rw [all]
  exact here.records

theorem noneLost_of_current (begun : Consistent home name description place start)
    (allowed : Allowed home start turns) (current : Current home start turns) :
    NoneLost home start turns := by
  have consistent {front : List Turn} (begins : front <+: turns) :=
    consistent_of_prefix begun allowed
      (fun front draft holder cabinet after begins here held done => Nat.le_of_eq
        (here.records.unique (current front draft holder begins cabinet after held done))) begins
  refine ⟨fun front begins => ⟨_, (consistent begins).records, ?_⟩, ?_⟩
  · exact List.reduceOption_length_le _
  · intro front turn begins count later before next
    have here := consistent ((List.prefix_append front _).trans begins)
    rw [before.unique here.records, next.unique (consistent begins).records, Session.run_concat]
    exact Session.counted_turned _ turn

end Runs

/-- After a cabinet was made, and whatever those who have it open do: that the control file always
counts all granted sheets, and never fewer than before, is the same as that nobody ever writes back a
count that is not the one in the control file. A lock that somebody holds makes no difference: with it
a record is written back as without. -/
theorem noneLost_iff_current {draft : Draft} {name description : String} {parent : Path}
    {store made : Store} {first : Cabinet}
    (created : Cabinet.create draft name description parent store = .ok first made)
    {turns : List Turn} (allowed : Allowed first.directory (.begun first made) turns) :
    (NoneLost first.directory (.begun first made) turns ↔
      Current first.directory (.begun first made) turns) ∧
    ∀ (cabinet : Cabinet) (draft : Draft), Work.LockBlind (cabinet.saveRecord draft) := by
  obtain ⟨place, begun⟩ := consistent_begun created
  exact ⟨⟨current_of_noneLost begun allowed, noneLost_of_current begun allowed⟩,
    lockBlind_saveRecord⟩

/-- Turns that are allowed one after the other. -/
def Session.allows (home : Path) (session : Session) : List Turn → Bool
  | [] => true
  | turn :: rest => turn.Allowed home session && (session.turned turn).allows home rest

theorem allowed_of_allows {home : Path} {turns : List Turn} {start : Session}
    (allows : start.allows home turns = true) : Allowed home start turns := by
  induction turns generalizing start with
  | nil =>
    intro front turn begins
    simp at begins
  | cons turn rest ih =>
    unfold Session.allows at allows
    rw [Bool.and_eq_true, decide_eq_true_eq] at allows
    intro front next begins
    cases front with
    | nil =>
      obtain ⟨rfl, -⟩ := List.cons_prefix_cons.1 begins
      exact allows.1
    | cons first front =>
      obtain ⟨rfl, later⟩ := List.cons_prefix_cons.1 begins
      exact ih allows.2 front next later

/-- Whoever reads the control file again before writing its record back loses nothing. -/
theorem noneLost_iff_current_reread :
    ∃ first made, Cabinet.create default "c" "" "." { files := {} } = .ok first made ∧
      NoneLost first.directory (.begun first made) [.move (.openIn "c" "."),
        .move (.newSheet default 0 "s1" ""), .move (.reread 1), .saveRecord default 1] := by
  have facts : Work.passes (fun first made =>
      let turns : List Turn := [.move (.openIn "c" "."), .move (.newSheet default 0 "s1" ""),
        .move (.reread 1)]
      let session := (Session.begun first made).run turns
      (Session.begun first made).allows first.directory (turns ++ [.saveRecord default 1]) &&
        session.cabinets[1]?.map Cabinet.count = some 1 &&
        Work.passes (fun record _ => record.count = 1)
          (ControlRecord.load first.directory session.store))
      (Cabinet.create default "c" "" "." { files := {} }) = true := by decide +kernel
  obtain ⟨first, made, created, facts⟩ := Work.exists_of_passes facts
  simp only [Bool.and_eq_true, decide_eq_true_eq] at facts
  obtain ⟨⟨allows, known⟩, reads⟩ := facts
  refine ⟨first, made, created, (noneLost_iff_current created (allowed_of_allows allows)).1.2 ?_⟩
  intro front draft holder begins cabinet after held done
  obtain ⟨rfl, rfl⟩ : front = [.move (.openIn "c" "."), .move (.newSheet default 0 "s1" ""),
      .move (.reread 1)] ∧ holder = 1 := by
    rcases front with _ | ⟨_, _ | ⟨_, _ | ⟨_, _ | ⟨_, front⟩⟩⟩⟩ <;> simp_all
  obtain ⟨record, _, loaded, one⟩ := Work.exists_of_passes reads
  obtain ⟨rfl, -⟩ := ControlRecord.load_eq_ok loaded
  obtain ⟨other, same, count⟩ := Option.map_eq_some_iff.1 known
  obtain rfl : other = cabinet := Option.some.inj (same.symm.trans held)
  refine ⟨record, loaded, ?_⟩
  rw [of_decide_eq_true one, count]

/-- Somebody who knows of no sheet writes that back after another got one. -/
theorem not_noneLost_of_stale :
    ∃ first made, Cabinet.create default "c" "" "." { files := {} } = .ok first made ∧
      Allowed first.directory (.begun first made) [.move (.openIn "c" "."),
        .move (.newSheet default 0 "s1" ""), .saveRecord default 1] ∧
      ¬NoneLost first.directory (.begun first made) [.move (.openIn "c" "."),
        .move (.newSheet default 0 "s1" ""), .saveRecord default 1] := by
  have facts : Work.passes (fun first made =>
      let turns : List Turn := [.move (.openIn "c" "."), .move (.newSheet default 0 "s1" ""),
        .saveRecord default 1]
      let session := (Session.begun first made).run turns
      (Session.begun first made).allows first.directory turns && session.granted = [1] &&
        Work.passes (fun record _ => record.count = 0)
          (ControlRecord.load first.directory session.store))
      (Cabinet.create default "c" "" "." { files := {} }) = true := by decide +kernel
  obtain ⟨first, made, created, facts⟩ := Work.exists_of_passes facts
  simp only [Bool.and_eq_true, decide_eq_true_eq] at facts
  obtain ⟨⟨allows, granted⟩, reads⟩ := facts
  refine ⟨first, made, created, allowed_of_allows allows, ?_⟩
  rintro ⟨covers, -⟩
  obtain ⟨count, records, enough⟩ := covers _ List.prefix_rfl
  obtain ⟨record, _, loaded, none⟩ := Work.exists_of_passes reads
  obtain ⟨rfl, -⟩ := ControlRecord.load_eq_ok loaded
  rw [granted, records.unique ⟨record, loaded, rfl⟩, of_decide_eq_true none] at enough
  exact absurd enough (by decide)

end SheetCabinet
