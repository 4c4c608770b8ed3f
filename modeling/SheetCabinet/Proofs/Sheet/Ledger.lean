import SheetCabinet.Diagnostic
import SheetCabinet.Proofs.Sheet.RoundTrip
import SheetCabinet.Proofs.Store.Reading

/-!
# Runs of an open sheet

Whoever holds an open sheet can ask eight things of it, in any order, and on every one of them the
file may be in trouble of its own: the write torn after any number of bytes, syncing or cutting back
refused. What such a run makes of a sheet depends on five things only, which are its ledger: what
the file holds, the length that counts as committed, the next number, whether numbers are used up,
and the staged text.

Results:
* the ledger of a sheet goes through a run as `Ledger.step` says (`ledger_after`, `ledger_run`);
* a run leaves every other file and every name alone (`Frame`, `frame_run`).
-/

namespace SheetCabinet

/-! ## Requests and runs -/

inductive Request
  | write (text : String)
  | stage (text : String)
  /-- Text that arrives in pieces, as formatted output does. -/
  | stageAll (pieces : List String)
  | commitStaged
  | clearStaged
  | sync
  | setAutoSync (on : Bool)
  /-- A report of a decoder is to be kept. -/
  | record (diagnostic : Diagnostic)
deriving DecidableEq, Repr

/-- A request, and the trouble that the file is in meanwhile. -/
structure Step where
  request : Request
  trouble : Trouble := {}
deriving DecidableEq, Repr

/-- The text that a request is about to commit, if it is one that commits. -/
def Request.due (staged : String) : Request → Option String
  | write text => some text
  | record diagnostic => some diagnostic.text
  | commitStaged => some staged
  | stage _ | stageAll _ | clearStaged | sync | setAutoSync _ => none

def Request.work : Request → Sheet.Writing Unit
  | write text => Sheet.write text
  | stage text => fun desk => .ok () { desk with sheet := desk.sheet.stage text }
  | stageAll pieces => fun desk => .ok () { desk with sheet := pieces.foldl Sheet.stage desk.sheet }
  | commitStaged => Sheet.commitStaged
  | clearStaged => fun desk => .ok () { desk with sheet := desk.sheet.clearStaged }
  | sync => Sheet.sync
  | setAutoSync on => fun desk => .ok () { desk with sheet := desk.sheet.setAutoSync on }
  | record diagnostic => fun desk => .ok () (diagnostic.record desk)

namespace Desk

/-- The desk with the sheet's file in the given trouble. -/
def under (trouble : Trouble) (desk : Desk) : Desk :=
  { desk with sheet :=
      { desk.sheet with handle := { desk.sheet.handle with trouble := trouble } } }

def bytes (desk : Desk) : Bytes := (desk.store.files.body desk.sheet.handle.file).bytes

end Desk

def Step.outcome (step : Step) (desk : Desk) : EStateM.Result Failure Desk Unit :=
  step.request.work (desk.under step.trouble)

def Step.after (step : Step) (desk : Desk) : Desk := leftBy (step.outcome desk)

def Desk.run (desk : Desk) (steps : List Step) : Desk :=
  steps.foldl (fun desk step => step.after desk) desk

@[simp] theorem Desk.run_nil (desk : Desk) : desk.run [] = desk := rfl

@[simp] theorem Desk.run_cons (desk : Desk) (step : Step) (steps : List Step) :
    desk.run (step :: steps) = (step.after desk).run steps := rfl

theorem Desk.run_append (desk : Desk) (first second : List Step) :
    desk.run (first ++ second) = (desk.run first).run second := List.foldl_append

/-! ## The ledger -/

/-- What a run of a sheet depends on. -/
structure Ledger where
  /-- What the file holds. -/
  bytes : Bytes
  /-- The length that failed writes are cut back to. -/
  committed : Nat
  number : UInt32
  exhausted : Bool
  staged : String
deriving DecidableEq, Repr

def Desk.ledger (desk : Desk) : Ledger where
  bytes := desk.bytes
  committed := desk.sheet.committed
  number := desk.sheet.number
  exhausted := desk.sheet.exhausted
  staged := desk.sheet.staged

/-- Bytes cut to a length, or filled up with NUL to that length. -/
def cutTo (length : Nat) (bytes : Bytes) : Bytes :=
  bytes.take length ++ List.replicate (length - bytes.length) 0

theorem cutTo_of_le {length : Nat} {bytes : Bytes} (long : length ≤ bytes.length) :
    cutTo length bytes = bytes.take length := by
  simp [cutTo, Nat.sub_eq_zero_of_le long]

theorem length_cutTo (length : Nat) (bytes : Bytes) : (cutTo length bytes).length = length := by
  rw [cutTo, List.length_append, List.length_take, List.length_replicate]
  omega

theorem toNat_add_one {number : UInt32} (room : number.toNat + 1 < UInt32.size) :
    (number + 1).toNat = number.toNat + 1 := by
  rw [UInt32.toNat_add]
  exact Nat.mod_eq_of_lt room

namespace Ledger

def line (ledger : Ledger) (text : String) : Bytes := utf8 (entryLine ledger.number text)

/-- Whether a text that is to be committed now gets into the file as a whole. -/
def commits (ledger : Ledger) (trouble : Trouble) : Bool :=
  !ledger.exhausted && trouble.torn.isNone

/-- The ledger after a text was committed. -/
def commit (ledger : Ledger) (text : String) : Ledger :=
  let line := ledger.line text
  if ledger.number.toNat + 1 < UInt32.size then
    { ledger with
      bytes := ledger.bytes ++ line
      committed := ledger.committed + line.length
      number := ledger.number + 1 }
  else
    { ledger with
      bytes := ledger.bytes ++ line
      committed := ledger.committed + line.length
      exhausted := true }

/-- The ledger after a write that stored only the first bytes of the line. -/
def tear (ledger : Ledger) (text : String) (stored : Nat) (cutFails : Bool) : Ledger :=
  let torn := ledger.bytes ++ (ledger.line text).take stored
  { ledger with bytes := if cutFails then torn else cutTo ledger.committed torn }

def write (ledger : Ledger) (text : String) (trouble : Trouble) : Ledger :=
  if ledger.exhausted then ledger
  else
    match trouble.torn with
    | some stored => ledger.tear text stored trouble.cutFails
    | none => ledger.commit text

def step (ledger : Ledger) (step : Step) : Ledger :=
  match step.request with
  | .write text => ledger.write text step.trouble
  | .record diagnostic => ledger.write diagnostic.text step.trouble
  | .commitStaged =>
    let after := ledger.write ledger.staged step.trouble
    if ledger.commits step.trouble then { after with staged := "" } else after
  | .stage text => { ledger with staged := ledger.staged ++ text }
  | .stageAll pieces => { ledger with staged := ledger.staged ++ String.join pieces }
  | .clearStaged => { ledger with staged := "" }
  | .sync => ledger
  | .setAutoSync _ => ledger

def run (ledger : Ledger) (steps : List Step) : Ledger := steps.foldl step ledger

@[simp] theorem run_nil (ledger : Ledger) : ledger.run [] = ledger := rfl

@[simp] theorem run_cons (ledger : Ledger) (first : Step) (rest : List Step) :
    ledger.run (first :: rest) = (ledger.step first).run rest := rfl

theorem run_append (ledger : Ledger) (first second : List Step) :
    ledger.run (first ++ second) = (ledger.run first).run second := List.foldl_append

theorem length_line_pos (ledger : Ledger) (text : String) : 0 < (ledger.line text).length := by
  rw [List.length_pos_iff, line, ne_eq, ← utf8_empty, utf8_inj, ← String.toList_inj]
  simp [entryLine]

theorem write_of_torn {ledger : Ledger} {trouble : Trouble} {stored : Nat}
    (usable : ledger.exhausted = false) (torn : trouble.torn = some stored) (text : String) :
    ledger.write text trouble = ledger.tear text stored trouble.cutFails := by
  simp [write, usable, torn]

theorem write_of_commits {ledger : Ledger} {trouble : Trouble}
    (commits : ledger.commits trouble = true) (text : String) :
    ledger.write text trouble = ledger.commit text := by
  simp only [Ledger.commits, Bool.and_eq_true, Bool.not_eq_true', Option.isNone_iff_eq_none] at commits
  simp [write, commits.1, commits.2]

theorem usable_of_commits {ledger : Ledger} {trouble : Trouble}
    (commits : ledger.commits trouble = true) : ledger.exhausted = false := by
  rw [Ledger.commits, Bool.and_eq_true, Bool.not_eq_true'] at commits
  exact commits.1

theorem committed_commit (ledger : Ledger) (text : String) :
    (ledger.commit text).committed = ledger.committed + (ledger.line text).length := by
  unfold commit
  dsimp only
  split <;> rfl

theorem bytes_commit (ledger : Ledger) (text : String) :
    (ledger.commit text).bytes = ledger.bytes ++ ledger.line text := by
  unfold commit
  dsimp only
  split <;> rfl

theorem number_commit (ledger : Ledger) (text : String) :
    (ledger.commit text).number =
      if ledger.number.toNat + 1 < UInt32.size then ledger.number + 1 else ledger.number := by
  unfold commit
  dsimp only
  split <;> rfl

theorem exhausted_commit (ledger : Ledger) (text : String) :
    (ledger.commit text).exhausted =
      if ledger.number.toNat + 1 < UInt32.size then ledger.exhausted else true := by
  unfold commit
  dsimp only
  split <;> rfl

/-- If there is a next number at all, it is a greater one. -/
theorem lt_number_commit {ledger : Ledger} {text : String}
    (still : (ledger.commit text).exhausted = false) :
    ledger.number.toNat < (ledger.commit text).number.toNat := by
  rw [exhausted_commit] at still
  rw [number_commit]
  split at still
  · rename_i room
    rw [if_pos room, toNat_add_one room]
    exact Nat.lt_succ_self _
  · cases still

theorem staged_write (ledger : Ledger) (text : String) (trouble : Trouble) :
    (ledger.write text trouble).staged = ledger.staged := by
  unfold write commit tear
  dsimp only
  repeat' split
  all_goals rfl

theorem withStaged_self {ledger : Ledger} {staged : String} (same : ledger.staged = staged) :
    { ledger with staged := staged } = ledger := by
  subst same
  rfl

/-- A write that does not commit its text changes nothing but what the file holds. -/
theorem write_of_not_commits {ledger : Ledger} {trouble : Trouble}
    (fails : ledger.commits trouble = false) (text : String) :
    ledger.write text trouble = { ledger with bytes := (ledger.write text trouble).bytes } := by
  unfold write
  split
  · rfl
  · rename_i usable
    cases torn : trouble.torn with
    | some stored => rfl
    | none => simp [commits, usable, torn] at fails

theorem committed_write_of_not_commits {ledger : Ledger} {trouble : Trouble}
    (fails : ledger.commits trouble = false) (text : String) :
    (ledger.write text trouble).committed = ledger.committed := by
  rw [write_of_not_commits fails]

/-- Staging apart, a step is the write of the text that is due, or nothing. -/
theorem exists_step_eq (ledger : Ledger) (step : Step) :
    ∃ staged, ledger.step step = { (match step.request.due ledger.staged with
      | some text => ledger.write text step.trouble
      | none => ledger) with staged := staged } := by
  obtain ⟨request, trouble⟩ := step
  unfold Ledger.step
  cases request with
  | commitStaged =>
    dsimp only [Request.due]
    split
    · exact ⟨_, rfl⟩
    · exact ⟨_, (withStaged_self rfl).symm⟩
  | write text => exact ⟨_, (withStaged_self rfl).symm⟩
  | record diagnostic => exact ⟨_, (withStaged_self rfl).symm⟩
  | stage text => exact ⟨_, rfl⟩
  | stageAll pieces => exact ⟨_, rfl⟩
  | clearStaged => exact ⟨_, rfl⟩
  | sync => exact ⟨_, (withStaged_self rfl).symm⟩
  | setAutoSync on => exact ⟨_, (withStaged_self rfl).symm⟩

end Ledger

/-! ## Sheets go through a run as their ledgers do -/

theorem ledger_sync (desk : Desk) : (leftBy (Sheet.sync desk)).ledger = desk.ledger := by
  unfold Sheet.sync
  split <;> rfl

theorem bytes_resize_self (files : FileSystem) (id : FileId) (length : Nat) :
    ((files.resize id length).body id).bytes = cutTo length (files.body id).bytes := by
  simp [FileSystem.resize, FileSystem.bytes_setBytes, cutTo]

/-- Cutting back changes nothing but the file, and that only if it succeeds. -/
theorem ledger_rollBack (sheet : Sheet) (store : Store) :
    (Desk.mk sheet (sheet.rollBack store)).ledger =
      { (Desk.mk sheet store).ledger with
        bytes := if sheet.handle.trouble.cutFails then (Desk.mk sheet store).bytes
          else cutTo sheet.committed (Desk.mk sheet store).bytes } := by
  unfold Sheet.rollBack Handle.cutBack
  cases sheet.handle.trouble.cutFails with
  | true => rfl
  | false => simp [Desk.ledger, Desk.bytes, bytes_resize_self]

@[simp] theorem Sheet.path_advanced (sheet : Sheet) (length : Nat) :
    (sheet.advanced length).path = sheet.path := by
  unfold Sheet.advanced
  split <;> rfl

@[simp] theorem Sheet.handle_advanced (sheet : Sheet) (length : Nat) :
    (sheet.advanced length).handle = sheet.handle := by
  unfold Sheet.advanced
  split <;> rfl

@[simp] theorem Sheet.autoSync_advanced (sheet : Sheet) (length : Nat) :
    (sheet.advanced length).autoSync = sheet.autoSync := by
  unfold Sheet.advanced
  split <;> rfl

theorem ledger_advanced (sheet : Sheet) (store : Store) (text : String) :
    (Desk.mk (sheet.advanced (utf8 (entryLine sheet.number text)).length)
      { store with files :=
          store.files.append sheet.handle.file (utf8 (entryLine sheet.number text)) }).ledger =
      (Desk.mk sheet store).ledger.commit text := by
  unfold Sheet.advanced Ledger.commit
  by_cases room : sheet.number.toNat + 1 < UInt32.size <;>
    simp [Desk.ledger, Desk.bytes, Ledger.line, room, FileSystem.bytes_append]

/-- A torn write fails, and the file is cut back if that succeeds. -/
theorem write_of_torn {desk : Desk} {stored : Nat} (usable : desk.sheet.exhausted = false)
    (torn : desk.sheet.handle.trouble.torn = some stored) (text : String) :
    Sheet.write text desk =
      let written := { desk.sheet with handle := desk.sheet.handle.afterWrite }
      let line := utf8 (entryLine desk.sheet.number text)
      let files := desk.store.files.append desk.sheet.handle.file (line.take stored)
      .error (.io .diskFull) ⟨written, written.rollBack { desk.store with files := files }⟩ := by
  simp [Sheet.write, Handle.write, usable, torn]

/-- A write that is not torn commits the text, and may only fail to sync it. -/
theorem write_of_whole {desk : Desk} (usable : desk.sheet.exhausted = false)
    (whole : desk.sheet.handle.trouble.torn = none) (text : String) :
    Sheet.write text desk =
      let written := { desk.sheet with handle := desk.sheet.handle.afterWrite }
      let line := utf8 (entryLine desk.sheet.number text)
      let files := desk.store.files.append desk.sheet.handle.file line
      let next : Desk := ⟨written.advanced line.length, { desk.store with files := files }⟩
      if desk.sheet.autoSync then Sheet.sync next else .ok () next := by
  simp [Sheet.write, Handle.write, usable, whole]

theorem ledger_write (text : String) (desk : Desk) :
    (leftBy (Sheet.write text desk)).ledger =
      desk.ledger.write text desk.sheet.handle.trouble := by
  cases used : desk.sheet.exhausted with
  | true =>
    have full : desk.ledger.exhausted = true := used
    rw [Sheet.write_of_exhausted used, Ledger.write, if_pos full]
    rfl
  | false =>
    cases torn : desk.sheet.handle.trouble.torn with
    | some stored =>
      rw [Ledger.write_of_torn used torn, write_of_torn used torn]
      dsimp only
      rw [leftBy_error, ledger_rollBack]
      simp [Ledger.tear, Desk.ledger, Desk.bytes, Ledger.line, Handle.afterWrite,
        FileSystem.bytes_append]
    | none =>
      have commits : desk.ledger.commits desk.sheet.handle.trouble = true := by
        simp [Ledger.commits, Desk.ledger, used, torn]
      have next := ledger_advanced { desk.sheet with handle := desk.sheet.handle.afterWrite }
        desk.store text
      rw [Ledger.write_of_commits commits, write_of_whole used torn]
      dsimp only
      split
      · rw [ledger_sync]
        exact next
      · exact next

theorem commits_of_write_ok {text : String} (desk : Desk) {after : Desk} {value : Unit}
    (done : Sheet.write text desk = .ok value after) :
    desk.ledger.commits desk.sheet.handle.trouble = true := by
  cases used : desk.sheet.exhausted with
  | true =>
    rw [Sheet.write_of_exhausted used] at done
    cases done
  | false =>
    cases torn : desk.sheet.handle.trouble.torn with
    | some stored =>
      rw [write_of_torn used torn] at done
      cases done
    | none => simp [Ledger.commits, Desk.ledger, used, torn]

theorem ledger_record (diagnostic : Diagnostic) (desk : Desk) :
    (diagnostic.record desk).ledger =
      desk.ledger.write diagnostic.text desk.sheet.handle.trouble := by
  rw [← ledger_write, Diagnostic.record]
  cases Sheet.write diagnostic.text desk <;> rfl

/-! ### What is staged -/

/-- The desk with another text staged. -/
def Desk.restaged (desk : Desk) (staged : String) : Desk :=
  { desk with sheet := { desk.sheet with staged := staged } }

/-- The same answer, with another text staged. -/
def restage (staged : String) :
    EStateM.Result Failure Desk Unit → EStateM.Result Failure Desk Unit
  | .ok () after => .ok () (after.restaged staged)
  | .error failure after => .error failure (after.restaged staged)

theorem leftBy_restage (staged : String) (result : EStateM.Result Failure Desk Unit) :
    leftBy (restage staged result) = (leftBy result).restaged staged := by
  cases result <;> rfl

theorem saidBy_restage (staged : String) (result : EStateM.Result Failure Desk Unit) :
    saidBy (restage staged result) = saidBy result := by
  cases result <;> rfl

theorem sync_restaged (desk : Desk) (staged : String) :
    Sheet.sync (desk.restaged staged) = restage staged (Sheet.sync desk) := by
  unfold Sheet.sync
  cases synced : desk.sheet.handle.sync <;> simp only [Desk.restaged, synced] <;> rfl

theorem advanced_restaged (sheet : Sheet) (length : Nat) (staged : String) :
    { sheet with staged := staged }.advanced length =
      { sheet.advanced length with staged := staged } := by
  unfold Sheet.advanced
  dsimp only
  split <;> rfl

/-- What is staged has no part in writing. -/
theorem write_restaged (text : String) (desk : Desk) (staged : String) :
    Sheet.write text (desk.restaged staged) = restage staged (Sheet.write text desk) := by
  cases used : desk.sheet.exhausted with
  | true =>
    have same : (desk.restaged staged).sheet.exhausted = true := used
    rw [Sheet.write_of_exhausted used, Sheet.write_of_exhausted same]
    rfl
  | false =>
    have same : (desk.restaged staged).sheet.exhausted = false := used
    cases torn : desk.sheet.handle.trouble.torn with
    | some stored =>
      have cut : (desk.restaged staged).sheet.handle.trouble.torn = some stored := torn
      rw [write_of_torn used torn, write_of_torn same cut]
      rfl
    | none =>
      have whole : (desk.restaged staged).sheet.handle.trouble.torn = none := torn
      let line := utf8 (entryLine desk.sheet.number text)
      let written := { desk.sheet with handle := desk.sheet.handle.afterWrite }
      let files := desk.store.files.append desk.sheet.handle.file line
      let next : Desk := ⟨written.advanced line.length, { desk.store with files := files }⟩
      have advanced : Desk.mk ({ written with staged := staged }.advanced line.length)
          { desk.store with files := files } = next.restaged staged := by
        rw [advanced_restaged]
        rfl
      have synced := sync_restaged next staged
      rw [← advanced] at synced
      rw [write_of_whole used torn, write_of_whole same whole]
      show (if desk.sheet.autoSync then Sheet.sync _ else .ok () _) =
        restage staged (if desk.sheet.autoSync then Sheet.sync next else .ok () next)
      split
      · exact synced
      · exact congrArg (EStateM.Result.ok ()) advanced

/-- Committing what is staged is writing it; it stays staged unless the entry got into the file, which
can be told by the committed length. -/
theorem commitStaged_eq (desk : Desk) :
    Sheet.commitStaged desk =
      restage (if desk.ledger.commits desk.sheet.handle.trouble then "" else desk.sheet.staged)
        (Sheet.write desk.sheet.staged desk) := by
  have length := desk.ledger.length_line_pos desk.sheet.staged
  have written := ledger_write desk.sheet.staged desk
  have cleared : Sheet.write desk.sheet.staged { desk with sheet := desk.sheet.clearStaged } =
      restage "" (Sheet.write desk.sheet.staged desk) := write_restaged desk.sheet.staged desk ""
  unfold Sheet.commitStaged
  simp only [cleared]
  cases result : Sheet.write desk.sheet.staged desk with
  | ok _ after => rw [if_pos (commits_of_write_ok desk result)]; rfl
  | error failure after =>
    rw [result] at written
    have same : after.sheet.committed =
        (desk.ledger.write desk.sheet.staged desk.sheet.handle.trouble).committed :=
      congrArg Ledger.committed written
    simp only [restage, Desk.restaged]
    -- a failure after the commit is one of syncing: the committed length has grown
    by_cases commits : desk.ledger.commits desk.sheet.handle.trouble = true
    · rw [Ledger.write_of_commits commits, Ledger.committed_commit] at same
      have grown : after.sheet.committed ≠ desk.sheet.committed := by
        rw [same]
        exact Nat.ne_of_gt (Nat.lt_add_of_pos_right length)
      rw [if_neg grown, if_pos commits]
    · rw [Ledger.committed_write_of_not_commits (Bool.eq_false_iff.2 commits)] at same
      rw [if_pos (show after.sheet.committed = desk.sheet.committed from same), if_neg commits]

theorem leftBy_commitStaged (desk : Desk) :
    ∃ staged, leftBy (Sheet.commitStaged desk) =
      (leftBy (Sheet.write desk.sheet.staged desk)).restaged staged :=
  ⟨_, by rw [commitStaged_eq, leftBy_restage]⟩

theorem ledger_commitStaged (desk : Desk) :
    (leftBy (Sheet.commitStaged desk)).ledger =
      desk.ledger.step ⟨.commitStaged, desk.sheet.handle.trouble⟩ := by
  have written := ledger_write desk.sheet.staged desk
  have kept := Ledger.staged_write desk.ledger desk.sheet.staged desk.sheet.handle.trouble
  have restaged (desk : Desk) (staged : String) :
      (desk.restaged staged).ledger = { desk.ledger with staged := staged } := rfl
  rw [commitStaged_eq, leftBy_restage, restaged, written, Ledger.step]
  dsimp only
  split
  · rfl
  · exact Ledger.withStaged_self kept

theorem stage_pieces (pieces : List String) (sheet : Sheet) :
    pieces.foldl Sheet.stage sheet = sheet.stage (String.join pieces) := by
  induction pieces generalizing sheet with
  | nil => simp [Sheet.stage]
  | cons piece rest ih => simp [ih, Sheet.stage_stage]

theorem ledger_after (step : Step) (desk : Desk) :
    (step.after desk).ledger = desk.ledger.step step := by
  obtain ⟨request, trouble⟩ := step
  unfold Step.after Step.outcome
  cases request with
  | write text => exact ledger_write text (desk.under trouble)
  | stage text => rfl
  | stageAll pieces =>
    show (Desk.ledger ⟨pieces.foldl Sheet.stage (desk.under trouble).sheet, desk.store⟩) = _
    rw [stage_pieces]
    rfl
  | commitStaged => exact ledger_commitStaged (desk.under trouble)
  | clearStaged => rfl
  | sync => exact ledger_sync (desk.under trouble)
  | setAutoSync on => rfl
  | record diagnostic => exact ledger_record diagnostic (desk.under trouble)

theorem ledger_run (desk : Desk) (steps : List Step) :
    (desk.run steps).ledger = desk.ledger.run steps := by
  induction steps generalizing desk with
  | nil => rfl
  | cons step rest ih => rw [Desk.run_cons, ih, ledger_after, Ledger.run_cons]

/-! ## What a run leaves alone -/

/-- The sheet has the same file, and nothing but what that file holds is different. -/
structure Frame (desk after : Desk) : Prop where
  path : after.sheet.path = desk.sheet.path
  file : after.sheet.handle.file = desk.sheet.handle.file
  tree : after.store.files.tree = desk.store.files.tree
  home : after.store.files.home = desk.store.files.home
  body : ∀ id, id ≠ desk.sheet.handle.file →
    after.store.files.body id = desk.store.files.body id

namespace Frame

theorem refl (desk : Desk) : Frame desk desk := ⟨rfl, rfl, rfl, rfl, fun _ _ => rfl⟩

theorem trans {desk between after : Desk} (first : Frame desk between)
    (second : Frame between after) : Frame desk after where
  path := second.path.trans first.path
  file := second.file.trans first.file
  tree := second.tree.trans first.tree
  home := second.home.trans first.home
  body id other := by
    rw [second.body id (first.file ▸ other), first.body id other]

end Frame

theorem Sheet.files_close (sheet : Sheet) (store : Store) :
    (sheet.close store).files = store.files := by
  unfold Sheet.close
  split <;> rfl

theorem frame_sync (desk : Desk) : Frame desk (leftBy (Sheet.sync desk)) := by
  unfold Sheet.sync
  split <;> exact ⟨rfl, rfl, rfl, rfl, fun _ _ => rfl⟩

theorem body_append_ne {files : FileSystem} {id other : FileId} (distinct : other ≠ id)
    (bytes : Bytes) : (files.append id bytes).body other = files.body other := by
  unfold FileSystem.append
  rw [FileSystem.body_setBody, if_neg distinct]

/-- Cutting back touches the file of the sheet only. -/
theorem frame_rollBack (sheet : Sheet) (store : Store) :
    Frame ⟨sheet, store⟩ ⟨sheet, sheet.rollBack store⟩ := by
  unfold Sheet.rollBack Handle.cutBack
  cases sheet.handle.trouble.cutFails with
  | true => exact ⟨rfl, rfl, rfl, rfl, fun _ _ => rfl⟩
  | false =>
    refine ⟨rfl, rfl, rfl, rfl, ?_⟩
    intro id other
    exact (FileSystem.body_setBody _ _ _ _).trans (if_neg other)

theorem frame_append {desk after : Desk} {bytes : Bytes}
    (path : after.sheet.path = desk.sheet.path)
    (file : after.sheet.handle.file = desk.sheet.handle.file)
    (written : after.store.files = desk.store.files.append desk.sheet.handle.file bytes) :
    Frame desk after where
  path := path
  file := file
  tree := by
    rw [written]
    rfl
  home := by
    rw [written]
    rfl
  body id other := by rw [written, body_append_ne other]

theorem frame_write (text : String) (desk : Desk) :
    Frame desk (leftBy (Sheet.write text desk)) := by
  cases used : desk.sheet.exhausted with
  | true =>
    rw [Sheet.write_of_exhausted used]
    exact .refl desk
  | false =>
    cases torn : desk.sheet.handle.trouble.torn with
    | some stored =>
      let files := desk.store.files.append desk.sheet.handle.file
        ((utf8 (entryLine desk.sheet.number text)).take stored)
      let between : Desk := ⟨{ desk.sheet with handle := desk.sheet.handle.afterWrite },
        { desk.store with files := files }⟩
      have reached : Frame desk between := frame_append rfl rfl rfl
      rw [write_of_torn used torn]
      exact reached.trans (frame_rollBack between.sheet between.store)
    | none =>
      rw [write_of_whole used torn]
      dsimp only
      split
      · exact (frame_append (by simp) (by simp [Handle.afterWrite]) rfl).trans (frame_sync _)
      · exact frame_append (by simp) (by simp [Handle.afterWrite]) rfl

theorem frame_commitStaged (desk : Desk) : Frame desk (leftBy (Sheet.commitStaged desk)) := by
  obtain ⟨staged, same⟩ := leftBy_commitStaged desk
  have written := frame_write desk.sheet.staged desk
  rw [same]
  exact ⟨written.path, written.file, written.tree, written.home, written.body⟩

theorem frame_record (diagnostic : Diagnostic) (desk : Desk) :
    Frame desk (diagnostic.record desk) := by
  have written := frame_write diagnostic.text desk
  unfold Diagnostic.record
  cases result : Sheet.write diagnostic.text desk with
  | ok _ after =>
    rw [result] at written
    exact written
  | error failure after =>
    rw [result] at written
    exact ⟨written.path, written.file, written.tree, written.home, written.body⟩

theorem frame_after (step : Step) (desk : Desk) : Frame desk (step.after desk) := by
  obtain ⟨request, trouble⟩ := step
  have taken : Frame desk (desk.under trouble) := ⟨rfl, rfl, rfl, rfl, fun _ _ => rfl⟩
  refine taken.trans ?_
  unfold Step.after Step.outcome
  cases request with
  | write text => exact frame_write text (desk.under trouble)
  | stage text => exact ⟨rfl, rfl, rfl, rfl, fun _ _ => rfl⟩
  | stageAll pieces =>
    show Frame _ ⟨pieces.foldl Sheet.stage (desk.under trouble).sheet, desk.store⟩
    rw [stage_pieces]
    exact ⟨rfl, rfl, rfl, rfl, fun _ _ => rfl⟩
  | commitStaged => exact frame_commitStaged (desk.under trouble)
  | clearStaged => exact ⟨rfl, rfl, rfl, rfl, fun _ _ => rfl⟩
  | sync => exact frame_sync (desk.under trouble)
  | setAutoSync on => exact ⟨rfl, rfl, rfl, rfl, fun _ _ => rfl⟩
  | record diagnostic => exact frame_record diagnostic (desk.under trouble)

/-- Work in two pieces on one sheet. -/
theorem frame_bind {α β : Type} {first : Sheet.Writing α} {next : α → Sheet.Writing β}
    (one : ∀ desk, Frame desk (leftBy (first desk)))
    (other : ∀ value desk, Frame desk (leftBy (next value desk))) (desk : Desk) :
    Frame desk (leftBy ((first >>= next) desk)) := by
  have before := one desk
  show Frame desk (leftBy (EStateM.bind first next desk))
  unfold EStateM.bind
  cases done : first desk with
  | error failure between =>
    rw [done] at before
    exact before
  | ok value between =>
    rw [done] at before
    exact before.trans (other value between)

theorem frame_writeAll (texts : List String) (desk : Desk) :
    Frame desk (leftBy (Sheet.writeAll texts desk)) := by
  induction texts generalizing desk with
  | nil => exact .refl desk
  | cons text rest ih => exact frame_bind (frame_write text) (fun _ => ih) desk

/-- A run of one sheet leaves every other file and every name alone. -/
theorem frame_run (desk : Desk) (steps : List Step) : Frame desk (desk.run steps) := by
  induction steps generalizing desk with
  | nil => exact .refl desk
  | cons step rest ih => exact (frame_after step desk).trans (ih (step.after desk))

end SheetCabinet
