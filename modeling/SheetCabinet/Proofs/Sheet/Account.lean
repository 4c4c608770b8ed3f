import Mathlib.Data.List.Induction
import SheetCabinet.Proofs.Sheet.Creation
import SheetCabinet.Proofs.Sheet.Ledger

/-!
# The account of a sheet

What a run makes of a sheet can be told without files, lengths and numbers: it is the list of the
texts that were written whole, and the text that is staged. The file holds the description and these
texts, numbered from one, and behind them at most what is left of a torn write that could not be cut
back.

Results:
* every write keeps a ledger in step with the account, as long as nothing is left of a torn write
  when a text gets into the file (`kept_write`);
* after every run in which cutting back succeeds the file holds the account and nothing else, and is
  read as such (`run_of_create`).
-/

namespace SheetCabinet

/-! ## The file of numbered texts -/

def lineOf (n : Nat) (text : String) : List Char :=
  decimal n ++ ' ' :: (fold text.toList ++ ['\n'])

def fileText (description : String) (texts : List String) : String :=
  String.ofList (fold description.toList ++ '\n' ::
    (texts.mapIdx fun i text => lineOf (i + 1) text).flatten)

def entriesOf (texts : List String) : List Entry :=
  texts.mapIdx fun i text => ⟨UInt32.ofNat (i + 1), text⟩

theorem entryLine_eq (number : UInt32) (text : String) :
    entryLine number text = String.ofList (lineOf number.toNat text) := by
  simp [entryLine, lineOf]

theorem fileText_nil (description : String) :
    fileText description [] = descriptionLine description := rfl

theorem fileText_ne_empty (description : String) (texts : List String) :
    fileText description texts ≠ "" := by
  rw [ne_eq, ← String.toList_inj]
  simp [fileText]

/-- One more text is one more line. -/
theorem fileText_push (description : String) (texts : List String) {number : UInt32}
    (next : number.toNat = texts.length + 1) (text : String) :
    fileText description (texts ++ [text]) =
      fileText description texts ++ entryLine number text := by
  rw [entryLine_eq, next, ← String.toList_inj]
  simp [fileText]

theorem entriesOf_push (texts : List String) (text : String) :
    entriesOf (texts ++ [text]) = entriesOf texts ++ [⟨UInt32.ofNat (texts.length + 1), text⟩] :=
  List.mapIdx_concat

/-- As long as the numbers are 32-bit numbers, the file is that of a sheet with these entries. -/
theorem fileText_eq_render (description : String) {texts : List String}
    (bound : texts.length < UInt32.size) :
    fileText description texts = Contents.render ⟨description, entriesOf texts⟩ := by
  -- texts are added at the end, so the induction takes them from there
  induction texts using List.reverseRecOn with
  | nil => simp [fileText_nil, Contents.render, entriesOf]
  | append_singleton texts text ih =>
    rw [List.length_append, List.length_singleton] at bound
    have number : (UInt32.ofNat (texts.length + 1)).toNat = texts.length + 1 :=
      UInt32.toNat_ofNat_of_lt bound
    rw [fileText_push description texts number, entriesOf_push, Contents.render_push,
      ih (Nat.lt_of_succ_lt bound)]

theorem parse_fileText (description : String) {texts : List String}
    (bound : texts.length < UInt32.size) :
    Contents.parse (fileText description texts) = .ok ⟨description, entriesOf texts⟩ := by
  rw [fileText_eq_render description bound, Contents.parse_render]

/-! ## Accounts -/

/-- What a run makes of a sheet. -/
structure Account where
  /-- The texts that were written whole, in their order. -/
  texts : List String := []
  /-- The text that was staged since the last commit or since it was last cleared. -/
  staged : String := ""
deriving DecidableEq, Repr

namespace Account

/-- A text gets into the file if its write is not torn and there is a number left for it. -/
def lands (account : Account) (trouble : Trouble) : Bool :=
  trouble.torn.isNone && decide (account.texts.length + 1 < UInt32.size)

def write (account : Account) (text : String) (trouble : Trouble) : Account :=
  if account.lands trouble then { account with texts := account.texts ++ [text] } else account

theorem staged_write (account : Account) (text : String) (trouble : Trouble) :
    (account.write text trouble).staged = account.staged := by
  unfold write
  split <;> rfl

def step (account : Account) (step : Step) : Account :=
  match step.request with
  | .write text => account.write text step.trouble
  | .record diagnostic => account.write diagnostic.text step.trouble
  | .commitStaged =>
    if account.lands step.trouble then ⟨account.texts ++ [account.staged], ""⟩ else account
  | .stage text => { account with staged := account.staged ++ text }
  | .stageAll pieces => { account with staged := account.staged ++ String.join pieces }
  | .clearStaged => { account with staged := "" }
  | .sync => account
  | .setAutoSync _ => account

def run (account : Account) (steps : List Step) : Account := steps.foldl step account

end Account

/-! ## Ledgers in step with an account -/

/-- The file holds the texts and then what is left of torn writes, and the next number is the number
of texts and one, as long as there is one. -/
structure Kept (description : String) (texts : List String) (leftover : Bytes) (ledger : Ledger) :
    Prop where
  bytes : ledger.bytes = utf8 (fileText description texts) ++ leftover
  committed : ledger.committed = (utf8 (fileText description texts)).length
  bound : texts.length < UInt32.size
  number : texts.length + 1 < UInt32.size → ledger.number.toNat = texts.length + 1
  exhausted : ledger.exhausted = decide (texts.length + 1 = UInt32.size)

variable {description : String} {texts : List String} {leftover : Bytes} {ledger : Ledger}

namespace Kept

theorem commits_iff (kept : Kept description texts leftover ledger) (trouble : Trouble) :
    ledger.commits trouble =
      (trouble.torn.isNone && decide (texts.length + 1 < UInt32.size)) := by
  unfold Ledger.commits
  rw [kept.exhausted, Bool.and_comm, ← decide_not]
  congr 2
  exact propext ⟨fun free => Nat.lt_of_le_of_ne kept.bound free, Nat.ne_of_lt⟩

/-- A text that is committed when nothing is left of a torn write is the next text. -/
theorem commit (kept : Kept description texts [] ledger) {trouble : Trouble}
    (commits : ledger.commits trouble = true) (text : String) :
    Kept description (texts ++ [text]) [] (ledger.commit text) := by
  rw [kept.commits_iff, Bool.and_eq_true, decide_eq_true_eq] at commits
  have next := kept.number commits.2
  have line := fileText_push description texts next text
  have bytes : (ledger.commit text).bytes = utf8 (fileText description (texts ++ [text])) := by
    rw [Ledger.bytes_commit, kept.bytes, line, utf8_append, List.append_nil]
    rfl
  have committed : (ledger.commit text).committed =
      (utf8 (fileText description (texts ++ [text]))).length := by
    rw [Ledger.committed_commit, kept.committed, line, utf8_append, List.length_append]
    rfl
  have length : (texts ++ [text]).length = texts.length + 1 := by simp
  refine ⟨bytes.trans (List.append_nil _).symm, committed, ?_, ?_, ?_⟩
  · rw [length]
    exact commits.2
  · intro room
    rw [length] at room ⊢
    rw [Ledger.number_commit, next, if_pos room, toNat_add_one (by rwa [next]), next]
  · rw [length, Ledger.exhausted_commit, next, kept.exhausted]
    by_cases room : texts.length + 1 + 1 < UInt32.size
    · rw [if_pos room, decide_eq_false (Nat.ne_of_lt commits.2), decide_eq_false (Nat.ne_of_lt room)]
    · rw [if_neg room]
      exact (decide_eq_true (Nat.le_antisymm commits.2 (Nat.not_lt.1 room))).symm

/-- A torn write leaves its first bytes, or nothing at all if the file is cut back. -/
theorem tear (kept : Kept description texts leftover ledger) (text : String) (stored : Nat)
    (cutFails : Bool) :
    Kept description texts
      (if cutFails then leftover ++ (ledger.line text).take stored else [])
      (ledger.tear text stored cutFails) := by
  refine ⟨?_, kept.committed, kept.bound, kept.number, kept.exhausted⟩
  unfold Ledger.tear
  cases cutFails with
  | true =>
    show ledger.bytes ++ (ledger.line text).take stored = _
    rw [if_pos rfl, kept.bytes, List.append_assoc]
  | false =>
    show cutTo ledger.committed (ledger.bytes ++ (ledger.line text).take stored) = _
    rw [if_neg Bool.false_ne_true, kept.bytes, kept.committed,
      cutTo_of_le (by simp), List.append_assoc, List.take_left, List.append_nil]

/-- What is staged has no part in it. -/
theorem withStaged (kept : Kept description texts leftover ledger) (staged : String) :
    Kept description texts leftover { ledger with staged := staged } :=
  ⟨kept.bytes, kept.committed, kept.bound, kept.number, kept.exhausted⟩

end Kept

/-- What is left of torn writes after a text was to be written. -/
def Ledger.remains (ledger : Ledger) (text : String) (trouble : Trouble) (leftover : Bytes) :
    Bytes :=
  match trouble.torn with
  | some stored =>
    if ledger.exhausted then leftover
    else if trouble.cutFails then leftover ++ (ledger.line text).take stored
    else []
  | none => leftover

/-- A write keeps in step with the account unless it puts a text behind what is left of another. -/
theorem kept_write {account : Account} {trouble : Trouble} {text : String}
    (kept : Kept description account.texts leftover ledger)
    (tidy : ledger.commits trouble = true → leftover = []) :
    Kept description (account.write text trouble).texts (ledger.remains text trouble leftover)
      (ledger.write text trouble) := by
  have lands := kept.commits_iff trouble
  -- a text that lands is the next one; any other write is torn, or refused for want of a number
  cases commits : ledger.commits trouble with
  | true =>
    have whole : trouble.torn = none := by
      rw [Ledger.commits, Bool.and_eq_true, Option.isNone_iff_eq_none] at commits
      exact commits.2
    have written : (account.write text trouble).texts = account.texts ++ [text] := by
      unfold Account.write Account.lands
      rw [← lands, commits, if_pos rfl]
    have remains : ledger.remains text trouble leftover = [] := by
      rw [Ledger.remains, whole]
      exact tidy commits
    rw [tidy commits] at kept
    rw [written, remains, Ledger.write_of_commits commits]
    exact kept.commit commits text
  | false =>
    have same : account.write text trouble = account := by
      unfold Account.write Account.lands
      rw [← lands, commits, if_neg Bool.false_ne_true]
    rw [same]
    cases used : ledger.exhausted with
    | true =>
      have unchanged : ledger.write text trouble = ledger := if_pos used
      rw [unchanged]
      unfold Ledger.remains
      rw [used]
      cases trouble.torn <;> exact kept
    | false =>
      cases torn : trouble.torn with
      | none => simp [Ledger.commits, used, torn] at commits
      | some stored =>
        rw [Ledger.write_of_torn used torn]
        unfold Ledger.remains
        rw [torn, used]
        exact kept.tear text stored trouble.cutFails

/-- Texts that are all committed, one after the other, are the next texts. -/
theorem kept_writeAll {more : List String} {desk after : Desk} {value : Unit}
    (kept : Kept description texts [] desk.ledger)
    (done : Sheet.writeAll more desk = .ok value after) :
    Kept description (texts ++ more) [] after.ledger := by
  induction more generalizing texts desk with
  | nil =>
    cases done
    rw [List.append_nil]
    exact kept
  | cons text rest ih =>
    obtain ⟨_, between, written, done⟩ := Work.bind_eq_ok.1 done
    have commits := commits_of_write_ok desk written
    have next := ledger_write text desk
    rw [written, leftBy_ok, Ledger.write_of_commits commits] at next
    have further := kept.commit commits text
    rw [← next] at further
    rw [List.append_cons]
    exact ih further done

/-! ## Runs -/

/-- The account and the ledger of one sheet. -/
structure InStep (description : String) (account : Account) (leftover : Bytes) (ledger : Ledger) :
    Prop extends Kept description account.texts leftover ledger where
  staged : ledger.staged = account.staged

/-- What is left of torn writes after a step. -/
def Ledger.remainsAfter (ledger : Ledger) (step : Step) (leftover : Bytes) : Bytes :=
  match step.request.due ledger.staged with
  | some text => ledger.remains text step.trouble leftover
  | none => leftover

/-- The step puts a text into the file. -/
def Ledger.commitsAt (ledger : Ledger) (step : Step) : Bool :=
  (step.request.due ledger.staged).isSome && ledger.commits step.trouble

/-- A step keeps in step with the account. -/
theorem inStep_step {account : Account} (inStep : InStep description account leftover ledger)
    (step : Step) (tidy : ledger.commitsAt step = true → leftover = []) :
    InStep description (account.step step) (ledger.remainsAfter step leftover)
      (ledger.step step) := by
  obtain ⟨kept, staged⟩ := inStep
  have write (text : String) (due : step.request.due ledger.staged = some text) :
      Kept description (account.write text step.trouble).texts
        (ledger.remains text step.trouble leftover) (ledger.write text step.trouble) := by
    refine kept_write kept fun commits => tidy ?_
    rw [Ledger.commitsAt, due, commits]
    rfl
  have lands : account.lands step.trouble = ledger.commits step.trouble :=
    (kept.commits_iff step.trouble).symm
  obtain ⟨request, trouble⟩ := step
  unfold Ledger.remainsAfter Ledger.step Account.step
  cases request with
  | write text =>
    refine ⟨write text rfl, ?_⟩
    rw [Ledger.staged_write, Account.staged_write, staged]
  | record diagnostic =>
    refine ⟨write diagnostic.text rfl, ?_⟩
    rw [Ledger.staged_write, Account.staged_write, staged]
  | commitStaged =>
    have written := write ledger.staged rfl
    dsimp only at lands
    dsimp only [Request.due]
    rw [lands, ← staged]
    unfold Account.write at written
    rw [lands] at written
    cases commits : ledger.commits trouble with
    | true =>
      rw [commits, if_pos rfl] at written
      exact ⟨written.withStaged "", rfl⟩
    | false =>
      rw [commits, if_neg Bool.false_ne_true] at written
      exact ⟨written, (Ledger.staged_write _ _ _).trans staged⟩
  | stage text => exact ⟨kept.withStaged _, by rw [staged]⟩
  | stageAll pieces => exact ⟨kept.withStaged _, by rw [staged]⟩
  | clearStaged => exact ⟨kept.withStaged _, rfl⟩
  | sync => exact ⟨kept, staged⟩
  | setAutoSync on => exact ⟨kept, staged⟩

/-- As long as cutting back succeeds nothing is left of a torn write. -/
theorem remainsAfter_of_cut {step : Step} (cut : step.trouble.cutFails = false) :
    ledger.remainsAfter step [] = [] := by
  unfold Ledger.remainsAfter Ledger.remains
  rw [cut]
  split
  · split
    · split <;> rfl
    · rfl
  · rfl

theorem inStep_run {account : Account} {steps : List Step}
    (inStep : InStep description account [] ledger)
    (cuts : ∀ step ∈ steps, step.trouble.cutFails = false) :
    InStep description (account.run steps) [] (ledger.run steps) := by
  induction steps generalizing account ledger with
  | nil => exact inStep
  | cons step rest ih =>
    have after := inStep_step inStep step fun _ => rfl
    rw [remainsAfter_of_cut (cuts step List.mem_cons_self)] at after
    exact ih after fun later member => cuts later (List.mem_cons_of_mem _ member)

/-! ## Sheets from their creation on -/

/-- The ledger of a sheet that was just made. -/
theorem ledger_of_created {files : FileSystem} {after : Store} {parent : Path} {name : String}
    {sheet : Sheet} {place : Location}
    (created : Sheet.Created files after.files parent name description sheet place) :
    (Desk.mk sheet after).ledger =
      { bytes := utf8 (descriptionLine description)
        committed := (utf8 (descriptionLine description)).length
        number := 1
        exhausted := false
        staged := "" } := by
  have bytes : (Desk.mk sheet after).bytes = utf8 (descriptionLine description) :=
    created.stands.holds
  unfold Desk.ledger
  rw [bytes, created.sheet_eq]

theorem inStep_of_created {files : FileSystem} {after : Store} {parent : Path} {name : String}
    {sheet : Sheet} {place : Location}
    (created : Sheet.Created files after.files parent name description sheet place) :
    InStep description {} [] (Desk.mk sheet after).ledger := by
  rw [ledger_of_created created]
  exact ⟨⟨(List.append_nil _).symm, rfl, by decide, fun _ => rfl, rfl⟩, rfl⟩

/-- The file of a sheet is where it was, with what is written to it. -/
theorem Frame.stands {desk later : Desk} (frame : Frame desk later) {place : Location}
    {contents : Bytes} (stands : desk.store.files.Stands desk.sheet.handle.file place contents) :
    later.store.files.Stands desk.sheet.handle.file place later.bytes := by
  refine ⟨⟨?_, ?_⟩, ?_⟩
  · rw [frame.tree]
    exact stands.held
  · intro other held
    rw [frame.tree] at held
    exact stands.only other held
  · rw [Desk.bytes, frame.file]

/-- After every run a sheet is read by its path, and says what its file says. -/
theorem load_run_iff {files : FileSystem} {made after : Store} {parent : Path} {name : String}
    {sheet : Sheet} {place : Location} {contents : Contents}
    (created : Sheet.Created files made.files parent name description sheet place)
    (steps : List Step) :
    Contents.load sheet.path (Desk.run ⟨sheet, made⟩ steps).store = .ok contents after ↔
      after = (Desk.run ⟨sheet, made⟩ steps).store ∧
        ∃ text, (Desk.run ⟨sheet, made⟩ steps).bytes = utf8 text ∧
          Contents.parse text = .ok contents := by
  have frame := frame_run ⟨sheet, made⟩ steps
  have within := created.withinAfter.of_tree frame.tree frame.home
  have stands : (Desk.run ⟨sheet, made⟩ steps).store.files.Stands sheet.handle.file
      (place ++ [utf8 name]) (Desk.run ⟨sheet, made⟩ steps).bytes := frame.stands created.stands
  rw [created.path_eq]
  exact Contents.load_eq_ok_iff within created.short stands

/-- After every run in which cutting back succeeds, whichever writes were torn, the file holds the
description and the texts that were written whole, each as an entry with its number; the file is
read as such, and the next number, the committed length and the staged text are those of the
account. -/
theorem run_of_create {torn : Option Nat} {store made : Store} {name : String} {parent : Path}
    {sheet : Sheet} (created : Sheet.create torn name description parent store = .ok sheet made)
    (steps : List Step) (cuts : ∀ step ∈ steps, step.trouble.cutFails = false) :
    let desk := Desk.run ⟨sheet, made⟩ steps
    let account := Account.run {} steps
    let contents : Contents := ⟨description, entriesOf account.texts⟩
    desk.bytes = utf8 (fileText description account.texts) ∧
      desk.sheet.committed = desk.bytes.length ∧
      account.texts.length < UInt32.size ∧
      (account.texts.length + 1 < UInt32.size →
        desk.sheet.number.toNat = account.texts.length + 1) ∧
      desk.sheet.exhausted = decide (account.texts.length + 1 = UInt32.size) ∧
      desk.sheet.staged = account.staged ∧
      Contents.parse (fileText description account.texts) = .ok contents ∧
      Contents.load sheet.path desk.store = .ok contents desk.store := by
  obtain ⟨place, whole⟩ := Sheet.created_of_create created
  have inStep := inStep_run (inStep_of_created whole) cuts
  rw [← ledger_run] at inStep
  obtain ⟨kept, staged⟩ := inStep
  have bytes := kept.bytes
  rw [List.append_nil] at bytes
  have parsed := parse_fileText description kept.bound
  exact ⟨bytes, kept.committed.trans (congrArg List.length bytes).symm, kept.bound, kept.number,
    kept.exhausted, staged, parsed, (load_run_iff whole steps).2 ⟨rfl, _, bytes, parsed⟩⟩

/-- Two torn writes, one of which cannot be told from no write at all, and a failed sync. -/
theorem run_of_create_torn :
    ∃ sheet made, Sheet.create none "runs" "of\nall" "" { files := {} } = .ok sheet made ∧
      let steps : List Step := [⟨.write "a\n", {}⟩, ⟨.stage "2 b", {}⟩,
        ⟨.commitStaged, { torn := some 3 }⟩, ⟨.write "", { torn := some 0 }⟩, ⟨.setAutoSync true, {}⟩,
        ⟨.commitStaged, { syncFails := true }⟩]
      (Desk.run ⟨sheet, made⟩ steps).bytes =
        utf8 (fileText "of\nall" (Account.run {} steps).texts) ∧
      (Account.run {} steps).texts = ["a\n", "2 b"] := by
  obtain ⟨sheet, made, -, created, -⟩ :=
    Sheet.exists_created none "runs" "of\nall" "" { files := {} } (by decide +kernel)
  refine ⟨sheet, made, created, (run_of_create created _ ?_).1, by decide⟩
  decide

end SheetCabinet
