import SheetCabinet.Proofs.Sheet.Answers
import SheetCabinet.Proofs.Sheet.Numbering

/-!
# Committing what is staged

What is staged is taken out of the sheet before it is written, and put back if the entry did not get
into the file. Whether it did is told by the committed length, not by the answer: where syncing alone
failed, the answer is a failure and the entry is in the file. So whoever tries again after every
failure that leaves the text staged writes it once and not twice.

Results:
* committing what is staged is writing it, and it is gone exactly if it was committed (`asWritten`,
  `AsWritten.staged_eq_empty_iff`);
* attempts that fail leave the number, the committed length and the staged text
  (`run_of_no_entries`), and the file up to its committed length (`bytes_retries`);
* the first attempt that commits puts the text into the file once, under the number it would have had
  without the others (`staged_once`).
-/

namespace SheetCabinet

/-! ## Attempts -/

/-- The steps of committing what is staged again and again, each time with the file in some trouble. -/
def retries (attempts : List Trouble) : List Step :=
  attempts.map fun trouble => ⟨.commitStaged, trouble⟩

theorem retries_append (first second : List Trouble) :
    retries (first ++ second) = retries first ++ retries second := List.map_append

namespace Ledger

variable {ledger : Ledger}

theorem not_commits_of_no_entry {trouble : Trouble}
    (none : ledger.entryAt ⟨.commitStaged, trouble⟩ = none) : ledger.commits trouble = false := by
  refine Bool.eq_false_iff.2 fun commits => ?_
  rw [entryAt, if_pos commits] at none
  cases none

/-- An attempt that commits nothing is a write that does not. -/
theorem step_retry {trouble : Trouble} (fails : ledger.commits trouble = false) :
    ledger.step ⟨.commitStaged, trouble⟩ = ledger.write ledger.staged trouble := by
  show (if ledger.commits trouble then _ else ledger.write ledger.staged trouble) = _
  rw [fails, if_neg Bool.false_ne_true]

/-- An attempt that commits the text leaves nothing staged. -/
theorem step_retry_of_commits {trouble : Trouble} (commits : ledger.commits trouble = true) :
    ledger.step ⟨.commitStaged, trouble⟩ = { ledger.commit ledger.staged with staged := "" } := by
  show (if ledger.commits trouble then _ else _) = _
  rw [if_pos commits, write_of_commits commits]

/-- Whatever the file holds, an entry goes behind it. -/
theorem commit_withBytes (ledger : Ledger) (bytes : Bytes) (text : String) :
    { ledger with bytes := bytes }.commit text =
      { ledger.commit text with bytes := bytes ++ ledger.line text } := by
  unfold commit line
  dsimp only
  split <;> rfl

theorem not_commits_of_retries {trouble : Trouble} {attempts : List Trouble}
    (none : ledger.entries (retries (trouble :: attempts)) = []) :
    ledger.commits trouble = false ∧
      (ledger.write ledger.staged trouble).entries (retries attempts) = [] := by
  obtain ⟨first, later⟩ := List.append_eq_nil_iff.1 none
  have fails := not_commits_of_no_entry (Option.toList_eq_nil_iff.1 first)
  rw [step_retry fails] at later
  exact ⟨fails, later⟩

/-- Attempts that commit nothing change nothing but what the file holds. -/
theorem run_of_no_entries {attempts : List Trouble}
    (none : ledger.entries (retries attempts) = []) :
    ledger.run (retries attempts) =
      { ledger with bytes := (ledger.run (retries attempts)).bytes } := by
  induction attempts generalizing ledger with
  | nil => rfl
  | cons trouble attempts ih =>
    obtain ⟨fails, later⟩ := not_commits_of_retries none
    have last := ih later
    rw [← step_retry fails] at last
    have first := step_retry fails
    rw [write_of_not_commits fails] at first
    show (ledger.step ⟨.commitStaged, trouble⟩).run (retries attempts) =
      { ledger with bytes := ((ledger.step ⟨.commitStaged, trouble⟩).run (retries attempts)).bytes }
    rw [last, first]

/-- As long as cutting back succeeds, attempts that commit nothing leave the file up to its committed
length. -/
theorem bytes_retries {attempts : List Trouble} (none : ledger.entries (retries attempts) = [])
    (usable : ledger.exhausted = false) (high : ledger.committed ≤ ledger.bytes.length)
    (cuts : ∀ trouble ∈ attempts, trouble.cutFails = false) :
    (ledger.run (retries attempts)).bytes =
      if attempts = [] then ledger.bytes else ledger.bytes.take ledger.committed := by
  induction attempts generalizing ledger with
  | nil => rfl
  | cons trouble attempts ih =>
    obtain ⟨fails, later⟩ := not_commits_of_retries none
    have cut : (ledger.write ledger.staged trouble).bytes = ledger.bytes.take ledger.committed := by
      cases torn : trouble.torn with
      | none => simp [commits, usable, torn] at fails
      | some stored =>
        have long : ledger.committed ≤
            (ledger.bytes ++ (ledger.line ledger.staged).take stored).length := by
          rw [List.length_append]
          exact Nat.le_trans high (Nat.le_add_right _ _)
        rw [write_of_torn usable torn, tear, cuts trouble List.mem_cons_self,
          if_neg Bool.false_ne_true, cutTo_of_le long, List.take_append_of_le_length high]
    have same := write_of_not_commits fails ledger.staged
    rw [cut] at same
    show ((ledger.step ⟨.commitStaged, trouble⟩).run (retries attempts)).bytes = _
    rw [step_retry fails, if_neg (List.cons_ne_nil _ _)]
    rw [same] at later ⊢
    rw [ih later usable (Nat.le_of_eq (List.length_take_of_le high).symm)
      fun other member => cuts other (List.mem_cons_of_mem _ member)]
    split
    · rfl
    · exact List.take_take.trans (by rw [Nat.min_self])

end Ledger

/-! ## Once and not twice -/

/-- Committing what is staged compared with writing it. -/
structure Desk.AsWritten (desk : Desk) : Prop where
  answer : saidBy (Sheet.commitStaged desk) = saidBy (Sheet.write desk.sheet.staged desk)
  store : (leftBy (Sheet.commitStaged desk)).store =
    (leftBy (Sheet.write desk.sheet.staged desk)).store
  bytes : (leftBy (Sheet.commitStaged desk)).bytes =
    (leftBy (Sheet.write desk.sheet.staged desk)).bytes
  number : (leftBy (Sheet.commitStaged desk)).sheet.number =
    (leftBy (Sheet.write desk.sheet.staged desk)).sheet.number
  exhausted : (leftBy (Sheet.commitStaged desk)).sheet.exhausted =
    (leftBy (Sheet.write desk.sheet.staged desk)).sheet.exhausted
  committed : (leftBy (Sheet.commitStaged desk)).sheet.committed =
    (leftBy (Sheet.write desk.sheet.staged desk)).sheet.committed
  /-- If the line was committed it is in the file and nothing is staged any more, also when it could
  not be synced. -/
  gone : desk.ledger.commits desk.sheet.handle.trouble = true →
    (leftBy (Sheet.commitStaged desk)).ledger =
        { desk.ledger.commit desk.sheet.staged with staged := "" } ∧
      saidBy (Sheet.commitStaged desk) =
        if desk.sheet.autoSync && desk.sheet.handle.trouble.syncFails then .error (.io .syncFailed)
        else .ok ()
  /-- Otherwise it is staged as before, and it was not committed. -/
  kept : desk.ledger.commits desk.sheet.handle.trouble = false →
    (leftBy (Sheet.commitStaged desk)).sheet.staged = desk.sheet.staged ∧
      (leftBy (Sheet.commitStaged desk)).sheet.committed = desk.sheet.committed ∧
      (leftBy (Sheet.commitStaged desk)).sheet.number = desk.sheet.number ∧
      ∃ failure, saidBy (Sheet.commitStaged desk) = .error failure

/-- What was staged is gone exactly if the line was committed. -/
theorem Desk.AsWritten.staged_eq_empty_iff {desk : Desk} (asWritten : desk.AsWritten)
    (staged : desk.sheet.staged ≠ "") :
    (leftBy (Sheet.commitStaged desk)).sheet.staged = "" ↔
      desk.ledger.commits desk.sheet.handle.trouble = true := by
  constructor
  · intro empty
    refine Bool.of_not_eq_false fun fails => staged ?_
    rw [← (asWritten.kept fails).1, empty]
  · exact fun commits => congrArg Ledger.staged (asWritten.gone commits).1

theorem asWritten (desk : Desk) : desk.AsWritten := by
  obtain ⟨staged, same⟩ := leftBy_commitStaged desk
  have answer := saidBy_commitStaged desk
  have said : saidBy (Sheet.commitStaged desk) =
      answerOf desk.ledger desk.sheet.autoSync desk.sheet.handle.trouble := by
    rw [answer, saidBy_write]
  have ledger := ledger_commitStaged desk
  refine ⟨answer, ?_, ?_, ?_, ?_, ?_, fun commits => ⟨?_, ?_⟩, fun fails => ?_⟩
  iterate 5 rw [same]; rfl
  · rw [ledger, Ledger.step_retry_of_commits commits]
    rfl
  · have usable := Ledger.usable_of_commits commits
    rw [Ledger.commits, usable, Bool.not_false, Bool.true_and, Option.isNone_iff_eq_none] at commits
    rw [said, answerOf, usable, commits]
    rfl
  · rw [Ledger.step_retry fails, Ledger.write_of_not_commits fails] at ledger
    refine ⟨congrArg Ledger.staged ledger, congrArg Ledger.committed ledger,
      congrArg Ledger.number ledger, ?_⟩
    rw [said, answerOf]
    cases used : desk.ledger.exhausted with
    | true => exact ⟨_, if_pos rfl⟩
    | false =>
      cases torn : desk.sheet.handle.trouble.torn with
      | some stored => exact ⟨.io .diskFull, rfl⟩
      | none => simp [Ledger.commits, used, torn] at fails

/-- Attempts that commit nothing, and the first one that does, compared with that one alone. -/
structure Desk.Retried (desk : Desk) (attempts : List Trouble) (last : Trouble) : Prop where
  /-- The staged text is made an entry once, with the number that was next before. -/
  entries : desk.ledger.entries (retries (attempts ++ [last])) =
    [⟨desk.sheet.number, desk.sheet.staged⟩]
  /-- The last attempt puts the whole line into the file, and all else is as without the others. -/
  ledger : (desk.run (retries (attempts ++ [last]))).ledger =
    { (Step.after ⟨.commitStaged, last⟩ desk).ledger with
      bytes := (desk.run (retries attempts)).bytes ++
        utf8 (entryLine desk.sheet.number desk.sheet.staged) }
  staged : (desk.run (retries (attempts ++ [last]))).sheet.staged = ""
  /-- If cutting back succeeds the other attempts leave nothing in the file. -/
  file : (∀ trouble ∈ attempts, trouble.cutFails = false) →
    desk.sheet.committed ≤ desk.bytes.length →
    (desk.run (retries attempts)).bytes =
      if attempts = [] then desk.bytes else desk.bytes.take desk.sheet.committed

section Retries

variable {desk : Desk} {attempts : List Trouble} {last : Trouble}

/-- The attempt that commits would have done so without the others. -/
theorem commits_of_retries (fail : desk.ledger.entries (retries attempts) = [])
    (commits : (desk.run (retries attempts)).ledger.commits last = true) :
    desk.ledger.commits last = true := by
  rw [ledger_run, Ledger.run_of_no_entries fail] at commits
  exact commits

theorem retried (fail : desk.ledger.entries (retries attempts) = [])
    (commits : (desk.run (retries attempts)).ledger.commits last = true) :
    desk.Retried attempts last := by
  have alone := commits_of_retries fail commits
  have between := Ledger.run_of_no_entries fail
  rw [← ledger_run] at between
  have after : (desk.run (retries (attempts ++ [last]))).ledger =
      (desk.run (retries attempts)).ledger.step ⟨.commitStaged, last⟩ := by
    rw [retries_append, Desk.run_append]
    exact ledger_after _ _
  rw [Ledger.step_retry_of_commits commits] at after
  refine ⟨?_, ?_, congrArg Ledger.staged after, fun cuts high => ?_⟩
  · have counted : (desk.run (retries attempts)).Commits ⟨.commitStaged, last⟩
        (desk.run (retries attempts)).sheet.staged := ⟨rfl, commits⟩
    have found := Ledger.entryAt_of_commits counted
    have number : (desk.run (retries attempts)).sheet.number = desk.sheet.number :=
      congrArg Ledger.number between
    have staged : (desk.run (retries attempts)).sheet.staged = desk.sheet.staged :=
      congrArg Ledger.staged between
    rw [number, staged] at found
    rw [retries_append, Ledger.entries_append, fail, ← ledger_run]
    show (Ledger.entryAt _ ⟨.commitStaged, last⟩).toList ++ [] = _
    rw [found]
    rfl
  · rw [after, ledger_after, Ledger.step_retry_of_commits alone, between, Ledger.commit_withBytes]
    rfl
  · have low : desk.ledger.committed ≤ desk.ledger.bytes.length := high
    have bytes := Ledger.bytes_retries fail (Ledger.usable_of_commits alone) low cuts
    rw [← ledger_run] at bytes
    exact bytes

/-- The file of a sheet with the staged text behind the others. -/
theorem bytes_of_retried {description : String} {texts : List String}
    (kept : Kept description texts [] desk.ledger)
    (cuts : ∀ trouble ∈ attempts, trouble.cutFails = false)
    (fail : desk.ledger.entries (retries attempts) = [])
    (commits : (desk.run (retries attempts)).ledger.commits last = true) :
    (desk.run (retries (attempts ++ [last]))).bytes =
        utf8 (fileText description (texts ++ [desk.sheet.staged])) ∧
      (texts ++ [desk.sheet.staged]).length < UInt32.size := by
  have alone := commits_of_retries fail commits
  have further := kept.commit alone desk.sheet.staged
  have tidy : desk.bytes.length = desk.sheet.committed := (tidy_iff kept).2 rfl
  have once := retried fail commits
  have base : (desk.run (retries attempts)).bytes = desk.bytes := by
    rw [once.file cuts (Nat.le_of_eq tidy.symm), ← tidy, List.take_length, ite_self]
  refine ⟨(congrArg Ledger.bytes once.ledger).trans ?_, further.bound⟩
  have bytes := further.bytes
  rw [Ledger.bytes_commit, List.append_nil] at bytes
  rw [base]
  exact bytes

end Retries

/-- Committing what is staged is writing it, whatever comes of it, and it stays staged unless it was
committed. So if attempts fail until one commits the text, the text gets into the file once, under the
number that it would have had without the others; and if all that was torn is cut back, the sheet is
read with this entry behind those it had, and its number is greater than theirs. -/
theorem staged_once :
    (∀ desk : Desk, desk.AsWritten ∧
      (desk.sheet.staged ≠ "" → ((leftBy (Sheet.commitStaged desk)).sheet.staged = "" ↔
        desk.ledger.commits desk.sheet.handle.trouble = true))) ∧
      (∀ (desk : Desk) (attempts : List Trouble) (last : Trouble),
        desk.ledger.entries (retries attempts) = [] →
        (desk.run (retries attempts)).ledger.commits last = true → desk.Retried attempts last) ∧
      ∀ (torn : Option Nat) (store made : Store) (name description : String) (parent : Path)
        (sheet : Sheet) (before : List Step) (attempts : List Trouble) (last : Trouble),
        Sheet.create torn name description parent store = .ok sheet made →
        (∀ step ∈ before ++ retries attempts, step.trouble.cutFails = false) →
        let desk := Desk.run ⟨sheet, made⟩ before
        let after := desk.run (retries (attempts ++ [last]))
        desk.ledger.entries (retries attempts) = [] →
        (desk.run (retries attempts)).ledger.commits last = true →
        ∃ entries, Contents.load sheet.path desk.store = .ok ⟨description, entries⟩ desk.store ∧
          (∀ entry ∈ entries, entry.number < desk.sheet.number) ∧
          Contents.load sheet.path after.store =
            .ok ⟨description, entries ++ [⟨desk.sheet.number, desk.sheet.staged⟩]⟩ after.store := by
  refine ⟨fun desk => ⟨asWritten desk, (asWritten desk).staged_eq_empty_iff⟩,
    fun desk attempts last fail commits => retried fail commits, ?_⟩
  intro torn store made name description parent sheet before attempts last created cuts desk after
    fail commits
  obtain ⟨place, whole⟩ := Sheet.created_of_create created
  have inStep : InStep description (Account.run {} before) [] desk.ledger := by
    rw [ledger_run]
    exact inStep_run (inStep_of_created whole) fun step member =>
      cuts step (List.mem_append_left _ member)
  have kept := inStep.toKept
  have within (trouble : Trouble) (member : trouble ∈ attempts) : trouble.cutFails = false :=
    cuts _ (List.mem_append_right _ (List.mem_map_of_mem member))
  obtain ⟨bytes, bound⟩ := bytes_of_retried kept within fail commits
  have usable := Ledger.usable_of_commits (commits_of_retries fail commits)
  have next : desk.sheet.number.toNat = (Account.run {} before).texts.length + 1 :=
    number_of_usable kept usable
  have number : UInt32.ofNat ((Account.run {} before).texts.length + 1) = desk.sheet.number := by
    rw [← next, UInt32.ofNat_toNat]
  have now : desk.bytes = utf8 (fileText description (Account.run {} before).texts) :=
    kept.bytes.trans (List.append_nil _)
  refine ⟨entriesOf (Account.run {} before).texts, ?_, fun entry member => ?_, ?_⟩
  · exact (load_run_iff whole before).2 ⟨rfl, _, now, parse_fileText description kept.bound⟩
  · rw [UInt32.lt_iff_toNat_lt, next]
    exact Nat.lt_succ_of_le (number_le_of_mem kept.bound member)
  · have parsed := parse_fileText description bound
    rw [entriesOf_push, number] at parsed
    have run : after = Desk.run ⟨sheet, made⟩ (before ++ retries (attempts ++ [last])) :=
      (Desk.run_append _ _ _).symm
    have bytes : after.bytes = _ := bytes
    rw [run] at bytes ⊢
    exact (load_run_iff whole _).2 ⟨rfl, _, bytes, parsed⟩

/-- Two torn writes, one of them after its last byte, and then one that could not be synced. -/
theorem staged_once_torn :
    ∃ sheet made, Sheet.create none "s" "d" "" { files := {} } = .ok sheet made ∧
      let before : List Step := [⟨.write "a", {}⟩, ⟨.setAutoSync true, {}⟩, ⟨.stage "b\n", {}⟩]
      let attempts : List Trouble := [{ torn := some 0 }, { torn := some 100 }]
      let last : Trouble := { syncFails := true }
      let desk := Desk.run ⟨sheet, made⟩ before
      let after := desk.run (retries (attempts ++ [last]))
      desk.AsWritten ∧ desk.Retried attempts last ∧
        after.bytes = utf8 "d\n1 a\n2 b\n\t\n" ∧
        ∃ entries, Contents.load sheet.path after.store =
          .ok ⟨"d", entries ++ [⟨desk.sheet.number, desk.sheet.staged⟩]⟩ after.store := by
  obtain ⟨sheet, made, place, created, whole⟩ :=
    Sheet.exists_created none "s" "d" "" { files := {} } (by decide +kernel)
  refine ⟨sheet, made, created, ?_⟩
  intro before attempts last desk after
  have ledger : desk.ledger = (Desk.mk sheet made).ledger.run before := ledger_run _ _
  rw [ledger_of_created whole] at ledger
  have fail : desk.ledger.entries (retries attempts) = [] := by
    rw [ledger]
    decide +kernel
  have commits : (desk.run (retries attempts)).ledger.commits last = true := by
    rw [ledger_run, ledger]
    decide +kernel
  obtain ⟨every, once, loaded⟩ := staged_once
  obtain ⟨entries, -, -, read⟩ := loaded none _ made "s" "d" "" sheet before attempts last created
    (by decide) fail commits
  refine ⟨(every desk).1, once desk attempts last fail commits, ?_, entries, read⟩
  have bytes : after.ledger = desk.ledger.run (retries (attempts ++ [last])) := ledger_run _ _
  rw [ledger] at bytes
  exact (congrArg Ledger.bytes bytes).trans (by decide +kernel)

end SheetCabinet
