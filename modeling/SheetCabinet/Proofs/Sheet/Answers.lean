import SheetCabinet.Proofs.Sheet.Ledger

/-!
# What a sheet answers

The answer to a step does not say where the sheet is or what else there is. It depends on the ledger
of the sheet, on whether every entry is synced at once, and on the trouble that the file is in. So
sheets that are alike in this stay so as long as the same is done to both, and give the same answers.

Results:
* what a write and any other step answers (`saidBy_write`, `saidBy_outcome`);
* sheets that are alike give the same answers and stay alike (`Alike.answer`, `alike_after`).
-/

namespace SheetCabinet

/-! ## Single answers -/

def answerOf (ledger : Ledger) (autoSync : Bool) (trouble : Trouble) : Except Failure Unit :=
  if ledger.exhausted then .error (.strategy .numbersExhausted)
  else if trouble.torn.isSome then .error (.io .diskFull)
  else if autoSync && trouble.syncFails then .error (.io .syncFailed)
  else .ok ()

theorem saidBy_sync (desk : Desk) : saidBy (Sheet.sync desk) =
    if desk.sheet.handle.trouble.syncFails then .error (.io .syncFailed) else .ok () := by
  unfold Sheet.sync Handle.sync
  cases desk.sheet.handle.trouble.syncFails <;> rfl

theorem saidBy_write (text : String) (desk : Desk) : saidBy (Sheet.write text desk) =
    answerOf desk.ledger desk.sheet.autoSync desk.sheet.handle.trouble := by
  unfold answerOf
  cases used : desk.sheet.exhausted with
  | true =>
    have full : desk.ledger.exhausted = true := used
    rw [Sheet.write_of_exhausted used, if_pos full]
    rfl
  | false =>
    have free : desk.ledger.exhausted = false := used
    rw [free, if_neg Bool.false_ne_true]
    cases torn : desk.sheet.handle.trouble.torn with
    | some stored =>
      rw [write_of_torn used torn]
      rfl
    | none =>
      rw [write_of_whole used torn]
      dsimp only
      cases desk.sheet.autoSync with
      | false => rfl
      | true =>
        rw [if_pos rfl, saidBy_sync, Sheet.handle_advanced]
        rfl

theorem saidBy_commitStaged (desk : Desk) : saidBy (Sheet.commitStaged desk) =
    saidBy (Sheet.write desk.sheet.staged desk) := by
  rw [commitStaged_eq, saidBy_restage]

/-! ## Steps -/

def Step.answer (step : Step) (ledger : Ledger) (autoSync : Bool) : Except Failure Unit :=
  match step.request with
  | .write _ | .commitStaged => answerOf ledger autoSync step.trouble
  | .sync => if step.trouble.syncFails then .error (.io .syncFailed) else .ok ()
  | .stage _ | .stageAll _ | .clearStaged | .setAutoSync _ | .record _ => .ok ()

theorem saidBy_outcome (step : Step) (desk : Desk) :
    saidBy (step.outcome desk) = step.answer desk.ledger desk.sheet.autoSync := by
  obtain ⟨request, trouble⟩ := step
  unfold Step.outcome Step.answer
  cases request with
  | write text => exact saidBy_write text (desk.under trouble)
  | commitStaged =>
    exact (saidBy_commitStaged (desk.under trouble)).trans (saidBy_write _ (desk.under trouble))
  | sync => exact saidBy_sync (desk.under trouble)
  | stage text => rfl
  | stageAll pieces => rfl
  | clearStaged => rfl
  | setAutoSync on => rfl
  | record diagnostic => rfl

/-- Whether every entry is synced at once after a request. -/
def Request.syncsAfter (before : Bool) : Request → Bool
  | setAutoSync on => on
  | write _ | stage _ | stageAll _ | commitStaged | clearStaged | sync | record _ => before

theorem autoSync_sync (desk : Desk) :
    (leftBy (Sheet.sync desk)).sheet.autoSync = desk.sheet.autoSync := by
  unfold Sheet.sync
  split <;> rfl

theorem autoSync_write (text : String) (desk : Desk) :
    (leftBy (Sheet.write text desk)).sheet.autoSync = desk.sheet.autoSync := by
  cases used : desk.sheet.exhausted with
  | true => rw [Sheet.write_of_exhausted used, leftBy_error]
  | false =>
    cases torn : desk.sheet.handle.trouble.torn with
    | some stored =>
      rw [write_of_torn used torn]
      rfl
    | none =>
      rw [write_of_whole used torn]
      dsimp only
      split
      · exact (autoSync_sync _).trans (Sheet.autoSync_advanced _ _)
      · exact Sheet.autoSync_advanced _ _

theorem autoSync_record (diagnostic : Diagnostic) (desk : Desk) :
    (diagnostic.record desk).sheet.autoSync = desk.sheet.autoSync := by
  have written := autoSync_write diagnostic.text desk
  unfold Diagnostic.record
  cases result : Sheet.write diagnostic.text desk <;> rw [result] at written <;> exact written

theorem autoSync_after (step : Step) (desk : Desk) :
    (step.after desk).sheet.autoSync = step.request.syncsAfter desk.sheet.autoSync := by
  obtain ⟨request, trouble⟩ := step
  unfold Step.after Step.outcome
  cases request with
  | write text => exact autoSync_write text (desk.under trouble)
  | commitStaged =>
    obtain ⟨staged, same⟩ := leftBy_commitStaged (desk.under trouble)
    have written := autoSync_write (desk.under trouble).sheet.staged (desk.under trouble)
    exact (congrArg (·.sheet.autoSync) same).trans written
  | sync => exact autoSync_sync (desk.under trouble)
  | stage text => rfl
  | stageAll pieces =>
    show (pieces.foldl Sheet.stage (desk.under trouble).sheet).autoSync = _
    rw [stage_pieces]
    rfl
  | clearStaged => rfl
  | setAutoSync on => rfl
  | record diagnostic => exact autoSync_record diagnostic (desk.under trouble)

/-- Two sheets that no answer can tell apart, now or later. -/
structure Alike (desk other : Desk) : Prop where
  ledger : desk.ledger = other.ledger
  autoSync : desk.sheet.autoSync = other.sheet.autoSync

variable {desk other : Desk}

theorem Alike.answer (alike : Alike desk other) (step : Step) :
    saidBy (step.outcome desk) = saidBy (step.outcome other) := by
  rw [saidBy_outcome, saidBy_outcome, alike.ledger, alike.autoSync]

theorem alike_after (alike : Alike desk other) (step : Step) :
    Alike (step.after desk) (step.after other) where
  ledger := by rw [ledger_after, ledger_after, alike.ledger]
  autoSync := by rw [autoSync_after, autoSync_after, alike.autoSync]

def Desk.answers (desk : Desk) : List Step → List (Except Failure Unit)
  | [] => []
  | step :: later => saidBy (step.outcome desk) :: (step.after desk).answers later

theorem Desk.answers_append (desk : Desk) (first second : List Step) :
    desk.answers (first ++ second) = desk.answers first ++ (desk.run first).answers second := by
  induction first generalizing desk with
  | nil => rfl
  | cons step rest ih => exact congrArg (_ :: ·) (ih (step.after desk))

end SheetCabinet
