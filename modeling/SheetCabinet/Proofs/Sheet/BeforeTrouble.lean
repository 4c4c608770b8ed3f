import SheetCabinet.Proofs.Sheet.Leftover

/-!
# What was committed before trouble

A file that could not be cut back is longer than its committed length, and from then on the two
drift apart: later entries go behind the piece that was left, and later cutting back goes by a
length that is too small. But the committed length only grows and the file is never shorter, so what
was committed before that can no longer be reached.

Results:
* the committed length never decreases (`committed_le_step`, `committed_le_run`), and a step leaves
  nothing in the file but what was there and the first bytes of the line that is due
  (`bytes_step_prefix`);
* what was committed before the first time that cutting back failed is what the file starts with
  from then on (`committed_before_trouble`).
-/

namespace SheetCabinet

namespace Ledger

/-- The step tears a write, and then the file cannot be cut back. -/
def strands (ledger : Ledger) (step : Step) : Bool :=
  (step.request.due ledger.staged).isSome && !ledger.exhausted && step.trouble.torn.isSome &&
    step.trouble.cutFails

/-! ## The committed length -/

theorem committed_le_write (ledger : Ledger) (text : String) (trouble : Trouble) :
    ledger.committed ≤ (ledger.write text trouble).committed := by
  cases commits : ledger.commits trouble with
  | true =>
    rw [write_of_commits commits, committed_commit]
    exact Nat.le_add_right _ _
  | false => exact Nat.le_of_eq (committed_write_of_not_commits commits text).symm

theorem committed_le_step (ledger : Ledger) (step : Step) :
    ledger.committed ≤ (ledger.step step).committed := by
  obtain ⟨staged, same⟩ := ledger.exists_step_eq step
  rw [same]
  cases step.request.due ledger.staged with
  | none => exact Nat.le_refl _
  | some text => exact ledger.committed_le_write text step.trouble

theorem committed_le_run (ledger : Ledger) (steps : List Step) :
    ledger.committed ≤ (ledger.run steps).committed := by
  induction steps generalizing ledger with
  | nil => exact Nat.le_refl _
  | cons step rest ih => exact Nat.le_trans (ledger.committed_le_step step) (ih (ledger.step step))

/-! ## What a step can leave in the file -/

/-- Nothing is filled up: cutting back only takes away from the end. -/
theorem bytes_write_prefix {ledger : Ledger} (high : ledger.committed ≤ ledger.bytes.length)
    (text : String) (trouble : Trouble) :
    (ledger.write text trouble).bytes <+: ledger.bytes ++ ledger.line text := by
  cases used : ledger.exhausted with
  | true =>
    have unchanged : ledger.write text trouble = ledger := if_pos used
    rw [unchanged]
    exact List.prefix_append _ _
  | false =>
    cases torn : trouble.torn with
    | none =>
      rw [write_of_commits (by simp [commits, used, torn])]
      exact ⟨[], (List.append_nil _).trans (bytes_commit ..)⟩
    | some stored =>
      have piece : ledger.bytes ++ (ledger.line text).take stored <+:
          ledger.bytes ++ ledger.line text :=
        (List.prefix_append_right_inj _).2 (List.take_prefix _ _)
      rw [write_of_torn used torn]
      cases trouble.cutFails with
      | true => exact piece
      | false =>
        have long : ledger.committed ≤
            (ledger.bytes ++ (ledger.line text).take stored).length := by
          rw [List.length_append]
          exact Nat.le_trans high (Nat.le_add_right _ _)
        have cut : (ledger.tear text stored false).bytes =
            (ledger.bytes ++ (ledger.line text).take stored).take ledger.committed :=
          cutTo_of_le long
        rw [cut]
        exact (List.take_prefix _ _).trans piece

theorem bytes_step_prefix {ledger : Ledger} (high : ledger.committed ≤ ledger.bytes.length)
    (step : Step) : (ledger.step step).bytes <+:
      ledger.bytes ++ (step.request.due ledger.staged).elim [] ledger.line := by
  obtain ⟨staged, same⟩ := ledger.exists_step_eq step
  rw [same]
  cases step.request.due ledger.staged with
  | none => exact List.prefix_append _ _
  | some text => exact bytes_write_prefix high text step.trouble

end Ledger

/-! ## Up to the first trouble -/

variable {description : String} {account : Account} {ledger : Ledger}

/-- As long as the file can be cut back whenever that is due, nothing is left of torn writes. -/
theorem remainsAfter_of_not_strands {step : Step} (clear : ledger.strands step = false) :
    ledger.remainsAfter step [] = [] := by
  unfold Ledger.strands at clear
  unfold Ledger.remainsAfter Ledger.remains
  cases due : step.request.due ledger.staged with
  | none => rfl
  | some text =>
    cases torn : step.trouble.torn with
    | none => rfl
    | some stored =>
      cases used : ledger.exhausted with
      | true => rfl
      | false =>
        have cut : step.trouble.cutFails = false := by simpa [due, torn, used] using clear
        simp only [cut, Bool.false_eq_true, if_false]

theorem inStep_run_of_not_strands {steps : List Step}
    (inStep : InStep description account [] ledger)
    (clear : ∀ front step rest, steps = front ++ step :: rest →
      (ledger.run front).strands step = false) :
    InStep description (account.run steps) [] (ledger.run steps) := by
  induction steps generalizing account ledger with
  | nil => exact inStep
  | cons step rest ih =>
    have first : ledger.strands step = false := clear [] step rest rfl
    have after := inStep_step inStep step fun _ => rfl
    rw [remainsAfter_of_not_strands first] at after
    refine ih after ?_
    intro front later others split
    exact clear (step :: front) later others (by rw [split, List.cons_append])

/-- A file with nothing behind its entries starts with all that it holds, whatever comes later. -/
theorem beyond_of_inStep (inStep : InStep description account [] ledger) :
    Beyond ledger.bytes 0 ledger where
  trail := ⟨[], (List.append_nil _).symm, .nil⟩
  low := Nat.le_of_eq ((tidy_iff inStep.toKept).2 rfl)
  high := Nat.le_of_eq ((tidy_iff inStep.toKept).2 rfl).symm
  next usable := by
    rw [number_of_usable inStep.toKept usable]
    exact Nat.succ_pos _

/-- Whatever happens to a sheet, and whether or not its file can be cut back: the header and the
entries that were committed before cutting back failed for the first time are what the file starts
with from then on. The committed length never decreases and the file is never shorter; and a step
adds nothing to the file but first bytes of the line that is due. -/
theorem committed_before_trouble {torn : Option Nat} {store made : Store} {name : String}
    {parent : Path} {sheet : Sheet}
    (created : Sheet.create torn name description parent store = .ok sheet made)
    (before later : List Step) :
    let first := Desk.run ⟨sheet, made⟩ before
    let last := Desk.run ⟨sheet, made⟩ (before ++ later)
    ((∀ front step rest, before = front ++ step :: rest →
        (Desk.run ⟨sheet, made⟩ front).ledger.strands step = false) →
      first.bytes = utf8 (fileText description (Account.run {} before).texts) ∧
        first.bytes <+: last.bytes) ∧
    first.sheet.committed ≤ last.sheet.committed ∧
    last.sheet.committed ≤ last.bytes.length ∧
    ∀ step : Step, (step.after last).bytes <+: last.bytes ++
      (step.request.due last.sheet.staged).elim []
        fun text => utf8 (entryLine last.sheet.number text) := by
  obtain ⟨place, whole⟩ := Sheet.created_of_create created
  have start := inStep_of_created whole
  have long (steps : List Step) : (Desk.run ⟨sheet, made⟩ steps).sheet.committed ≤
      (Desk.run ⟨sheet, made⟩ steps).bytes.length := by
    have beyond := beyond_run (beyond_of_inStep start) steps
    rw [← ledger_run] at beyond
    exact beyond.high
  refine ⟨?_, ?_, long _, ?_⟩
  · intro clear
    simp only [ledger_run] at clear
    have inStep := inStep_run_of_not_strands start clear
    have stays := beyond_run (beyond_of_inStep inStep) later
    rw [← Ledger.run_append] at stays
    obtain ⟨behind, bytes, -⟩ := stays.trail
    rw [← ledger_run, ← ledger_run] at bytes
    rw [← ledger_run] at inStep
    exact ⟨inStep.bytes.trans (List.append_nil _), behind, bytes.symm⟩
  · have grows := (Ledger.run (Desk.mk sheet made).ledger before).committed_le_run later
    rw [← Ledger.run_append, ← ledger_run, ← ledger_run] at grows
    exact grows
  · intro step
    have high : (Desk.run ⟨sheet, made⟩ (before ++ later)).ledger.committed ≤
        (Desk.run ⟨sheet, made⟩ (before ++ later)).ledger.bytes.length := long (before ++ later)
    have adds := Ledger.bytes_step_prefix high step
    rw [← ledger_after] at adds
    exact adds

/-- A piece of a line is left, another entry goes behind it, and then the file is cut back to a length
in the middle of both. -/
theorem committed_before_trouble_torn :
    ∃ sheet made, Sheet.create none "s" "d" "" { files := {} } = .ok sheet made ∧
      let steps : List Step := [⟨.write "one", {}⟩, ⟨.write "two", { torn := some 3, cutFails := true }⟩,
        ⟨.write "two", {}⟩, ⟨.write "three", { torn := some 0 }⟩]
      utf8 "d\n1 one\n" <+: (Desk.run ⟨sheet, made⟩ steps).bytes ∧
        (Desk.run ⟨sheet, made⟩ steps).bytes = utf8 "d\n1 one\n2 t2 t" := by
  obtain ⟨sheet, made, place, created, whole⟩ :=
    Sheet.exists_created none "s" "d" "" { files := {} } (by decide +kernel)
  refine ⟨sheet, made, created, ?_, ?_⟩
  · obtain ⟨safe, -⟩ := committed_before_trouble created [⟨.write "one", {}⟩]
      [⟨.write "two", { torn := some 3, cutFails := true }⟩, ⟨.write "two", {}⟩,
        ⟨.write "three", { torn := some 0 }⟩]
    have clear : ∀ front step rest, [(⟨.write "one", {}⟩ : Step)] = front ++ step :: rest →
        (Desk.run ⟨sheet, made⟩ front).ledger.strands step = false := by
      intro front step rest split
      cases front with
      | nil =>
        cases split
        show (Desk.mk sheet made).ledger.strands _ = false
        rw [ledger_of_created whole]
        rfl
      | cons other others => simp at split
    obtain ⟨bytes, stays⟩ := safe clear
    have text : utf8 (fileText "d" (Account.run {} [⟨.write "one", {}⟩]).texts) =
        utf8 "d\n1 one\n" := by decide +kernel
    rw [bytes, text] at stays
    exact stays
  · have ledger := ledger_run ⟨sheet, made⟩ [⟨.write "one", {}⟩,
      ⟨.write "two", { torn := some 3, cutFails := true }⟩, ⟨.write "two", {}⟩,
      ⟨.write "three", { torn := some 0 }⟩]
    rw [ledger_of_created whole] at ledger
    exact (congrArg Ledger.bytes ledger).trans (by decide +kernel)

end SheetCabinet
