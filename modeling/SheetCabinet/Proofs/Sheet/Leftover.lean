import SheetCabinet.Proofs.Sheet.Account
import SheetCabinet.Proofs.Sheet.LineStarts

/-!
# What is left of torn writes

A torn write that could not be cut back leaves a piece of a line behind the committed length. Pieces
that are left one after the other are pieces of lines with the same number, as long as nothing was
committed behind them.

Results:
* what the file starts with when something is committed tidily stays as it is through every later
  run, and what comes behind it are pieces of lines with greater numbers (`beyond_run`);
* as long as all that is committed is committed tidily, the file holds the account and then pieces
  of lines with the next number (`marked_run`).
-/

namespace SheetCabinet

/-! ## What stays -/

/-- The file starts with these bytes and will not be cut back into them, and what follows are pieces
of lines with greater numbers. -/
structure Beyond (base : Bytes) (n : Nat) (ledger : Ledger) : Prop where
  trail : ∃ later, ledger.bytes = base ++ later ∧ Trail (n < ·) later
  low : base.length ≤ ledger.committed
  high : ledger.committed ≤ ledger.bytes.length
  next : ledger.exhausted = false → n < ledger.number.toNat

variable {base : Bytes} {n : Nat} {ledger : Ledger}

theorem Beyond.withStaged (beyond : Beyond base n ledger) (staged : String) :
    Beyond base n { ledger with staged := staged } :=
  ⟨beyond.trail, beyond.low, beyond.high, beyond.next⟩

theorem Beyond.commit (beyond : Beyond base n ledger) (usable : ledger.exhausted = false)
    (text : String) : Beyond base n (ledger.commit text) := by
  obtain ⟨later, bytes, trail⟩ := beyond.trail
  have above := beyond.next usable
  refine ⟨⟨later ++ ledger.line text, ?_, trail.append (.line above text)⟩, ?_, ?_, ?_⟩
  · rw [Ledger.bytes_commit, bytes, List.append_assoc]
  · rw [Ledger.committed_commit]
    exact Nat.le_trans beyond.low (Nat.le_add_right _ _)
  · rw [Ledger.committed_commit, Ledger.bytes_commit, List.length_append]
    exact Nat.add_le_add_right beyond.high _
  · intro still
    exact Nat.lt_trans above (Ledger.lt_number_commit still)

theorem Beyond.tear (beyond : Beyond base n ledger) (usable : ledger.exhausted = false)
    (text : String) (stored : Nat) (cutFails : Bool) :
    Beyond base n (ledger.tear text stored cutFails) := by
  obtain ⟨later, bytes, trail⟩ := beyond.trail
  have longer := trail.append (.single (beyond.next usable) text stored)
  have whole : ledger.bytes ++ (ledger.line text).take stored =
      base ++ (later ++ (ledger.line text).take stored) := by
    rw [bytes, List.append_assoc]
  have long : ledger.committed ≤ (ledger.bytes ++ (ledger.line text).take stored).length := by
    rw [List.length_append]
    exact Nat.le_trans beyond.high (Nat.le_add_right _ _)
  cases cutFails with
  | true => exact ⟨⟨_, whole, longer⟩, beyond.low, long, beyond.next⟩
  | false =>
    have cut : (ledger.tear text stored false).bytes =
        (ledger.bytes ++ (ledger.line text).take stored).take ledger.committed := cutTo_of_le long
    refine ⟨⟨_, ?_, longer.take (ledger.committed - base.length)⟩, beyond.low, ?_, beyond.next⟩
    · rw [cut, whole, List.take_append, List.take_of_length_le beyond.low]
      rfl
    · rw [cut, List.length_take]
      exact Nat.le_min.2 ⟨Nat.le_refl _, long⟩

theorem beyond_write (beyond : Beyond base n ledger) (text : String) (trouble : Trouble) :
    Beyond base n (ledger.write text trouble) := by
  cases used : ledger.exhausted with
  | true =>
    have unchanged : ledger.write text trouble = ledger := if_pos used
    rw [unchanged]
    exact beyond
  | false =>
    cases torn : trouble.torn with
    | some stored =>
      rw [Ledger.write_of_torn used torn]
      exact beyond.tear used text stored trouble.cutFails
    | none =>
      rw [Ledger.write_of_commits (by simp [Ledger.commits, used, torn])]
      exact beyond.commit used text

theorem beyond_step (beyond : Beyond base n ledger) (step : Step) :
    Beyond base n (ledger.step step) := by
  obtain ⟨staged, same⟩ := ledger.exists_step_eq step
  rw [same]
  cases step.request.due ledger.staged with
  | none => exact beyond.withStaged staged
  | some text => exact (beyond_write beyond text step.trouble).withStaged staged

theorem beyond_run (beyond : Beyond base n ledger) (steps : List Step) :
    Beyond base n (ledger.run steps) := by
  induction steps generalizing ledger with
  | nil => exact beyond
  | cons step rest ih => exact ih (beyond_step beyond step)

/-! ## What is left of torn writes -/

variable {description : String} {account : Account} {leftover : Bytes}

/-- The ledger is in step with the account, and what is left of torn writes are pieces of lines with
the next number. -/
structure Marked (description : String) (account : Account) (leftover : Bytes) (ledger : Ledger) :
    Prop extends InStep description account leftover ledger where
  trail : Trail (· = account.texts.length + 1) leftover

/-- Tidy is a ledger with nothing behind the committed length. -/
theorem tidy_iff {texts : List String} (kept : Kept description texts leftover ledger) :
    ledger.bytes.length = ledger.committed ↔ leftover = [] := by
  rw [kept.bytes, kept.committed, List.length_append]
  constructor
  · intro same
    exact List.eq_nil_of_length_eq_zero (by omega)
  · rintro rfl
    rfl

theorem number_of_usable {texts : List String} (kept : Kept description texts leftover ledger)
    (usable : ledger.exhausted = false) : ledger.number.toNat = texts.length + 1 := by
  rw [kept.exhausted, decide_eq_false_iff_not] at usable
  exact kept.number (Nat.lt_of_le_of_ne kept.bound usable)

/-- A step that puts no text into the file leaves the texts. -/
theorem texts_of_not_commitsAt {step : Step} (inStep : InStep description account leftover ledger)
    (fails : ledger.commitsAt step = false) : (account.step step).texts = account.texts := by
  have lands : account.lands step.trouble = ledger.commits step.trouble :=
    (inStep.commits_iff step.trouble).symm
  obtain ⟨request, trouble⟩ := step
  unfold Ledger.commitsAt at fails
  unfold Account.step
  cases request with
  | write text =>
    have refused : account.lands trouble = false := lands.trans fails
    simp only [Account.write, refused, Bool.false_eq_true, if_false]
  | record diagnostic =>
    have refused : account.lands trouble = false := lands.trans fails
    simp only [Account.write, refused, Bool.false_eq_true, if_false]
  | commitStaged =>
    have refused : account.lands trouble = false := lands.trans fails
    simp only [refused, Bool.false_eq_true, if_false]
  | stage text => rfl
  | stageAll pieces => rfl
  | clearStaged => rfl
  | sync => rfl
  | setAutoSync on => rfl

theorem remainsAfter_of_commitsAt {step : Step} (commits : ledger.commitsAt step = true)
    (leftover : Bytes) : ledger.remainsAfter step leftover = leftover := by
  unfold Ledger.commitsAt Ledger.commits at commits
  rw [Bool.and_eq_true, Bool.and_eq_true, Option.isNone_iff_eq_none] at commits
  unfold Ledger.remainsAfter Ledger.remains
  rw [commits.2.2]
  cases step.request.due ledger.staged <;> rfl

theorem trail_remainsAfter (marked : Marked description account leftover ledger) (step : Step) :
    Trail (· = account.texts.length + 1) (ledger.remainsAfter step leftover) := by
  unfold Ledger.remainsAfter Ledger.remains
  cases step.request.due ledger.staged with
  | none => exact marked.trail
  | some text =>
    cases step.trouble.torn with
    | none => exact marked.trail
    | some stored =>
      cases used : ledger.exhausted with
      | true => exact marked.trail
      | false =>
        cases step.trouble.cutFails with
        | true =>
          exact marked.trail.append (.single (number_of_usable marked.toKept used) text stored)
        | false => exact .nil

theorem marked_step (marked : Marked description account leftover ledger) {step : Step}
    (tidy : ledger.commitsAt step = true → leftover = []) :
    Marked description (account.step step) (ledger.remainsAfter step leftover)
      (ledger.step step) := by
  refine ⟨inStep_step marked.toInStep step tidy, ?_⟩
  -- a commit moves on to the next number, and then nothing may be left with the old one
  cases commits : ledger.commitsAt step with
  | true =>
    rw [remainsAfter_of_commitsAt commits, tidy commits]
    exact .nil
  | false =>
    rw [texts_of_not_commitsAt marked.toInStep commits]
    exact trail_remainsAfter marked step

/-- A run stays in step with the account as long as all that is committed is committed tidily. -/
theorem marked_run {steps : List Step} (marked : Marked description account leftover ledger)
    (tidy : ∀ before step after, steps = before ++ step :: after →
      (ledger.run before).commitsAt step = true →
      (ledger.run before).bytes.length = (ledger.run before).committed) :
    ∃ left, Marked description (account.run steps) left (ledger.run steps) := by
  induction steps generalizing account leftover ledger with
  | nil => exact ⟨leftover, marked⟩
  | cons step rest ih =>
    have first (commits : ledger.commitsAt step = true) : leftover = [] :=
      (tidy_iff marked.toKept).1 (tidy [] step rest rfl commits)
    refine ih (marked_step marked first) ?_
    intro before later after split
    exact tidy (step :: before) later after (by rw [split, List.cons_append])

end SheetCabinet
