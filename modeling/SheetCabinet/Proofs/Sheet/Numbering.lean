import SheetCabinet.Proofs.Sheet.CutBack

/-!
# The numbers of a sheet

The next number of a sheet is kept in 32 bits and cannot count past the greatest one, so a flag tells
whether that one is still free or was used. Number and flag together are one count, which is the
greatest number and one more when the flag is set. It goes up by one with every entry that is
committed, and with nothing else: torn writes and failed syncs neither use a number nor skip one.

Results:
* the count goes up by the number of entries, also where the number stays (`next_run`);
* the entries of a run have the numbers from the next one on (`numbers_run`), and while cutting back
  succeeds they are what the file grows by (`bytes_run`);
* what syncing tells of is the number of the last entry (`told_after`);
* no run wraps or repeats a number, and a sheet that has used the greatest one refuses every further
  entry (`numbers_in_order`).
-/

namespace SheetCabinet

namespace Ledger

/-! ## Entries of a run -/

/-- The entry that a step puts into the file, if it puts one there. -/
def entryAt (ledger : Ledger) (step : Step) : Option Entry :=
  if ledger.commits step.trouble then
    (step.request.due ledger.staged).map fun text => ⟨ledger.number, text⟩
  else none

def entries (ledger : Ledger) : List Step → List Entry
  | [] => []
  | step :: rest => (ledger.entryAt step).toList ++ (ledger.step step).entries rest

theorem entries_append (ledger : Ledger) (first second : List Step) :
    ledger.entries (first ++ second) =
      ledger.entries first ++ (ledger.run first).entries second := by
  induction first generalizing ledger with
  | nil => rfl
  | cons step rest ih => simp [entries, ih]

/-- A step that puts an entry into the file commits it. -/
theorem step_of_entryAt {ledger : Ledger} {step : Step} {entry : Entry}
    (some : ledger.entryAt step = some entry) :
    ledger.commits step.trouble = true ∧ entry.number = ledger.number ∧
      ∃ staged, ledger.step step = { ledger.commit entry.text with staged := staged } := by
  unfold entryAt at some
  split at some
  · rename_i commits
    obtain ⟨text, due, rfl⟩ := Option.map_eq_some_iff.1 some
    obtain ⟨staged, same⟩ := ledger.exists_step_eq step
    rw [due] at same
    simp only [write_of_commits commits] at same
    exact ⟨commits, rfl, staged, same⟩
  · cases some

/-- A step that puts no entry into the file leaves the numbers and the committed length. -/
theorem step_of_no_entry {ledger : Ledger} {step : Step} (none : ledger.entryAt step = none) :
    ∃ bytes staged, ledger.step step = { ledger with bytes := bytes, staged := staged } := by
  obtain ⟨staged, same⟩ := ledger.exists_step_eq step
  cases due : step.request.due ledger.staged with
  | none =>
    rw [due] at same
    exact ⟨ledger.bytes, staged, same⟩
  | some text =>
    have fails : ledger.commits step.trouble = false := by
      refine Bool.eq_false_iff.2 fun commits => ?_
      rw [entryAt, if_pos commits, due] at none
      cases none
    have written := write_of_not_commits fails text
    rw [due] at same
    refine ⟨(ledger.write text step.trouble).bytes, staged, same.trans ?_⟩
    exact congrArg (fun ledger : Ledger => { ledger with staged := staged }) written

/-! ## Counting -/

/-- The number of the next entry, which is one above the greatest number when that was used. -/
def next (ledger : Ledger) : Nat :=
  if ledger.exhausted then UInt32.size else ledger.number.toNat

/-- The number is left at the greatest one when that was used. -/
def Saturated (ledger : Ledger) : Prop :=
  ledger.exhausted = true → ledger.number.toNat + 1 = UInt32.size

theorem next_of_usable {ledger : Ledger} (usable : ledger.exhausted = false) :
    ledger.next = ledger.number.toNat := by
  rw [next, usable, if_neg Bool.false_ne_true]

theorem next_le (ledger : Ledger) : ledger.next ≤ UInt32.size := by
  unfold next
  split
  · exact Nat.le_refl _
  · exact Nat.le_of_lt ledger.number.toNat_lt_size

theorem exhausted_iff (ledger : Ledger) : ledger.exhausted = true ↔ ledger.next = UInt32.size := by
  unfold next
  cases ledger.exhausted with
  | true => simp
  | false => simpa using Nat.ne_of_lt ledger.number.toNat_lt_size

theorem Saturated.number_eq {ledger : Ledger} (saturated : ledger.Saturated) :
    ledger.number.toNat = min ledger.next (UInt32.size - 1) := by
  have small := ledger.number.toNat_lt_size
  unfold next
  cases used : ledger.exhausted with
  | true =>
    have full := saturated used
    rw [if_pos rfl]
    omega
  | false =>
    rw [if_neg Bool.false_ne_true]
    omega

/-- An entry uses up one number, and the greatest one stays. -/
theorem next_commit {ledger : Ledger} (usable : ledger.exhausted = false) (text : String) :
    (ledger.commit text).next = ledger.next + 1 ∧ (ledger.commit text).Saturated := by
  have small := ledger.number.toNat_lt_size
  rw [next_of_usable usable, next, Saturated, exhausted_commit, number_commit, usable]
  by_cases room : ledger.number.toNat + 1 < UInt32.size
  · rw [if_pos room, if_pos room, if_neg Bool.false_ne_true]
    exact ⟨toNat_add_one room, fun used => by cases used⟩
  · rw [if_neg room, if_neg room, if_pos rfl]
    exact ⟨by omega, fun _ => by omega⟩

theorem next_step {ledger : Ledger} (saturated : ledger.Saturated) (step : Step) :
    (ledger.step step).next = ledger.next + (ledger.entryAt step).toList.length ∧
      (ledger.step step).Saturated := by
  cases found : ledger.entryAt step with
  | some entry =>
    obtain ⟨commits, -, staged, same⟩ := step_of_entryAt found
    rw [same]
    exact next_commit (usable_of_commits commits) entry.text
  | none =>
    obtain ⟨bytes, staged, same⟩ := step_of_no_entry found
    rw [same]
    exact ⟨rfl, saturated⟩

/-- The count goes up by the number of entries. -/
theorem next_run {ledger : Ledger} (saturated : ledger.Saturated) (steps : List Step) :
    (ledger.run steps).next = ledger.next + (ledger.entries steps).length ∧
      (ledger.run steps).Saturated := by
  induction steps generalizing ledger with
  | nil => exact ⟨rfl, saturated⟩
  | cons step rest ih =>
    obtain ⟨count, still⟩ := next_step saturated step
    obtain ⟨later, last⟩ := ih still
    refine ⟨?_, last⟩
    rw [run_cons, later, count, entries, List.length_append, Nat.add_assoc]

/-- The entries have the numbers from the next one on. -/
theorem numbers_run {ledger : Ledger} (saturated : ledger.Saturated) (steps : List Step) :
    (ledger.entries steps).map (·.number.toNat) =
      List.range' ledger.next (ledger.entries steps).length := by
  induction steps generalizing ledger with
  | nil => rfl
  | cons step rest ih =>
    obtain ⟨count, still⟩ := next_step saturated step
    have later := ih still
    rw [count] at later
    cases found : ledger.entryAt step with
    | none =>
      rw [found] at later
      simpa [entries, found] using later
    | some entry =>
      obtain ⟨commits, number, -⟩ := step_of_entryAt found
      have first : entry.number.toNat = ledger.next := by
        rw [number, next_of_usable (usable_of_commits commits)]
      rw [found] at later
      simpa [entries, found, first, List.range'_succ] using later

/-! ## The file of a run -/

/-- As long as nothing stands behind the committed length and cutting back succeeds, a step leaves
its entry in the file and nothing else. -/
theorem bytes_step {ledger : Ledger} {step : Step} (tidy : ledger.bytes.length = ledger.committed)
    (cut : step.trouble.cutFails = false) :
    (ledger.step step).bytes = ledger.bytes ++ entryBytes (ledger.entryAt step).toList ∧
      (ledger.step step).bytes.length = (ledger.step step).committed := by
  cases found : ledger.entryAt step with
  | some entry =>
    obtain ⟨-, number, staged, same⟩ := step_of_entryAt found
    rw [same]
    simp only [bytes_commit, committed_commit, List.length_append, tidy, and_true]
    simp [entryBytes, line, number]
  | none =>
    have kept : (ledger.step step).bytes = ledger.bytes := by
      obtain ⟨staged, same⟩ := ledger.exists_step_eq step
      rw [same]
      cases due : step.request.due ledger.staged with
      | none => rfl
      | some text =>
        cases used : ledger.exhausted with
        | true => simp only [write, used, if_true]
        | false =>
          cases torn : step.trouble.torn with
          | none => simp [entryAt, commits, used, torn, due] at found
          | some stored =>
            simp only [write_of_torn used torn, tear, cut]
            rw [if_neg Bool.false_ne_true, cutTo_of_le (by simp [tidy]), ← tidy, List.take_left]
    obtain ⟨bytes, staged, same⟩ := step_of_no_entry found
    have committed : (ledger.step step).committed = ledger.committed := by rw [same]
    rw [kept, committed]
    exact ⟨(List.append_nil _).symm, tidy⟩

theorem bytes_run {ledger : Ledger} {steps : List Step}
    (tidy : ledger.bytes.length = ledger.committed)
    (cuts : ∀ step ∈ steps, step.trouble.cutFails = false) :
    (ledger.run steps).bytes = ledger.bytes ++ entryBytes (ledger.entries steps) ∧
      (ledger.run steps).bytes.length = (ledger.run steps).committed := by
  induction steps generalizing ledger with
  | nil => exact ⟨(List.append_nil _).symm, tidy⟩
  | cons step rest ih =>
    obtain ⟨first, still⟩ := bytes_step tidy (cuts step List.mem_cons_self)
    obtain ⟨later, last⟩ := ih still fun other member => cuts other (List.mem_cons_of_mem _ member)
    refine ⟨?_, last⟩
    rw [run_cons, later, first, entries, entryBytes, entryBytes, entryBytes, List.flatMap_append,
      List.append_assoc]

end Ledger

/-! ## What syncing tells of -/

/-- What was told since of syncing names the last entry that there is. -/
def Tells (before : Store) (after : Desk) : Prop :=
  ∃ told, after.store.events = before.events ++ told ∧
    ∀ path n, .sheetSynced path n ∈ told → n = after.sheet.lastNumber

theorem tells_nothing {before : Store} {after : Desk} (same : after.store.journal = before.journal) :
    Tells before after :=
  ⟨[], by rw [Store.events, Store.events, same, List.append_nil], fun _ _ absent => by cases absent⟩

/-- What is told of something else does not matter. -/
theorem Tells.tell {before : Store} {after : Desk} (tells : Tells before after) {event : Event}
    (other : ∀ path n, event ≠ .sheetSynced path n) :
    Tells before { after with store := after.store.tell event } := by
  obtain ⟨told, events, through⟩ := tells
  refine ⟨told ++ [event], ?_, fun path n member => ?_⟩
  · rw [Store.events_tell, events, List.append_assoc]
  · rcases List.mem_append.1 member with earlier | last
    · exact through path n earlier
    · exact absurd (List.mem_singleton.1 last).symm (other path n)

theorem tells_sync (desk : Desk) : Tells desk.store (leftBy (Sheet.sync desk)) := by
  unfold Sheet.sync
  split
  · refine ⟨[.sheetSynced desk.sheet.path desk.sheet.lastNumber], by simp, fun path n member => ?_⟩
    cases List.mem_singleton.1 member
    rfl
  · exact tells_nothing rfl

theorem tells_rollBack (sheet : Sheet) (store : Store) :
    Tells store ⟨sheet, sheet.rollBack store⟩ := by
  unfold Sheet.rollBack
  split
  · exact tells_nothing rfl
  · have quiet : Tells store ⟨sheet, store⟩ := tells_nothing rfl
    exact quiet.tell fun path n same => by cases same

theorem tells_write (text : String) (desk : Desk) :
    Tells desk.store (leftBy (Sheet.write text desk)) := by
  cases used : desk.sheet.exhausted with
  | true =>
    rw [Sheet.write_of_exhausted used]
    exact tells_nothing rfl
  | false =>
    cases torn : desk.sheet.handle.trouble.torn with
    | some stored =>
      rw [write_of_torn used torn]
      exact tells_rollBack _ _
    | none =>
      rw [write_of_whole used torn]
      dsimp only
      split
      · exact tells_sync _
      · exact tells_nothing rfl

theorem tells_commitStaged (desk : Desk) :
    Tells desk.store (leftBy (Sheet.commitStaged desk)) := by
  obtain ⟨staged, same⟩ := leftBy_commitStaged desk
  rw [same]
  exact tells_write desk.sheet.staged desk

theorem tells_record (diagnostic : Diagnostic) (desk : Desk) :
    Tells desk.store (diagnostic.record desk) := by
  have tells := tells_write diagnostic.text desk
  unfold Diagnostic.record
  cases result : Sheet.write diagnostic.text desk with
  | ok _ after =>
    rw [result] at tells
    exact tells
  | error failure after =>
    rw [result] at tells
    exact tells.tell fun path n same => by cases same

/-- After a step the number that syncing told of is that of the last entry. -/
theorem tells_after (step : Step) (desk : Desk) : Tells desk.store (step.after desk) := by
  obtain ⟨request, trouble⟩ := step
  unfold Step.after Step.outcome
  cases request with
  | write text => exact tells_write text (desk.under trouble)
  | commitStaged => exact tells_commitStaged (desk.under trouble)
  | sync => exact tells_sync (desk.under trouble)
  | record diagnostic => exact tells_record diagnostic (desk.under trouble)
  | stage text => exact tells_nothing rfl
  | stageAll pieces => exact tells_nothing rfl
  | clearStaged => exact tells_nothing rfl
  | setAutoSync on => exact tells_nothing rfl

/-! ## Whole runs -/

/-- How a sheet goes on numbering through a run. -/
structure Desk.Numbered (desk : Desk) (steps : List Step) : Prop where
  /-- The entries have the numbers from the next one on, each one once. -/
  numbers : (desk.ledger.entries steps).map (·.number.toNat) =
    List.range' desk.sheet.number.toNat (desk.ledger.entries steps).length
  /-- There are no more entries than there are numbers left. -/
  room : desk.sheet.number.toNat + (desk.ledger.entries steps).length ≤ UInt32.size
  /-- The next number is the one behind the last entry, as long as there is one. -/
  number : (desk.run steps).sheet.number.toNat =
    min (desk.sheet.number.toNat + (desk.ledger.entries steps).length) (UInt32.size - 1)
  exhausted : (desk.run steps).sheet.exhausted = true ↔
    desk.sheet.number.toNat + (desk.ledger.entries steps).length = UInt32.size
  /-- There is always a number before the next one, and it is that of the last entry. -/
  last : 1 ≤ (desk.run steps).sheet.number.toNat ∧
    (desk.run steps).sheet.lastNumber.toNat + 1 =
      desk.sheet.number.toNat + (desk.ledger.entries steps).length
  /-- Whoever is told that a text was written has made an entry of it. -/
  counted : ∀ request trouble text after,
    (request = .write text ∨ request = .commitStaged ∧ (desk.run steps).sheet.staged = text) →
    Step.outcome ⟨request, trouble⟩ (desk.run steps) = .ok () after →
    (desk.run steps).Commits ⟨request, trouble⟩ text
  /-- The next entry goes to the end of the file, with the next number. -/
  line : ∀ step text, (desk.run steps).Commits step text →
    desk.ledger.entries (steps ++ [step]) =
        desk.ledger.entries steps ++ [⟨(desk.run steps).sheet.number, text⟩] ∧
      (step.after (desk.run steps)).bytes = (desk.run steps).bytes ++
        utf8 (entryLine (desk.run steps).sheet.number text)
  /-- If all that is torn is cut back, the file has these entries and nothing else behind what it
  held. -/
  file : (∀ step ∈ steps, step.trouble.cutFails = false) →
    desk.bytes.length = desk.sheet.committed →
    (desk.run steps).bytes = desk.bytes ++ entryBytes (desk.ledger.entries steps)

/-- The sheet takes no entry any more. -/
structure Desk.Spent (desk : Desk) : Prop where
  refuses : ∀ later text trouble, Step.outcome ⟨.write text, trouble⟩ (desk.run later) =
    .error (.strategy .numbersExhausted) ((desk.run later).under trouble)
  refusesStaged : ∀ later trouble, Step.outcome ⟨.commitStaged, trouble⟩ (desk.run later) =
    .error (.strategy .numbersExhausted) ((desk.run later).under trouble)
  bytes : ∀ later, (desk.run later).bytes = desk.bytes
  number : ∀ later, (desk.run later).sheet.number = desk.sheet.number
  committed : ∀ later, (desk.run later).sheet.committed = desk.sheet.committed

/-- Staging apart, a run does nothing to a sheet with no number left. -/
theorem Ledger.run_of_exhausted {ledger : Ledger} (used : ledger.exhausted = true)
    (steps : List Step) :
    ∃ staged, ledger.run steps = { ledger with staged := staged } := by
  induction steps generalizing ledger with
  | nil => exact ⟨ledger.staged, rfl⟩
  | cons step rest ih =>
    have first : ∃ staged, ledger.step step = { ledger with staged := staged } := by
      obtain ⟨staged, same⟩ := ledger.exists_step_eq step
      refine ⟨staged, same.trans ?_⟩
      cases step.request.due ledger.staged with
      | none => rfl
      | some text => simp only [Ledger.write, used, if_true]
    obtain ⟨staged, same⟩ := first
    have still : (ledger.step step).exhausted = true := by
      rw [same]
      exact used
    obtain ⟨later, last⟩ := ih still
    exact ⟨later, by rw [Ledger.run_cons, last, same]⟩

theorem commitStaged_of_exhausted {desk : Desk} (used : desk.sheet.exhausted = true) :
    Sheet.commitStaged desk = .error (.strategy .numbersExhausted) desk := by
  have fails : desk.ledger.commits desk.sheet.handle.trouble = false := by
    simp [Ledger.commits, Desk.ledger, used]
  rw [commitStaged_eq, Sheet.write_of_exhausted used, fails, if_neg Bool.false_ne_true]
  rfl

theorem spent_of_exhausted {desk : Desk} (used : desk.sheet.exhausted = true) : desk.Spent := by
  have same (later : List Step) :
      ∃ staged, (desk.run later).ledger = { desk.ledger with staged := staged } := by
    have full : desk.ledger.exhausted = true := used
    rw [ledger_run]
    exact Ledger.run_of_exhausted full later
  have still (later : List Step) (trouble : Trouble) :
      ((desk.run later).under trouble).sheet.exhausted = true := by
    obtain ⟨staged, last⟩ := same later
    exact (congrArg Ledger.exhausted last).trans used
  refine ⟨fun later text trouble => ?_, fun later trouble => ?_, fun later => ?_, fun later => ?_,
    fun later => ?_⟩
  · exact Sheet.write_of_exhausted (still later trouble) text
  · exact commitStaged_of_exhausted (still later trouble)
  · obtain ⟨staged, last⟩ := same later
    exact congrArg Ledger.bytes last
  · obtain ⟨staged, last⟩ := same later
    exact congrArg Ledger.number last
  · obtain ⟨staged, last⟩ := same later
    exact congrArg Ledger.committed last

theorem Ledger.entryAt_of_commits {desk : Desk} {step : Step} {text : String}
    (commits : desk.Commits step text) :
    desk.ledger.entryAt step = some ⟨desk.sheet.number, text⟩ := by
  have due : step.request.due desk.ledger.staged = some text := commits.due
  rw [Ledger.entryAt, if_pos commits.commits, due]
  rfl

/-- The number of the last entry, where there may be one. -/
theorem lastNumber_add_one {sheet : Sheet} (positive : 1 ≤ sheet.number.toNat) :
    sheet.lastNumber.toNat + 1 =
      if sheet.exhausted then UInt32.size else sheet.number.toNat := by
  have one : (1 : UInt32) ≤ sheet.number := UInt32.le_iff_toNat_le.2 positive
  unfold Sheet.lastNumber
  split
  · rfl
  · rw [UInt32.toNat_sub_of_le _ _ one]
    exact Nat.sub_add_cancel positive

theorem numbered_of_usable {desk : Desk} (usable : desk.sheet.exhausted = false)
    (positive : 1 ≤ desk.sheet.number.toNat) (steps : List Step) : desk.Numbered steps := by
  have free : desk.ledger.exhausted = false := usable
  have saturated : desk.ledger.Saturated := fun used => by
    rw [free] at used
    cases used
  have start : desk.ledger.next = desk.sheet.number.toNat := Ledger.next_of_usable free
  obtain ⟨count, still⟩ := Ledger.next_run saturated steps
  have numbers := Ledger.numbers_run saturated steps
  have bound := (desk.ledger.run steps).next_le
  have used := (desk.ledger.run steps).exhausted_iff
  have number := still.number_eq
  rw [start] at count numbers
  rw [count] at bound used number
  rw [← ledger_run] at used number
  have least : 1 ≤ (desk.run steps).sheet.number.toNat := by
    have large : 1 ≤ UInt32.size - 1 := by decide
    have eq : (desk.run steps).sheet.number.toNat = _ := number
    omega
  refine ⟨numbers, bound, number, used, ⟨least, ?_⟩, fun _ _ _ _ => commits_of_ok,
    fun step text commits => ?_, fun cuts tidy => ?_⟩
  · rw [lastNumber_add_one least, ← count, ← ledger_run]
    rfl
  · have found := Ledger.entryAt_of_commits commits
    rw [ledger_run] at found
    obtain ⟨staged, same⟩ := exists_step_eq_commit commits
    refine ⟨by rw [Ledger.entries_append]; simp [Ledger.entries, found], ?_⟩
    exact (congrArg Ledger.bytes same).trans (Ledger.bytes_commit _ _)
  · have even : desk.ledger.bytes.length = desk.ledger.committed := tidy
    have file := (Ledger.bytes_run even cuts).1
    rw [← ledger_run] at file
    exact file

/-- Whatever is done with a sheet that has a number left, and whichever writes are torn and syncs
fail: its entries are numbered one by one up to the greatest number, its next number never
decreases, what syncing tells of is the number of the last entry; and when the greatest number has
been used no entry is written any more, nor anything else changed by trying. -/
theorem numbers_in_order {desk : Desk} (usable : desk.sheet.exhausted = false)
    (positive : 1 ≤ desk.sheet.number.toNat) (steps : List Step) :
    desk.Numbered steps ∧
      (∀ later, (desk.run steps).sheet.number ≤ (desk.run (steps ++ later)).sheet.number) ∧
      (∀ step, ∃ told,
        (step.after (desk.run steps)).store.events = (desk.run steps).store.events ++ told ∧
          ∀ path n, .sheetSynced path n ∈ told → n.toNat + 1 =
            desk.sheet.number.toNat + (desk.ledger.entries (steps ++ [step])).length) ∧
      ((∃ entry ∈ desk.ledger.entries steps, entry.number.toNat + 1 = UInt32.size) →
        (desk.run steps).Spent) := by
  have numbered (steps : List Step) : desk.Numbered steps :=
    numbered_of_usable usable positive steps
  refine ⟨numbered steps, fun later => ?_, fun step => ?_, fun greatest => ?_⟩
  · have longer := congrArg List.length (desk.ledger.entries_append steps later)
    rw [List.length_append] at longer
    rw [UInt32.le_iff_toNat_le, (numbered steps).number, (numbered (steps ++ later)).number]
    omega
  · obtain ⟨told, events, through⟩ := tells_after step (desk.run steps)
    refine ⟨told, events, fun path n member => ?_⟩
    have last := (numbered (steps ++ [step])).last.2
    rw [Desk.run_append] at last
    rw [through path n member]
    exact last
  · obtain ⟨entry, member, top⟩ := greatest
    have inside : entry.number.toNat ∈ (desk.ledger.entries steps).map (·.number.toNat) :=
      List.mem_map_of_mem member
    rw [(numbered steps).numbers, List.mem_range'_1] at inside
    have bound := (numbered steps).room
    exact spent_of_exhausted ((numbered steps).exhausted.2 (by omega))

/-- A sheet that was just made and starts with another number. -/
theorem ledger_setNumber {files : FileSystem} {made : Store} {parent : Path}
    {name description : String} {sheet : Sheet} {place : Location}
    (created : Sheet.Created files made.files parent name description sheet place)
    (number : UInt32) :
    (Desk.mk (sheet.setNumber number) made).ledger =
      { bytes := utf8 (descriptionLine description)
        committed := (utf8 (descriptionLine description)).length
        number := number
        exhausted := false
        staged := "" } :=
  congrArg (fun ledger : Ledger => { ledger with number := number }) (ledger_of_created created)

/-- The last two numbers, with a torn write before the greatest one and a failed sync after it. -/
theorem numbers_in_order_greatest :
    ∃ sheet made, Sheet.create none "s" "d" "" { files := {} } = .ok sheet made ∧
      let desk : Desk := ⟨sheet.setNumber 4294967294, made⟩
      let steps : List Step := [⟨.write "a", {}⟩, ⟨.write "b", { torn := some 3 }⟩,
        ⟨.setAutoSync true, {}⟩, ⟨.write "c", { syncFails := true }⟩, ⟨.write "d", {}⟩]
      desk.ledger.entries steps = [⟨4294967294, "a"⟩, ⟨4294967295, "c"⟩] ∧
        (desk.run steps).bytes = utf8 "d\n4294967294 a\n4294967295 c\n" ∧ (desk.run steps).Spent := by
  obtain ⟨sheet, made, place, created, whole⟩ :=
    Sheet.exists_created none "s" "d" "" { files := {} } (by decide +kernel)
  refine ⟨sheet, made, created, ?_⟩
  have ledger := ledger_setNumber whole 4294967294
  generalize (Desk.mk (sheet.setNumber 4294967294) made) = desk at ledger
  have bytes : desk.bytes = _ := congrArg Ledger.bytes ledger
  have committed : desk.sheet.committed = _ := congrArg Ledger.committed ledger
  have number : desk.sheet.number = _ := congrArg Ledger.number ledger
  have usable : desk.sheet.exhausted = false := congrArg Ledger.exhausted ledger
  obtain ⟨numbered, -, -, spent⟩ := numbers_in_order usable (by rw [number]; decide)
    [⟨.write "a", {}⟩, ⟨.write "b", { torn := some 3 }⟩, ⟨.setAutoSync true, {}⟩,
      ⟨.write "c", { syncFails := true }⟩, ⟨.write "d", {}⟩]
  have entries : desk.ledger.entries [⟨.write "a", {}⟩, ⟨.write "b", { torn := some 3 }⟩,
      ⟨.setAutoSync true, {}⟩, ⟨.write "c", { syncFails := true }⟩, ⟨.write "d", {}⟩] =
      [⟨4294967294, "a"⟩, ⟨4294967295, "c"⟩] := by
    rw [ledger]
    decide +kernel
  refine ⟨entries, ?_, spent ⟨⟨4294967295, "c"⟩, by rw [entries]; decide, by decide⟩⟩
  refine (numbered.file (by decide) (by rw [bytes, committed])).trans ?_
  rw [entries, bytes]
  decide +kernel

end SheetCabinet
