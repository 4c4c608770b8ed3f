import SheetCabinet.Proofs.Sheet.Leftover

/-!
# Entries and failed cutting back

When a torn write could not be cut back, the next write that succeeds goes behind the piece that was
left, but is counted as if it had followed the last entry directly: its line does not start where a
line starts, and the next time the file is cut back its end is lost. Entries that were committed
with nothing left behind the committed length are safe, whatever happens to the file later.

Results:
* whoever is told that a text was committed has put it into the file (`commits_of_ok`);
* the entries of a run are all safe if and only if each was committed tidily (`safe_iff_tidy`).
-/

namespace SheetCabinet

variable {description : String} {account : Account} {leftover : Bytes}

/-! ## Safety -/

/-- The step puts the text into the file as an entry: it succeeds, or syncing fails and no more. -/
structure Desk.Commits (desk : Desk) (step : Step) (text : String) : Prop where
  due : step.request.due desk.sheet.staged = some text
  commits : desk.ledger.commits step.trouble = true

/-- Whoever is told that a text was written, or what is staged committed, has put it into the file. -/
theorem commits_of_ok {desk after : Desk} {request : Request} {trouble : Trouble} {text : String}
    (asked : request = .write text ∨ request = .commitStaged ∧ desk.sheet.staged = text)
    (done : Step.outcome ⟨request, trouble⟩ desk = .ok () after) :
    desk.Commits ⟨request, trouble⟩ text := by
  rcases asked with rfl | ⟨rfl, rfl⟩
  · have free := commits_of_write_ok (desk.under trouble) done
    exact ⟨rfl, free⟩
  · refine ⟨rfl, ?_⟩
    unfold Step.outcome Request.work Sheet.commitStaged at done
    dsimp only at done
    split at done
    · rename_i written
      exact commits_of_write_ok _ written
    · split at done <;> cases done

/-- The line that the step writes is in the file for good, and is the line of its entry. -/
structure Safe (desk : Desk) (step : Step) (text : String) : Prop where
  /-- The line starts where a line starts. -/
  opens : Opens desk.bytes
  /-- The line stays as it was written. -/
  stays : ∀ later, desk.bytes ++ utf8 (entryLine desk.sheet.number text) <+:
    ((step.after desk).run later).bytes
  /-- No other line starts with its number, the first line of the file apart, which is that of the
  description. -/
  alone : ∀ later front rest, ((step.after desk).run later).bytes = front ++ rest → front ≠ [] →
    Opens front → tag desk.sheet.number.toNat <+: rest → front = desk.bytes
  /-- The sheet is read, and has the entry. -/
  read : ∃ contents store,
    Contents.load desk.sheet.path (step.after desk).store = .ok contents store ∧
      ⟨desk.sheet.number, text⟩ ∈ contents.entries
  /-- Whenever the sheet is read later, it has the entry. -/
  readLater : ∀ later contents store,
    Contents.load desk.sheet.path ((step.after desk).run later).store = .ok contents store →
      ⟨desk.sheet.number, text⟩ ∈ contents.entries

theorem exists_commits_of_commitsAt {desk : Desk} {step : Step}
    (commits : desk.ledger.commitsAt step = true) : ∃ text, desk.Commits step text := by
  rw [Ledger.commitsAt, Bool.and_eq_true, Option.isSome_iff_exists] at commits
  obtain ⟨⟨text, due⟩, free⟩ := commits
  exact ⟨text, due, free⟩

theorem exists_step_eq_commit {desk : Desk} {step : Step} {text : String}
    (commits : desk.Commits step text) :
    ∃ staged, (step.after desk).ledger = { desk.ledger.commit text with staged := staged } := by
  have due : step.request.due desk.ledger.staged = some text := commits.due
  obtain ⟨staged, same⟩ := desk.ledger.exists_step_eq step
  refine ⟨staged, ?_⟩
  rw [ledger_after, same, due]
  simp only [Ledger.write_of_commits commits.commits]

/-- What was committed tidily is what the file starts with from then on. -/
theorem beyond_of_commits {desk : Desk} {step : Step} {text : String}
    (commits : desk.Commits step text) (tidy : desk.bytes.length = desk.sheet.committed)
    (later : List Step) :
    Beyond (desk.bytes ++ utf8 (entryLine desk.sheet.number text)) desk.sheet.number.toNat
      ((step.after desk).run later).ledger := by
  obtain ⟨staged, same⟩ := exists_step_eq_commit commits
  rw [ledger_run, same]
  refine beyond_run (.withStaged ⟨⟨[], ?_, .nil⟩, ?_, ?_, ?_⟩ staged) later
  · rw [Ledger.bytes_commit, List.append_nil]
    rfl
  · rw [Ledger.committed_commit, List.length_append, tidy]
    exact Nat.le_refl _
  · rw [Ledger.committed_commit, Ledger.bytes_commit, List.length_append]
    exact Nat.add_le_add_right (Nat.le_of_eq tidy.symm) _
  · intro still
    exact Ledger.lt_number_commit still

/-! ## Tidy entries are safe -/

theorem opens_fileText (description : String) {texts : List String}
    (bound : texts.length < UInt32.size) : Opens (utf8 (fileText description texts)) := by
  rcases List.eq_nil_or_concat texts with rfl | ⟨front, last, rfl⟩
  · exact opens_descriptionLine [] description
  · rw [List.concat_eq_append, List.length_append, List.length_singleton] at bound
    have next : (UInt32.ofNat (front.length + 1)).toNat = front.length + 1 :=
      UInt32.toNat_ofNat_of_lt bound
    rw [List.concat_eq_append, fileText_push description front next, utf8_append, utf8_entryLine,
      ← List.append_assoc]
    exact opens_descriptionLine _ last

theorem number_le_of_mem {texts : List String} (bound : texts.length < UInt32.size) {entry : Entry}
    (member : entry ∈ entriesOf texts) : entry.number.toNat ≤ texts.length := by
  obtain ⟨i, inside, rfl⟩ := List.mem_mapIdx.1 member
  have small : i + 1 < UInt32.size := Nat.lt_of_le_of_lt inside bound
  exact Nat.le_trans (Nat.le_of_eq (UInt32.toNat_ofNat_of_lt small)) inside

theorem mem_entriesOf_push {texts : List String} {number : UInt32}
    (next : number.toNat = texts.length + 1) (text : String) :
    ⟨number, text⟩ ∈ entriesOf (texts ++ [text]) := by
  have same : UInt32.ofNat (texts.length + 1) = number := by rw [← next, UInt32.ofNat_toNat]
  rw [entriesOf_push, same]
  exact List.mem_append_right _ (List.mem_singleton_self _)

/-- What is read from a file with pieces of lines behind its entries still has the entries. -/
theorem mem_entries_of_trail {texts : List String} {fits : Nat → Prop} {later : Bytes}
    (bound : texts.length < UInt32.size) (trail : Trail fits later) {text : String}
    (whole : utf8 (fileText description texts) ++ later = utf8 text) {contents : Contents}
    (parsed : Contents.parse text = .ok contents) {entry : Entry}
    (member : entry ∈ entriesOf texts) : entry ∈ contents.entries := by
  obtain ⟨rest, rfl, ends⟩ := exists_rest_of_utf8 whole
  have head : rest.toList.head? ≠ some '\t' := by
    intro tabbed
    obtain ⟨more, split⟩ := List.head?_eq_some_iff.1 tabbed
    have front : encodeChar '\t' = [tab] := encodeChar_of_ascii (by decide)
    rw [utf8_eq_flatMap, split, List.flatMap_cons, front] at ends
    exact head?_of_trail trail (by rw [ends]; rfl)
  rw [fileText_eq_render description bound] at parsed
  obtain ⟨next, read⟩ := Contents.parse_render_append ⟨description, entriesOf texts⟩ head
  rw [read] at parsed
  split at parsed
  · cases parsed
  · cases parsed
    exact List.mem_append_left _ member

section Runs

variable {files : FileSystem} {made : Store} {parent : Path} {name : String} {sheet : Sheet}
  {place : Location} {before : List Step} {step : Step} {text : String}

/-- The run of a sheet up to a step and with it. -/
theorem run_snoc (desk : Desk) (before : List Step) (step : Step) (later : List Step) :
    (step.after (desk.run before)).run later = desk.run (before ++ step :: later) := by
  rw [Desk.run_append, Desk.run_cons]

theorem load_iff_of_path
    (created : Sheet.Created files made.files parent name description sheet place)
    (before : List Step) {contents : Contents} {store : Store} (steps : List Step) :
    Contents.load (Desk.run ⟨sheet, made⟩ before).sheet.path
        (Desk.run ⟨sheet, made⟩ steps).store = .ok contents store ↔
      store = (Desk.run ⟨sheet, made⟩ steps).store ∧
        ∃ text, (Desk.run ⟨sheet, made⟩ steps).bytes = utf8 text ∧
          Contents.parse text = .ok contents := by
  rw [(frame_run ⟨sheet, made⟩ before).path]
  exact load_run_iff created steps

theorem safe_of_tidy
    (created : Sheet.Created files made.files parent name description sheet place)
    {texts : List String} (kept : Kept description texts [] (Desk.run ⟨sheet, made⟩ before).ledger)
    (commits : (Desk.run ⟨sheet, made⟩ before).Commits step text) :
    Safe (Desk.run ⟨sheet, made⟩ before) step text := by
  have used := Ledger.usable_of_commits commits.commits
  have next : (Desk.run ⟨sheet, made⟩ before).sheet.number.toNat = texts.length + 1 :=
    number_of_usable kept used
  have bytes : (Desk.run ⟨sheet, made⟩ before).bytes = utf8 (fileText description texts) :=
    kept.bytes.trans (List.append_nil _)
  have line : (Desk.run ⟨sheet, made⟩ before).bytes ++
      utf8 (entryLine (Desk.run ⟨sheet, made⟩ before).sheet.number text) =
        utf8 (fileText description (texts ++ [text])) := by
    rw [fileText_push description texts next, utf8_append, bytes]
  have after := kept.commit commits.commits text
  have beyond := beyond_of_commits commits ((tidy_iff kept).2 rfl)
  have member := mem_entriesOf_push next text
  refine
    { opens := ?opens
      stays := ?stays
      alone := ?alone
      read := ?read
      readLater := ?readLater }
  case opens =>
    rw [bytes]
    exact opens_fileText description kept.bound
  case stays =>
    intro later
    obtain ⟨more, split, -⟩ := (beyond later).trail
    exact ⟨more, split.symm⟩
  case alone =>
    intro later front rest whole present opens starts
    obtain ⟨more, split, trail⟩ := (beyond later).trail
    have others : ∀ entry ∈ entriesOf texts,
        (Desk.run ⟨sheet, made⟩ before).sheet.number.toNat ≠ entry.number.toNat := by
      intro entry inside
      have small := number_le_of_mem kept.bound inside
      omega
    have file : utf8 (Contents.render ⟨description, entriesOf texts⟩) ++
        (utf8 (entryLine (Desk.run ⟨sheet, made⟩ before).sheet.number text) ++ more) =
          front ++ rest := by
      rw [← fileText_eq_render description kept.bound, ← bytes, ← List.append_assoc, ← whole]
      exact split.symm
    rw [bytes, fileText_eq_render description kept.bound]
    exact eq_of_line others (noLine_of_trail (fun _ above => above) trail) file present opens starts
  case read =>
    obtain ⟨staged, same⟩ := exists_step_eq_commit commits
    have holds : (step.after (Desk.run ⟨sheet, made⟩ before)).bytes =
        utf8 (fileText description (texts ++ [text])) := by
      rw [← line]
      exact (congrArg Ledger.bytes same).trans (Ledger.bytes_commit _ _)
    have parsed := parse_fileText description after.bound
    have last := run_snoc ⟨sheet, made⟩ before step []
    rw [Desk.run_nil] at last
    rw [last] at holds ⊢
    exact ⟨_, _, (load_iff_of_path created before _).2 ⟨rfl, _, holds, parsed⟩, member⟩
  case readLater =>
    intro later contents store loaded
    obtain ⟨more, split, trail⟩ := (beyond later).trail
    rw [run_snoc] at loaded split
    obtain ⟨-, found, holds, parsed⟩ := (load_iff_of_path created before _).1 loaded
    have whole : utf8 (fileText description (texts ++ [text])) ++ more = utf8 found := by
      rw [← holds, ← line]
      exact split.symm
    exact mem_entries_of_trail after.bound trail whole parsed member

/-! ## Safe entries are tidy -/

/-- As long as numbers are left, the next write that is cut back takes with it the end of a line that
was not committed tidily. -/
theorem tidy_of_room {desk : Desk} {texts : List String}
    (kept : Kept description texts leftover desk.ledger) (commits : desk.Commits step text)
    (room : desk.sheet.number.toNat + 1 < UInt32.size) (safe : Safe desk step text) :
    leftover = [] := by
  obtain ⟨staged, same⟩ := exists_step_eq_commit commits
  have used : (step.after desk).ledger.exhausted = false := by
    rw [same]
    exact (Ledger.exhausted_commit _ _).trans
      ((if_pos room).trans (Ledger.usable_of_commits commits.commits))
  let cut : Step := ⟨.write "", { torn := some 0 }⟩
  have torn : ((step.after desk).run [cut]).ledger = (step.after desk).ledger.tear "" 0 false := by
    have stored : cut.trouble.torn = some 0 := rfl
    rw [ledger_run, Ledger.run_cons, Ledger.run_nil]
    exact Ledger.write_of_torn used stored ""
  have length : ((step.after desk).run [cut]).bytes.length =
      desk.sheet.committed + (utf8 (entryLine desk.sheet.number text)).length := by
    have bytes := congrArg Ledger.bytes torn
    refine (congrArg List.length bytes).trans ((length_cutTo _ _).trans ?_)
    rw [same]
    exact Ledger.committed_commit desk.ledger text
  have fits := (safe.stays [cut]).length_le
  have long : desk.bytes.length = desk.sheet.committed + leftover.length := by
    have bytes := congrArg List.length kept.bytes
    rw [List.length_append, ← kept.committed] at bytes
    exact bytes
  rw [length, List.length_append] at fits
  exact List.eq_nil_of_length_eq_zero (by omega)

/-- Digits in front of the greatest number make a number that is too great. -/
theorem numeral?_of_longer {word : List Char} (numeral : ∀ c ∈ word, c.isDigit)
    (first : word.head? = some '4') {number : UInt32} (last : number.toNat + 1 = UInt32.size) :
    numeral? (word ++ decimal number.toNat) = none := by
  have digits : ∀ c ∈ word ++ decimal number.toNat, c.isDigit := fun c member =>
    (List.mem_append.1 member).elim (numeral c) isDigit_of_mem_decimal
  obtain ⟨rest, rfl⟩ := List.head?_eq_some_iff.1 first
  have large : ¬Nat.ofDigitChars 10 ('4' :: rest ++ decimal number.toNat) 0 ≤ UInt32.size - 1 := by
    have front : 4 ≤ Nat.ofDigitChars 10 ('4' :: rest) 0 := by
      rw [Nat.ofDigitChars_cons]
      exact le_ofDigitChars 4 rest
    have ten : (decimal number.toNat).length = 10 := by
      rw [show number.toNat = 4294967295 from Nat.succ.inj last]
      decide
    rw [Nat.ofDigitChars_append, Nat.ofDigitChars_eq_ofDigitChars_zero, ten]
    have size : UInt32.size = 4294967296 := rfl
    omega
  unfold numeral?
  dsimp only
  rw [unsigned_of_isDigit digits, atMost?_eq (Nat.zero_le _), if_neg large]
  simp

/-- A file with digits in front of the greatest number at the start of a line cannot be read. -/
theorem not_parse_of_longer {texts : List String} (bound : texts.length < UInt32.size)
    {word more : Bytes} (numeral : ∀ b ∈ word, IsDigitByte b) {number : UInt32}
    (last : number.toNat + 1 = UInt32.size) (first : word.head? = (digits number.toNat).head?)
    {found : String}
    (whole : utf8 (fileText description texts) ++ (word ++ (tag number.toNat ++ more)) =
      utf8 found) (contents : Contents) : Contents.parse found ≠ .ok contents := by
  obtain ⟨cs, characters, rfl⟩ := exists_chars_of_digits numeral
  have greatest : number.toNat = 4294967295 := Nat.succ.inj last
  have four : cs.head? = some '4' := by
    have front : (digits number.toNat).head? = some (asciiByte '4') := by
      rw [greatest, digits_eq]
      decide
    rw [front] at first
    cases cs with
    | nil => cases first
    | cons c rest =>
      have same := Option.some.inj first
      rw [asciiByte_inj (ascii_of_isDigit (characters c List.mem_cons_self)) (by decide) same]
      rfl
  have all : ∀ c ∈ cs ++ decimal number.toNat, c.isDigit := fun c member =>
    (List.mem_append.1 member).elim (characters c) isDigit_of_mem_decimal
  have unreadable := numeral?_of_longer characters four last
  obtain ⟨rest, rfl, ends⟩ := exists_rest_of_utf8 whole
  have front : (cs ++ decimal number.toNat ++ [' ']).flatMap encodeChar ++ more = utf8 rest := by
    have ascii : ∀ c ∈ cs ++ decimal number.toNat ++ [' '], c.toNat < 128 := by
      intro c member
      rcases List.mem_append.1 member with digit | space
      · exact ascii_of_isDigit (all c digit)
      · rw [List.mem_singleton.1 space]
        decide
    rw [← ends, flatMap_encodeChar_of_ascii ascii, tag, digits_eq]
    simp
  obtain ⟨behind, rfl, -⟩ := exists_rest_of_flatMap front
  have text : (String.ofList (cs ++ decimal number.toNat ++ [' ']) ++ behind).toList =
      (cs ++ decimal number.toNat) ++ ' ' :: behind.toList := by simp
  have present : cs ++ decimal number.toNat ≠ [] :=
    List.append_ne_nil_of_right_ne_nil _ (decimal_ne_nil _)
  have head : (String.ofList (cs ++ decimal number.toNat ++ [' ']) ++ behind).toList.head? ≠
      some '\t' := by
    rw [text, List.head?_append, List.head?_append, four, Option.some_or, Option.some_or]
    decide
  rw [fileText_eq_render description bound]
  obtain ⟨next, read⟩ := Contents.parse_render_append ⟨description, entriesOf texts⟩ head
  obtain ⟨fault, refused⟩ := entriesFrom_of_unreadable all present unreadable behind.toList next
  rw [read, text, refused]
  exact fun parsed => by cases parsed

/-- With the last number a line behind what is left of a torn write either is not the only one with
this number, or stands behind a line that cannot be read. -/
theorem tidy_of_last {desk : Desk} {texts : List String}
    (kept : Kept description texts leftover desk.ledger)
    (trail : Trail (· = texts.length + 1) leftover) (commits : desk.Commits step text)
    (last : desk.sheet.number.toNat + 1 = UInt32.size) (safe : Safe desk step text)
    (reads : ∀ contents store,
      Contents.load desk.sheet.path (step.after desk).store = .ok contents store →
        ∃ found, (step.after desk).bytes = utf8 found ∧ Contents.parse found = .ok contents) :
    leftover = [] := by
  have used := Ledger.usable_of_commits commits.commits
  have next : desk.sheet.number.toNat = texts.length + 1 := number_of_usable kept used
  obtain ⟨staged, same⟩ := exists_step_eq_commit commits
  have whole : (step.after desk).bytes = utf8 (fileText description texts) ++
      (leftover ++ utf8 (entryLine desk.sheet.number text)) := by
    rw [← List.append_assoc, ← kept.bytes]
    exact (congrArg Ledger.bytes same).trans (Ledger.bytes_commit _ _)
  have further : Trail (· = texts.length + 1)
      (leftover ++ utf8 (entryLine desk.sheet.number text)) := trail.append (.line next text)
  have present : blank ∈ leftover ++ utf8 (entryLine desk.sheet.number text) := by
    rw [utf8_entryLine, tag]
    simp
  obtain ⟨word, more, split, numeral, first⟩ := exists_word_of_trail further present
  rw [← next] at split first
  rcases first with rfl | first
  · -- the line of the number starts at once, so it is the one that was written
    have starts : tag desk.sheet.number.toNat <+:
        leftover ++ utf8 (entryLine desk.sheet.number text) := by
      rw [split]
      exact List.prefix_append _ _
    have inner : utf8 (fileText description texts) ≠ [] := fun empty =>
      fileText_ne_empty description texts (utf8_eq_nil_iff.1 empty)
    have only := safe.alone [] _ _ whole inner (opens_fileText description kept.bound) starts
    have bytes : desk.bytes = utf8 (fileText description texts) ++ leftover := kept.bytes
    rw [bytes] at only
    exact List.self_eq_append_right.1 only
  · obtain ⟨contents, store, loaded, -⟩ := safe.read
    obtain ⟨found, holds, parsed⟩ := reads contents store loaded
    rw [holds, split] at whole
    exact absurd parsed (not_parse_of_longer kept.bound numeral last first whole.symm contents)

theorem tidy_of_safe
    (created : Sheet.Created files made.files parent name description sheet place)
    (marked : Marked description account leftover (Desk.run ⟨sheet, made⟩ before).ledger)
    (commits : (Desk.run ⟨sheet, made⟩ before).Commits step text)
    (safe : Safe (Desk.run ⟨sheet, made⟩ before) step text) : leftover = [] := by
  by_cases room : (Desk.run ⟨sheet, made⟩ before).sheet.number.toNat + 1 < UInt32.size
  · exact tidy_of_room marked.toKept commits room safe
  · have last : (Desk.run ⟨sheet, made⟩ before).sheet.number.toNat + 1 = UInt32.size :=
      Nat.le_antisymm (UInt32.toNat_lt _) (Nat.not_lt.1 room)
    refine tidy_of_last marked.toKept marked.trail commits last safe ?_
    intro contents store loaded
    have snoc := run_snoc ⟨sheet, made⟩ before step []
    rw [Desk.run_nil] at snoc
    rw [snoc] at loaded ⊢
    exact ((load_iff_of_path created before _).1 loaded).2

end Runs

theorem marked_of_created {files : FileSystem} {made : Store} {parent : Path} {name : String}
    {sheet : Sheet} {place : Location}
    (created : Sheet.Created files made.files parent name description sheet place) :
    Marked description {} [] (Desk.mk sheet made).ledger :=
  ⟨inStep_of_created created, .nil⟩

/-- The entries of a run are safe, all of them and whatever comes later, if and only if none of them
was written while something was left of a torn write that could not be cut back. -/
theorem safe_iff_tidy {torn : Option Nat} {store made : Store} {name : String} {parent : Path}
    {sheet : Sheet} (created : Sheet.create torn name description parent store = .ok sheet made)
    (steps : List Step) :
    (∀ before step after text, steps = before ++ step :: after →
      (Desk.run ⟨sheet, made⟩ before).Commits step text →
      Safe (Desk.run ⟨sheet, made⟩ before) step text) ↔
    ∀ before step after text, steps = before ++ step :: after →
      (Desk.run ⟨sheet, made⟩ before).Commits step text →
      (Desk.run ⟨sheet, made⟩ before).bytes.length =
        (Desk.run ⟨sheet, made⟩ before).sheet.committed := by
  obtain ⟨place, whole⟩ := Sheet.created_of_create created
  -- up to a step before which all was tidy, what is left are pieces of the lines of one number
  have marked (before : List Step) (tidy : ∀ front step rest text, before = front ++ step :: rest →
      (Desk.run ⟨sheet, made⟩ front).Commits step text →
      (Desk.run ⟨sheet, made⟩ front).bytes.length =
        (Desk.run ⟨sheet, made⟩ front).sheet.committed) :
      ∃ left, Marked description (Account.run {} before) left
        (Desk.run ⟨sheet, made⟩ before).ledger := by
    rw [ledger_run]
    refine marked_run (marked_of_created whole) ?_
    intro front step rest split commits
    rw [← ledger_run] at commits ⊢
    obtain ⟨text, commits⟩ := exists_commits_of_commitsAt commits
    exact tidy front step rest text split commits
  constructor
  · intro safe before
    -- by induction on how much was done before: what came earlier was tidy, so the file is marked
    induction size : before.length using Nat.strongRecOn generalizing before with
    | ind size ih =>
      subst size
      intro step after text split commits
      obtain ⟨left, inside⟩ := marked before fun front first rest other inner =>
        ih front.length (by simp [inner]) front rfl first (rest ++ step :: after) other
          (by simp [split, inner])
      refine (tidy_iff inside.toKept).2 (tidy_of_safe whole inside commits ?_)
      exact safe before step after text split commits
  · intro tidy before step after text split commits
    obtain ⟨left, inside⟩ := marked before fun front first rest other inner =>
      tidy front first (rest ++ step :: after) other (by simp [split, inner])
    have empty := (tidy_iff inside.toKept).1 (tidy before step after text split commits)
    subst empty
    exact safe_of_tidy whole inside.toKept commits

/-- A piece of a line that could not be cut back. -/
def tornStep : Step := ⟨.write "one", { torn := some 3, cutFails := true }⟩

theorem ledger_tornStep {files : FileSystem} {made : Store} {parent : Path} {name : String}
    {sheet : Sheet} {place : Location}
    (created : Sheet.Created files made.files parent name "d" sheet place) :
    (Desk.run ⟨sheet, made⟩ [tornStep]).ledger =
      { bytes := utf8 "d\n1 o", committed := 2, number := 1, exhausted := false, staged := "" } := by
  rw [ledger_run, ledger_of_created created]
  decide +kernel

theorem safe_iff_tidy_torn :
    ∃ sheet made, Sheet.create none "s" "d" "" { files := {} } = .ok sheet made ∧
      ¬∀ before step after text, [tornStep, ⟨.write "two", {}⟩] = before ++ step :: after →
        (Desk.run ⟨sheet, made⟩ before).Commits step text →
        Safe (Desk.run ⟨sheet, made⟩ before) step text := by
  obtain ⟨sheet, made, place, created, whole⟩ :=
    Sheet.exists_created none "s" "d" "" { files := {} } (by decide +kernel)
  have ledger := ledger_tornStep whole
  refine ⟨sheet, made, created, ?_⟩
  intro safe
  have commits : (Desk.run ⟨sheet, made⟩ [tornStep]).Commits ⟨.write "two", {}⟩ "two" :=
    ⟨rfl, by rw [ledger]; rfl⟩
  have tidy := (safe_iff_tidy created _).1 safe [tornStep] _ [] "two" rfl commits
  have long : (Desk.run ⟨sheet, made⟩ [tornStep]).bytes.length = 5 :=
    (congrArg (fun ledger => ledger.bytes.length) ledger).trans (by decide +kernel)
  have short : (Desk.run ⟨sheet, made⟩ [tornStep]).sheet.committed = 2 :=
    congrArg Ledger.committed ledger
  rw [long, short] at tidy
  cases tidy

/-- The entry that was committed behind a piece of a line does not start a line, and is read as the
end of another. -/
theorem not_safe_of_torn :
    ∃ sheet made, Sheet.create none "s" "d" "" { files := {} } = .ok sheet made ∧
      let desk := Desk.run ⟨sheet, made⟩ [tornStep]
      let step : Step := ⟨.write "two", {}⟩
      step.outcome desk = .ok () (step.after desk) ∧
        (step.after desk).bytes = utf8 "d\n1 o1 two\n" ∧
        Contents.parse "d\n1 o1 two\n" = .ok ⟨"d", [⟨1, "o1 two"⟩]⟩ ∧ ¬Safe desk step "two" := by
  have succeeds : Work.passes (fun sheet made => Work.passes (fun _ _ => true)
        ((Step.mk (.write "two") {}).outcome (Desk.run ⟨sheet, made⟩ [tornStep])))
      (Sheet.create none "s" "d" "" { files := {} }) = true := by decide +kernel
  obtain ⟨sheet, made, created, done⟩ := Work.exists_of_passes succeeds
  obtain ⟨place, whole⟩ := Sheet.created_of_create created
  have ledger := ledger_tornStep whole
  refine ⟨sheet, made, created, ?_, ?_, by decide +kernel, ?_⟩
  · obtain ⟨_, after, outcome, -⟩ := Work.exists_of_passes done
    rw [Step.after, outcome]
    rfl
  · have bytes := ledger_after ⟨.write "two", {}⟩ (Desk.run ⟨sheet, made⟩ [tornStep])
    rw [ledger] at bytes
    exact (congrArg Ledger.bytes bytes).trans (by decide +kernel)
  · intro safe
    have holds : (Desk.run ⟨sheet, made⟩ [tornStep]).bytes = utf8 "d\n1 o" :=
      congrArg Ledger.bytes ledger
    have opens := safe.opens
    rw [holds] at opens
    rcases opens with empty | ends
    · exact absurd empty (by decide +kernel)
    · exact absurd ends (by decide +kernel)

end SheetCabinet
