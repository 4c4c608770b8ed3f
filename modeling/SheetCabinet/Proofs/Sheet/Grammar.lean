import SheetCabinet.Sheet.Writing
import SheetCabinet.Proofs.Sheet.Truncation
import SheetCabinet.Proofs.Store.Reading
import SheetCabinet.Proofs.Text.Lines
import SheetCabinet.Proofs.Text.Numeral

/-!
# Which texts are sheets

The first line of a sheet may be anything. A line behind it fits if it starts with a tab, or if it has
a space and what stands in front of the space spells a number. A sheet is a description followed by
passages, one for each entry: the line with the number, and the lines with a tab behind it. If some
line does not fit, the first one that does not is reported.

Results:
* a line that fits is taken in, and reading goes on behind it (`readFrom_of_fits`,
  `readFrom_append_of_fit`);
* what is read is what the lines say (`readFrom_eq_ok_iff`), and what is reported is the first line that
  does not fit (`readFrom_eq_error_iff`);
* a text is read, read as these contents, or refused for this reason exactly as its lines have it
  (`parse_exactly`).
-/

namespace SheetCabinet

/-! ## Lines -/

/-- A line that may stand behind the first one: it has a tab in front, or a space behind a number. -/
def Fits (line : List Char) : Prop :=
  (∃ more, line = '\t' :: more) ∨ ∃ word n more, Spells word n ∧ line = word ++ ' ' :: more

theorem fits_iff_readable {line : List Char} : Fits line ↔ Readable line := by
  constructor
  · rintro (⟨more, rfl⟩ | ⟨word, n, more, spelled, rfl⟩)
    · exact .continuation more
    · exact .entry (spelled.not_mem (by decide)) (numeral?_eq_some_iff.2 spelled) more
  · rintro (more | ⟨-, read, text⟩)
    · exact .inl ⟨more, rfl⟩
    · exact .inr ⟨_, _, text, numeral?_eq_some_iff.1 read, rfl⟩

/-- Only the first space of a line has to be looked at. -/
theorem fits_iff {line : List Char} : Fits line ↔ line.head? = some '\t' ∨
    ' ' ∈ line ∧ (numeral? (line.takeWhile fun c => decide (c ≠ ' '))).isSome := by
  rw [fits_iff_readable]
  constructor
  · rintro (more | ⟨clean, read, text⟩)
    · exact .inl rfl
    · refine .inr ⟨by simp, ?_⟩
      rw [(split_word clean text).1, read]
      rfl
  · rintro (tabbed | ⟨member, number⟩)
    · obtain ⟨more, rfl⟩ := List.head?_eq_some_iff.1 tabbed
      exact .continuation more
    · obtain ⟨word, text, rfl, clean⟩ := List.eq_append_cons_of_mem member
      rw [(split_word clean text).1] at number
      obtain ⟨n, read⟩ := Option.isSome_iff_exists.1 number
      exact .entry clean read text

instance (line : List Char) : Decidable (Fits line) := decidable_of_iff _ fits_iff.symm

example : Fits "+007 x".toList ∧ ¬Fits " 7".toList ∧ ¬Fits "7\t".toList := by decide

/-- A line that fits is taken in, whatever comes behind it. -/
theorem readFrom_of_fits {line : List Char} (fits : Fits line) (first : List Char) (next : Nat) :
    ∃ text take, ∀ ls, readFrom first next (line :: ls) = (readFrom text (next + 1) ls).map take := by
  cases fits_iff_readable.1 fits with
  | continuation more =>
    refine ⟨first ++ '\n' :: more, id, fun ls => ?_⟩
    rw [readFrom_continuation, Except.map_id]
    rfl
  | entry clean read text => exact ⟨text, _, readFrom_entry clean read first text next⟩

/-- So are any number of them, and the line behind them is the one that is read next. -/
theorem readFrom_append_of_fit {front : List (List Char)} (fit : ∀ line ∈ front, Fits line)
    (first : List Char) (next : Nat) : ∃ text take, ∀ ls,
      readFrom first next (front ++ ls) = (readFrom text (next + front.length) ls).map take := by
  induction front generalizing first next with
  | nil =>
    refine ⟨first, id, fun ls => ?_⟩
    rw [Except.map_id]
    rfl
  | cons line front ih =>
    obtain ⟨middle, takeOne, one⟩ := readFrom_of_fits (fit line List.mem_cons_self) first next
    obtain ⟨text, takeRest, rest⟩ :=
      ih (fun later member => fit later (List.mem_cons_of_mem line member)) middle (next + 1)
    have place : next + (line :: front).length = next + 1 + front.length := by
      rw [List.length_cons]
      omega
    refine ⟨text, takeOne ∘ takeRest, fun ls => ?_⟩
    rw [List.cons_append, one, rest, place]
    cases readFrom text (next + 1 + front.length) ls <;> rfl

/-! ## What is read -/

/-- The lines of one entry: a line with its number and the first line of its text, and lines with a
tab in front of the others. -/
structure Passage where
  word : List Char
  number : UInt32
  spelled : Spells word number
  first : List Char
  more : List (List Char)

namespace Passage

/-- The passage as it stands in a file. -/
def lines (passage : Passage) : List (List Char) :=
  (passage.word ++ ' ' :: passage.first) :: passage.more.map ('\t' :: ·)

/-- The entry that the passage is of. -/
def entry (passage : Passage) : Entry :=
  ⟨passage.number, String.ofList (joinLines passage.first passage.more)⟩

end Passage

/-- The lines are those of a description, of which all but the first have a tab in front, and of one
passage for each entry, in their order. -/
def Says (ls : List (List Char)) (contents : Contents) : Prop :=
  ∃ first more, ∃ passages : List Passage,
    ls = first :: (more.map ('\t' :: ·) ++ passages.flatMap Passage.lines) ∧
    contents = ⟨String.ofList (joinLines first more), passages.map Passage.entry⟩

section
variable {first : List Char} {ls : List (List Char)} {contents : Contents}

theorem says_single (first : List Char) : Says [first] ⟨String.ofList first, []⟩ :=
  ⟨first, [], [], rfl, by simp [joinLines]⟩

/-- A line with a tab is the second line of the description. -/
theorem Says.continuation {line : List Char} (said : Says ((first ++ '\n' :: line) :: ls) contents) :
    Says (first :: ('\t' :: line) :: ls) contents := by
  obtain ⟨_, more, passages, same, rfl⟩ := said
  obtain ⟨rfl, rfl⟩ := List.cons.inj same
  exact ⟨first, line :: more, passages, rfl, by simp [joinLines]⟩

/-- A line with a number ends the description, and the description of what is left is the text of
its entry. -/
theorem Says.entry {word text : List Char} {n : UInt32} (spelled : Spells word n)
    (said : Says (text :: ls) contents) (first : List Char) :
    Says (first :: (word ++ ' ' :: text) :: ls)
      ⟨String.ofList first, ⟨n, contents.description⟩ :: contents.entries⟩ := by
  obtain ⟨_, more, passages, same, rfl⟩ := said
  obtain ⟨rfl, rfl⟩ := List.cons.inj same
  exact ⟨first, [], ⟨word, n, spelled, text, more⟩ :: passages, rfl, by simp [joinLines, Passage.entry]⟩

theorem says_of_readFrom {next : Nat} (read : readFrom first next ls = .ok contents) :
    Says (first :: ls) contents := by
  induction ls generalizing first next contents with
  | nil =>
    rw [readFrom_nil] at read
    cases read
    exact says_single first
  | cons line ls ih =>
    cases readable_of_readFrom read with
    | continuation more =>
      rw [readFrom_continuation] at read
      exact (ih read).continuation
    | entry clean number text =>
      rw [readFrom_entry clean number] at read
      obtain ⟨inner, said, rfl⟩ := exists_of_map_eq_ok read
      exact (ih said).entry (numeral?_eq_some_iff.1 number) first

theorem readFrom_tabbed (more : List (List Char)) (first : List Char) (next : Nat)
    (ls : List (List Char)) : readFrom first next (more.map ('\t' :: ·) ++ ls) =
      readFrom (joinLines first more) (next + more.length) ls := by
  induction more generalizing first next with
  | nil => simp [joinLines]
  | cons line more ih =>
    have place : next + (line :: more).length = next + 1 + more.length := by
      rw [List.length_cons]
      omega
    have text : joinLines first (line :: more) = joinLines (first ++ '\n' :: line) more := by
      simp [joinLines]
    rw [List.map_cons, List.cons_append, readFrom_continuation, ih, place, text]

theorem readFrom_passages (passages : List Passage) (first : List Char) (next : Nat) :
    readFrom first next (passages.flatMap Passage.lines) =
      .ok ⟨String.ofList first, passages.map Passage.entry⟩ := by
  induction passages generalizing first next with
  | nil => exact readFrom_nil first next
  | cons passage passages ih =>
    have clean : ' ' ∉ passage.word := passage.spelled.not_mem (by decide)
    rw [List.flatMap_cons, Passage.lines, List.cons_append,
      readFrom_entry clean (numeral?_eq_some_iff.2 passage.spelled), readFrom_tabbed, ih]
    rfl

/-- What is read from lines is what they say. -/
theorem readFrom_eq_ok_iff {next : Nat} :
    readFrom first next ls = .ok contents ↔ Says (first :: ls) contents := by
  constructor
  · exact says_of_readFrom
  · rintro ⟨_, more, passages, same, rfl⟩
    obtain ⟨rfl, rfl⟩ := List.cons.inj same
    rw [readFrom_tabbed, readFrom_passages]

end

/-! ## What is reported -/

/-- What is reported of lines that are not those of a sheet: that there is none, or the first one that
does not fit, by its number among all lines. If it has no space, that is wrong with it; otherwise what
stands in front of its first space is no number. -/
inductive Reports : List (List Char) → SheetFault → Prop
  | noLine : Reports [] .missingDescription
  | noSpace {first line : List Char} {front behind : List (List Char)}
      (fit : ∀ before ∈ front, Fits before) (misfit : ¬Fits line) (clean : ' ' ∉ line) :
      Reports (first :: (front ++ line :: behind)) (.malformedEntry (front.length + 2))
  | noNumber {first word text : List Char} {front behind : List (List Char)}
      (fit : ∀ before ∈ front, Fits before) (misfit : ¬Fits (word ++ ' ' :: text))
      (clean : ' ' ∉ word) : Reports (first :: (front ++ (word ++ ' ' :: text) :: behind))
        (.invalidNumber (String.ofList word) (front.length + 2))

section
variable {first : List Char} {front ls behind : List (List Char)}

theorem solid_of_misfit {line : List Char} (misfit : ¬Fits line) : line.head? ≠ some '\t' := by
  intro tabbed
  obtain ⟨more, rfl⟩ := List.head?_eq_some_iff.1 tabbed
  exact misfit (.inl ⟨more, rfl⟩)

theorem readFrom_noNumber {word text : List Char} (misfit : ¬Fits (word ++ ' ' :: text))
    (clean : ' ' ∉ word) (first : List Char) (next : Nat) (ls : List (List Char)) :
    readFrom first next ((word ++ ' ' :: text) :: ls) =
      .error (.invalidNumber (String.ofList word) next) := by
  have unread : numeral? word = none := by
    cases read : numeral? word with
    | none => rfl
    | some n => exact absurd (.inr ⟨word, n, text, numeral?_eq_some_iff.1 read, rfl⟩) misfit
  unfold readFrom
  rw [blocks_head (solid_of_misfit misfit)]
  simp only [entriesFrom, entry_of_word clean, unread, List.length_nil, Nat.add_zero]

/-- Lines that all fit are read. -/
theorem exists_readFrom_of_fit (fit : ∀ line ∈ ls, Fits line) (first : List Char) (next : Nat) :
    ∃ contents, readFrom first next ls = .ok contents := by
  obtain ⟨text, take, read⟩ := readFrom_append_of_fit fit first next
  have all := read []
  rw [List.append_nil, readFrom_nil] at all
  exact ⟨_, all⟩

/-- The first line that does not fit is the one that is reported. -/
theorem readFrom_of_reports {fault : SheetFault} (reports : Reports (first :: ls) fault) :
    readFrom first 2 ls = .error fault := by
  have place (front : List (List Char)) : 2 + front.length = front.length + 2 := Nat.add_comm _ _
  cases reports with
  | noSpace fit misfit clean =>
    obtain ⟨text, take, read⟩ := readFrom_append_of_fit fit first 2
    rw [read, readFrom_malformed (solid_of_misfit misfit) clean, place]
    rfl
  | noNumber fit misfit clean =>
    obtain ⟨text, take, read⟩ := readFrom_append_of_fit fit first 2
    rw [read, readFrom_noNumber misfit clean, place]
    rfl

/-- Among lines that do not all fit there is a first one that does not. -/
theorem exists_first_misfit (some : ¬∀ line ∈ ls, Fits line) : ∃ front line behind,
    ls = front ++ line :: behind ∧ (∀ before ∈ front, Fits before) ∧ ¬Fits line := by
  induction ls with
  | nil => exact absurd (fun line member => absurd member List.not_mem_nil) some
  | cons line ls ih =>
    by_cases fits : Fits line
    · have later : ¬∀ line ∈ ls, Fits line := fun all => some (List.forall_mem_cons.2 ⟨fits, all⟩)
      obtain ⟨front, misfit, behind, rfl, fit, bad⟩ := ih later
      exact ⟨line :: front, misfit, behind, rfl, List.forall_mem_cons.2 ⟨fits, fit⟩, bad⟩
    · exact ⟨[], line, ls, rfl, fun before member => absurd member List.not_mem_nil, fits⟩

theorem exists_reports (some : ¬∀ line ∈ ls, Fits line) (first : List Char) :
    ∃ fault, Reports (first :: ls) fault := by
  obtain ⟨front, line, behind, rfl, fit, misfit⟩ := exists_first_misfit some
  rcases not_mem_or_split line with clean | ⟨word, text, rfl, clean⟩
  · exact ⟨_, .noSpace fit misfit clean⟩
  · exact ⟨_, .noNumber fit misfit clean⟩

theorem fit_iff_readFrom {next : Nat} :
    (∃ contents, readFrom first next ls = .ok contents) ↔ ∀ line ∈ ls, Fits line := by
  constructor
  · rintro ⟨contents, read⟩ line member
    exact fits_iff_readable.2 (readable_of_mem read member)
  · exact fun fit => exists_readFrom_of_fit fit first next

/-- What is reported of lines is the first one that does not fit. -/
theorem readFrom_eq_error_iff {fault : SheetFault} :
    readFrom first 2 ls = .error fault ↔ Reports (first :: ls) fault := by
  constructor
  · intro failed
    have some : ¬∀ line ∈ ls, Fits line := by
      intro fit
      obtain ⟨contents, read⟩ := exists_readFrom_of_fit fit first 2
      rw [failed] at read
      cases read
    obtain ⟨other, reports⟩ := exists_reports some first
    obtain rfl : fault = other :=
      Except.error.inj (failed.symm.trans (readFrom_of_reports reports))
    exact reports
  · exact readFrom_of_reports

end

/-! ## Texts -/

theorem parse_of_no_lines {text : String} (split : lines text.toList = []) :
    Contents.parse text = .error .missingDescription := by
  unfold Contents.parse
  generalize lines text.toList = pieces at split ⊢
  subst split
  rfl

theorem parse_of_split {text : String} {ls : List (List Char)} (split : ls = lines text.toList) :
    (∀ contents, Contents.parse text = .ok contents ↔ Says ls contents) ∧
      ∀ fault, Contents.parse text = .error fault ↔ Reports ls fault := by
  cases ls with
  | nil =>
    rw [parse_of_no_lines split.symm]
    refine ⟨fun contents => ⟨?_, ?_⟩, fun fault => ⟨?_, ?_⟩⟩
    · intro read
      cases read
    · rintro ⟨first, more, passages, absent, -⟩
      cases absent
    · intro same
      cases same
      exact .noLine
    · intro reports
      cases reports
      rfl
  | cons first ls =>
    rw [parse_of_lines split.symm]
    exact ⟨fun contents => readFrom_eq_ok_iff, fun fault => readFrom_eq_error_iff⟩

/-- A text has lines, and none only if it is empty. It is a sheet exactly if it is not empty and each
line behind the first fits. What it says then is what its lines say, and nothing else; otherwise the
first line that does not fit is reported, or that there is none. So is what a file holds that has the
text. -/
theorem parse_exactly (text : String) :
    ∃ ls, (∀ other, LinesOf id text.toList other ↔ other = ls) ∧
      ((∃ contents, Contents.parse text = .ok contents) ↔
        text ≠ "" ∧ ∀ line ∈ ls.tail, Fits line) ∧
      (∀ contents, Contents.parse text = .ok contents ↔ Says ls contents) ∧
      (∀ fault, Contents.parse text = .error fault ↔ Reports ls fault) ∧
      ∀ path store, Work.readText path store = .ok text store →
        (∀ contents, Says ls contents → Contents.load path store = .ok contents store) ∧
        ∀ fault, Reports ls fault →
          Contents.load path store = .error (.strategy (.sheet fault)) store := by
  obtain ⟨ls, split⟩ : ∃ ls, ls = lines text.toList := ⟨_, rfl⟩
  obtain ⟨read, refused⟩ := parse_of_split split
  refine ⟨ls, fun other => ?_, ?_, read, refused, fun path store held => ⟨?_, ?_⟩⟩
  · rw [linesOf_id_iff, split]
  · have filled : ls = [] ↔ text = "" := by
      rw [← String.toList_eq_nil_iff, ← @linesOf_nil_iff _ id, linesOf_id_iff, split, eq_comm]
    cases ls with
    | nil =>
      have empty : text = "" := filled.1 rfl
      rw [parse_of_no_lines split.symm]
      constructor
      · rintro ⟨contents, read⟩
        cases read
      · exact fun both => absurd empty both.1
    | cons first ls =>
      have present : text ≠ "" := fun empty => List.cons_ne_nil first ls (filled.2 empty)
      rw [parse_of_lines split.symm, fit_iff_readFrom]
      exact ⟨fun fit => ⟨present, fit⟩, fun both => both.2⟩
  · intro contents said
    unfold Contents.load
    rw [Work.bind_apply, held]
    dsimp only
    rw [(read contents).2 said]
    rfl
  · intro fault reports
    unfold Contents.load
    rw [Work.bind_apply, held]
    dsimp only
    rw [(refused fault).2 reports]
    rfl

/-- A file with a signed number on its second line and no space on its last. -/
theorem parse_exactly_no_space :
    ∃ after, Work.replaceFile default "." "s" (utf8 "d\n+01 a\n\tb\nx") { files := {} } =
        .ok () after ∧
      Contents.load "s" after = .error (.strategy (.sheet (.malformedEntry 4))) after := by
  have facts : Work.passes (fun _ after =>
        Work.passes (fun text _ => text == "d\n+01 a\n\tb\nx") (Work.readText "s" after))
      (Work.replaceFile default "." "s" (utf8 "d\n+01 a\n\tb\nx") { files := {} }) = true := by
    decide +kernel
  obtain ⟨⟨⟩, after, written, facts⟩ := Work.exists_of_passes facts
  have held := Work.readText_of_passes facts
  obtain ⟨ls, split, -, -, -, loaded⟩ := parse_exactly "d\n+01 a\n\tb\nx"
  have pieces : [['d'], "+01 a".toList, "\tb".toList, ['x']] = ls :=
    (split _).1 (linesOf_id_iff.2 (by decide))
  have reports : Reports ls (.malformedEntry 4) := by
    rw [← pieces]
    exact @Reports.noSpace ['d'] ['x'] ["+01 a".toList, "\tb".toList] [] (by decide) (by decide)
      (by decide)
  exact ⟨after, written, (loaded "s" after held).2 _ reports⟩

end SheetCabinet
