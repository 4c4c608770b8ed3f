import Mathlib.Data.List.TakeWhile
import SheetCabinet.Proofs.Sheet.RoundTrip
import SheetCabinet.Proofs.Text.Numeral

/-!
# A sheet whose end is missing

A file that was not written to its end stops somewhere: inside the description, a number or a text,
in front of a line feed, or between a line feed and the tab of a continuation line. Its lines are
lines of the whole file, but for the last one, which may be the first part of a line. So the reader
finds the same blocks up to the last one, and either that one has lost the space behind its number,
or it has the same number and the first part of the text.

Results:
* the last line of a piece of a text is the first part of a line of the text
  (`exists_cutLine`);
* a sheet is read line by line: each line continues what the lines before it say
  (`readFrom_continuation`, `readFrom_entry`);
* the piece of a file that can be read is unreadable exactly if it ends in a number, and otherwise
  says the same up to its last entry (`parse_cut`).
-/

namespace SheetCabinet

/-! ## The lines of a piece -/

/-- How the lines of a piece of a text stand in the text: `front` are the lines that are whole, `last`
is the line that the piece ends in, `missing` is what the text has more on that line. -/
structure CutLine (piece rest : List Char) (front : List (List Char)) (last missing : List Char)
    (more : List (List Char)) : Prop where
  lines_piece : lines piece = front ++ [last]
  lines_whole : lines (piece ++ rest) = front ++ (last ++ missing) :: more
  inside : missing ≠ [] → last ≠ [] ∧ (∃ behind, rest = missing ++ behind) ∧
    (front = [] ∧ piece = last ∨ front ≠ [] ∧ ∃ ahead, piece = ahead ++ '\n' :: last)

theorem exists_append_of_lines {text line : List Char} {others : List (List Char)}
    (split : lines text = line :: others) : ∃ behind, text = line ++ behind := by
  induction text generalizing line others with
  | nil => cases split
  | cons c cs ih =>
    by_cases ends : c = '\n'
    · rw [lines_cons, addToLines_of_break ends] at split
      cases split
      exact ⟨c :: cs, rfl⟩
    · cases inner : lines cs with
      | nil =>
        rw [lines_cons, inner, addToLines_nil ends] at split
        cases split
        exact ⟨cs, rfl⟩
      | cons head tail =>
        rw [lines_cons, inner, addToLines_cons ends] at split
        cases split
        obtain ⟨behind, same⟩ := ih inner
        exact ⟨behind, congrArg (c :: ·) same⟩

/-- A line feed alone is an empty line, and nothing of it is missing. -/
theorem cutLine_break (rest : List Char) : CutLine ['\n'] rest [] [] [] (lines rest) where
  lines_piece := rfl
  lines_whole := rfl
  inside present := absurd rfl present

theorem exists_cutLine_single {c : Char} (inside : c ≠ '\n') (rest : List Char) :
    ∃ missing more, CutLine [c] rest [] [c] missing more := by
  have piece : lines [c] = [[c]] := addToLines_nil inside
  cases split : lines rest with
  | nil =>
    refine ⟨[], [], piece, ?_, fun present => absurd rfl present⟩
    rw [List.singleton_append, lines_cons, split]
    exact addToLines_nil inside
  | cons line others =>
    refine ⟨line, others, piece, ?_, fun _ => ⟨by simp, exists_append_of_lines split, .inl ⟨rfl, rfl⟩⟩⟩
    rw [List.singleton_append, lines_cons, split]
    exact addToLines_cons inside line others

section
variable {piece rest last missing : List Char} {front more : List (List Char)}

/-- A line feed in front makes one more line. -/
theorem CutLine.consBreak (cut : CutLine piece rest front last missing more) :
    CutLine ('\n' :: piece) rest ([] :: front) last missing more where
  lines_piece := congrArg ([] :: ·) cut.lines_piece
  lines_whole := congrArg ([] :: ·) cut.lines_whole
  inside present := by
    obtain ⟨filled, behind, starts⟩ := cut.inside present
    refine ⟨filled, behind, .inr ⟨by simp, ?_⟩⟩
    rcases starts with ⟨-, same⟩ | ⟨-, ahead, same⟩
    · exact ⟨[], congrArg ('\n' :: ·) same⟩
    · exact ⟨'\n' :: ahead, congrArg ('\n' :: ·) same⟩

/-- Any other character belongs to the first line, which may be the last one. -/
theorem CutLine.exists_cons {c : Char} (inside : c ≠ '\n')
    (cut : CutLine piece rest front last missing more) :
    ∃ front last, CutLine (c :: piece) rest front last missing more := by
  have short := congrArg (addToLines c) cut.lines_piece
  have long := congrArg (addToLines c) cut.lines_whole
  cases front with
  | nil =>
    refine ⟨[], c :: last, short.trans (addToLines_cons inside _ _),
      long.trans (addToLines_cons inside _ _), fun present => ?_⟩
    obtain ⟨-, behind, starts⟩ := cut.inside present
    refine ⟨by simp, behind, ?_⟩
    rcases starts with ⟨-, same⟩ | ⟨some, -⟩
    · exact .inl ⟨rfl, congrArg (c :: ·) same⟩
    · exact absurd rfl some
  | cons first others =>
    refine ⟨(c :: first) :: others, last, short.trans (addToLines_cons inside _ _),
      long.trans (addToLines_cons inside _ _), fun present => ?_⟩
    obtain ⟨filled, behind, starts⟩ := cut.inside present
    refine ⟨filled, behind, ?_⟩
    rcases starts with ⟨none, -⟩ | ⟨-, ahead, same⟩
    · cases none
    · exact .inr ⟨by simp, c :: ahead, congrArg (c :: ·) same⟩

end

theorem exists_cutLine {piece : List Char} (present : piece ≠ []) (rest : List Char) :
    ∃ front last missing more, CutLine piece rest front last missing more := by
  induction piece with
  | nil => exact absurd rfl present
  | cons c cs ih =>
    by_cases ends : c = '\n'
    · subst ends
      cases cs with
      | nil => exact ⟨_, _, _, _, cutLine_break rest⟩
      | cons d ds =>
        obtain ⟨front, last, missing, more, cut⟩ := ih (by simp)
        exact ⟨_, _, _, _, cut.consBreak⟩
    · cases cs with
      | nil =>
        obtain ⟨missing, more, cut⟩ := exists_cutLine_single ends rest
        exact ⟨_, _, _, _, cut⟩
      | cons d ds =>
        obtain ⟨front, last, missing, more, cut⟩ := ih (by simp)
        obtain ⟨longer, line, cut⟩ := cut.exists_cons ends
        exact ⟨_, _, _, _, cut⟩

/-! ## Reading line by line -/

/-- What the first line of a text and the lines behind it say, these from the given line of the file
on. -/
def readFrom (first : List Char) (next : Nat) (ls : List (List Char)) :
    Except SheetFault Contents :=
  match entriesFrom (next + (blocks ls).1.length) (blocks ls).2 with
  | .error fault => .error fault
  | .ok entries => .ok ⟨String.ofList (joinLines first (blocks ls).1), entries⟩

theorem parse_of_lines {text : String} {first : List Char} {ls : List (List Char)}
    (split : lines text.toList = first :: ls) : Contents.parse text = readFrom first 2 ls := by
  unfold Contents.parse
  generalize lines text.toList = pieces at split ⊢
  subst split
  rfl

@[simp] theorem readFrom_nil (first : List Char) (next : Nat) :
    readFrom first next [] = .ok ⟨String.ofList first, []⟩ := by
  simp [readFrom, entriesFrom, joinLines]

/-- A line with a tab goes on with the text before it. -/
theorem readFrom_continuation (first line : List Char) (next : Nat) (ls : List (List Char)) :
    readFrom first next (('\t' :: line) :: ls) = readFrom (first ++ '\n' :: line) (next + 1) ls := by
  have place : next + ((blocks ls).1.length + 1) = next + 1 + (blocks ls).1.length := by omega
  have text : joinLines first (line :: (blocks ls).1) =
      joinLines (first ++ '\n' :: line) (blocks ls).1 := by
    simp [joinLines]
  unfold readFrom
  rw [blocks_continuation, List.length_cons, place, text]

/-- A numeral does not start with a tab. -/
theorem head?_of_numeral {word : List Char} {n : UInt32} (read : numeral? word = some n)
    (rest : List Char) : (word ++ rest).head? ≠ some '\t' := by
  have spelled := numeral?_eq_some_iff.1 read
  cases word with
  | nil => exact absurd rfl spelled.ne_nil
  | cons c cs =>
    intro tabbed
    have same : c = '\t' := Option.some.inj tabbed
    exact spelled.not_mem (c := '\t') (by decide) (same ▸ List.mem_cons_self)

theorem exists_of_map_eq_ok {ε α β : Type} {f : α → β} {result : Except ε α} {b : β}
    (mapped : result.map f = .ok b) : ∃ a, result = .ok a ∧ f a = b := by
  cases result with
  | error fault => cases mapped
  | ok a => exact ⟨a, rfl, Except.ok.inj mapped⟩

/-- A line with a number ends the text before it. -/
theorem readFrom_entry {word : List Char} {n : UInt32} (clean : ' ' ∉ word)
    (read : numeral? word = some n) (first text : List Char) (next : Nat) (ls : List (List Char)) :
    readFrom first next ((word ++ ' ' :: text) :: ls) =
      (readFrom text (next + 1) ls).map fun inner =>
        ⟨String.ofList first, ⟨n, inner.description⟩ :: inner.entries⟩ := by
  unfold readFrom
  rw [blocks_head (head?_of_numeral read _)]
  simp only [entriesFrom, entry_of_word clean, read, List.length_nil, Nat.add_zero]
  cases entriesFrom (next + 1 + (blocks ls).1.length) (blocks ls).2 with
  | error fault => rfl
  | ok entries => simp [Except.map, joinLines]

/-- A line that the reader accepts behind the first one. -/
inductive Readable : List Char → Prop
  | continuation (line : List Char) : Readable ('\t' :: line)
  | entry {word : List Char} {n : UInt32} (clean : ' ' ∉ word) (read : numeral? word = some n)
      (text : List Char) : Readable (word ++ ' ' :: text)

theorem not_mem_or_split (line : List Char) :
    ' ' ∉ line ∨ ∃ word text, line = word ++ ' ' :: text ∧ ' ' ∉ word := by
  by_cases member : ' ' ∈ line
  · obtain ⟨word, text, clean, same⟩ := List.eq_append_cons_of_mem member
    exact .inr ⟨word, text, clean, same⟩
  · exact .inl member

/-- A line that has neither a tab nor a space is reported. -/
theorem readFrom_malformed {line : List Char} (solid : line.head? ≠ some '\t') (clean : ' ' ∉ line)
    (first : List Char) (next : Nat) (ls : List (List Char)) :
    readFrom first next (line :: ls) = .error (.malformedEntry next) := by
  have none : line.dropWhile (fun c => decide (c ≠ ' ')) = [] := by
    rw [List.dropWhile_eq_nil_iff]
    intro c member
    refine decide_eq_true ?_
    rintro rfl
    exact clean member
  unfold readFrom
  rw [blocks_head solid]
  simp only [entriesFrom, Block.entry, none, List.length_nil, Nat.add_zero]

theorem exists_numeral_of_readFrom {first word text : List Char} {next : Nat}
    {ls : List (List Char)} {said : Contents} (solid : (word ++ ' ' :: text).head? ≠ some '\t')
    (clean : ' ' ∉ word) (read : readFrom first next ((word ++ ' ' :: text) :: ls) = .ok said) :
    ∃ n, numeral? word = some n := by
  cases number : numeral? word with
  | some n => exact ⟨n, rfl⟩
  | none =>
    unfold readFrom at read
    rw [blocks_head solid] at read
    simp only [entriesFrom, entry_of_word clean, number] at read
    cases read

theorem readable_of_readFrom {first line : List Char} {next : Nat} {ls : List (List Char)}
    {said : Contents} (read : readFrom first next (line :: ls) = .ok said) : Readable line := by
  by_cases tabbed : line.head? = some '\t'
  · obtain ⟨rest, rfl⟩ := List.head?_eq_some_iff.1 tabbed
    exact .continuation rest
  · rcases not_mem_or_split line with clean | ⟨word, text, rfl, clean⟩
    · rw [readFrom_malformed tabbed clean] at read
      cases read
    · obtain ⟨n, number⟩ := exists_numeral_of_readFrom tabbed clean read
      exact .entry clean number text

/-- All lines of a file that can be read, but for the first one, go on with a text or start an entry. -/
theorem readable_of_mem {first : List Char} {next : Nat} {ls : List (List Char)} {said : Contents}
    (read : readFrom first next ls = .ok said) {line : List Char} (member : line ∈ ls) :
    Readable line := by
  induction ls generalizing first next said with
  | nil => cases member
  | cons head ls ih =>
    rcases List.mem_cons.1 member with rfl | later
    · exact readable_of_readFrom read
    · cases readable_of_readFrom read with
      | continuation text =>
        rw [readFrom_continuation] at read
        exact ih read later
      | entry clean number text =>
        rw [readFrom_entry clean number] at read
        obtain ⟨inner, said, -⟩ := exists_of_map_eq_ok read
        exact ih said later

/-! ## Cutting off -/

/-- What is left of a sheet whose file is cut off: a first part of the description and no entry, or all
entries up to one, and of that one the number and a first part of the text. -/
inductive CutOff : Contents → Contents → Prop
  | description {left description : String} (starts : left.toList <+: description.toList)
      (entries : List Entry) : CutOff ⟨left, []⟩ ⟨description, entries⟩
  | entry (description : String) (before after : List Entry) {last full : Entry}
      (number : last.number = full.number) (starts : last.text.toList <+: full.text.toList) :
      CutOff ⟨description, before ++ [last]⟩ ⟨description, before ++ full :: after⟩

/-- What is cut off a sheet is cut off when the sheet stands behind a description, and its own
description is the text of the first entry. -/
theorem CutOff.cons {left whole : Contents} (cut : CutOff left whole) (description : String)
    (n : UInt32) : CutOff ⟨description, ⟨n, left.description⟩ :: left.entries⟩
      ⟨description, ⟨n, whole.description⟩ :: whole.entries⟩ := by
  cases cut with
  | description starts entries => exact .entry description [] entries rfl starts
  | entry text before after number starts =>
    exact .entry description (⟨n, text⟩ :: before) after number starts

/-- What further lines say goes on with the text that is there. -/
theorem prefix_of_readFrom {first : List Char} {next : Nat} {ls : List (List Char)}
    {said : Contents} (read : readFrom first next ls = .ok said) :
    first <+: said.description.toList := by
  unfold readFrom at read
  split at read
  · cases read
  · cases read
    exact ⟨_, (String.toList_ofList).symm⟩

/-- A line that was not written to the end of its number. -/
def Unfinished (line : List Char) : Prop := line.head? ≠ some '\t' ∧ ' ' ∉ line

theorem tab_or_split {line : List Char} (finished : ¬Unfinished line) :
    (∃ rest, line = '\t' :: rest) ∨ ∃ word text, line = word ++ ' ' :: text ∧ ' ' ∉ word ∧
      (word ++ ' ' :: text).head? ≠ some '\t' := by
  by_cases tabbed : line.head? = some '\t'
  · exact .inl (List.head?_eq_some_iff.1 tabbed)
  · rcases not_mem_or_split line with clean | ⟨word, text, rfl, clean⟩
    · exact absurd ⟨tabbed, clean⟩ finished
    · exact .inr ⟨word, text, rfl, clean, tabbed⟩

variable {last missing : List Char} {front more : List (List Char)} {whole : Contents}

/-- Whatever comes before an unfinished line, it is the one that is reported. -/
theorem readFrom_of_unfinished {first : List Char} {next : Nat} (unfinished : Unfinished last)
    (read : readFrom first next (front ++ (last ++ missing) :: more) = .ok whole) :
    readFrom first next (front ++ [last]) = .error (.malformedEntry (next + front.length)) := by
  induction front generalizing first next whole with
  | nil => exact readFrom_malformed unfinished.1 unfinished.2 first next []
  | cons line front ih =>
    have place : next + (front.length + 1) = next + 1 + front.length := by omega
    rw [List.length_cons, place]
    cases readable_of_readFrom read with
    | continuation line =>
      rw [List.cons_append, readFrom_continuation] at read ⊢
      exact ih read
    | entry clean number text =>
      rw [List.cons_append, readFrom_entry clean number] at read ⊢
      obtain ⟨inner, said, -⟩ := exists_of_map_eq_ok read
      rw [ih said]
      rfl

theorem readFrom_of_not_unfinished {first : List Char} {next : Nat} (finished : ¬Unfinished last)
    (read : readFrom first next (front ++ (last ++ missing) :: more) = .ok whole) :
    ∃ left, readFrom first next (front ++ [last]) = .ok left ∧ CutOff left whole := by
  induction front generalizing first next whole with
  | nil =>
    rw [List.nil_append] at read ⊢
    rcases tab_or_split finished with ⟨line, rfl⟩ | ⟨word, text, rfl, clean, solid⟩
    · rw [List.cons_append, readFrom_continuation] at read
      rw [readFrom_continuation, readFrom_nil]
      refine ⟨_, rfl, .description ?_ whole.entries⟩
      rw [String.toList_ofList]
      refine List.IsPrefix.trans ?_ (prefix_of_readFrom read)
      exact ⟨missing, by simp⟩
    · rw [List.append_assoc, List.cons_append] at read
      obtain ⟨n, number⟩ := exists_numeral_of_readFrom (by simpa using solid) clean read
      rw [readFrom_entry clean number] at read ⊢
      obtain ⟨inner, said, rfl⟩ := exists_of_map_eq_ok read
      have starts : text <+: inner.description.toList :=
        (List.prefix_append text missing).trans (prefix_of_readFrom said)
      refine ⟨⟨String.ofList first, [] ++ [⟨n, String.ofList text⟩]⟩, by simp [Except.map], ?_⟩
      refine @CutOff.entry _ [] inner.entries ⟨n, String.ofList text⟩ ⟨n, inner.description⟩ rfl ?_
      rw [String.toList_ofList]
      exact starts
  | cons line front ih =>
    cases readable_of_readFrom read with
    | continuation line =>
      rw [List.cons_append, readFrom_continuation] at read ⊢
      exact ih read
    | entry clean number text =>
      rw [List.cons_append, readFrom_entry clean number] at read ⊢
      obtain ⟨inner, said, rfl⟩ := exists_of_map_eq_ok read
      obtain ⟨left, kept, cut⟩ := ih said
      rw [kept]
      exact ⟨_, rfl, cut.cons _ _⟩

/-! ## Where a file may be cut -/

/-- The cut is behind the first character of an entry's number and not behind its space. -/
def CutsNumber (piece rest : List Char) : Prop :=
  ∃ ahead word more behind n, piece = ahead ++ '\n' :: word ∧ word ≠ [] ∧
    rest = more ++ ' ' :: behind ∧ numeral? (word ++ more) = some n

/-- A last line that nothing ends stands behind all others. -/
theorem lines_append_last {word : List Char} (unbroken : '\n' ∉ word) (present : word ≠ [])
    (ahead : List Char) :
    ∃ first front, lines (ahead ++ '\n' :: word) = first :: (front ++ [word]) := by
  induction ahead with
  | nil => exact ⟨[], [], congrArg ([] :: ·) (lines_of_no_break unbroken present)⟩
  | cons c cs ih =>
    obtain ⟨first, front, split⟩ := ih
    rw [List.cons_append, lines_cons, split]
    by_cases ends : c = '\n'
    · exact ⟨[], first :: front, addToLines_of_break ends _⟩
    · exact ⟨c :: first, front, addToLines_cons ends _ _⟩

section
variable {piece rest : List Char} {first : List Char}

theorem unfinished_of_cutsNumber (cut : CutLine piece rest front last missing more)
    (cuts : CutsNumber piece rest) : front ≠ [] ∧ Unfinished last := by
  obtain ⟨ahead, word, more, behind, n, rfl, present, -, number⟩ := cuts
  have clean {c : Char} (other : c ≠ '+' ∧ c.isDigit = false) : c ∉ word := fun member =>
    (numeral?_eq_some_iff.1 number).not_mem other (List.mem_append_left more member)
  obtain ⟨first, front, split⟩ := lines_append_last (clean (by decide)) present ahead
  rw [cut.lines_piece, ← List.cons_append] at split
  obtain ⟨rfl, same⟩ := List.append_inj' split rfl
  cases same
  refine ⟨by simp, fun tabbed => ?_, clean (by decide)⟩
  exact clean (c := '\t') (by decide) (List.mem_of_mem_head? tabbed)

/-- The line that the piece ends in goes on with the rest of a number. -/
theorem CutLine.cutsNumber (cut : CutLine piece rest front last missing more) (later : front ≠ [])
    {tail behind : List Char} {n : UInt32} (lost : missing = tail ++ ' ' :: behind)
    (number : numeral? (last ++ tail) = some n) : CutsNumber piece rest := by
  obtain ⟨filled, ⟨further, whole⟩, starts⟩ := cut.inside (by simp [lost])
  rcases starts with ⟨none, -⟩ | ⟨-, ahead, ends⟩
  · exact absurd none later
  · refine ⟨ahead, last, tail, behind ++ further, n, ends, filled, ?_, number⟩
    rw [whole, lost, List.append_assoc, List.cons_append]

theorem cutsNumber_of_unfinished (cut : CutLine piece rest front last missing more)
    (later : front ≠ []) (unfinished : Unfinished last) (readable : Readable (last ++ missing)) :
    CutsNumber piece rest := by
  generalize line : last ++ missing = text at readable
  cases readable with
  | continuation text =>
    cases last with
    | nil =>
      rw [List.nil_append] at line
      exact absurd rfl (cut.inside (by simp [line])).1
    | cons c cs =>
      obtain ⟨rfl, -⟩ := List.cons.inj line
      exact absurd rfl unfinished.1
  | @entry word n clean number text =>
    rcases List.append_eq_append_iff.1 line with ⟨tail, rfl, lost⟩ | ⟨tail, same, lost⟩
    · exact cut.cutsNumber later lost number
    · cases tail with
      | nil =>
        rw [List.append_nil] at same
        subst same
        have whole : missing = [] ++ ' ' :: text := lost.symm
        exact cut.cutsNumber later whole (by rwa [List.append_nil])
      | cons c cs =>
        obtain ⟨rfl, -⟩ := List.cons.inj lost
        exact absurd (by simp [same]) unfinished.2

end

/-- Wherever the file of a sheet is cut off, as long as something is left of it, the piece says the
same as the whole up to its last entry, and of that one the first part of the text; unless it ends
inside the number of an entry or in front of the space behind that, and then its last line is
reported. -/
theorem parse_cut {piece rest : String} {whole : Contents} (present : piece ≠ "")
    (read : Contents.parse (piece ++ rest) = .ok whole) :
    CutsNumber piece.toList rest.toList ∧
        Contents.parse piece = .error (.malformedEntry (lines piece.toList).length) ∨
      ¬CutsNumber piece.toList rest.toList ∧
        ∃ left, Contents.parse piece = .ok left ∧ CutOff left whole := by
  have filled : piece.toList ≠ [] := fun none => present (String.toList_eq_nil_iff.1 none)
  obtain ⟨front, last, missing, more, cut⟩ := exists_cutLine filled rest.toList
  have split := cut.lines_whole
  rw [← String.toList_append] at split
  cases front with
  | nil =>
    have said : Contents.parse piece = .ok ⟨String.ofList last, []⟩ :=
      (parse_of_lines cut.lines_piece).trans (readFrom_nil last 2)
    rw [parse_of_lines split] at read
    refine .inr ⟨fun cuts => (unfinished_of_cutsNumber cut cuts).1 rfl, _, said, ?_⟩
    refine .description ?_ whole.entries
    rw [String.toList_ofList]
    exact (List.prefix_append last missing).trans (prefix_of_readFrom read)
  | cons first front =>
    rw [parse_of_lines split] at read
    have readable := readable_of_mem read (List.mem_append_right front List.mem_cons_self)
    have piece_lines : Contents.parse piece = readFrom first 2 (front ++ [last]) :=
      parse_of_lines cut.lines_piece
    rw [piece_lines]
    by_cases unfinished : Unfinished last
    · have last_line : (lines piece.toList).length = 2 + front.length := by
        rw [cut.lines_piece]
        simp only [List.length_append, List.length_cons, List.length_nil]
        omega
      rw [last_line]
      exact .inl ⟨cutsNumber_of_unfinished cut (by simp) unfinished readable,
        readFrom_of_unfinished unfinished read⟩
    · exact .inr ⟨fun cuts => unfinished (unfinished_of_cutsNumber cut cuts).2,
        readFrom_of_not_unfinished unfinished read⟩

/-- The same file cut inside its second number, and in front of the tab of its last line. -/
theorem parse_cut_twice :
    Contents.parse "d\n1 a\n12 c\n\te\n" = .ok ⟨"d", [⟨1, "a"⟩, ⟨12, "c\ne"⟩]⟩ ∧
      Contents.parse "d\n1 a\n1" = .error (.malformedEntry 3) ∧
      ∃ left, Contents.parse "d\n1 a\n12 c\n" = .ok left ∧
        CutOff left ⟨"d", [⟨1, "a"⟩, ⟨12, "c\ne"⟩]⟩ := by
  have whole : Contents.parse "d\n1 a\n12 c\n\te\n" =
      .ok ⟨"d", [⟨1, "a"⟩, ⟨12, "c\ne"⟩]⟩ := by decide +kernel
  refine ⟨whole, ?_, ?_⟩
  · rcases @parse_cut "d\n1 a\n1" "2 c\n\te\n" _ (by decide) whole with
      ⟨-, reported⟩ | ⟨safe, -⟩
    · exact reported
    · refine absurd ⟨"d\n1 a".toList, ['1'], ['2'], "c\n\te\n".toList, 12, ?_⟩ safe
      decide +kernel
  · rcases @parse_cut "d\n1 a\n12 c\n" "\te\n" _ (by decide) whole with
      ⟨-, reported⟩ | ⟨-, left⟩
    · exact absurd reported (by decide +kernel)
    · exact left

end SheetCabinet
