import SheetCabinet.Control.Lock
import SheetCabinet.Proofs.Store.Reading
import SheetCabinet.Proofs.Text.Lines
import SheetCabinet.Proofs.Text.Numeral

/-!
# Which texts are control files

The file of a cabinet has three lines: the name, which is not empty, the description, and the number
of sheets, which may have white space around it. Lines behind these have white space only. A text
that is no such file may have several faults; they are looked for in a fixed order, and the first one
is reported.

Results:
* the number on a line is what a numeral between white space spells (`numeral?_trim_eq_some_iff`);
* lines without a fault are read (`ofLines_eq_ok_iff`), and of several faults the first in order is
  reported (`ofLines_eq_error_iff`);
* a text is read, read as this record, or refused for this reason exactly as its lines have it
  (`ControlRecord.read_exactly`).
-/

namespace SheetCabinet

/-! ## White space -/

theorem isBlank_of_isDigit {c : Char} (digit : c.isDigit) : isBlank c = false := by
  simp only [Char.isDigit, Bool.and_eq_true, decide_eq_true_eq] at digit
  have low : 48 ≤ c.toNat := digit.1
  have high : c.toNat ≤ 57 := digit.2
  unfold isBlank
  simp only [Bool.or_eq_false_iff, Bool.and_eq_false_iff, decide_eq_false_iff_not, beq_eq_false_iff_ne]
  omega

/-- White space around a text is dropped. -/
theorem trim_between {front text back : List Char} (early : ∀ c ∈ front, isBlank c)
    (late : ∀ c ∈ back, isBlank c) (present : text ≠ []) (solid : ∀ c ∈ text, isBlank c = false) :
    trim (front ++ text ++ back) = text := by
  have ahead : (text ++ back).dropWhile isBlank = text ++ back := by
    obtain ⟨c, rest, rfl⟩ := List.exists_cons_of_ne_nil present
    rw [List.cons_append, List.dropWhile_cons, solid c List.mem_cons_self, if_neg Bool.false_ne_true]
  have behind : text.reverse.dropWhile isBlank = text.reverse :=
    dropWhile_isBlank_of_solid fun c member => solid c (List.mem_reverse.1 member)
  have blank : ∀ c ∈ back.reverse, isBlank c := fun c member => late c (List.mem_reverse.1 member)
  rw [trim, List.append_assoc, List.dropWhile_append_of_pos early, ahead, List.reverse_append,
    List.dropWhile_append_of_pos blank, behind, List.reverse_reverse]

/-- What is dropped from a text is white space. -/
theorem exists_around_trim (text : List Char) : ∃ front back, text = front ++ trim text ++ back ∧
    (∀ c ∈ front, isBlank c) ∧ ∀ c ∈ back, isBlank c := by
  have blank (text : List Char) : ∀ c ∈ text.takeWhile isBlank, isBlank c :=
    List.all_eq_true.1 List.all_takeWhile
  let rest := text.dropWhile isBlank
  refine ⟨text.takeWhile isBlank, (rest.reverse.takeWhile isBlank).reverse, ?_, blank text,
    fun c member => blank _ c (List.mem_reverse.1 member)⟩
  have cut : trim text ++ (rest.reverse.takeWhile isBlank).reverse = rest := by
    show (rest.reverse.dropWhile isBlank).reverse ++ (rest.reverse.takeWhile isBlank).reverse = rest
    rw [← List.reverse_append, List.takeWhile_append_dropWhile, List.reverse_reverse]
  rw [List.append_assoc, cut, List.takeWhile_append_dropWhile]

/-! ## Records and faults -/

/-- A line with a number on it, and white space around that. -/
def CountLine (line : List Char) (n : UInt32) : Prop :=
  ∃ front word back, line = front ++ word ++ back ∧ (∀ c ∈ front, isBlank c) ∧
    (∀ c ∈ back, isBlank c) ∧ Spells word n

theorem Spells.solid {word : List Char} {n : UInt32} (spelled : Spells word n) :
    ∀ c ∈ word, isBlank c = false := by
  intro c member
  rcases spelled.sign_or_digit c member with rfl | digit
  · decide
  · exact isBlank_of_isDigit digit

theorem numeral?_trim_eq_some_iff {line : List Char} {n : UInt32} :
    numeral? (trim line) = some n ↔ CountLine line n := by
  rw [numeral?_eq_some_iff]
  constructor
  · intro spelled
    obtain ⟨front, back, whole, early, late⟩ := exists_around_trim line
    exact ⟨front, trim line, back, whole, early, late, spelled⟩
  · rintro ⟨front, word, back, rfl, early, late, spelled⟩
    rw [trim_between early late spelled.ne_nil spelled.solid]
    exact spelled

namespace ControlRecord

/-- The lines are those of the file of a record, behind which nothing is written. -/
def Records (ls : List (List Char)) (record : ControlRecord) : Prop :=
  ∃ name description count rest, ls = name :: description :: count :: rest ∧ name ≠ [] ∧
    CountLine count record.count ∧ (∀ line ∈ rest, ∀ c ∈ line, isBlank c) ∧
    record.name = String.ofList name ∧ record.description = String.ofList description

/-- A fault that lines have, whichever other faults they have. -/
inductive Faulty (ls : List (List Char)) : ControlFault → Prop
  | empty (missing : ls[0]? = none) : Faulty ls .empty
  | missingDescription (missing : ls[1]? = none) : Faulty ls .missingDescription
  | missingCount (missing : ls[2]? = none) : Faulty ls .missingCount
  | invalidCount {line : List Char} (third : ls[2]? = some line) (unread : ∀ n, ¬CountLine line n) :
      Faulty ls (.invalidCount (String.ofList line))
  | trailingContent (filled : ¬∀ line ∈ ls.drop 3, ∀ c ∈ line, isBlank c) : Faulty ls .trailingContent
  | emptyName (first : ls[0]? = some []) : Faulty ls .emptyName

end ControlRecord

/-- Where the fault stands in the order in which faults are looked for. -/
def ControlFault.rank : ControlFault → Nat
  | empty => 0
  | missingDescription => 1
  | missingCount => 2
  | invalidCount _ => 3
  | trailingContent => 4
  | emptyName => 5

namespace ControlRecord

/-- The fault of lines that comes first in the order. -/
def Reports (ls : List (List Char)) (fault : ControlFault) : Prop :=
  Faulty ls fault ∧ ∀ other, Faulty ls other → fault.rank ≤ other.rank

section
variable {ls : List (List Char)} {record : ControlRecord} {fault other : ControlFault}

/-- Lines have no two faults at the same place of the order. -/
theorem Faulty.eq_of_rank (one : Faulty ls fault) (two : Faulty ls other)
    (same : fault.rank = other.rank) : fault = other := by
  cases one with
  | invalidCount third _ =>
    cases two with
    | invalidCount again _ => rw [Option.some.inj (third.symm.trans again)]
    | _ => cases same
  | _ => cases two <;> first | rfl | cases same

theorem Reports.unique (one : Reports ls fault) (two : Reports ls other) : fault = other :=
  one.1.eq_of_rank two.1 (Nat.le_antisymm (one.2 other two.1) (two.2 fault one.1))

theorem Records.unique {again : ControlRecord} (one : Records ls record) (two : Records ls again) :
    record = again := by
  obtain ⟨name, description, count, rest, rfl, -, number, -, named, described⟩ := one
  obtain ⟨_, _, _, _, same, -, numberAgain, -, namedAgain, describedAgain⟩ := two
  cases same
  have counted : record.count = again.count := by
    rw [← numeral?_trim_eq_some_iff] at number numberAgain
    exact Option.some.inj (number.symm.trans numberAgain)
  cases record
  cases again
  rw [ControlRecord.mk.injEq]
  exact ⟨named.trans namedAgain.symm, described.trans describedAgain.symm, counted⟩

/-- The lines of a record have no fault. -/
theorem not_faulty_of_records (records : Records ls record) : ¬Faulty ls fault := by
  obtain ⟨name, description, count, rest, rfl, present, number, blank, -, -⟩ := records
  intro faulty
  cases faulty with
  | empty missing => cases missing
  | missingDescription missing => cases missing
  | missingCount missing => cases missing
  | invalidCount third unread =>
    obtain rfl := Option.some.inj third
    exact unread record.count number
  | trailingContent filled => exact filled blank
  | emptyName first => exact present (Option.some.inj first)

/-! ## Reading -/

section
variable {name description count : List Char} {rest : List (List Char)}

/-- With three lines the first thing that can be wrong is the number. -/
theorem Faulty.three_le_rank (faulty : Faulty (name :: description :: count :: rest) fault) :
    3 ≤ fault.rank := by
  cases faulty with
  | empty missing => cases missing
  | missingDescription missing => cases missing
  | missingCount missing => cases missing
  | _ => simp [ControlFault.rank]

/-- With a number on the third line, it is what comes behind that. -/
theorem Faulty.four_le_rank {n : UInt32} (number : CountLine count n)
    (faulty : Faulty (name :: description :: count :: rest) fault) : 4 ≤ fault.rank := by
  have three := faulty.three_le_rank
  cases faulty with
  | invalidCount third unread =>
    obtain rfl := Option.some.inj third
    exact absurd number (unread n)
  | _ => simp_all [ControlFault.rank]

/-- With nothing behind that, it is the name. -/
theorem Faulty.five_le_rank {n : UInt32} (number : CountLine count n)
    (blank : ∀ line ∈ rest, ∀ c ∈ line, isBlank c)
    (faulty : Faulty (name :: description :: count :: rest) fault) : 5 ≤ fault.rank := by
  have four := faulty.four_le_rank number
  cases faulty with
  | trailingContent filled => exact absurd blank filled
  | _ => simp_all [ControlFault.rank]

theorem any_trim_iff : (rest.any fun line => trim line ≠ []) = true ↔
    ¬∀ line ∈ rest, ∀ c ∈ line, isBlank c := by
  simp only [List.any_eq_true, decide_eq_true_eq, ne_eq, trim_eq_nil_iff, Classical.not_forall,
    exists_prop]

end

/-- Lines are read if they are those of a record, and otherwise the first fault is reported. -/
theorem ofLines_cases (ls : List (List Char)) :
    (∃ record, ofLines ls = .ok record ∧ Records ls record) ∨
      ∃ fault, ofLines ls = .error fault ∧ Reports ls fault := by
  unfold ofLines
  split
  · exact .inr ⟨_, rfl, .empty rfl, fun other _ => Nat.zero_le _⟩
  · refine .inr ⟨_, rfl, .missingDescription rfl, fun other faulty => ?_⟩
    cases faulty with
    | empty missing => cases missing
    | _ => simp [ControlFault.rank]
  · refine .inr ⟨_, rfl, .missingCount rfl, fun other faulty => ?_⟩
    cases faulty with
    | empty missing => cases missing
    | missingDescription missing => cases missing
    | _ => simp [ControlFault.rank]
  · rename_i name description count rest
    cases read : numeral? (trim count) with
    | none =>
      have unread : ∀ n, ¬CountLine count n := by
        intro n number
        rw [numeral?_trim_eq_some_iff.2 number] at read
        cases read
      exact .inr ⟨_, rfl, .invalidCount rfl unread, fun other faulty => faulty.three_le_rank⟩
    | some n =>
      have number := numeral?_trim_eq_some_iff.1 read
      dsimp only
      split
      · rename_i trailing
        exact .inr ⟨_, rfl, .trailingContent (any_trim_iff.1 trailing),
          fun other faulty => faulty.four_le_rank number⟩
      · rename_i nothing
        have blank := Classical.not_not.1 (mt any_trim_iff.2 nothing)
        split
        · rename_i absent
          exact .inr ⟨_, rfl, .emptyName (congrArg some absent),
            fun other faulty => faulty.five_le_rank number blank⟩
        · rename_i present
          exact .inl ⟨_, rfl, name, description, count, rest, rfl, present, number, blank, rfl, rfl⟩

theorem ofLines_eq_ok_iff : ofLines ls = .ok record ↔ Records ls record := by
  rcases ofLines_cases ls with ⟨found, read, records⟩ | ⟨fault, failed, reports⟩
  · rw [read, Except.ok.injEq]
    exact ⟨fun same => same ▸ records, fun again => records.unique again⟩
  · rw [failed]
    constructor
    · intro read
      cases read
    · intro records
      exact absurd reports.1 (not_faulty_of_records records)

theorem ofLines_eq_error_iff : ofLines ls = .error fault ↔ Reports ls fault := by
  rcases ofLines_cases ls with ⟨record, read, records⟩ | ⟨found, failed, reports⟩
  · rw [read]
    constructor
    · intro failed
      cases failed
    · intro reports
      exact absurd reports.1 (not_faulty_of_records records)
  · rw [failed, Except.error.injEq]
    exact ⟨fun same => same ▸ reports, fun again => reports.unique again⟩

end

/-- A text has lines, each without one carriage return in front of its line feed. It is a control file
exactly if its first three lines are a name, a description and a number and it has nothing else, and
then this is what it says; otherwise the first of its faults is reported. So is what the control file
of a cabinet holds. -/
theorem read_exactly (text : String) :
    ∃ ls, (∀ other, LinesOf dropReturn text.toList other ↔ other = ls) ∧
      (∀ record, parse text = .ok record ↔ Records ls record) ∧
      (∀ fault, parse text = .error fault ↔ Reports ls fault) ∧
      ∀ directory store, Work.readText (Path.join directory controlName) store = .ok text store →
        (∀ record, Records ls record → load directory store = .ok record store) ∧
        ∀ fault, Reports ls fault →
          load directory store = .error (.strategy (.control fault)) store := by
  refine ⟨_, fun other => linesOf_dropReturn_iff, fun record => ofLines_eq_ok_iff,
    fun fault => ofLines_eq_error_iff, fun directory store held => ⟨?_, ?_⟩⟩
  · intro record records
    have read : parse text = .ok record := ofLines_eq_ok_iff.2 records
    unfold load
    rw [Work.bind_apply, held]
    dsimp only
    rw [read]
    rfl
  · intro fault reports
    have refused : parse text = .error fault := ofLines_eq_error_iff.2 reports
    unfold load
    rw [Work.bind_apply, held]
    dsimp only
    rw [refused]
    rfl

/-- Of a file with no number on its third line, a fourth line and an empty name, the first is
reported. -/
theorem read_exactly_three_faults :
    ∃ after, Work.replaceFile default "." controlName (utf8 "\r\nd\nx\r\ny") { files := {} } =
        .ok () after ∧
      load "." after = .error (.strategy (.control (.invalidCount "x"))) after := by
  have facts : Work.passes (fun _ after =>
        Work.passes (fun text _ => text == "\r\nd\nx\r\ny")
          (Work.readText (Path.join "." controlName) after))
      (Work.replaceFile default "." controlName (utf8 "\r\nd\nx\r\ny") { files := {} }) =
        true := by decide +kernel
  obtain ⟨⟨⟩, after, written, facts⟩ := Work.exists_of_passes facts
  have held := Work.readText_of_passes facts
  obtain ⟨ls, split, -, -, loaded⟩ := read_exactly "\r\nd\nx\r\ny"
  have pieces : [[], ['d'], ['x'], ['y']] = ls := (split _).1 (linesOf_dropReturn_iff.2 (by decide))
  have reports : Reports ls (.invalidCount "x") := by
    rw [← pieces]
    exact ofLines_eq_error_iff.1 (by decide)
  exact ⟨after, written, (loaded "." after held).2 _ reports⟩

end ControlRecord

end SheetCabinet
