import SheetCabinet.Sheet.Contents
import SheetCabinet.Proofs.Text.Encoding

/-!
# Where lines start in the bytes of a sheet

A torn write leaves the first bytes of a line, and further writes go on behind them, so the bytes
behind the entries of a sheet are pieces of lines. A line break in a piece is followed by a tab
unless the piece ends there, so a line that starts with a number starts at a piece.

Results:
* behind a piece a line starts either at once or in what follows the piece (`split_front`);
* among pieces of lines with greater numbers no line starts with a number (`noLine_of_trail`);
* in a file of entries that go up only one line starts with a number (`eq_of_line`).
-/

namespace SheetCabinet

/-! ## Bytes of an entry -/

abbrev newline : UInt8 := asciiByte '\n'

abbrev blank : UInt8 := asciiByte ' '

/-- The byte in front of a continuation line. -/
abbrev tab : UInt8 := asciiByte '\t'

def digits (n : Nat) : Bytes := utf8 (showNumber n)

/-- The beginning of the line of an entry with the number. -/
def tag (n : Nat) : Bytes := digits n ++ [blank]

def IsDigitByte (b : UInt8) : Prop := ∃ c : Char, c.isDigit ∧ asciiByte c = b

theorem ascii_of_isDigit {c : Char} (digit : c.isDigit) : c.toNat < 128 := by
  simp only [Char.isDigit, Bool.and_eq_true, decide_eq_true_eq] at digit
  exact Nat.lt_of_le_of_lt digit.2 (by decide)

theorem digits_eq (n : Nat) : digits n = (decimal n).map asciiByte := by
  unfold digits showNumber
  rw [utf8_ofList]
  exact flatMap_encodeChar_of_ascii fun _ member => ascii_of_isDigit (isDigit_of_mem_decimal member)

theorem utf8_entryLine (number : UInt32) (text : String) :
    utf8 (entryLine number text) = tag number.toNat ++ utf8 (descriptionLine text) := by
  have split : entryLine number text =
      showNumber number.toNat ++ (" " ++ descriptionLine text) := by
    rw [← String.toList_inj]
    simp [entryLine, descriptionLine, showNumber]
  have space : utf8 " " = [blank] := by decide +kernel
  rw [split, utf8_append, utf8_append, space, tag, digits, List.append_assoc]

theorem isDigitByte_of_mem {n : Nat} {b : UInt8} (member : b ∈ digits n) : IsDigitByte b := by
  rw [digits_eq] at member
  obtain ⟨c, digit, same⟩ := List.mem_map.1 member
  exact ⟨c, isDigit_of_mem_decimal digit, same⟩

theorem not_isDigitByte {c : Char} (ascii : c.toNat < 128) (other : c.isDigit = false) :
    ¬IsDigitByte (asciiByte c) := by
  rintro ⟨d, digit, same⟩
  rw [asciiByte_inj (ascii_of_isDigit digit) ascii same, other] at digit
  cases digit

/-- Digits in a file are digits of a text. -/
theorem exists_chars_of_digits {word : Bytes} (numeral : ∀ b ∈ word, IsDigitByte b) :
    ∃ cs : List Char, (∀ c ∈ cs, c.isDigit) ∧ cs.map asciiByte = word := by
  induction word with
  | nil => exact ⟨[], by simp, rfl⟩
  | cons b rest ih =>
    obtain ⟨c, digit, rfl⟩ := numeral b List.mem_cons_self
    obtain ⟨cs, inner, rfl⟩ := ih fun other member => numeral other (List.mem_cons_of_mem _ member)
    refine ⟨c :: cs, ?_, rfl⟩
    intro d member
    rcases List.mem_cons.1 member with same | later
    · rw [same]
      exact digit
    · exact inner d later

theorem blank_not_mem {word : Bytes} (numeral : ∀ b ∈ word, IsDigitByte b) : blank ∉ word :=
  fun member => not_isDigitByte (by decide) (by decide) (numeral _ member)

theorem digits_ne_nil (n : Nat) : digits n ≠ [] := by
  rw [digits_eq]
  exact fun empty => decimal_ne_nil n (List.map_eq_nil_iff.1 empty)

theorem digits_inj {n m : Nat} (same : digits n = digits m) : n = m := by
  have characters : decimal n = decimal m := String.ofList_injective (utf8_inj.1 same)
  have values := congrArg (fun cs => Nat.ofDigitChars 10 cs 0) characters
  simpa [decimal] using values

theorem length_digits_mono {n m : Nat} (le : n ≤ m) : (digits n).length ≤ (digits m).length := by
  rw [digits_eq, digits_eq, List.length_map, List.length_map]
  have large : m < 10 ^ (decimal m).length :=
    (Nat.length_toDigits_le_iff (by decide) Nat.length_toDigits_pos).1 (Nat.le_refl _)
  exact (Nat.length_toDigits_le_iff (by decide) Nat.length_toDigits_pos).2
    (Nat.lt_of_le_of_lt le large)

/-! ## Line breaks in a folded text -/

/-- What comes behind a line break is nothing or a tab. -/
def Folded (bytes : Bytes) : Prop :=
  ∀ front rest, bytes = front ++ newline :: rest → rest = [] ∨ rest.head? = some tab

theorem Folded.of_clean {front bytes : Bytes} (folded : Folded bytes) (clean : newline ∉ front) :
    Folded (front ++ bytes) := by
  intro before rest split
  rcases List.append_eq_append_iff.1 split with ⟨inner, rfl, ends⟩ | ⟨inner, whole, ends⟩
  · exact folded inner rest ends
  · cases inner with
    | nil => exact folded [] rest ends.symm
    | cons b others =>
      rw [List.cons_append, List.cons.injEq] at ends
      obtain ⟨rfl, -⟩ := ends
      exact absurd (by rw [whole]; simp) clean

/-- A line break inside of a text is followed by a tab. -/
theorem Folded.break {bytes : Bytes} (folded : Folded bytes) :
    Folded (newline :: tab :: bytes) := by
  intro front rest split
  cases front with
  | nil =>
    cases split
    exact .inr rfl
  | cons b others =>
    rw [List.cons_append, List.cons.injEq] at split
    cases others with
    | nil => exact absurd (List.cons.inj split.2).1 (by decide)
    | cons c inner => exact folded inner rest (List.cons.inj split.2).2

theorem folded_descriptionLine (text : String) : Folded (utf8 (descriptionLine text)) := by
  unfold descriptionLine
  rw [utf8_ofList]
  induction text.toList with
  | nil =>
    intro front rest split
    cases front with
    | nil =>
      cases split
      exact .inl rfl
    | cons b others =>
      have single : encodeChar '\n' = [newline] := encodeChar_of_ascii (by decide)
      simp [single] at split
  | cons c cs ih =>
    rw [fold_cons, List.append_assoc, List.flatMap_append]
    by_cases ends : c = '\n'
    · subst ends
      exact ih.break
    · have kept : foldChar c = [c] := if_neg ends
      rw [kept]
      refine ih.of_clean fun member => ends ?_
      rw [List.flatMap_singleton] at member
      exact (mem_encodeChar_iff (by decide)).1 member

theorem folded_entryLine (number : UInt32) (text : String) :
    Folded (utf8 (entryLine number text)) := by
  rw [utf8_entryLine]
  refine (folded_descriptionLine text).of_clean ?_
  intro member
  rcases List.mem_append.1 member with digit | space
  · exact not_isDigitByte (by decide) (by decide) (isDigitByte_of_mem digit)
  · exact absurd (List.mem_singleton.1 space) (by decide)

/-- The first bytes of a folded text. -/
theorem Folded.take {bytes : Bytes} (folded : Folded bytes) (stored : Nat) :
    Folded (bytes.take stored) := by
  intro front rest split
  have whole : bytes = front ++ newline :: (rest ++ bytes.drop stored) := by
    have joined := List.take_append_drop stored bytes
    rw [split, List.append_assoc, List.cons_append] at joined
    exact joined.symm
  cases rest with
  | nil => exact .inl rfl
  | cons b others =>
    rcases folded front _ whole with empty | tabbed
    · cases empty
    · exact .inr tabbed

/-! ## Lines behind pieces of lines -/

/-- A line starts behind these bytes. -/
def Opens (front : Bytes) : Prop := front = [] ∨ front.getLast? = some newline

theorem opens_descriptionLine (front : Bytes) (text : String) :
    Opens (front ++ utf8 (descriptionLine text)) := by
  have ends : utf8 (descriptionLine text) = (fold text.toList).flatMap encodeChar ++ [newline] := by
    have single : encodeChar '\n' = [newline] := encodeChar_of_ascii (by decide)
    rw [descriptionLine, utf8_ofList, List.flatMap_append, List.flatMap_singleton, single]
  refine .inr ?_
  rw [ends, ← List.append_assoc]
  exact List.getLast?_concat

theorem Opens.of_append {front inner : Bytes} (opens : Opens (front ++ inner))
    (present : inner ≠ []) : Opens inner := by
  rcases opens with empty | ends
  · exact absurd (List.append_eq_nil_iff.1 empty).2 present
  · obtain ⟨last, inside⟩ := Option.isSome_iff_exists.1 (List.getLast?_isSome.2 present)
    rw [List.getLast?_append, inside, Option.some_or] at ends
    exact .inr (inside.trans ends)

theorem not_tag_of_tab {n : Nat} {bytes : Bytes} (tabbed : bytes.head? = some tab) :
    ¬tag n <+: bytes := by
  rintro ⟨rest, rfl⟩
  cases numeral : digits n with
  | nil => exact digits_ne_nil n numeral
  | cons b others =>
    have digit : IsDigitByte b := isDigitByte_of_mem (n := n) (by rw [numeral]; simp)
    rw [tag, numeral, List.cons_append, List.cons_append, List.head?_cons, Option.some.injEq]
      at tabbed
    rw [tabbed] at digit
    exact not_isDigitByte (by decide) (by decide) digit

/-- Behind a piece a line that starts with a number starts either at once or in what follows. -/
theorem split_front {piece later front rest : Bytes} {n : Nat} (folded : Folded piece)
    (whole : piece ++ later = front ++ rest) (opens : Opens front) (starts : tag n <+: rest) :
    front = [] ∨ ∃ inner, front = piece ++ inner ∧ later = inner ++ rest ∧ Opens inner := by
  rcases List.append_eq_append_iff.1 whole with ⟨inner, rfl, ends⟩ | ⟨inner, rfl, rfl⟩
  · by_cases present : inner = []
    · exact .inr ⟨inner, rfl, ends, .inl present⟩
    · exact .inr ⟨inner, rfl, ends, opens.of_append present⟩
  · rcases opens with empty | breaks
    · exact .inl empty
    · obtain ⟨before, rfl⟩ := List.getLast?_eq_some_iff.1 breaks
      rcases folded before inner (by simp) with rfl | tabbed
      · exact .inr ⟨[], by simp, rfl, .inl rfl⟩
      · refine absurd starts (not_tag_of_tab ?_)
        rw [List.head?_append, tabbed, Option.some_or]

/-- No line in these bytes starts with the number. -/
def NoLine (n : Nat) (bytes : Bytes) : Prop :=
  ∀ front rest, bytes = front ++ rest → Opens front → ¬tag n <+: rest

theorem NoLine.append {n : Nat} {piece later : Bytes} (none : NoLine n later)
    (folded : Folded piece) (first : ¬tag n <+: piece ++ later) : NoLine n (piece ++ later) := by
  intro front rest whole opens starts
  rcases split_front folded whole opens starts with rfl | ⟨inner, -, ends, further⟩
  · rw [whole] at first
    exact first starts
  · exact none inner rest ends further starts

theorem noLine_nil (n : Nat) : NoLine n [] := by
  intro front rest whole _ starts
  have empty : rest = [] := (List.append_eq_nil_iff.1 whole.symm).2
  rw [empty, List.prefix_nil] at starts
  exact List.append_ne_nil_of_right_ne_nil _ (List.cons_ne_nil _ _) starts

/-- Two runs in front of the first byte of a kind are the same. -/
theorem eq_of_starts {first second rest : Bytes} {b : UInt8} (clean : b ∉ first) (free : b ∉ second)
    (starts : first ++ [b] <+: second ++ b :: rest) : first = second := by
  obtain ⟨more, whole⟩ := starts
  rw [List.append_assoc, List.singleton_append] at whole
  rcases List.append_eq_append_iff.1 whole with ⟨inner, rfl, ends⟩ | ⟨inner, rfl, ends⟩
  · cases inner with
    | nil => exact (List.append_nil _).symm
    | cons c others =>
      rw [List.cons_append, List.cons.injEq] at ends
      exact absurd (by rw [ends.1]; simp) free
  · cases inner with
    | nil => exact List.append_nil _
    | cons c others =>
      rw [List.cons_append, List.cons.injEq] at ends
      exact absurd (by rw [ends.1]; simp) clean

/-- A line of a different number does not start with the number. -/
theorem not_tag_of_ne {n m : Nat} (distinct : n ≠ m) (rest : Bytes) : ¬tag n <+: tag m ++ rest := by
  intro starts
  rw [tag, tag, List.append_assoc, List.singleton_append] at starts
  exact distinct (digits_inj (eq_of_starts (blank_not_mem fun _ => isDigitByte_of_mem)
    (blank_not_mem fun _ => isDigitByte_of_mem) starts))

/-! ## Trails -/

/-- Pieces of lines one behind the other, whose numbers fit. -/
inductive Trail (fits : Nat → Prop) : Bytes → Prop
  | nil : Trail fits []
  | piece {number : UInt32} {rest : Bytes} (fit : fits number.toNat) (text : String) (stored : Nat)
      (trail : Trail fits rest) :
      Trail fits ((utf8 (entryLine number text)).take stored ++ rest)

namespace Trail

variable {fits : Nat → Prop} {bytes more : Bytes}

theorem single {number : UInt32} (fit : fits number.toNat) (text : String) (stored : Nat) :
    Trail fits ((utf8 (entryLine number text)).take stored) := by
  rw [← List.append_nil (List.take _ _)]
  exact .piece fit text stored .nil

theorem line {number : UInt32} (fit : fits number.toNat) (text : String) :
    Trail fits (utf8 (entryLine number text)) := by
  have whole := single fit text (utf8 (entryLine number text)).length
  rwa [List.take_length] at whole

theorem append (first : Trail fits bytes) (second : Trail fits more) :
    Trail fits (bytes ++ more) := by
  induction first with
  | nil => exact second
  | piece fit text stored _ ih =>
    rw [List.append_assoc]
    exact .piece fit text stored ih

theorem take (trail : Trail fits bytes) (length : Nat) : Trail fits (bytes.take length) := by
  induction trail generalizing length with
  | nil =>
    rw [List.take_nil]
    exact .nil
  | piece fit text stored _ ih =>
    rw [List.take_append, List.take_take]
    exact .piece fit text _ (ih _)

end Trail

/-- The first bytes of a line are digits, or the whole number and more. -/
theorem take_entryLine (number : UInt32) (text : String) (stored : Nat) :
    (utf8 (entryLine number text)).take stored = (digits number.toNat).take stored ∨
      ∃ more, (utf8 (entryLine number text)).take stored = tag number.toNat ++ more := by
  rw [utf8_entryLine]
  by_cases short : stored ≤ (digits number.toNat).length
  · refine .inl ?_
    rw [tag, List.append_assoc, List.take_append_of_le_length short]
  · have long : (tag number.toNat).length ≤ stored := by
      rw [tag, List.length_append]
      exact Nat.not_le.1 short
    refine .inr ⟨(utf8 (descriptionLine text)).take (stored - (tag number.toNat).length), ?_⟩
    rw [List.take_append, List.take_of_length_le long]

/-- Digits and pieces of lines with greater numbers do not start with the number. -/
theorem not_tag_of_trail {fits : Nat → Prop} {n : Nat} {bytes word : Bytes}
    (above : ∀ m, fits m → n < m) (trail : Trail fits bytes)
    (numeral : ∀ b ∈ word, IsDigitByte b) : ¬tag n <+: word ++ bytes := by
  induction trail generalizing word with
  | nil =>
    rw [List.append_nil]
    intro starts
    refine blank_not_mem numeral (starts.subset ?_)
    exact List.mem_append_right _ (List.mem_singleton_self _)
  | @piece number rest fit text stored _ ih =>
    rcases take_entryLine number text stored with few | ⟨more, many⟩
    · rw [few, ← List.append_assoc]
      refine ih ?_
      intro b member
      rcases List.mem_append.1 member with first | second
      · exact numeral b first
      · exact isDigitByte_of_mem (List.mem_of_mem_take second)
    · intro starts
      have distinct := above _ fit
      have whole : word ++ (tag number.toNat ++ more ++ rest) =
          (word ++ digits number.toNat) ++ blank :: (more ++ rest) := by simp [tag]
      rw [many, whole] at starts
      have both (b : UInt8) (member : b ∈ word ++ digits number.toNat) : IsDigitByte b :=
        (List.mem_append.1 member).elim (numeral b) isDigitByte_of_mem
      have same : digits n = word ++ digits number.toNat :=
        eq_of_starts (blank_not_mem fun _ => isDigitByte_of_mem) (blank_not_mem both) starts
      have longer := length_digits_mono (Nat.le_of_lt distinct)
      have lengths := congrArg List.length same
      rw [List.length_append] at lengths
      have empty : word = [] := List.eq_nil_of_length_eq_zero (by omega)
      rw [empty, List.nil_append] at same
      exact absurd (digits_inj same) (Nat.ne_of_lt distinct)

theorem noLine_of_trail {fits : Nat → Prop} {n : Nat} {bytes : Bytes}
    (above : ∀ m, fits m → n < m) (trail : Trail fits bytes) : NoLine n bytes := by
  induction trail with
  | nil => exact noLine_nil n
  | @piece number rest fit text stored trail ih =>
    refine ih.append ((folded_entryLine number text).take stored) ?_
    rw [← List.nil_append (List.take _ _ ++ _)]
    exact not_tag_of_trail above (.piece fit text stored trail) fun b absent => by cases absent

/-- A trail does not start with a tab. -/
theorem head?_of_trail {fits : Nat → Prop} {bytes : Bytes} (trail : Trail fits bytes) :
    bytes.head? ≠ some tab := by
  induction trail with
  | nil => exact fun tabbed => by cases tabbed
  | @piece number rest fit text stored _ ih =>
    intro tabbed
    rw [List.head?_append] at tabbed
    cases first : ((utf8 (entryLine number text)).take stored).head? with
    | none =>
      rw [first, Option.none_or] at tabbed
      exact ih tabbed
    | some b =>
      rw [first, Option.some_or] at tabbed
      rcases take_entryLine number text stored with few | ⟨more, many⟩
      · have member : b ∈ digits number.toNat :=
          List.mem_of_mem_take (few ▸ List.mem_of_head? first)
        rw [Option.some.inj tabbed] at member
        exact not_isDigitByte (by decide) (by decide) (isDigitByte_of_mem member)
      · rw [many] at first
        exact not_tag_of_tab (first.trans tabbed) (List.prefix_append _ _)

/-- A trail of lines with one number, if it gets to a blank, starts with the number, or with digits
and the number. -/
theorem exists_word_of_trail {m : Nat} {bytes : Bytes} (trail : Trail (· = m) bytes)
    (present : blank ∈ bytes) :
    ∃ word more, bytes = word ++ (tag m ++ more) ∧ (∀ b ∈ word, IsDigitByte b) ∧
      (word = [] ∨ word.head? = (digits m).head?) := by
  induction trail with
  | nil => cases present
  | @piece number rest fit text stored _ ih =>
    subst fit
    rcases take_entryLine number text stored with few | ⟨more, many⟩
    · have numeral : ∀ b ∈ (digits number.toNat).take stored, IsDigitByte b :=
        fun b member => isDigitByte_of_mem (List.mem_of_mem_take member)
      rw [few] at present ⊢
      have later := (List.mem_append.1 present).resolve_left (blank_not_mem numeral)
      obtain ⟨word, more, rfl, inner, front⟩ := ih later
      refine ⟨(digits number.toNat).take stored ++ word, more, by simp, ?_, ?_⟩
      · intro b member
        exact (List.mem_append.1 member).elim (numeral b) (inner b)
      · cases stored with
        | zero => exact front
        | succ stored =>
          cases first : digits number.toNat with
          | nil => exact absurd first (digits_ne_nil _)
          | cons b others => exact .inr rfl
    · refine ⟨[], more ++ rest, ?_, ?_, .inl rfl⟩
      · rw [many, List.nil_append, List.append_assoc]
      · intro b absent
        cases absent

/-! ## The line of an entry among others -/

def entryBytes (entries : List Entry) : Bytes :=
  entries.flatMap fun entry => utf8 (entryLine entry.number entry.text)

theorem utf8_render (description : String) (entries : List Entry) :
    utf8 (Contents.render ⟨description, entries⟩) =
      utf8 (descriptionLine description) ++ entryBytes entries := by
  unfold Contents.render entryBytes
  rw [utf8_ofList, List.flatMap_append, ← utf8_eq_flatMap, List.flatMap_assoc]
  simp only [← utf8_eq_flatMap]

section Line

variable {number : UInt32} {later front rest : Bytes}

theorem eq_of_line_entries {entries : List Entry}
    (others : ∀ entry ∈ entries, number.toNat ≠ entry.number.toNat)
    (none : NoLine number.toNat later) {text : String}
    (whole : entryBytes entries ++ (utf8 (entryLine number text) ++ later) = front ++ rest)
    (opens : Opens front) (starts : tag number.toNat <+: rest) : front = entryBytes entries := by
  induction entries generalizing front with
  | nil =>
    rcases split_front (folded_entryLine number text) whole opens starts with
      empty | ⟨inner, -, ends, further⟩
    · exact empty
    · exact absurd starts (none inner rest ends further)
  | cons entry entries ih =>
    have split : utf8 (entryLine entry.number entry.text) ++
        (entryBytes entries ++ (utf8 (entryLine number text) ++ later)) = front ++ rest := by
      rw [← whole, ← List.append_assoc]
      rfl
    rcases split_front (folded_entryLine entry.number entry.text) split opens starts with
      rfl | ⟨inner, rfl, ends, further⟩
    · rw [List.nil_append] at split
      rw [← split, utf8_entryLine, List.append_assoc] at starts
      exact absurd starts (not_tag_of_ne (others entry List.mem_cons_self) _)
    · have inside := ih (fun other member => others other (List.mem_cons_of_mem _ member)) ends
        further
      rw [inside]
      rfl

/-- In a file of entries with other numbers, and with nothing that starts with its number behind it,
the line of an entry is the only one that starts with its number, the description's line apart. -/
theorem eq_of_line {description text : String} {entries : List Entry}
    (others : ∀ entry ∈ entries, number.toNat ≠ entry.number.toNat)
    (none : NoLine number.toNat later)
    (whole : utf8 (Contents.render ⟨description, entries⟩) ++
      (utf8 (entryLine number text) ++ later) = front ++ rest)
    (present : front ≠ []) (opens : Opens front) (starts : tag number.toNat <+: rest) :
    front = utf8 (Contents.render ⟨description, entries⟩) := by
  rw [utf8_render, List.append_assoc] at whole
  rcases split_front (folded_descriptionLine description) whole opens starts with
    empty | ⟨inner, rfl, ends, further⟩
  · exact absurd empty present
  · rw [eq_of_line_entries others none ends further starts, utf8_render]

end Line

end SheetCabinet
