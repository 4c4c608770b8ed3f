import SheetCabinet.Proofs.Sheet.Truncation

/-!
# How else a sheet may be written

The reader accepts more files than are ever written: the last line feed may be missing, and the
number of an entry may have a plus sign or leading zeros. Nothing else is free. The reader drops the
line feeds and the tabs and turns the numerals into numbers, and all else stays in the texts; so
writing out what was read gives the file again line by line, with its numbers spelled plainly.

Results:
* a numeral is spelled as numbers are written exactly if it has no sign and no leading zeros
  (`decimal_eq_iff`);
* the lines of a text, each with a line feed behind it, are the text with its last line feed
  (`unlines_lines`);
* what was read from a file, written out again, is the file with its numbers spelled plainly and its
  last line feed (`render_of_parse`);
* it is the file itself exactly if the file is canonical, so canonical files that say the same are
  the same (`codec_exact`).
-/

namespace SheetCabinet

/-! ## Spelling of numbers -/

/-- A numeral without a sign and without leading zeros. -/
def Plain (word : List Char) : Prop :=
  word ≠ [] ∧ (∀ c ∈ word, c.isDigit) ∧ (word.head? = some '0' → word = ['0'])

-- The digits are looked for in the word, and not the word among all characters.
instance (word : List Char) : Decidable (Plain word) :=
  haveI : Decidable (∀ c ∈ word, c.isDigit = true) := List.decidableBAll _ word
  inferInstanceAs (Decidable (_ ∧ _ ∧ _))

theorem plain_decimal (n : Nat) : Plain (decimal n) := by
  refine ⟨decimal_ne_nil n, fun c member => isDigit_of_mem_decimal member, ?_⟩
  induction n using Nat.strongRecOn with
  | _ n ih =>
    rcases Nat.lt_or_ge n 10 with small | large
    · rw [decimal, Nat.toDigits_of_lt_base small]
      intro zero
      rw [Option.some.inj zero]
    · -- a number with more than one digit starts as its tenth does, and that is not zero
      obtain ⟨c, rest, digits⟩ := List.exists_cons_of_ne_nil (decimal_ne_nil (n / 10))
      have longer : decimal n = decimal (n / 10) ++ [(n % 10).digitChar] :=
        Nat.toDigits_of_base_le (by decide) large
      rw [longer, digits]
      intro zero
      have tenth : decimal (n / 10) = ['0'] := ih (n / 10) (by omega) (by rw [digits]; exact zero)
      have value : Nat.ofDigitChars 10 (decimal (n / 10)) 0 = n / 10 :=
        Nat.ofDigitChars_ten_toDigits
      rw [tenth] at value
      have none : 0 = n / 10 := value
      omega

/-- A digit is the numeral of its value. -/
theorem decimal_of_isDigit {c : Char} (digit : c.isDigit) :
    c.toNat - '0'.toNat < 10 ∧ decimal (c.toNat - '0'.toNat) = [c] := by
  have bounds : 48 ≤ c.toNat ∧ c.toNat ≤ 57 := Char.isDigit_iff_toNat.1 digit
  have zero : '0'.toNat = 48 := rfl
  have small : c.toNat - '0'.toNat < 10 := by omega
  have same : Nat.digitChar (c.toNat - '0'.toNat) = c := by
    rw [← Char.toNat_inj, Nat.toNat_digitChar_of_lt_ten small]
    omega
  exact ⟨small, by rw [decimal, Nat.toDigits_of_lt_base small, same]⟩

/-- Digits behind the numeral of a number make the numeral of a larger one, unless it is zero. -/
theorem decimal_append {value : Nat} (positive : 0 < value) {digits : List Char}
    (all : ∀ c ∈ digits, c.isDigit) :
    decimal value ++ digits = decimal (Nat.ofDigitChars 10 digits value) := by
  induction digits generalizing value with
  | nil => exact List.append_nil _
  | cons c rest ih =>
    obtain ⟨small, same⟩ := decimal_of_isDigit (all c List.mem_cons_self)
    have longer : decimal value ++ [c] = decimal (10 * value + (c.toNat - '0'.toNat)) := by
      rw [← same]
      exact Nat.toDigits_append_toDigits (by decide) positive small
    rw [Nat.ofDigitChars_cons, ← ih (by omega) fun d member => all d (List.mem_cons_of_mem _ member),
      ← longer, List.append_assoc, List.singleton_append]

/-- A plain numeral is how its value is written. -/
theorem Plain.decimal_value {word : List Char} (plain : Plain word) :
    decimal (Nat.ofDigitChars 10 word 0) = word := by
  obtain ⟨present, digits, zero⟩ := plain
  cases word with
  | nil => exact absurd rfl present
  | cons c rest =>
    by_cases first : c = '0'
    · rw [zero (congrArg some first)]
      rfl
    · obtain ⟨-, same⟩ := decimal_of_isDigit (digits c List.mem_cons_self)
      have positive : 0 < c.toNat - '0'.toNat := by
        refine Nat.pos_of_ne_zero fun none => first ?_
        rw [none] at same
        exact (List.singleton_inj.1 same).symm
      rw [Nat.ofDigitChars_cons, Nat.mul_zero, Nat.zero_add,
        ← decimal_append positive fun d member => digits d (List.mem_cons_of_mem _ member), same,
        List.singleton_append]

/-- A numeral is spelled as numbers are written exactly if it has no sign and no leading zeros. -/
theorem decimal_eq_iff {word : List Char} {n : UInt32} (read : numeral? word = some n) :
    decimal n.toNat = word ↔ Plain word := by
  constructor
  · intro same
    rw [← same]
    exact plain_decimal n.toNat
  · intro plain
    rw [(numeral?_eq_some_iff.1 read).value, unsigned_of_isDigit plain.2.1, plain.decimal_value]

/-! ## Lines put together -/

def unlines (ls : List (List Char)) : List Char := ls.flatMap (· ++ ['\n'])

/-- The last line of the text has its line feed. -/
def Ended (text : List Char) : Prop := text.getLast? = some '\n'

instance (text : List Char) : Decidable (Ended text) := by
  unfold Ended
  infer_instance

@[simp] theorem unlines_nil : unlines [] = [] := rfl

@[simp] theorem unlines_cons (line : List Char) (ls : List (List Char)) :
    unlines (line :: ls) = line ++ '\n' :: unlines ls := by
  simp [unlines]

theorem ended_unlines {ls : List (List Char)} (present : ls ≠ []) : Ended (unlines ls) := by
  rcases List.eq_nil_or_concat ls with none | ⟨front, last, rfl⟩
  · exact absurd none present
  · simp [Ended, unlines]

theorem lines_unlines {ls : List (List Char)} (unbroken : ∀ line ∈ ls, '\n' ∉ line) :
    lines (unlines ls) = ls := by
  induction ls with
  | nil => rfl
  | cons line ls ih =>
    rw [unlines_cons, lines_append_line (unbroken line List.mem_cons_self),
      ih fun other member => unbroken other (List.mem_cons_of_mem _ member)]

theorem unlines_addToLines {ls : List (List Char)} (present : ls ≠ []) (c : Char) :
    unlines (addToLines c ls) = c :: unlines ls := by
  by_cases ends : c = '\n'
  · rw [addToLines_of_break ends, ends]
    rfl
  · cases ls with
    | nil => exact absurd rfl present
    | cons line others => simp [addToLines_cons ends]

theorem lines_ne_nil {text : List Char} (present : text ≠ []) : lines text ≠ [] := by
  cases text with
  | nil => exact absurd rfl present
  | cons c cs =>
    intro none
    have first := head?_addToLines c (lines cs)
    rw [← lines_cons, none] at first
    cases first

/-- The lines of a text, each with its line feed, make up the text, but for the line feed that may be
missing at its end. -/
theorem unlines_lines {text : List Char} (present : text ≠ []) :
    unlines (lines text) = if Ended text then text else text ++ ['\n'] := by
  induction text with
  | nil => exact absurd rfl present
  | cons c cs ih =>
    cases cs with
    | nil =>
      by_cases ends : c = '\n'
      · subst ends
        rfl
      · have loose : ¬Ended [c] := fun last => ends (Option.some.inj last)
        rw [if_neg loose, lines_cons, lines_nil, addToLines_nil ends]
        rfl
    | cons d ds =>
      have last : Ended (c :: d :: ds) ↔ Ended (d :: ds) := by
        rw [Ended, Ended, List.getLast?_cons_cons]
      rw [lines_cons, unlines_addToLines (lines_ne_nil (by simp)), ih (by simp)]
      by_cases ended : Ended (d :: ds)
      · rw [if_pos ended, if_pos (last.2 ended)]
      · rw [if_neg ended, if_neg fun whole => ended (last.1 whole)]
        rfl

/-! ## Spelling of files -/

/-- A line behind the first one of a file, with its number spelled plainly if it has one. -/
def respellLine (line : List Char) : List Char :=
  if line.head? = some '\t' then line
  else match numeral? (line.takeWhile (· ≠ ' ')) with
    | none => line
    | some n => decimal n.toNat ++ line.dropWhile (· ≠ ' ')

/-- A file with the numbers of its entries spelled plainly and with its last line feed. -/
def respelled (text : List Char) : List Char :=
  match lines text with
  | [] => []
  | first :: rest => unlines (first :: rest.map respellLine)

def PlainNumbers (text : List Char) : Prop :=
  ∀ line ∈ (lines text).tail, line.head? ≠ some '\t' → Plain (line.takeWhile (· ≠ ' '))

instance (text : List Char) : Decidable (PlainNumbers text) := by
  unfold PlainNumbers
  infer_instance

/-- A file that has its last line feed, and no sign and no leading zeros in front of a number. -/
structure Canonical (text : String) : Prop where
  ended : Ended text.toList
  plain : PlainNumbers text.toList

theorem respelled_of_lines {text first : List Char} {rest : List (List Char)}
    (split : lines text = first :: rest) :
    respelled text = unlines (first :: rest.map respellLine) := by
  rw [respelled, split]

@[simp] theorem respellLine_continuation (line : List Char) :
    respellLine ('\t' :: line) = '\t' :: line := if_pos rfl

theorem respellLine_entry {word : List Char} {n : UInt32} (clean : ' ' ∉ word)
    (read : numeral? word = some n) (text : List Char) :
    respellLine (word ++ ' ' :: text) = decimal n.toNat ++ ' ' :: text := by
  obtain ⟨number, behind⟩ := split_word clean text
  rw [respellLine, if_neg (head?_of_numeral read _)]
  simp only [number, behind, read]

/-- A line that the reader accepts stays as it is exactly if its number is plain. -/
theorem respellLine_eq_iff {line : List Char} (readable : Readable line) :
    respellLine line = line ↔
      (line.head? ≠ some '\t' → Plain (line.takeWhile (· ≠ ' '))) := by
  cases readable with
  | continuation text => simp
  | @entry word n clean read text =>
    obtain ⟨number, -⟩ := split_word clean text
    rw [respellLine_entry clean read, List.append_left_inj, decimal_eq_iff read]
    simp only [number]
    exact ⟨fun plain _ => plain, fun plain => plain (head?_of_numeral read _)⟩

theorem not_mem_respellLine {line : List Char} (readable : Readable line)
    (unbroken : '\n' ∉ line) : '\n' ∉ respellLine line := by
  cases readable with
  | continuation text => exact unbroken
  | @entry word n clean read text =>
    rw [respellLine_entry clean read, List.mem_append]
    rintro (number | behind)
    · exact absurd (isDigit_of_mem_decimal number) (by decide)
    · exact unbroken (List.mem_append_right word behind)

/-- What the lines of a file say, written out: the text before them, and the lines themselves with
their numbers spelled plainly. -/
theorem render_of_readFrom {first : List Char} {next : Nat} {ls : List (List Char)} {said : Contents}
    (unbroken : ∀ line ∈ ls, '\n' ∉ line) (read : readFrom first next ls = .ok said) :
    said.render.toList = fold first ++ '\n' :: unlines (ls.map respellLine) := by
  induction ls generalizing first next said with
  | nil =>
    rw [readFrom_nil] at read
    cases read
    simp [Contents.toList_render]
  | cons line ls ih =>
    have whole := unbroken line List.mem_cons_self
    have later : ∀ other ∈ ls, '\n' ∉ other := fun other member =>
      unbroken other (List.mem_cons_of_mem _ member)
    cases readable_of_readFrom read with
    | continuation text =>
      have kept : fold text = text :=
        fold_of_no_break fun member => whole (List.mem_cons_of_mem _ member)
      rw [readFrom_continuation] at read
      rw [ih later read]
      simp [kept, foldChar]
    | @entry word n clean number text =>
      have kept : fold text = text :=
        fold_of_no_break fun member => whole (by simp [member])
      rw [readFrom_entry clean number] at read
      obtain ⟨inner, said, rfl⟩ := exists_of_map_eq_ok read
      have behind := ih later said
      rw [Contents.toList_render, kept] at behind
      simp [Contents.toList_render, entryLine, respellLine_entry clean number, ← behind]

namespace Contents

variable {text : String} {contents : Contents}

/-- The lines of a file that can be read. -/
theorem lines_of_parse (read : parse text = .ok contents) :
    ∃ first rest, lines text.toList = first :: rest ∧ readFrom first 2 rest = .ok contents := by
  cases split : lines text.toList with
  | nil =>
    simp only [parse, split] at read
    cases read
  | cons first rest =>
    rw [parse_of_lines split] at read
    exact ⟨first, rest, rfl, read⟩

theorem render_of_parse (read : parse text = .ok contents) :
    contents.render.toList = respelled text.toList := by
  obtain ⟨first, rest, split, read⟩ := lines_of_parse read
  have unbroken : ∀ line ∈ first :: rest, '\n' ∉ line := fun line member =>
    not_mem_of_mem_lines (split ▸ member)
  rw [render_of_readFrom (fun line member => unbroken line (List.mem_cons_of_mem _ member)) read,
    fold_of_no_break (unbroken first List.mem_cons_self), respelled_of_lines split, unlines_cons]

/-- Where all numbers are plain, only the last line feed may be missing. -/
theorem render_of_plainNumbers (read : parse text = .ok contents)
    (plain : PlainNumbers text.toList) :
    contents.render.toList =
      if Ended text.toList then text.toList else text.toList ++ ['\n'] := by
  have written := render_of_parse read
  obtain ⟨first, rest, split, read⟩ := lines_of_parse read
  have present : text.toList ≠ [] := by
    intro none
    rw [none] at split
    cases split
  have same : rest.map respellLine = rest.map id := by
    refine List.map_congr_left fun line member => ?_
    refine (respellLine_eq_iff (readable_of_mem read member)).2 (plain line ?_)
    rw [split]
    exact member
  rw [written, respelled_of_lines split, ← unlines_lines present, split, same, List.map_id]

theorem canonical_of_render (read : parse text = .ok contents) (same : contents.render = text) :
    Canonical text := by
  have written := render_of_parse read
  obtain ⟨first, rest, split, read⟩ := lines_of_parse read
  rw [same, respelled_of_lines split] at written
  refine ⟨written ▸ ended_unlines (by simp), fun line member => ?_⟩
  have unbroken : ∀ line ∈ first :: rest.map respellLine, '\n' ∉ line := by
    have whole : ∀ line ∈ first :: rest, '\n' ∉ line := fun line member =>
      not_mem_of_mem_lines (split ▸ member)
    intro line member
    rcases List.mem_cons.1 member with rfl | later
    · exact whole _ List.mem_cons_self
    · obtain ⟨original, inside, rfl⟩ := List.mem_map.1 later
      exact not_mem_respellLine (readable_of_mem read inside)
        (whole original (List.mem_cons_of_mem _ inside))
  have again := lines_unlines unbroken
  rw [← written, split] at again
  rw [split, List.tail_cons] at member
  have lists : rest.map respellLine = rest.map id := by
    rw [List.map_id]
    exact (List.cons.inj again).2.symm
  have kept : respellLine line = line := List.map_inj_left.1 lists line member
  exact (respellLine_eq_iff (readable_of_mem read member)).1 kept

/-- Whatever a sheet says can be written and read back. A file that was read is written out as it
stands but for the spelling of its numbers and its last line feed, and without any change exactly if
it is canonical; so canonical files that say the same are the same. -/
theorem codec_exact :
    (∀ contents : Contents, parse contents.render = .ok contents) ∧
      (∀ text contents, parse text = .ok contents →
        contents.render.toList = respelled text.toList ∧
          (PlainNumbers text.toList → contents.render.toList =
            if Ended text.toList then text.toList else text.toList ++ ['\n']) ∧
          (contents.render = text ↔ Canonical text)) ∧
      ∀ first second contents, Canonical first → Canonical second →
        parse first = .ok contents → parse second = .ok contents → first = second := by
  have exact_of_canonical {text : String} {contents : Contents}
      (read : parse text = .ok contents) (canonical : Canonical text) : contents.render = text := by
    have written := render_of_plainNumbers read canonical.plain
    rw [if_pos canonical.ended] at written
    exact String.toList_inj.1 written
  refine ⟨parse_render, fun text contents read => ?_, fun first second contents one other => ?_⟩
  · exact ⟨render_of_parse read, render_of_plainNumbers read,
      canonical_of_render read, exact_of_canonical read⟩
  · intro read again
    rw [← exact_of_canonical read one, exact_of_canonical again other]

/-- A file with a sign, leading zeros and no last line feed, and the canonical one that says the
same. -/
theorem codec_exact_respelled :
    parse "\td\n\t\n+07 a\n\tb\n0 c" = .ok ⟨"\td\n", [⟨7, "a\nb"⟩, ⟨0, "c"⟩]⟩ ∧
      render ⟨"\td\n", [⟨7, "a\nb"⟩, ⟨0, "c"⟩]⟩ ≠ "\td\n\t\n+07 a\n\tb\n0 c" ∧
      Canonical "\td\n\t\n7 a\n\tb\n0 c\n" ∧
      render ⟨"\td\n", [⟨7, "a\nb"⟩, ⟨0, "c"⟩]⟩ = "\td\n\t\n7 a\n\tb\n0 c\n" ∧
      ∀ other, Canonical other → parse other = .ok ⟨"\td\n", [⟨7, "a\nb"⟩, ⟨0, "c"⟩]⟩ →
        other = "\td\n\t\n7 a\n\tb\n0 c\n" := by
  obtain ⟨-, exactly, injective⟩ := codec_exact
  have loose : parse "\td\n\t\n+07 a\n\tb\n0 c" = .ok ⟨"\td\n", [⟨7, "a\nb"⟩, ⟨0, "c"⟩]⟩ := by
    decide +kernel
  have strict : parse "\td\n\t\n7 a\n\tb\n0 c\n" = .ok ⟨"\td\n", [⟨7, "a\nb"⟩, ⟨0, "c"⟩]⟩ := by
    decide +kernel
  have canonical : Canonical "\td\n\t\n7 a\n\tb\n0 c\n" :=
    ⟨by decide +kernel, by decide +kernel⟩
  refine ⟨loose, fun same => ?_, canonical, (exactly _ _ strict).2.2.2 canonical, ?_⟩
  · have ended := ((exactly _ _ loose).2.2.1 same).ended
    exact absurd ended (by decide +kernel)
  · exact fun other one read => injective other _ _ one canonical read strict

end Contents

end SheetCabinet
