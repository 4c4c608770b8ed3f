/-!
# Lines of a text

A line feed ends a line. A text that ends in a line feed has no further line after it, so the
empty text has no line at all, and a text without its last line feed has the same lines as the
text with it. Some readers also drop one carriage return in front of each line feed.

A line break inside a folded text is written as a line feed and a tab, so that no line of it but
the first can be taken for the start of something new.

Results:
* every text is a run of lines, and a last line that nothing ends (`lines_append_line`,
  `lines_of_no_break`);
* folding changes no character but the line feed (`fold_append`, `fold_of_no_break`).
-/

namespace SheetCabinet

/-! ## Splitting -/

/-- One character put in front of lines that are already split. -/
def addToLines (c : Char) (rest : List (List Char)) : List (List Char) :=
  if c = '\n' then [] :: rest
  else match rest with
    | [] => [[c]]
    | line :: others => (c :: line) :: others

/-- The lines of a text, each without its line feed. -/
def lines (text : List Char) : List (List Char) := text.foldr addToLines []

/-- The rows of a text: its lines, and one row more behind a last line feed. -/
def rows (text : List Char) : List (List Char) := text.foldr addToLines [[]]

/-- The text with one carriage return dropped in front of each line feed. -/
def dropReturns : List Char → List Char
  | [] => []
  | '\r' :: '\n' :: rest => '\n' :: dropReturns rest
  | c :: rest => c :: dropReturns rest

theorem addToLines_of_break {c : Char} (ends : c = '\n') (rest : List (List Char)) :
    addToLines c rest = [] :: rest := if_pos ends

theorem addToLines_nil {c : Char} (inside : c ≠ '\n') : addToLines c [] = [[c]] := if_neg inside

theorem addToLines_cons {c : Char} (inside : c ≠ '\n') (line : List Char)
    (others : List (List Char)) : addToLines c (line :: others) = (c :: line) :: others :=
  if_neg inside

@[simp] theorem lines_nil : lines [] = [] := rfl

@[simp] theorem lines_cons (c : Char) (rest : List Char) :
    lines (c :: rest) = addToLines c (lines rest) := rfl

theorem lines_append_line {line : List Char} (unbroken : '\n' ∉ line) (rest : List Char) :
    lines (line ++ '\n' :: rest) = line :: lines rest := by
  induction line with
  | nil => simp [addToLines_of_break]
  | cons c cs ih =>
    simp only [List.mem_cons, not_or] at unbroken
    simp [ih unbroken.2, addToLines_cons (Ne.symm unbroken.1)]

theorem lines_of_no_break {line : List Char} (unbroken : '\n' ∉ line) (present : line ≠ []) :
    lines line = [line] := by
  induction line with
  | nil => exact absurd rfl present
  | cons c cs ih =>
    simp only [List.mem_cons, not_or] at unbroken
    cases cs with
    | nil => simp [addToLines_nil (Ne.symm unbroken.1)]
    | cons d ds =>
      rw [lines_cons, ih unbroken.2 (by simp), addToLines_cons (Ne.symm unbroken.1)]

theorem not_mem_of_mem_lines {text line : List Char} (member : line ∈ lines text) :
    '\n' ∉ line := by
  induction text generalizing line with
  | nil => simp at member
  | cons c cs ih =>
    by_cases ends : c = '\n'
    · rw [lines_cons, addToLines_of_break ends] at member
      rcases List.mem_cons.1 member with rfl | later
      · simp
      · exact ih later
    · cases rest : lines cs with
      | nil =>
        simp only [lines_cons, rest, addToLines_nil ends, List.mem_singleton] at member
        subst member
        simpa using Ne.symm ends
      | cons head tail =>
        simp only [lines_cons, rest, addToLines_cons ends, List.mem_cons] at member
        rcases member with rfl | later
        · have clean : '\n' ∉ head := ih (by simp [rest])
          simp [clean, Ne.symm ends]
        · exact ih (by simp [rest, later])

/-! ## Folding -/

def foldChar (c : Char) : List Char := if c = '\n' then ['\n', '\t'] else [c]

def fold (text : List Char) : List Char := text.flatMap foldChar

@[simp] theorem fold_nil : fold [] = [] := rfl

@[simp] theorem fold_cons (c : Char) (rest : List Char) :
    fold (c :: rest) = foldChar c ++ fold rest := rfl

@[simp] theorem fold_append (first second : List Char) :
    fold (first ++ second) = fold first ++ fold second := List.flatMap_append

theorem fold_of_no_break {text : List Char} (unbroken : '\n' ∉ text) : fold text = text := by
  induction text with
  | nil => rfl
  | cons c cs ih =>
    simp only [List.mem_cons, not_or] at unbroken
    simp [foldChar, Ne.symm unbroken.1, ih unbroken.2]

example : lines "a\n\nb".toList = [['a'], [], ['b']] := by decide
example : lines "a\n".toList = lines "a".toList := by decide
example : rows "a\n".toList = [['a'], []] ∧ rows [] = [[]] := by decide
example : dropReturns "a\r\r\nb\r".toList = "a\r\nb\r".toList := by decide
example : fold "a\nb".toList = "a\n\tb".toList := by decide

end SheetCabinet
