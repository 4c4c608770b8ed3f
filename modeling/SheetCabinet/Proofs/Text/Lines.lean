import SheetCabinet.Text.Lines

/-!
# What the lines of a text are

A text is put together from lines. Each of them ends at a line feed, and only the last one may go
without; a line that nothing ends is there only if it has a character. A reader may drop something
from the end of each line that a line feed ends, and keeps the last line as it is if none does.

Results:
* what such a reader has for a text is determined by it, and there is something for every text
  (`linesOf_id_iff`, `linesOf_dropReturn_iff`): the lines as they are, or without one carriage return
  each.
-/

namespace SheetCabinet

/-! ## One carriage return -/

/-- A line without the carriage return that may end it. -/
def dropReturn (line : List Char) : List Char :=
  if line.getLast? = some '\r' then line.dropLast else line

theorem dropReturn_cons (c d : Char) (rest : List Char) :
    dropReturn (c :: d :: rest) = c :: dropReturn (d :: rest) := by
  unfold dropReturn
  rw [List.getLast?_cons_cons]
  split <;> rfl

/-- Without carriage returns there is none to drop. -/
theorem dropReturn_of_not_mem {line : List Char} (plain : '\r' ∉ line) : dropReturn line = line :=
  if_neg fun ends => plain (List.mem_of_getLast? ends)

/-- A line stays as it is exactly if it does not end in a carriage return. -/
theorem dropReturn_eq_self_iff {line : List Char} :
    dropReturn line = line ↔ line.getLast? ≠ some '\r' := by
  constructor
  · intro same ends
    have shorter : line.dropLast.length = line.length := by
      rw [← congrArg List.length same, dropReturn, if_pos ends]
    have present : line ≠ [] := List.ne_nil_of_mem (List.mem_of_getLast? ends)
    have long := List.length_pos_iff.2 present
    rw [List.length_dropLast] at shorter
    omega
  · exact fun other => if_neg other

theorem not_mem_dropReturn {line : List Char} (unbroken : '\n' ∉ line) : '\n' ∉ dropReturn line := by
  unfold dropReturn
  split
  · exact fun member => unbroken (List.dropLast_subset line member)
  · exact unbroken

/-- Of a line that a line feed ends, one carriage return is dropped. -/
theorem dropReturns_append_line {line : List Char} (unbroken : '\n' ∉ line) (rest : List Char) :
    dropReturns (line ++ '\n' :: rest) = dropReturn line ++ '\n' :: dropReturns rest := by
  induction line with
  | nil => rfl
  | cons c others ih =>
    rw [List.mem_cons, not_or] at unbroken
    cases others with
    | nil =>
      by_cases carriage : c = '\r'
      · subst carriage
        rfl
      · have kept : dropReturns (c :: '\n' :: rest) = c :: dropReturns ('\n' :: rest) := by
          rw [dropReturns]
          intro more same
          exact absurd same carriage
        show dropReturns (c :: '\n' :: rest) = dropReturn [c] ++ '\n' :: dropReturns rest
        rw [kept, dropReturn_of_not_mem (by simpa using Ne.symm carriage)]
        rfl
    | cons d more =>
      have inner : d ≠ '\n' := by
        rintro rfl
        exact unbroken.2 List.mem_cons_self
      have kept : dropReturns (c :: d :: (more ++ '\n' :: rest)) =
          c :: dropReturns (d :: (more ++ '\n' :: rest)) := by
        rw [dropReturns]
        rintro tail - same
        exact inner (List.cons.inj same).1
      rw [dropReturn_cons]
      exact kept.trans (congrArg (c :: ·) (ih unbroken.2))

/-- Without line feeds no carriage return is dropped. -/
theorem dropReturns_of_no_break {line : List Char} (unbroken : '\n' ∉ line) :
    dropReturns line = line := by
  induction line with
  | nil => rfl
  | cons c rest ih =>
    rw [List.mem_cons, not_or] at unbroken
    have kept : dropReturns (c :: rest) = c :: dropReturns rest := by
      rw [dropReturns]
      rintro more - same
      exact unbroken.2 (same ▸ List.mem_cons_self)
    rw [kept, ih unbroken.2]

/-! ## The lines -/

/-- What a reader has for a text that keeps this much of each line that a line feed ends. -/
inductive LinesOf (kept : List Char → List Char) : List Char → List (List Char) → Prop
  | nil : LinesOf kept [] []
  | last {line : List Char} (unbroken : '\n' ∉ line) (present : line ≠ []) :
      LinesOf kept line [line]
  | line {line rest : List Char} {others : List (List Char)} (unbroken : '\n' ∉ line)
      (later : LinesOf kept rest others) : LinesOf kept (line ++ '\n' :: rest) (kept line :: others)

variable {text : List Char} {ls : List (List Char)}

theorem exists_linesOf (kept : List Char → List Char) (text : List Char) :
    ∃ ls, LinesOf kept text ls := by
  induction text with
  | nil => exact ⟨[], .nil⟩
  | cons c rest ih =>
    obtain ⟨ls, split⟩ := ih
    by_cases ends : c = '\n'
    · subst ends
      exact ⟨_, @LinesOf.line kept [] rest ls List.not_mem_nil split⟩
    · -- the character belongs to the first line, which may be the last one
      have longer {line : List Char} (unbroken : '\n' ∉ line) : '\n' ∉ c :: line := by
        rw [List.mem_cons, not_or]
        exact ⟨Ne.symm ends, unbroken⟩
      cases split with
      | nil => exact ⟨_, .last (longer List.not_mem_nil) (List.cons_ne_nil c [])⟩
      | last unbroken present => exact ⟨_, .last (longer unbroken) (List.cons_ne_nil c _)⟩
      | line unbroken later => exact ⟨_, .line (longer unbroken) later⟩

/-- Only the empty text has no lines. -/
theorem linesOf_nil_iff {kept : List Char → List Char} : LinesOf kept text [] ↔ text = [] := by
  constructor
  · intro split
    cases split
    rfl
  · rintro rfl
    exact .nil

theorem linesOf_id_iff : LinesOf id text ls ↔ ls = lines text := by
  have one {text : List Char} {ls : List (List Char)} (split : LinesOf id text ls) :
      ls = lines text := by
    induction split with
    | nil => rfl
    | last unbroken present => exact (lines_of_no_break unbroken present).symm
    | line unbroken later ih => rw [lines_append_line unbroken, ih, id_eq]
  constructor
  · exact one
  · rintro rfl
    obtain ⟨ls, split⟩ := exists_linesOf id text
    exact one split ▸ split

theorem linesOf_dropReturn_iff : LinesOf dropReturn text ls ↔ ls = lines (dropReturns text) := by
  have one {text : List Char} {ls : List (List Char)} (split : LinesOf dropReturn text ls) :
      ls = lines (dropReturns text) := by
    induction split with
    | nil => rfl
    | last unbroken present =>
      rw [dropReturns_of_no_break unbroken, lines_of_no_break unbroken present]
    | line unbroken later ih =>
      rw [dropReturns_append_line unbroken, lines_append_line (not_mem_dropReturn unbroken), ih]
  constructor
  · exact one
  · rintro rfl
    obtain ⟨ls, split⟩ := exists_linesOf dropReturn text
    exact one split ▸ split

end SheetCabinet
