import SheetCabinet.Sheet.Reader

/-!
# What is written to a sheet is read back

A folded text stands in the file as one line without a tab in front and further lines with one, so
the reader finds in the lines of an entry exactly one block, whatever the text is made of: line
feeds, tabs, digits, or nothing at all.

Results:
* reading the file of a sheet gives the sheet (`parse_render`);
* what follows behind the file of a sheet is read on its own, as long as it does not start with a
  tab (`parse_render_append`).
-/

namespace SheetCabinet

/-! ## The lines of a folded text -/

def firstLine (text : List Char) : List Char := (rows text).headD []

def otherLines (text : List Char) : List (List Char) := (rows text).tail

theorem rows_cons (c : Char) (rest : List Char) : rows (c :: rest) = addToLines c (rows rest) := rfl

theorem head?_addToLines (c : Char) (ls : List (List Char)) :
    (addToLines c ls).head? = some (if c = '\n' then [] else c :: ls.headD []) := by
  by_cases ends : c = '\n'
  · rw [addToLines_of_break ends, if_pos ends]
    rfl
  · rw [if_neg ends]
    cases ls with
    | nil => rw [addToLines_nil ends]; rfl
    | cons line others => rw [addToLines_cons ends]; rfl

theorem rows_eq (text : List Char) : rows text = firstLine text :: otherLines text := by
  unfold firstLine otherLines
  cases split : rows text with
  | cons first others => rfl
  | nil =>
    cases text with
    | nil => cases split
    | cons c rest =>
      have first := head?_addToLines c (rows rest)
      rw [← rows_cons, split] at first
      cases first

theorem firstLine_break (rest : List Char) :
    firstLine ('\n' :: rest) = [] ∧ otherLines ('\n' :: rest) = firstLine rest :: otherLines rest := by
  unfold firstLine otherLines
  rw [rows_cons, addToLines_of_break rfl, rows_eq rest]
  exact ⟨rfl, by simp⟩

theorem firstLine_cons {c : Char} (inside : c ≠ '\n') (rest : List Char) :
    firstLine (c :: rest) = c :: firstLine rest ∧ otherLines (c :: rest) = otherLines rest := by
  unfold firstLine otherLines
  rw [rows_cons, rows_eq rest, addToLines_cons inside]
  exact ⟨rfl, by simp⟩

theorem joinLines_cons (c : Char) (first : List Char) (others : List (List Char)) :
    joinLines (c :: first) others = c :: joinLines first others := rfl

/-- A text is its lines joined. -/
theorem joinLines_firstLine (text : List Char) :
    joinLines (firstLine text) (otherLines text) = text := by
  induction text with
  | nil => rfl
  | cons c rest ih =>
    by_cases ends : c = '\n'
    · subst ends
      obtain ⟨first, others⟩ := firstLine_break rest
      rw [first, others]
      exact congrArg ('\n' :: ·) ih
    · obtain ⟨first, others⟩ := firstLine_cons ends rest
      rw [first, others, joinLines_cons, ih]

/-- Behind the lines of a folded text come the lines of what follows it. -/
theorem lines_fold_append (text rest : List Char) :
    lines (fold text ++ '\n' :: rest) =
      firstLine text :: ((otherLines text).map ('\t' :: ·) ++ lines rest) := by
  induction text with
  | nil => rfl
  | cons c cs ih =>
    by_cases ends : c = '\n'
    · subst ends
      obtain ⟨first, others⟩ := firstLine_break cs
      rw [first, others]
      show addToLines '\n' (addToLines '\t' (lines (fold cs ++ '\n' :: rest))) = _
      rw [ih, addToLines_of_break rfl, addToLines_cons (by decide)]
      rfl
    · obtain ⟨first, others⟩ := firstLine_cons ends cs
      have kept : fold (c :: cs) = c :: fold cs := by simp [foldChar, ends]
      rw [first, others, kept, List.cons_append, lines_cons, ih, addToLines_cons ends]

/-! ## Blocks -/

theorem blocks_tabbed (texts ls : List (List Char)) :
    blocks (texts.map ('\t' :: ·) ++ ls) = (texts ++ (blocks ls).1, (blocks ls).2) := by
  induction texts with
  | nil => rfl
  | cons text rest ih =>
    rw [List.map_cons, List.cons_append, blocks_continuation, ih]
    rfl

/-- Lines that do not start with a tab have no continuation in front of them. -/
theorem blocks_fst_nil {ls : List (List Char)} (head : ∀ line ∈ ls.head?, line.head? ≠ some '\t') :
    (blocks ls).1 = [] := by
  cases ls with
  | nil => rfl
  | cons line rest => rw [blocks_head (head line rfl)]

/-- The block that an entry is written as. -/
def blockOf (entry : Entry) : Block :=
  ⟨decimal entry.number.toNat ++ ' ' :: firstLine entry.text.toList, otherLines entry.text.toList⟩

theorem head?_decimal_append {n : Nat} {c : Char} {rest : List Char}
    (first : (decimal n ++ rest).head? = some c) : c.isDigit := by
  cases digits : decimal n with
  | nil => exact absurd digits (decimal_ne_nil n)
  | cons d ds =>
    rw [digits, List.cons_append, List.head?_cons, Option.some.injEq] at first
    subst first
    exact isDigit_of_mem_decimal (n := n) (by rw [digits]; exact List.mem_cons_self)

theorem space_not_mem {word : List Char} (numeral : ∀ c ∈ word, c.isDigit) : ' ' ∉ word :=
  fun member => absurd (numeral _ member) (by decide)

theorem break_not_mem {word : List Char} (numeral : ∀ c ∈ word, c.isDigit) :
    ∀ c ∈ word, c ≠ '\n' := by
  rintro c member rfl
  exact absurd (numeral _ member) (by decide)

/-- Characters without a line feed in front of a text belong to its first line. -/
theorem lines_append_of_clean {front text line : List Char} {others : List (List Char)}
    (clean : ∀ c ∈ front, c ≠ '\n') (split : lines text = line :: others) :
    lines (front ++ text) = (front ++ line) :: others := by
  induction front with
  | nil => exact split
  | cons c cs ih =>
    rw [List.cons_append, lines_cons, ih fun d member => clean d (List.mem_cons_of_mem _ member),
      addToLines_cons (clean c List.mem_cons_self)]
    rfl

theorem lines_entryLine_append (entry : Entry) (rest : List Char) :
    lines ((entryLine entry.number entry.text).toList ++ rest) =
      (blockOf entry).head :: ((blockOf entry).continuation.map ('\t' :: ·) ++ lines rest) := by
  have written : (entryLine entry.number entry.text).toList ++ rest =
      decimal entry.number.toNat ++ ' ' :: (fold entry.text.toList ++ '\n' :: rest) := by
    simp [entryLine]
  rw [written]
  refine lines_append_of_clean (break_not_mem fun _ => isDigit_of_mem_decimal) ?_
  rw [lines_cons, lines_fold_append, addToLines_cons (by decide)]
  rfl

theorem blocks_entries (entries : List Entry) {rest : List Char} (head : rest.head? ≠ some '\t') :
    blocks (lines ((entries.flatMap fun entry =>
      (entryLine entry.number entry.text).toList) ++ rest)) =
      ([], entries.map blockOf ++ (blocks (lines rest)).2) := by
  induction entries with
  | nil =>
    have apart : ∀ line ∈ (lines rest).head?, line.head? ≠ some '\t' := by
      cases rest with
      | nil => simp
      | cons c cs =>
        have other : c ≠ '\t' := by simpa using head
        rw [lines_cons, head?_addToLines]
        rintro line first
        rw [← Option.some.inj first]
        split
        · simp
        · simpa using other
    exact Prod.ext (blocks_fst_nil apart) rfl
  | cons entry entries ih =>
    have solid : (blockOf entry).head.head? ≠ some '\t' := fun tab =>
      absurd (head?_decimal_append tab) (by decide)
    rw [List.flatMap_cons, List.append_assoc, lines_entryLine_append, blocks_head solid,
      blocks_tabbed, ih]
    simp [blockOf]

/-! ## Entries -/

/-- A word without a space is what comes before the first space of a line. -/
theorem split_word {word : List Char} (clean : ' ' ∉ word) (text : List Char) :
    (word ++ ' ' :: text).takeWhile (fun c => decide (c ≠ ' ')) = word ∧
      (word ++ ' ' :: text).dropWhile (fun c => decide (c ≠ ' ')) = ' ' :: text := by
  have inside : ∀ c ∈ word, decide (c ≠ ' ') = true := by
    intro c member
    refine decide_eq_true ?_
    rintro rfl
    exact clean member
  rw [List.takeWhile_append_of_pos inside, List.dropWhile_append_of_pos inside]
  simp

/-- What a block says depends on the numeral in front of its first space. -/
theorem entry_of_word {word : List Char} (clean : ' ' ∉ word) (line : Nat) (text : List Char)
    (continuation : List (List Char)) :
    Block.entry line ⟨word ++ ' ' :: text, continuation⟩ =
      match numeral? word with
      | none => .error (.invalidNumber (String.ofList word) line)
      | some n => .ok ⟨n, String.ofList (joinLines text continuation)⟩ := by
  obtain ⟨number, behind⟩ := split_word clean text
  unfold Block.entry
  cases read : numeral? word with
  | none => simp only [behind, number, read]
  | some n => simp only [behind, number, read]

theorem entry_blockOf (line : Nat) (entry : Entry) : (blockOf entry).entry line = .ok entry := by
  rw [blockOf, entry_of_word (space_not_mem fun _ => isDigit_of_mem_decimal), numeral?_decimal]
  simp only [joinLines_firstLine, String.ofList_toList]

/-- Lines that start with an unreadable number cannot be read. -/
theorem entriesFrom_of_unreadable {word : List Char} (numeral : ∀ c ∈ word, c.isDigit)
    (present : word ≠ []) (unreadable : numeral? word = none) (text : List Char) (next : Nat) :
    ∃ fault, entriesFrom next (blocks (lines (word ++ ' ' :: text))).2 = .error fault := by
  obtain ⟨line, others, split⟩ : ∃ line others, lines (' ' :: text) = (' ' :: line) :: others := by
    rw [lines_cons]
    cases lines text with
    | nil => exact ⟨[], [], addToLines_nil (by decide)⟩
    | cons line others => exact ⟨line, others, addToLines_cons (by decide) line others⟩
  have solid : (word ++ ' ' :: line).head? ≠ some '\t' := by
    cases word with
    | nil => exact absurd rfl present
    | cons c rest =>
      intro tabbed
      rw [List.cons_append, List.head?_cons, Option.some.injEq] at tabbed
      have digit := numeral c List.mem_cons_self
      rw [tabbed] at digit
      exact absurd digit (by decide)
  refine ⟨.invalidNumber (String.ofList word) next, ?_⟩
  rw [lines_append_of_clean (break_not_mem numeral) split, blocks_head solid, entriesFrom,
    entry_of_word (space_not_mem numeral), unreadable]

theorem entriesFrom_blockOf (entries : List Entry) (more : List Block) (line : Nat) :
    ∃ next, entriesFrom line (entries.map blockOf ++ more) =
      match entriesFrom next more with
      | .error fault => .error fault
      | .ok others => .ok (entries ++ others) := by
  induction entries generalizing line with
  | nil =>
    refine ⟨line, ?_⟩
    simp only [List.map_nil, List.nil_append]
    cases entriesFrom line more <;> rfl
  | cons entry entries ih =>
    obtain ⟨next, read⟩ := ih (line + 1 + (blockOf entry).continuation.length)
    refine ⟨next, ?_⟩
    rw [List.map_cons, List.cons_append, entriesFrom, entry_blockOf]
    simp only [read]
    cases entriesFrom next more <;> rfl

/-! ## Whole files -/

namespace Contents

theorem toList_render (contents : Contents) :
    contents.render.toList = fold contents.description.toList ++ '\n' ::
      contents.entries.flatMap fun entry => (entryLine entry.number entry.text).toList := by
  simp [render, descriptionLine]

/-- What follows behind the file of a sheet is read on its own: either it holds more entries, or the
fault in it is reported. -/
theorem parse_render_append (contents : Contents) {rest : String}
    (head : rest.toList.head? ≠ some '\t') :
    ∃ next, parse (contents.render ++ rest) =
      match entriesFrom next (blocks (lines rest.toList)).2 with
      | .error fault => .error fault
      | .ok others => .ok ⟨contents.description, contents.entries ++ others⟩ := by
  have split : lines (contents.render ++ rest).toList =
      firstLine contents.description.toList ::
        ((otherLines contents.description.toList).map ('\t' :: ·) ++
          lines ((contents.entries.flatMap fun entry =>
            (entryLine entry.number entry.text).toList) ++ rest.toList)) := by
    rw [String.toList_append, toList_render, List.append_assoc, List.cons_append,
      lines_fold_append]
  have grouped := blocks_entries contents.entries head
  obtain ⟨next, read⟩ := entriesFrom_blockOf contents.entries (blocks (lines rest.toList)).2
    (2 + (otherLines contents.description.toList).length)
  refine ⟨next, ?_⟩
  unfold parse
  rw [split]
  simp only [blocks_tabbed, grouped, List.append_nil, read]
  cases entriesFrom next (blocks (lines rest.toList)).2 with
  | error fault => rfl
  | ok others => simp [joinLines_firstLine]

theorem parse_render (contents : Contents) : parse contents.render = .ok contents := by
  have ends : "".toList.head? ≠ some '\t' := by simp
  obtain ⟨next, read⟩ := contents.parse_render_append ends
  rw [String.append_empty] at read
  rw [read]
  simp [entriesFrom]

example : parse (render ⟨"\t\n1 x", [⟨7, "\n\t"⟩, ⟨0, "8 y\n"⟩]⟩) =
    .ok ⟨"\t\n1 x", [⟨7, "\n\t"⟩, ⟨0, "8 y\n"⟩]⟩ := parse_render _

end Contents

end SheetCabinet
