import SheetCabinet.Outcome
import SheetCabinet.Sheet.Contents

/-!
# Reading a sheet

The lines of a sheet's file fall into blocks: a line that does not start with a tab, and the lines
with a tab that follow it. The first line heads the description whatever it starts with; every
other head has to be a number, a space and text. The first line that is not so is reported, by its
number in the file.

Results:
* lines with a tab never end a block, and others always start one (`blocks_continuation`,
  `blocks_head`).
-/

namespace SheetCabinet

inductive SheetFault
  | missingDescription
  /-- The line has no space. -/
  | malformedEntry (line : Nat)
  /-- What comes before the first space of the line is not a number of an entry. -/
  | invalidNumber (number : String) (line : Nat)
deriving DecidableEq, Repr

namespace SheetFault

def message : SheetFault → String
  | missingDescription => "Sheet is missing its description line"
  | malformedEntry line => "Malformed entry on line " ++ showNumber line
  | invalidNumber number line =>
    "Invalid entry number '" ++ number ++ "' on line " ++ showNumber line

end SheetFault

/-! ## Blocks -/

/-- A line and the continuation lines that belong to it, these without their tabs. -/
structure Block where
  head : List Char
  continuation : List (List Char)
deriving DecidableEq, Repr

/-- One line put in front of lines that are already grouped. -/
def addToBlocks (line : List Char) (rest : List (List Char) × List Block) :
    List (List Char) × List Block :=
  match line with
  | '\t' :: more => (more :: rest.1, rest.2)
  | _ => ([], ⟨line, rest.1⟩ :: rest.2)

/-- The continuation lines that come first, and the blocks after them. -/
def blocks (ls : List (List Char)) : List (List Char) × List Block := ls.foldr addToBlocks ([], [])

def joinLines (first : List Char) (others : List (List Char)) : List Char :=
  first ++ others.flatMap ('\n' :: ·)

@[simp] theorem blocks_nil : blocks [] = ([], []) := rfl

@[simp] theorem blocks_continuation (line : List Char) (rest : List (List Char)) :
    blocks (('\t' :: line) :: rest) = (line :: (blocks rest).1, (blocks rest).2) := rfl

theorem blocks_head {line : List Char} (head : line.head? ≠ some '\t')
    (rest : List (List Char)) :
    blocks (line :: rest) = ([], ⟨line, (blocks rest).1⟩ :: (blocks rest).2) := by
  unfold blocks
  rw [List.foldr_cons, addToBlocks]
  rintro more rfl
  simp at head

/-! ## Reading -/

/-- The entry that a block holds; its head is on the given line. -/
def Block.entry (line : Nat) (block : Block) : Except SheetFault Entry :=
  match block.head.dropWhile (· ≠ ' ') with
  | [] => .error (.malformedEntry line)
  | _ :: text =>
    let number := block.head.takeWhile (· ≠ ' ')
    match numeral? number with
    | none => .error (.invalidNumber (String.ofList number) line)
    | some n => .ok ⟨n, String.ofList (joinLines text block.continuation)⟩

/-- The entries that the blocks hold, the first of which is headed by the given line. -/
def entriesFrom (line : Nat) : List Block → Except SheetFault (List Entry)
  | [] => .ok []
  | block :: rest =>
    match block.entry line with
    | .error fault => .error fault
    | .ok entry =>
      match entriesFrom (line + 1 + block.continuation.length) rest with
      | .error fault => .error fault
      | .ok entries => .ok (entry :: entries)

def Contents.parse (text : String) : Except SheetFault Contents :=
  match lines text.toList with
  | [] => .error .missingDescription
  | first :: rest =>
    let grouped := blocks rest
    match entriesFrom (2 + grouped.1.length) grouped.2 with
    | .error fault => .error fault
    | .ok entries => .ok ⟨String.ofList (joinLines first grouped.1), entries⟩

example : Contents.parse "d\n\tmore\n1 a\n\tb\n2 " = .ok ⟨"d\nmore", [⟨1, "a\nb"⟩, ⟨2, ""⟩]⟩ := by
  decide +kernel
example : Contents.parse "d\n\tmore\nx y" = .error (.invalidNumber "x" 3) := by decide +kernel

end SheetCabinet
