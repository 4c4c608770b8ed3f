import SheetCabinet.Text.Hexadecimal

/-!
# Quoted strings of JSON

A string is written between double quotes, with a backslash in front of quotes and backslashes and
short names or code points for control characters. When it is read, code points come as 16-bit
units, of which a high and a low surrogate together make one character. A surrogate on its own is
well formed but stands for no character, so that a string with one in it is no text.

Results:
* what is written is read back, whatever follows (`readPieces_quoted`);
* reading uses up at least the closing quote (`length_of_readPieces`).
-/

namespace SheetCabinet.Json

/-! ## Writing -/

/-- The short name that a backslash gives to a character, if it has one. -/
def shortName (c : Char) : Option Char :=
  if c = '"' ∨ c = '\\' then some c
  else if c = '\x08' then some 'b'
  else if c = '\x0c' then some 'f'
  else if c = '\n' then some 'n'
  else if c = '\r' then some 'r'
  else if c = '\t' then some 't'
  else none

def quoteChar (c : Char) : List Char :=
  match shortName c with
  | some name => ['\\', name]
  | none =>
    if c.toNat < 32 then
      ['\\', 'u', '0', '0', hexDigit (c.toNat / 16), hexDigit (c.toNat % 16)]
    else [c]

def quoted (text : List Char) : List Char := '"' :: (text.flatMap quoteChar ++ ['"'])

/-! ## Reading -/

def unit? (a b c d : Char) : Option Nat :=
  match hexValue? a, hexValue? b, hexValue? c, hexValue? d with
  | some a, some b, some c, some d => some (((a * 16 + b) * 16 + c) * 16 + d)
  | _, _, _, _ => none

/-- Reads a backslash, the letter that announces a code point, and four digits: the 16-bit unit,
and what comes after it. -/
def readUnit : List Char → Option (Nat × List Char)
  | s :: u :: a :: b :: c :: d :: rest =>
    if s = '\\' ∧ u = 'u' then (unit? a b c d).map fun unit => (unit, rest) else none
  | _ => none

/-- The character that a backslash and a short name stand for. -/
def named? (c : Char) : Option Char :=
  if c = '"' ∨ c = '\\' ∨ c = '/' then some c
  else if c = 'b' then some '\x08'
  else if c = 'f' then some '\x0c'
  else if c = 'n' then some '\n'
  else if c = 'r' then some '\r'
  else if c = 't' then some '\t'
  else none

/-- The first half of a character beyond the 16-bit ones. -/
def isHigh (unit : Nat) : Bool := 0xd800 ≤ unit && unit < 0xdc00

/-- The second half of a character beyond the 16-bit ones. -/
def isLow (unit : Nat) : Bool := 0xdc00 ≤ unit && unit < 0xe000

/-- The character that a unit starts, if it starts one, and what comes after it. -/
def characterAt (first : Nat) (after : List Char) : Option Char × List Char :=
  if isHigh first then
    match readUnit after with
    | some (second, more) =>
      if isLow second then
        (some (Char.ofNat (0x10000 + (first - 0xd800) * 0x400 + (second - 0xdc00))), more)
      else (none, after)
    | none => (none, after)
  else if isLow first then (none, after)
  else (some (Char.ofNat first), after)

/-- Reads what stands for one character between the quotes. The character is missing if it is half
of one, left alone. -/
def nextPiece : List Char → Option (Option Char × List Char)
  | [] => none
  | c :: rest =>
    if c = '"' then none
    else if c = '\\' then
      match readUnit (c :: rest) with
      | some (first, after) => some (characterAt first after)
      | none =>
        match rest with
        | [] => none
        | name :: after => (named? name).map fun character => (some character, after)
    else if c.toNat < 32 then none
    else some (some c, rest)

theorem length_of_readUnit {text rest : List Char} {unit : Nat}
    (read : readUnit text = some (unit, rest)) : rest.length < text.length := by
  unfold readUnit at read
  split at read
  · split at read
    · obtain ⟨_, _, equal⟩ := Option.map_eq_some_iff.1 read
      cases equal
      simp only [List.length_cons]
      omega
    · cases read
  · cases read

theorem length_characterAt (first : Nat) (after : List Char) :
    (characterAt first after).2.length ≤ after.length := by
  unfold characterAt
  split
  · split
    · rename_i second more read
      have shorter := length_of_readUnit read
      split
      · exact Nat.le_of_lt shorter
      · exact Nat.le_refl _
    · exact Nat.le_refl _
  · split <;> exact Nat.le_refl _

theorem length_of_nextPiece {text rest : List Char} {piece : Option Char}
    (read : nextPiece text = some (piece, rest)) : rest.length < text.length := by
  unfold nextPiece at read
  split at read
  · cases read
  · rename_i c after
    split at read
    · cases read
    · split at read
      · split at read
        · rename_i first more unit
          have shorter := length_of_readUnit unit
          have last := length_characterAt first more
          have same : (characterAt first more).2 = rest := by
            rw [Option.some.inj read]
          rw [same] at last
          omega
        · split at read
          · cases read
          · obtain ⟨_, _, equal⟩ := Option.map_eq_some_iff.1 read
            cases equal
            simp only [List.length_cons]
            omega
      · split at read
        · cases read
        · cases read
          simp

/-- Reads up to the closing quote: the pieces, after those that were read before, and what comes
after the quote. -/
def readPieces (before : List (Option Char)) (text : List Char) :
    Option (List (Option Char) × List Char) :=
  if text.head? = some '"' then some (before.reverse, text.tail)
  else match _read : nextPiece text with
    | none => none
    | some (piece, rest) => readPieces (piece :: before) rest
termination_by text.length
decreasing_by exact length_of_nextPiece _read

/-- The text that pieces make, if no half of a character is left alone. -/
def textOf? (pieces : List (Option Char)) : Option (List Char) :=
  if pieces.all Option.isSome then some (pieces.filterMap id) else none

theorem readPieces_quote (before : List (Option Char)) (rest : List Char) :
    readPieces before ('"' :: rest) = some (before.reverse, rest) := by
  unfold readPieces
  simp

theorem readPieces_of_nextPiece {text rest : List Char} {piece : Option Char}
    (read : nextPiece text = some (piece, rest)) (before : List (Option Char)) :
    readPieces before text = readPieces (piece :: before) rest := by
  have unclosed : text.head? ≠ some '"' := by
    intro closes
    cases text with
    | nil => cases closes
    | cons c rest =>
      cases closes
      simp [nextPiece] at read
  rw [readPieces, if_neg unclosed]
  split
  · rename_i failed
    rw [read] at failed
    cases failed
  · rename_i found
    rw [read] at found
    cases found
    rfl

theorem length_of_readPieces {before pieces : List (Option Char)} {text rest : List Char}
    (read : readPieces before text = some (pieces, rest)) : rest.length < text.length := by
  fun_induction readPieces before text with
  | case1 before text closes =>
    cases read
    cases text with
    | nil => cases closes
    | cons c cs => simp
  | case2 => cases read
  | case3 before text inside piece after found ih =>
    exact Nat.lt_trans (ih read) (length_of_nextPiece found)

/-! ## Reading what was written -/

theorem unit?_of_small {n : Nat} (small : n < 32) :
    unit? '0' '0' (hexDigit (n / 16)) (hexDigit (n % 16)) = some n := by
  have all : ∀ m : Fin 32,
      unit? '0' '0' (hexDigit (m.val / 16)) (hexDigit (m.val % 16)) = some m.val := by
    decide +kernel
  exact all ⟨n, small⟩

/-- Every short name is read as the character it was given to, and announces no code point. -/
theorem named?_of_shortName {c name : Char} (short : shortName c = some name) :
    named? name = some c ∧ name ≠ 'u' := by
  by_cases itself : c = '"' ∨ c = '\\'
  · rw [shortName, if_pos itself] at short
    cases short
    rcases itself with rfl | rfl <;> decide
  · rw [shortName, if_neg itself] at short
    repeat' split at short
    all_goals cases short
    all_goals
      subst_vars
      decide

theorem nextPiece_quoteChar (c : Char) (rest : List Char) :
    nextPiece (quoteChar c ++ rest) = some (some c, rest) := by
  unfold quoteChar
  cases short : shortName c with
  | some name =>
    obtain ⟨named, other⟩ := named?_of_shortName short
    have noUnit : readUnit ('\\' :: name :: rest) = none := by
      unfold readUnit
      split
      · rename_i equal
        cases equal
        simp [other]
      · rfl
    simp [nextPiece, noUnit, named]
  | none =>
    simp only
    by_cases small : c.toNat < 32
    · have high : isHigh c.toNat = false := by simp [isHigh]; omega
      have low : isLow c.toNat = false := by simp [isLow]; omega
      simp [small, nextPiece, readUnit, unit?_of_small small, characterAt, high, low,
        Char.ofNat_toNat]
    · have quote : c ≠ '"' := by
        rintro rfl
        simp [shortName] at short
      have slash : c ≠ '\\' := by
        rintro rfl
        simp [shortName] at short
      simp [small, nextPiece, quote, slash]

theorem readPieces_quoteChars (before : List (Option Char)) (text rest : List Char) :
    readPieces before (text.flatMap quoteChar ++ '"' :: rest) =
      some (before.reverse ++ text.map some, rest) := by
  induction text generalizing before with
  | nil => simp [readPieces_quote]
  | cons c cs ih =>
    rw [List.flatMap_cons, List.append_assoc, readPieces_of_nextPiece (nextPiece_quoteChar c _), ih]
    simp

theorem readPieces_quoted (text rest : List Char) :
    readPieces [] (text.flatMap quoteChar ++ '"' :: rest) = some (text.map some, rest) := by
  simp [readPieces_quoteChars]

@[simp] theorem textOf?_pieces (text : List Char) : textOf? (text.map some) = some text := by
  simp [textOf?, List.filterMap_map]

example : quoted "a\"\x01\n".toList = "\"a\\\"\\u0001\\n\"".toList := by decide +kernel
example : (readPieces [] "\\ud83d\\ude00\"".toList).bind (textOf? ·.1) = some ['😀'] := by
  decide +kernel
example : (readPieces [] "\\ud83d\"".toList).bind (textOf? ·.1) = none := by decide +kernel

end SheetCabinet.Json
