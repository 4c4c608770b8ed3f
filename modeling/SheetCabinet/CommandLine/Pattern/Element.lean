import SheetCabinet.Text.Blank
import SheetCabinet.Text.Hexadecimal

/-!
# Elements of patterns

The smallest parts of a pattern: a character, which may be given by its code point, a shorthand
for a class of characters, any character at all, and places between characters.

Whether an element can be used depends on the switches. No tables of Unicode are at hand, so what
would need one (a shorthand, the edge of a word, a letter in either case) can only be used where the
pattern is limited to ASCII. There, on the other hand, nothing can be used that would match a part
of a character beyond ASCII.

Results:
* passing over white space and comments, and reading an element use up no more than there is
  (`length_skip_le`, `length_of_readElement`).
-/

namespace SheetCabinet.CommandLine.Pattern

/-! ## Switches -/

/-- The switches that bear on whether a pattern can be used. -/
structure Modes where
  /-- Whether a letter stands for both of its cases. -/
  caseless : Bool := false
  /-- Whether the pattern is about all characters, and not limited to ASCII. -/
  unicode : Bool := true
  /-- Whether white space and comments may stand between the elements. -/
  spaced : Bool := false
deriving DecidableEq, Repr

/-- The text without the white space and comments in front of it. A comment goes from a number sign
to the end of the line. -/
def dropRemarks (inComment : Bool) : List Char → List Char
  | [] => []
  | c :: rest =>
    if inComment then dropRemarks (c ≠ '\n') rest
    else if c = '#' then dropRemarks true rest
    else if isBlank c then dropRemarks false rest
    else c :: rest

/-- The text from where the next element starts. -/
def Modes.skip (modes : Modes) (text : List Char) : List Char :=
  if modes.spaced then dropRemarks false text else text

theorem length_dropRemarks_le (inComment : Bool) (text : List Char) :
    (dropRemarks inComment text).length ≤ text.length := by
  induction text generalizing inComment with
  | nil => simp [dropRemarks]
  | cons c rest ih =>
    unfold dropRemarks
    split
    · exact Nat.le_succ_of_le (ih _)
    · split
      · exact Nat.le_succ_of_le (ih _)
      · split
        · exact Nat.le_succ_of_le (ih _)
        · exact Nat.le_refl _

theorem length_skip_le (modes : Modes) (text : List Char) :
    (modes.skip text).length ≤ text.length := by
  unfold Modes.skip
  split
  · exact length_dropRemarks_le _ _
  · exact Nat.le_refl _

/-! ## Elements -/

inductive Element
  /-- A character, and whether it was given by two digits, as a byte. -/
  | character (c : Char) (byte : Bool)
  /-- A letter that stands for the digits, the white space or the word characters, or for all
  others. -/
  | shorthand (negated : Bool)
  | anyCharacter
  /-- The beginning or the end of a line or of the text. -/
  | edge
  /-- A place where a word begins or ends, or where none does. -/
  | wordEdge
deriving DecidableEq, Repr

namespace Element

def allowed (modes : Modes) : Element → Bool
  | .character c byte =>
    if modes.unicode then !modes.caseless else !byte || c.toNat < 128
  | .shorthand negated => !modes.unicode && !negated
  | .anyCharacter => modes.unicode
  | .edge => true
  | .wordEdge => !modes.unicode

def isMember (modes : Modes) : Element → Bool
  | .character c _ => if modes.unicode then !modes.caseless else c.toNat < 128
  | .shorthand negated => !modes.unicode && !negated
  | _ => false

def isRange (modes : Modes) (first last : Element) : Bool :=
  match first, last with
  | .character a _, .character b _ => a ≤ b && first.isMember modes && last.isMember modes
  | _, _ => false

end Element

/-! ## Reading -/

def codeLength? (c : Char) : Option Nat :=
  if c = 'x' then some 2 else if c = 'u' then some 4 else if c = 'U' then some 8 else none

/-- Reads a code point of which so many digits are still to come, and the character that it is. -/
def readCode (modes : Modes) (value : Nat) : Nat → List Char → Option (Char × List Char)
  | 0, text => if value.isValidChar then some (Char.ofNat value, text) else none
  | digits + 1, text =>
    match modes.skip text with
    | [] => none
    | c :: rest =>
      match hexValue? c with
      | some digit => readCode modes (value * 16 + digit) digits rest
      | none => none

/-- The letters that stand for control characters. -/
def controls : List (Char × Char) :=
  [('a', '\x07'), ('f', '\x0c'), ('t', '\t'), ('n', '\n'), ('r', '\r'), ('v', '\x0b')]

/-- What a backslash and a letter or a sign stand for. -/
def escaped? (c : Char) : Option Element :=
  if "dsw".toList.contains c then some (.shorthand false)
  else if "DSW".toList.contains c then some (.shorthand true)
  else if "Az".toList.contains c then some .edge
  else if "bB<>".toList.contains c then some .wordEdge
  else match controls.lookup c with
    | some control => some (.character control false)
    | none => if c.toNat < 128 && !c.isAlphanum then some (.character c false) else none

def readEscape (modes : Modes) : List Char → Option (Element × List Char)
  | [] => none
  | c :: rest =>
    match codeLength? c with
    | some digits =>
      (readCode modes 0 digits rest).map fun (d, after) => (.character d (c = 'x'), after)
    | none => (escaped? c).map fun element => (element, rest)

/-- Reads an element of a class that starts with a character. -/
def readMember (modes : Modes) (c : Char) (rest : List Char) : Option (Element × List Char) :=
  if c = '\\' then readEscape modes rest else some (.character c false, rest)

/-- Reads an element that starts with a character and is in no class. -/
def readElement (modes : Modes) (c : Char) (rest : List Char) : Option (Element × List Char) :=
  if c = '.' then some (.anyCharacter, rest)
  else if c = '^' || c = '$' then some (.edge, rest)
  else readMember modes c rest

theorem length_of_readCode {modes : Modes} {value digits : Nat} {text rest : List Char} {c : Char}
    (read : readCode modes value digits text = some (c, rest)) : rest.length ≤ text.length := by
  induction digits generalizing value text with
  | zero =>
    rw [readCode] at read
    split at read <;> cases read
    exact Nat.le_refl _
  | succ digits ih =>
    rw [readCode] at read
    have shorter := length_skip_le modes text
    split at read
    · cases read
    · rename_i d after start
      rw [start, List.length_cons] at shorter
      split at read
      · have later := ih read
        omega
      · cases read

theorem length_of_readMember {modes : Modes} {c : Char} {text rest : List Char} {element : Element}
    (read : readMember modes c text = some (element, rest)) : rest.length ≤ text.length := by
  unfold readMember at read
  split at read
  · unfold readEscape at read
    split at read
    · cases read
    · split at read
      · obtain ⟨⟨d, after⟩, code, equal⟩ := Option.map_eq_some_iff.1 read
        cases equal
        exact Nat.le_succ_of_le (length_of_readCode code)
      · obtain ⟨_, _, equal⟩ := Option.map_eq_some_iff.1 read
        cases equal
        exact Nat.le_succ _
  · cases read
    exact Nat.le_refl _

theorem length_of_readElement {modes : Modes} {c : Char} {text rest : List Char} {element : Element}
    (read : readElement modes c text = some (element, rest)) : rest.length ≤ text.length := by
  unfold readElement at read
  split at read
  · cases read
    exact Nat.le_refl _
  · split at read
    · cases read
      exact Nat.le_refl _
    · exact length_of_readMember read

example : ({ spaced := true } : Modes).skip " # a\n  b c".toList = "b c".toList := by decide
example : readMember {} '\\' "x41b".toList = some (.character 'A' true, ['b']) := by decide
example : readMember {} '\\' "ud800".toList = none ∧ readMember {} '\\' ['é'] = none := by decide

end SheetCabinet.CommandLine.Pattern
