import SheetCabinet.Json.Quoted

/-!
# Tokens of JSON

A JSON text is a row of tokens with blanks between them. A number is known to be well formed and
nothing more, since no number is ever asked for.

Results:
* every token uses up at least one character (`length_of_nextToken`);
* a quoted text is one token, whatever follows (`nextToken_quoted`);
* blanks in front of a text change no token of it (`readTokens_blank`).
-/

namespace SheetCabinet.Json

inductive Token
  | openArray
  | closeArray
  | openObject
  | closeObject
  | comma
  | colon
  | null
  | bool (value : Bool)
  | number
  /-- A string, with its text if it is one. -/
  | string (text : Option String)
deriving DecidableEq, Repr

/-- What may stand between tokens. -/
def isGap (c : Char) : Bool := c = ' ' || c = '\n' || c = '\t' || c = '\r'

/-! ## Numbers -/

/-- What comes after one digit or more. -/
def afterDigits : List Char → Option (List Char)
  | [] => none
  | c :: rest => if c.isDigit then some (rest.dropWhile Char.isDigit) else none

/-- What comes after a number without sign and fraction: a zero, or digits that start with another
digit. -/
def afterWhole : List Char → Option (List Char)
  | [] => none
  | c :: rest => if c = '0' then some rest else afterDigits (c :: rest)

/-- What comes after a fraction, if there is one. -/
def afterFraction : List Char → Option (List Char)
  | [] => some []
  | c :: rest => if c = '.' then afterDigits rest else some (c :: rest)

/-- What comes after the sign of an exponent, if there is one. -/
def afterSign : List Char → List Char
  | [] => []
  | c :: rest => if c = '+' ∨ c = '-' then rest else c :: rest

/-- What comes after an exponent, if there is one. -/
def afterExponent : List Char → Option (List Char)
  | [] => some []
  | c :: rest => if c = 'e' ∨ c = 'E' then afterDigits (afterSign rest) else some (c :: rest)

def afterNumber (text : List Char) : Option (List Char) :=
  let whole := if text.head? = some '-' then text.tail else text
  ((afterWhole whole).bind afterFraction).bind afterExponent

/-! ## One token -/

def mark? (c : Char) : Option Token :=
  if c = '[' then some .openArray
  else if c = ']' then some .closeArray
  else if c = '\x7b' then some .openObject
  else if c = '\x7d' then some .closeObject
  else if c = ',' then some .comma
  else if c = ':' then some .colon
  else none

def words : List (List Char × Token) :=
  [("null".toList, .null), ("true".toList, .bool true), ("false".toList, .bool false)]

def nextWord (text : List Char) : Option (Token × List Char) :=
  (words.find? fun word => word.1.isPrefixOf text).map fun word =>
    (word.2, text.drop word.1.length)

def nextToken : List Char → Option (Token × List Char)
  | [] => none
  | c :: rest =>
    match mark? c with
    | some token => some (token, rest)
    | none =>
      if c = '"' then
        match readPieces [] rest with
        | some (pieces, after) => some (.string ((textOf? pieces).map String.ofList), after)
        | none => none
      else if c = '-' ∨ c.isDigit then (afterNumber (c :: rest)).map fun after => (.number, after)
      else nextWord (c :: rest)

theorem length_dropWhile_le (test : Char → Bool) (text : List Char) :
    (text.dropWhile test).length ≤ text.length := (List.dropWhile_sublist test).length_le

theorem length_of_afterDigits {text rest : List Char} (read : afterDigits text = some rest) :
    rest.length < text.length := by
  unfold afterDigits at read
  split at read
  · cases read
  · split at read
    · cases read
      exact Nat.lt_succ_of_le (length_dropWhile_le _ _)
    · cases read

theorem length_of_afterWhole {text rest : List Char} (read : afterWhole text = some rest) :
    rest.length < text.length := by
  unfold afterWhole at read
  split at read
  · cases read
  · split at read
    · cases read
      simp
    · exact length_of_afterDigits read

theorem length_of_afterFraction {text rest : List Char} (read : afterFraction text = some rest) :
    rest.length ≤ text.length := by
  unfold afterFraction at read
  split at read
  · cases read
    exact Nat.le_refl _
  · split at read
    · exact Nat.le_succ_of_le (Nat.le_of_lt (length_of_afterDigits read))
    · cases read
      exact Nat.le_refl _

theorem length_afterSign (text : List Char) : (afterSign text).length ≤ text.length := by
  unfold afterSign
  split
  · exact Nat.le_refl _
  · split <;> simp

theorem length_of_afterExponent {text rest : List Char} (read : afterExponent text = some rest) :
    rest.length ≤ text.length := by
  unfold afterExponent at read
  split at read
  · cases read
    exact Nat.le_refl _
  · rename_i c more
    split at read
    · have shorter := length_of_afterDigits read
      have sign := length_afterSign more
      simp only [List.length_cons]
      omega
    · cases read
      exact Nat.le_refl _

theorem length_of_afterNumber {text rest : List Char} (read : afterNumber text = some rest) :
    rest.length < text.length := by
  unfold afterNumber at read
  obtain ⟨middle, fraction, exponent⟩ := Option.bind_eq_some_iff.1 read
  obtain ⟨start, whole, fraction⟩ := Option.bind_eq_some_iff.1 fraction
  have first := length_of_afterWhole whole
  have second := length_of_afterFraction fraction
  have third := length_of_afterExponent exponent
  have unsigned : (if text.head? = some '-' then text.tail else text).length ≤ text.length := by
    split <;> simp
  omega

theorem length_of_nextWord {text rest : List Char} {token : Token}
    (read : nextWord text = some (token, rest)) : rest.length < text.length := by
  obtain ⟨word, found, equal⟩ := Option.map_eq_some_iff.1 read
  cases equal
  have listed := List.mem_of_find?_eq_some found
  have starts := List.find?_some found
  have inside := (List.isPrefixOf_iff_prefix.1 starts).length_le
  have written : 0 < word.1.length := by
    have all : ∀ other ∈ words, 0 < other.1.length := by decide +kernel
    exact all word listed
  rw [List.length_drop]
  omega

theorem length_of_nextToken {text rest : List Char} {token : Token}
    (read : nextToken text = some (token, rest)) : rest.length < text.length := by
  unfold nextToken at read
  split at read
  · cases read
  · split at read
    · cases read
      simp
    · split at read
      · split at read
        · rename_i pieces after found
          cases read
          exact Nat.lt_succ_of_lt (length_of_readPieces found)
        · cases read
      · split at read
        · obtain ⟨_, number, equal⟩ := Option.map_eq_some_iff.1 read
          cases equal
          exact length_of_afterNumber number
        · exact length_of_nextWord read

theorem nextToken_quoted (text rest : List Char) :
    nextToken (quoted text ++ rest) = some (.string (some (String.ofList text)), rest) := by
  have mark : mark? '"' = none := by decide
  simp [quoted, nextToken, mark, readPieces_quoted]

/-! ## All tokens -/

def readTokens (before : List Token) (text : List Char) : Option (List Token) :=
  if text.dropWhile isGap = [] then some before.reverse
  else match _read : nextToken (text.dropWhile isGap) with
    | none => none
    | some (token, rest) => readTokens (token :: before) rest
termination_by text.length
decreasing_by exact Nat.lt_of_lt_of_le (length_of_nextToken _read) (length_dropWhile_le _ _)

def tokens? (text : List Char) : Option (List Token) := readTokens [] text

theorem readTokens_nil (before : List Token) : readTokens before [] = some before.reverse := by
  unfold readTokens
  simp

theorem readTokens_blank {c : Char} (gap : isGap c = true) (before : List Token)
    (text : List Char) : readTokens before (c :: text) = readTokens before text := by
  have same : (c :: text).dropWhile isGap = text.dropWhile isGap := by simp [gap]
  rw [readTokens, readTokens, same]

theorem readTokens_of_nextToken {c : Char} {text rest : List Char} {token : Token}
    (solid : isGap c = false) (read : nextToken (c :: text) = some (token, rest))
    (before : List Token) :
    readTokens before (c :: text) = readTokens (token :: before) rest := by
  have same : (c :: text).dropWhile isGap = c :: text := by simp [solid]
  rw [readTokens, if_neg (by simp [same])]
  split
  · rename_i failed
    rw [same, read] at failed
    cases failed
  · rename_i found
    rw [same, read] at found
    cases found
    rfl

example : tokens? "[-0.5e+1, \"a\"]".toList =
    some [.openArray, .number, .comma, .string (some "a"), .closeArray] := by decide +kernel
example : tokens? "1.".toList = none ∧ tokens? "nul".toList = none := by decide +kernel

end SheetCabinet.Json
