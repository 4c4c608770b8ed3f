import SheetCabinet.CommandLine.Pattern.Element
import SheetCabinet.Text.Alphabetic

/-!
# Openings of groups

Behind the parenthesis that opens a group there may be a question mark, and behind it a name for the
group, or switches for it. Switches that are closed in again by a parenthesis are for the rest of
the group around them.

Results:
* reading an opening uses up no more than there is (`length_of_readOpening`).
-/

namespace SheetCabinet.CommandLine.Pattern

inductive Opening
  /-- Switches for the rest of the group around. -/
  | switches (modes : Modes)
  /-- A group, its name and the switches inside. -/
  | group (name : Option (List Char)) (modes : Modes)
deriving DecidableEq, Repr

/-! ## Switches -/

def isSwitch (c : Char) : Bool := "imsUuxR".toList.contains c

/-- Whether switches are well formed: none comes twice, and those to be turned off stand behind a
minus sign. -/
def areSwitches (text : List Char) : Bool :=
  text.all (fun c => isSwitch c || c = '-') && text.Nodup && text.getLast? ≠ some '-'

def setting (text : List Char) (switch : Char) (before : Bool) : Bool :=
  if (text.takeWhile (· ≠ '-')).contains switch then true
  else if text.contains switch then false
  else before

/-- The switches with some of them set anew. -/
def Modes.set (modes : Modes) (text : List Char) : Modes where
  caseless := setting text 'i' modes.caseless
  unicode := setting text 'u' modes.unicode
  spaced := setting text 'x' modes.spaced

/-! ## Names -/

def isName : List Char → Bool
  | [] => false
  | c :: rest =>
    (c = '_' || isAlphabetic c) &&
      rest.all fun c => isAlphanumeric c || "_.[]".toList.contains c

/-! ## Reading -/

/-- Reads a name up to the sign that ends it. -/
def readName (modes : Modes) (text : List Char) : Option (Opening × List Char) :=
  let name := text.takeWhile (· ≠ '>')
  match text.dropWhile (· ≠ '>') with
  | [] => none
  | _ :: rest => if isName name then some (.group (some name) modes, rest) else none

/-- A character that ends switches. -/
def endsSwitches (c : Char) : Bool := c = ':' || c = ')'

/-- Reads switches up to the sign that ends them. -/
def readSwitches (modes : Modes) (text : List Char) : Option (Opening × List Char) :=
  let switches := text.takeWhile fun c => !endsSwitches c
  match text.dropWhile fun c => !endsSwitches c with
  | [] => none
  | c :: rest =>
    if !areSwitches switches then none
    else if c = ':' then some (.group none (modes.set switches), rest)
    else if switches = [] then none
    else some (.switches (modes.set switches), rest)

def readOpening (modes : Modes) (text : List Char) : Option (Opening × List Char) :=
  match modes.skip text with
  | '?' :: 'P' :: '<' :: rest => readName modes rest
  | '?' :: '<' :: rest => readName modes rest
  | '?' :: rest => readSwitches modes rest
  | rest => some (.group none modes, rest)

theorem length_of_readName {modes : Modes} {text rest : List Char} {opening : Opening}
    (read : readName modes text = some (opening, rest)) : rest.length ≤ text.length := by
  have shorter := (List.dropWhile_sublist (· ≠ '>') (l := text)).length_le
  unfold readName at read
  simp only at read
  split at read
  · cases read
  · rename_i sign after equal
    rw [equal, List.length_cons] at shorter
    split at read <;> cases read
    omega

theorem length_of_readSwitches {modes : Modes} {text rest : List Char} {opening : Opening}
    (read : readSwitches modes text = some (opening, rest)) : rest.length ≤ text.length := by
  have shorter := (List.dropWhile_sublist (fun c => !endsSwitches c) (l := text)).length_le
  unfold readSwitches at read
  simp only at read
  split at read
  · cases read
  · rename_i sign after equal
    rw [equal, List.length_cons] at shorter
    repeat' split at read
    all_goals cases read
    all_goals omega

theorem length_of_readOpening {modes : Modes} {text rest : List Char} {opening : Opening}
    (read : readOpening modes text = some (opening, rest)) : rest.length ≤ text.length := by
  have shorter := length_skip_le modes text
  unfold readOpening at read
  split at read
  · rename_i after equal
    rw [equal] at shorter
    have name := length_of_readName read
    simp only [List.length_cons] at shorter
    omega
  · rename_i after equal
    rw [equal] at shorter
    have name := length_of_readName read
    simp only [List.length_cons] at shorter
    omega
  · rename_i after _ _ equal
    rw [equal] at shorter
    have switches := length_of_readSwitches read
    simp only [List.length_cons] at shorter
    omega
  · cases read
    exact shorter

example : readOpening {} "?i-u:a)".toList =
    some (.group none { caseless := true, unicode := false }, ['a', ')']) := by decide
example : readOpening {} "?i-i)".toList = none ∧ readOpening {} "?-)".toList = none := by decide
example : readOpening {} "?P<a1>b)".toList = some (.group (some ['a', '1']) {}, ['b', ')']) := by
  decide +kernel

end SheetCabinet.CommandLine.Pattern
