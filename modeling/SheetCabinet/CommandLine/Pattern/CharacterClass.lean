import SheetCabinet.CommandLine.Pattern.Element
import SheetCabinet.CommandLine.Pattern.Nesting

/-!
# Classes of characters

Between square brackets stand the members of a class: characters, ranges, shorthands, named classes
such as `[:alpha:]`, and classes again. A circumflex at the beginning stands for all others, and
two classes can be combined by `&&`, `--` or `~~`. Hyphens at the beginning are members, and so is
a closing bracket, if it comes first.

Results:
* reading a member uses up no more than there is (`length_of_step`).
-/

namespace SheetCabinet.CommandLine.Pattern

/-- How far the beginning of a class has been read. -/
inductive Opened
  /-- Nothing but the bracket. -/
  | bracket
  /-- The bracket and the circumflex. -/
  | negated
  /-- Hyphens behind them, and nothing else. -/
  | hyphens
  | members
deriving DecidableEq, Repr

structure OpenClass where
  opened : Opened := .bracket
  /-- How deep the class is nested that the one being read is to be combined with. -/
  combined : Option Nat := none
  /-- How deep the members are nested that were read. -/
  members : List Nat := []
deriving DecidableEq, Repr

def classNames : List String :=
  ["alnum", "alpha", "ascii", "blank", "cntrl", "digit", "graph", "lower", "print", "punct",
   "space", "upper", "word", "xdigit"]

/-- Reads the name of a class and the sign and the bracket behind it: what comes after them. -/
def afterName (text : List Char) : Option (List Char) :=
  match text.dropWhile (· ≠ ':') with
  | ':' :: ']' :: rest =>
    if classNames.contains (String.ofList (text.takeWhile (· ≠ ':'))) then some rest else none
  | _ => none

/-- Reads what follows a bracket that opens the name of a class: whether all other characters are
meant, and what comes after the name. -/
def named? : List Char → Option (Bool × List Char)
  | ':' :: '^' :: text => (afterName text).map fun rest => (true, rest)
  | ':' :: text => (afterName text).map fun rest => (false, rest)
  | _ => none

/-- Whether a class can be used that stands for all characters but some. -/
def Modes.allowsClass (modes : Modes) (negated : Bool) : Bool := modes.unicode || !negated

/-- Whether a named class can be used. -/
def Modes.allowsNamed (modes : Modes) (negated : Bool) : Bool :=
  if modes.unicode then !modes.caseless else !negated

/-- The next character that is looked at to see whether a hyphen makes a range. Of a comment only
its sign is passed over here. -/
def ahead (modes : Modes) (text : List Char) : Option Char :=
  if modes.spaced then
    match text.dropWhile isBlank with
    | '#' :: rest => (rest.dropWhile isBlank).head?
    | rest => rest.head?
  else text.head?

/-- Whether a hyphen in front of a character is just a hyphen. -/
def endsMember (next : Option Char) : Bool := next = some ']' || next = some '-'

/-- Reads a member that starts with a character: an element, or a range. What comes after it. -/
def readRange (modes : Modes) (c : Char) (rest : List Char) : Option (List Char) :=
  match readMember modes c rest with
  | none => none
  | some (first, after) =>
    match modes.skip after with
    | [] => none
    | sign :: more =>
      if sign ≠ '-' || endsMember (ahead modes more) then
        if first.isMember modes then some (sign :: more) else none
      else
        match modes.skip more with
        | [] => none
        | d :: others =>
          match readMember modes d others with
          | none => none
          | some (last, after) => if first.isRange modes last then some after else none

namespace OpenClass

/-- One more member, as deep as said. -/
def add (inner : OpenClass) (depth : Nat) : OpenClass :=
  { inner with opened := .members, members := depth :: inner.members }

def depth (inner : OpenClass) : Nat :=
  match inner.combined with
  | none => joined inner.members
  | some other => 1 + max other (joined inner.members)

/-- Goes on with the class that the one read so far is to be combined with. -/
def combine (inner : OpenClass) : OpenClass :=
  { opened := .members, combined := some inner.depth, members := [] }

def closes (inner : OpenClass) : Bool := inner.opened = .hyphens || inner.opened = .members

/-- A bracket or hyphen at the beginning, which is a member. -/
def addSign (inner : OpenClass) (modes : Modes) (c : Char) (opened : Opened) : Option OpenClass :=
  if (Element.character c false).isMember modes then some { inner.add 0 with opened := opened }
  else none

/-- Reads one more member, or what stands between members: what starts with a character and opens
or closes no class. -/
def step (inner : OpenClass) (modes : Modes) (c : Char) (rest : List Char) :
    Option (OpenClass × List Char) :=
  if c = '^' && inner.opened = .bracket then
    if modes.allowsClass true then some ({ inner with opened := .negated }, rest) else none
  else if c = '-' && inner.opened ≠ .members then
    (inner.addSign modes c .hyphens).map fun inner => (inner, rest)
  else if c = ']' then (inner.addSign modes c .members).map fun inner => (inner, rest)
  else if "&-~".toList.contains c && rest.head? = some c then some (inner.combine, rest.tail)
  else (readRange modes c rest).map fun rest => (inner.add 0, rest)

end OpenClass

theorem length_of_afterName {text rest : List Char} (read : afterName text = some rest) :
    rest.length ≤ text.length := by
  have shorter := (List.dropWhile_sublist (· ≠ ':') (l := text)).length_le
  unfold afterName at read
  split at read
  · rename_i after equal
    rw [equal] at shorter
    simp only [List.length_cons] at shorter
    split at read <;> cases read
    omega
  · cases read

theorem length_of_named? {text rest : List Char} {negated : Bool}
    (read : named? text = some (negated, rest)) : rest.length ≤ text.length := by
  unfold named? at read
  split at read
  · obtain ⟨_, name, equal⟩ := Option.map_eq_some_iff.1 read
    cases equal
    have shorter := length_of_afterName name
    simp only [List.length_cons]
    omega
  · obtain ⟨_, name, equal⟩ := Option.map_eq_some_iff.1 read
    cases equal
    exact Nat.le_succ_of_le (length_of_afterName name)
  · cases read

theorem length_of_readRange {modes : Modes} {c : Char} {text rest : List Char}
    (read : readRange modes c text = some rest) : rest.length ≤ text.length := by
  unfold readRange at read
  split at read
  · cases read
  · rename_i first after start
    have one := length_of_readMember start
    have two := length_skip_le modes after
    split at read
    · cases read
    · rename_i sign more next
      rw [next, List.length_cons] at two
      split at read
      · split at read
        · cases read
          simp only [List.length_cons]
          omega
        · cases read
      · have three := length_skip_le modes more
        split at read
        · cases read
        · rename_i d others second
          rw [second, List.length_cons] at three
          split at read
          · cases read
          · rename_i last after ending
            have four := length_of_readMember ending
            split at read <;> cases read
            omega

namespace OpenClass

theorem length_of_step {inner after : OpenClass} {modes : Modes} {c : Char} {text rest : List Char}
    (read : inner.step modes c text = some (after, rest)) : rest.length ≤ text.length := by
  unfold step at read
  split at read
  · split at read <;> cases read
    exact Nat.le_refl _
  · split at read
    · obtain ⟨_, _, equal⟩ := Option.map_eq_some_iff.1 read
      cases equal
      exact Nat.le_refl _
    · split at read
      · obtain ⟨_, _, equal⟩ := Option.map_eq_some_iff.1 read
        cases equal
        exact Nat.le_refl _
      · split at read
        · cases read
          simp
        · obtain ⟨_, range, equal⟩ := Option.map_eq_some_iff.1 read
          cases equal
          exact length_of_readRange range

end OpenClass

example : readRange {} 'a' "-z]".toList = some [']'] ∧ readRange {} 'z' "-a]".toList = none := by
  decide
example : named? ":alpha:]".toList = some (false, []) ∧ named? ":other:]".toList = none := by
  decide

end SheetCabinet.CommandLine.Pattern
