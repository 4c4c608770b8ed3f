import SheetCabinet.CommandLine.Pattern.CharacterClass
import SheetCabinet.CommandLine.Pattern.Opening

/-!
# Patterns

The value that a directive asks of a field may be given by a pattern, a regular expression. No
event has a field with a value to compare, so it only matters whether a pattern can be used: whether
it is well formed, not nested too deep, and made of elements that the switches allow. It is read from
left to right, with the groups and the classes that are open kept on stacks. How often something is
repeated cannot be said by numbers, since a brace ends the field.
-/

namespace SheetCabinet.CommandLine.Pattern

structure Part where
  depth : Nat := 0
  /-- Whether it can be repeated, as switches cannot. -/
  repeatable : Bool := true
deriving DecidableEq, Repr

/-- What was read of a group, or of what is in no group. -/
structure Branches where
  /-- How deep the alternatives are nested that are finished. -/
  finished : List Nat := []
  /-- The parts of the alternative that is being read, the last one first. -/
  parts : List Part := []
deriving DecidableEq, Repr

namespace Branches

/-- One more part. -/
def add (branches : Branches) (part : Part) : Branches :=
  { branches with parts := part :: branches.parts }

def next (branches : Branches) : Branches where
  finished := joined (branches.parts.map Part.depth) :: branches.finished

/-- How deep all alternatives together are nested. -/
def depth (branches : Branches) : Nat := joined branches.next.finished

/-- The last part repeated, if there is one that can be. -/
def again? (branches : Branches) : Option Branches :=
  match branches.parts with
  | [] => none
  | last :: others =>
    if last.repeatable then
      some { branches with parts := { depth := 1 + last.depth } :: others }
    else none

end Branches

/-- A group that was interrupted by one inside it, and the switches that hold again behind that. -/
structure Interrupted where
  branches : Branches
  modes : Modes
deriving DecidableEq, Repr

/-- How far the reading of a pattern has come. -/
structure Progress where
  modes : Modes := {}
  /-- The names that groups were given. -/
  names : List (List Char) := []
  /-- The groups around the one that is being read, the innermost first. -/
  groups : List Interrupted := []
  /-- The classes that are open, the innermost first. -/
  classes : List OpenClass := []
  branches : Branches := {}
deriving DecidableEq, Repr

/-- A sign that repeats what is in front of it. -/
def repeats (c : Char) : Bool := c = '*' || c = '+' || c = '?'

namespace Progress

/-- One more part of the group. -/
def add (progress : Progress) (part : Part) : Progress :=
  { progress with branches := progress.branches.add part }

/-- What an opening parenthesis begins; a name can be given once only. -/
def enter (progress : Progress) : Opening → Option Progress
  | .switches modes => some ({ progress with modes := modes }.add { repeatable := false })
  | .group name modes =>
    if name.any progress.names.contains then none
    else some { progress with
      modes := modes
      names := name.toList ++ progress.names
      groups := ⟨progress.branches, progress.modes⟩ :: progress.groups
      branches := {} }

/-- Goes back to the group around the one that was read. -/
def leave? (progress : Progress) : Option Progress :=
  match progress.groups with
  | [] => none
  | outer :: groups =>
    some { progress with
      modes := outer.modes
      groups := groups
      branches := outer.branches.add { depth := 1 + progress.branches.depth } }

/-- Reads what follows a sign of repetition. A question mark behind it only says that as little as
possible is to be matched. -/
def repeatLast (progress : Progress) (rest : List Char) : Option (Progress × List Char) :=
  progress.branches.again?.map fun branches =>
    ({ progress with branches := branches }, if rest.head? = some '?' then rest.tail else rest)

def addElement (progress : Progress) (c : Char) (rest : List Char) :
    Option (Progress × List Char) :=
  match readElement progress.modes c rest with
  | some (element, after) =>
    if element.allowed progress.modes then some (progress.add {}, after) else none
  | none => none

/-- Reads what a character begins that is in no class. -/
def stepOutside (progress : Progress) (c : Char) (rest : List Char) :
    Option (Progress × List Char) :=
  if c = '(' then
    match readOpening progress.modes rest with
    | some (opening, after) => (progress.enter opening).map fun progress => (progress, after)
    | none => none
  else if c = ')' then progress.leave?.map fun progress => (progress, rest)
  else if c = '|' then some ({ progress with branches := progress.branches.next }, rest)
  else if c = '[' then some ({ progress with classes := [{}] }, rest)
  else if c = '\x7b' then none
  else if repeats c then progress.repeatLast rest
  else progress.addElement c rest

/-- Puts a class that is closed, as deep as said, to where it stands. -/
def closeClass (progress : Progress) (depth : Nat) : List OpenClass → Progress
  | [] => { progress with classes := [] }.add { depth := 1 + depth }
  | outer :: others => { progress with classes := outer.add (1 + depth) :: others }

/-- Reads what a bracket begins in a class: a named class, or a class of any kind. -/
def openClass (progress : Progress) (inner : OpenClass) (around : List OpenClass)
    (rest : List Char) : Option (Progress × List Char) :=
  match named? rest with
  | some (negated, after) =>
    if progress.modes.allowsNamed negated then
      some ({ progress with classes := inner.add 0 :: around }, after)
    else none
  | none => some ({ progress with classes := {} :: inner :: around }, rest)

/-- Reads what a character begins in a class. -/
def stepInside (progress : Progress) (inner : OpenClass) (around : List OpenClass) (c : Char)
    (rest : List Char) : Option (Progress × List Char) :=
  if c = ']' && inner.closes then some (progress.closeClass inner.depth around, rest)
  else if c = '[' then progress.openClass inner around rest
  else
    (inner.step progress.modes c rest).map fun (inner, after) =>
      ({ progress with classes := inner :: around }, after)

/-- Reads what a character begins. -/
def step (progress : Progress) (c : Char) (rest : List Char) : Option (Progress × List Char) :=
  match progress.classes with
  | [] => progress.stepOutside c rest
  | inner :: around => progress.stepInside inner around c rest

def isEnd (progress : Progress) : Bool :=
  progress.groups.isEmpty && progress.classes.isEmpty && progress.branches.depth ≤ deepest

theorem length_of_repeatLast {progress after : Progress} {text rest : List Char}
    (read : progress.repeatLast text = some (after, rest)) : rest.length ≤ text.length := by
  obtain ⟨_, _, equal⟩ := Option.map_eq_some_iff.1 read
  have same := (Prod.mk.inj equal).2
  rw [← same]
  split
  · simp
  · exact Nat.le_refl _

theorem length_of_addElement {progress after : Progress} {c : Char} {text rest : List Char}
    (read : progress.addElement c text = some (after, rest)) : rest.length ≤ text.length := by
  unfold addElement at read
  split at read
  · rename_i found
    split at read <;> cases read
    exact length_of_readElement found
  · cases read

theorem length_of_stepOutside {progress after : Progress} {c : Char} {text rest : List Char}
    (read : progress.stepOutside c text = some (after, rest)) : rest.length ≤ text.length := by
  unfold stepOutside at read
  split at read
  · split at read
    · rename_i found
      obtain ⟨_, _, equal⟩ := Option.map_eq_some_iff.1 read
      cases equal
      exact length_of_readOpening found
    · cases read
  · split at read
    · obtain ⟨_, _, equal⟩ := Option.map_eq_some_iff.1 read
      cases equal
      exact Nat.le_refl _
    · repeat' split at read
      · cases read
        exact Nat.le_refl _
      · cases read
        exact Nat.le_refl _
      · cases read
      · exact length_of_repeatLast read
      · exact length_of_addElement read

theorem length_of_stepInside {progress after : Progress} {inner : OpenClass}
    {around : List OpenClass} {c : Char} {text rest : List Char}
    (read : progress.stepInside inner around c text = some (after, rest)) :
    rest.length ≤ text.length := by
  unfold stepInside at read
  split at read
  · cases read
    exact Nat.le_refl _
  · split at read
    · unfold openClass at read
      split at read
      · rename_i found
        split at read <;> cases read
        exact length_of_named? found
      · cases read
        exact Nat.le_refl _
    · obtain ⟨_, found, equal⟩ := Option.map_eq_some_iff.1 read
      cases equal
      exact OpenClass.length_of_step found

theorem length_of_step {progress after : Progress} {c : Char} {text rest : List Char}
    (read : progress.step c text = some (after, rest)) : rest.length ≤ text.length := by
  unfold step at read
  split at read
  · exact length_of_stepOutside read
  · exact length_of_stepInside read

def read (progress : Progress) (text : List Char) : Option Progress :=
  match _start : progress.modes.skip text with
  | [] => some progress
  | c :: rest =>
    match _part : progress.step c rest with
    | none => none
    | some (after, others) => after.read others
termination_by text.length
decreasing_by
  have shorter := length_skip_le progress.modes text
  rw [_start, List.length_cons] at shorter
  have part := length_of_step _part
  omega

end Progress

def usable (text : List Char) : Bool := (Progress.read {} text).any Progress.isEnd

/-! ## Plain texts -/

example : usable "a|(b+|[^]x-z])*?".toList ∧ usable "(?-u:\\b\\d)[[:alpha:]&&a]\\.".toList := by
  decide +kernel
example : usable "\\d".toList = false ∧ usable "(?i)a".toList = false ∧
    usable "(?-u).".toList = false := by decide +kernel
example : usable "a|*".toList = false ∧ usable "[z-a]".toList = false ∧
    usable "(a".toList = false ∧ usable "a)".toList = false := by decide +kernel
example : usable (List.replicate 250 '(' ++ List.replicate 250 ')') = true ∧
    usable (List.replicate 251 '(' ++ List.replicate 251 ')') = false := by decide +kernel

end SheetCabinet.CommandLine.Pattern
