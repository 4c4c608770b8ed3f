import SheetCabinet.Outcome
import SheetCabinet.Text.Escaped

/-!
# Names of cabinets and sheets

A name is one component of a path: it must not be empty, a dot or two dots, and must not hold a
slash, a backslash, NUL or a line break. Names that start with `.lc` belong to the cabinet itself,
so no sheet may have one. A description is kept on one line.

Results:
* which names are accepted (`checkComponent_eq_ok_iff`, `checkSheetName_eq_ok_iff`), and which are
  kept by cabinets (`isReserved_iff`);
* which descriptions are (`checkDescription_eq_ok_iff`).
-/

namespace SheetCabinet

/-- The beginning of every name that a cabinet keeps for its own files. -/
def reservedPrefix : String := ".lc"

def controlName : String := ".lccontrol"

/-- The name of the file whose lock guards the control file. -/
def lockName : String := ".lclock"

/-- Why a name or a description is refused. The kind of thing it was meant for is in words. -/
inductive NameFault
  | empty (what : String)
  | dots (name what : String)
  | invalidCharacter (name what : String) (character : Char)
  | reserved (name : String)
  | lineBreak
deriving DecidableEq, Repr

namespace NameFault

def message : NameFault → String
  | empty what => what ++ " name cannot be empty"
  | dots name what => "'" ++ name ++ "' is not a valid " ++ what ++ " name"
  | invalidCharacter name what character =>
    what ++ " name '" ++ escapeText name ++ "' contains invalid character " ++ quoteChar character
  | reserved name =>
    "Sheet name '" ++ name ++ "' uses the reserved prefix '" ++ reservedPrefix ++ "'"
  | lineBreak => "Description cannot contain line breaks"

end NameFault

def isForbidden (c : Char) : Bool :=
  c = '/' || c = '\\' || c = '\x00' || c = '\n' || c = '\r'

def checkComponent (name what : String) : Except NameFault Unit :=
  if name = "" then .error (.empty what)
  else if name = "." ∨ name = ".." then .error (.dots name what)
  else match name.toList.find? isForbidden with
    | some character => .error (.invalidCharacter name what character)
    | none => .ok ()

def checkCabinetName (name : String) : Except NameFault Unit := checkComponent name "cabinet"

def isReserved (name : String) : Bool := reservedPrefix.toList.isPrefixOf name.toList

def checkSheetName (name : String) : Except NameFault Unit :=
  match checkComponent name "sheet" with
  | .error fault => .error fault
  | .ok () => if isReserved name then .error (.reserved name) else .ok ()

def checkDescription (description : String) : Except NameFault Unit :=
  if description.toList.any fun c => c = '\n' || c = '\r' then .error .lineBreak else .ok ()

theorem checkComponent_eq_ok_iff {name what : String} :
    checkComponent name what = .ok () ↔
      name ≠ "" ∧ name ≠ "." ∧ name ≠ ".." ∧ ∀ c ∈ name.toList, isForbidden c = false := by
  unfold checkComponent
  by_cases empty : name = ""
  · simp [empty]
  · by_cases dots : name = "." ∨ name = ".."
    · rw [if_neg empty, if_pos dots]
      rcases dots with rfl | rfl <;> simp
    · rw [if_neg empty, if_neg dots]
      simp only [not_or] at dots
      cases found : name.toList.find? isForbidden with
      | some character =>
        have bad := List.find?_some found
        have member := List.mem_of_find?_eq_some found
        simp only [reduceCtorEq, false_iff]
        intro accepted
        rw [accepted.2.2.2 character member] at bad
        cases bad
      | none =>
        simp only [true_iff]
        exact ⟨empty, dots.1, dots.2, by simpa using List.find?_eq_none.1 found⟩

theorem checkSheetName_eq_ok_iff {name : String} :
    checkSheetName name = .ok () ↔
      checkComponent name "sheet" = .ok () ∧ isReserved name = false := by
  unfold checkSheetName
  cases checkComponent name "sheet" with
  | error fault => simp
  | ok _ => cases isReserved name <;> simp

theorem isReserved_iff {name : String} :
    isReserved name = true ↔ reservedPrefix.toList <+: name.toList :=
  List.isPrefixOf_iff_prefix

theorem isReserved_append (rest : String) : isReserved (reservedPrefix ++ rest) = true := by
  rw [isReserved_iff, String.toList_append]
  exact List.prefix_append _ _

theorem isReserved_eq_false_iff {name : String} :
    isReserved name = false ↔ ¬reservedPrefix.toList <+: name.toList := by
  rw [← isReserved_iff, Bool.not_eq_true]

theorem checkDescription_eq_ok_iff {description : String} :
    checkDescription description = .ok () ↔
      '\n' ∉ description.toList ∧ '\r' ∉ description.toList := by
  unfold checkDescription
  split
  · rename_i broken
    simp only [reduceCtorEq, false_iff]
    obtain ⟨c, member, bad⟩ := List.any_eq_true.1 broken
    rintro ⟨noFeed, noReturn⟩
    simp only [Bool.or_eq_true, decide_eq_true_eq] at bad
    rcases bad with rfl | rfl
    · exact noFeed member
    · exact noReturn member
  · rename_i whole
    simp only [true_iff]
    constructor <;> intro member <;> exact whole (List.any_eq_true.2 ⟨_, member, by simp⟩)

example : checkSheetName ".lclock" = .error (.reserved ".lclock") := by decide +kernel
example : checkCabinetName ".lclock" = .ok () := by decide +kernel

end SheetCabinet
