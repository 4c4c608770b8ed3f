import SheetCabinet.Outcome
import SheetCabinet.Text.Lines
import SheetCabinet.Text.Numeral
import SheetCabinet.Text.Blank

/-!
# The control file

A cabinet records its name, its description and the number of sheets it has handed out, one to a
line. A reader allows a carriage return at the end of each line, white space around the number and
empty lines after it, and reports the first of the faults it can find.
-/

namespace SheetCabinet

structure ControlRecord where
  name : String
  description : String
  count : UInt32
deriving DecidableEq, Repr

inductive ControlFault
  | empty
  | missingDescription
  | missingCount
  | invalidCount (line : String)
  | trailingContent
  | emptyName
deriving DecidableEq, Repr

namespace ControlFault

def message : ControlFault → String
  | empty => "Control file is empty"
  | missingDescription => "Control file is missing the description"
  | missingCount => "Control file is missing the item count"
  | invalidCount line => "Invalid item count in control file: '" ++ line ++ "'"
  | trailingContent => "Unexpected trailing content in control file"
  | emptyName => "Control file has an empty name"

end ControlFault

namespace ControlRecord

def render (record : ControlRecord) : String :=
  record.name ++ "\n" ++ record.description ++ "\n" ++ showNumber record.count.toNat ++ "\n"

/-- The record that the lines of a control file make. -/
def ofLines : List (List Char) → Except ControlFault ControlRecord
  | [] => .error .empty
  | [_] => .error .missingDescription
  | [_, _] => .error .missingCount
  | name :: description :: count :: rest =>
    match numeral? (trim count) with
    | none => .error (.invalidCount (String.ofList count))
    | some number =>
      if rest.any fun line => trim line ≠ [] then .error .trailingContent
      else if name = [] then .error .emptyName
      else .ok ⟨String.ofList name, String.ofList description, number⟩

def parse (text : String) : Except ControlFault ControlRecord :=
  ofLines (lines (dropReturns text.toList))

example : parse (render ⟨"cab1", "", 7⟩) = .ok ⟨"cab1", "", 7⟩ := by decide +kernel
example : parse "a\r\nb\r\n +7\u00a0\r\n\n" = .ok ⟨"a", "b", 7⟩ := by decide +kernel
example : parse "\n\nx\ny" = .error (.invalidCount "x") := by decide +kernel

end ControlRecord

end SheetCabinet
