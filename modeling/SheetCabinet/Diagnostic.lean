import SheetCabinet.Sheet.Writing

/-!
# Diagnostics of image decoders

A decoder of images reports warnings and errors about the image it works on. Each report can be
kept as an entry of a sheet; a report that cannot be written there is lost, but not unnoticed.
-/

namespace SheetCabinet

inductive Severity
  | warning
  | error
deriving DecidableEq, Repr

structure Diagnostic where
  severity : Severity
  identifier : String
  message : String
deriving DecidableEq, Repr

namespace Diagnostic

def text (diagnostic : Diagnostic) : String :=
  let tag := match diagnostic.severity with
    | .warning => "WARNING"
    | .error => "ERROR"
  tag ++ " [" ++ diagnostic.identifier ++ "] " ++ diagnostic.message

/-- Keeps a report as an entry of the sheet. -/
def record (diagnostic : Diagnostic) (desk : Desk) : Desk :=
  match Sheet.write diagnostic.text desk with
  | .ok () after => after
  | .error failure after =>
    { after with store := after.store.tell (.statusLost after.sheet.path failure) }

end Diagnostic

end SheetCabinet
