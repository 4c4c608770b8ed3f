import SheetCabinet.Path
import SheetCabinet.Files.Error
import SheetCabinet.Naming
import SheetCabinet.Sheet.Reader
import SheetCabinet.Control.Record

/-!
# Failures

Everything the library can fail with, as causes. A caller who only wants to know whether something
is already there, is missing, or went wrong in another way asks for the kind.
-/

namespace SheetCabinet

inductive Cause
  | name (fault : NameFault)
  | sheet (fault : SheetFault)
  | control (fault : ControlFault)
  /-- The sheet has an entry with the greatest number there is. -/
  | numbersExhausted
  /-- The cabinet has handed out the greatest number of sheets there is. -/
  | cabinetFull (cabinet : String)
  /-- Someone else holds the lock of the control file. -/
  | locked (path : Path)
  /-- The control file is that of a cabinet with another name. -/
  | otherCabinet (directory : Path) (found : String)
  | unknownKey (key : String)
  | notBoolean (value : String)
  | noConfigDirectory
  /-- A cause known only by the words it was reported in. -/
  | other (text : String)
deriving DecidableEq, Repr

namespace Cause

def message : Cause → String
  | name fault => fault.message
  | sheet fault => fault.message
  | control fault => fault.message
  | numbersExhausted => "Entry numbers exhausted for this sheet"
  | cabinetFull cabinet => "Cabinet " ++ cabinet ++ " is full"
  | locked path => "Control file is locked by another writer (" ++ path ++ ")"
  | otherCabinet directory found =>
    "Control file in " ++ directory ++ " names cabinet '" ++ found ++ "'"
  | unknownKey key => "Unknown config key: " ++ key
  | notBoolean value => "Expected true or false, got '" ++ value ++ "'"
  | noConfigDirectory => "Could not determine a configuration directory"
  | other text => text

end Cause

inductive Failure
  | alreadyExists (path : Path)
  | doesNotExist (path : Path)
  | strategy (cause : Cause)
  | io (cause : FileError)
  /-- The stored configuration is not one. -/
  | serialization
deriving DecidableEq, Repr

inductive FailureKind
  | alreadyExists
  | doesNotExist
  | strategy
deriving DecidableEq, Repr

namespace Failure

def kind : Failure → FailureKind
  | alreadyExists _ => .alreadyExists
  | doesNotExist _ => .doesNotExist
  | strategy _ => .strategy
  | io _ => .strategy
  | serialization => .strategy

def message : Failure → String
  | alreadyExists path => "Object already exists: " ++ path
  | doesNotExist path => "Object does not exist: " ++ path
  | strategy cause => "Strategy error: " ++ cause.message
  | io cause => "IO error: " ++ cause.message
  | serialization => "Serialization error: the file does not hold a configuration"

end Failure

end SheetCabinet
