import SheetCabinet.Settings.Stored

/-!
# Starting

Before any command is carried out it is settled where the settings are kept and where the cabinets
are. The root of the cabinets is what the caller asks for, else what the environment says, else
what the settings say, else the working directory.
-/

namespace SheetCabinet

/-- What a program is told by its surroundings. -/
structure Environment where
  /-- The variables that are set. -/
  bindings : List (String × String) := []
  /-- The home directory of the account, as far as it is known. -/
  accountHome : Option Path := none
deriving Repr

namespace Environment

/-- The value of a variable, if it is set. -/
def get? (environment : Environment) (name : String) : Option String :=
  environment.bindings.lookup name

/-- The value of a variable, if it is set and not empty. -/
def text? (environment : Environment) (name : String) : Option String :=
  (environment.get? name).filter (· ≠ "")

def home? (environment : Environment) : Option Path :=
  (environment.text? "HOME").or environment.accountHome

/-- The directory of the settings of all programs. -/
def settingsBase? (environment : Environment) : Option Path :=
  match (environment.get? "XDG_CONFIG_HOME").filter Path.isAbsolute with
  | some base => some base
  | none => environment.home?.map fun home => Path.join home ".config"

def settingsDirectory? (environment : Environment) : Option Path :=
  match environment.get? "LOGCABINET_CONFIG_DIR" with
  | some directory => some directory
  | none => environment.settingsBase?.map fun base => Path.join base "logcabinet"

/-- The root of the cabinets that the environment names, if it names one. -/
def root? (environment : Environment) : Option Path := environment.text? "LOGCABINET_ROOT"

end Environment

/-- The root of the cabinets: the first of what the caller asks for, what the environment says and
what the settings say, else the working directory. -/
def chooseRoot (flag environment : Option Path) (settings : Settings) (workingDirectory : Path) :
    Path :=
  ((flag.or environment).or settings.root).getD workingDirectory

structure Places where
  root : Path
  configuration : Path
deriving DecidableEq, Repr

/-- Settles where everything is, and reads the settings. -/
def start (environment : Environment) (flag : Option Path) (workingDirectory : Path) :
    Work (Places × Settings) := do
  match environment.settingsDirectory? with
  | none => throw (.strategy .noConfigDirectory)
  | some directory =>
    let settings ← Settings.load directory
    let root := chooseRoot flag environment.root? settings workingDirectory
    Work.tell (.rootChosen root)
    pure (⟨root, directory⟩, settings)

end SheetCabinet
