import SheetCabinet.Failure

/-!
# Settings

The settings say where cabinets are kept when nothing else does, and whether sheets are synced
after every entry. Each setting has a key, by which it is shown and changed as text.
-/

namespace SheetCabinet

structure Settings where
  /-- The directory of cabinets, if one is chosen. -/
  root : Option Path := none
  /-- Whether every entry is synced at once. -/
  autoSync : Bool := false
deriving DecidableEq, Repr

namespace Settings

inductive Key
  | root
  | autoSync
deriving DecidableEq, Repr

namespace Key

/-- The keys, in the order in which they are shown. -/
def all : List Key := [.root, .autoSync]

def name : Key → String
  | root => "root"
  | autoSync => "auto-sync"

def ofName? (name : String) : Option Key := all.find? fun key => key.name = name

theorem ofName?_name (key : Key) : ofName? key.name = some key := by
  cases key <;> decide +kernel

theorem name_of_ofName? {text : String} {key : Key} (found : ofName? text = some key) :
    key.name = text := by
  simpa using List.find?_some found

end Key

def showChoice (on : Bool) : String := if on then "true" else "false"

/-- The choice that a word makes, in whatever case its letters are. -/
def choice? (word : String) : Option Bool :=
  let small := String.ofList (word.toList.map Char.toLower)
  if small ∈ ["true", "on", "yes", "1"] then some true
  else if small ∈ ["false", "off", "no", "0"] then some false
  else none

/-- A setting as text; no root is the empty text. -/
def text (settings : Settings) : Key → String
  | .root => settings.root.getD ""
  | .autoSync => showChoice settings.autoSync

/-- The settings with one of them changed to what a text says; the empty text chooses no root. -/
def change (settings : Settings) (key : Key) (value : String) : Except Cause Settings :=
  match key with
  | .root => .ok { settings with root := if value = "" then none else some value }
  | .autoSync =>
    match choice? value with
    | some on => .ok { settings with autoSync := on }
    | none => .error (.notBoolean value)

def get (settings : Settings) (name : String) : Except Cause String :=
  match Key.ofName? name with
  | some key => .ok (settings.text key)
  | none => .error (.unknownKey name)

/-- The settings with the one of a name changed to what a text says. -/
def set (settings : Settings) (name value : String) : Except Cause Settings :=
  match Key.ofName? name with
  | some key => settings.change key value
  | none => .error (.unknownKey name)

example : choice? "YES" = some true ∧ choice? "Off" = some false ∧ choice? "" = none := by
  decide +kernel

end Settings

end SheetCabinet
