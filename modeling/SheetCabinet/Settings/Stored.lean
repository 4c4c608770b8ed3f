import SheetCabinet.Store
import SheetCabinet.Settings.Format

/-!
# Stored settings

The settings are kept in one file of a directory, which is made when they are stored. As long as
there is no such file, or the way to it cannot be walked, the settings are the default ones.
-/

namespace SheetCabinet

def settingsName : String := "config.json"

namespace Settings

def pathIn (directory : Path) : Path := Path.join directory settingsName

def load (directory : Path) : Work Settings := fun store =>
  let path := utf8 (pathIn directory)
  if store.files.isPresent path then
    match store.files.readText path with
    | .error cause => .error (.io cause) store
    | .ok text =>
      match parse text with
      | some settings => .ok settings store
      | none => .error .serialization store
  else .ok {} store

/-- Makes the directory if it is missing, and stores the settings in it. -/
def save (settings : Settings) (directory : Path) : Work Unit := do
  Work.makeDirectories directory
  Work.change fun files => files.write (utf8 (pathIn directory)) (utf8 settings.render)

end Settings

end SheetCabinet
