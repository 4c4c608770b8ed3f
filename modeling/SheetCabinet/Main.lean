import SheetCabinet.CommandLine.Run

/-!
# The program

The command line is run on a picture of the files it is about: the directory of the settings and
the cabinet it names, with the directories they are in. What the run changed in the picture is then
done to the files themselves. All that is decided is decided by `CommandLine.run`.
-/

namespace SheetCabinet.Program

open CommandLine

/-! ## Taking the picture -/

/-- The absolute path of a place, as far as its names are texts. -/
def pathOf (place : Location) : Path :=
  "/" ++ String.intercalate "/" (place.map fun name => name.text?.getD "")

/-- The names that lead to a path without links. -/
def placeOf (path : Path) : Location := (pieces (utf8 path)).filter fun name => name ≠ []

/-- The picture with a node at a place where it showed nothing. -/
def withNode (files : FileSystem) (place : Location) (node : Node) : FileSystem :=
  files.place place.dropLast (place.getLastD []) node

def withFile (files : FileSystem) (place : Location) (bytes : Bytes) (time : Int) : FileSystem :=
  let file := files.freshId
  (withNode files place (.file file)).setBody file ⟨[bytes], time⟩

/-- The picture with a directory at a place, and with the ones it is in. -/
def withDirectory (files : FileSystem) (place : Location) : FileSystem :=
  (List.range place.length).foldl (fun files depth =>
    withNode files (place.take (depth + 1)) .directory) files

/-- The picture with the file or the directory at a place. -/
def withFound (files : FileSystem) (place : Location) : IO FileSystem := do
  let here := (← IO.currentDir) / pathOf place
  if (files.tree.get? place).isSome then pure files
  else if ← here.isDir then pure (withNode files place .directory)
  else if ← here.pathExists then
    let bytes ← IO.FS.readBinFile here
    let status ← here.metadata
    pure (withFile files place bytes.data.toList status.modified.sec)
  else pure files

/-- The picture with what is at a place, and the place where that leads. -/
def glance (files : FileSystem) (place : Location) : IO (FileSystem × Location) := do
  let here := (← IO.currentDir) / pathOf place
  match ← here.symlinkMetadata.toBaseIO with
  | .ok ⟨_, _, _, .symlink, _⟩ =>
    match ← (IO.FS.realPath here).toBaseIO with
    | .ok target =>
      let there := placeOf target.toString
      let linked := withNode files place (.link (utf8 target.toString))
      pure (← withFound (withDirectory linked there.dropLast) there, there)
    | .error _ => pure (withNode files place (.link []), place)
  | _ => pure (← withFound files place, place)

/-- The picture with what is on the way that an absolute path leads, and the place where it ends. -/
def follow (files : FileSystem) (path : Path) : IO (FileSystem × Location) :=
  (pieces (utf8 path)).foldlM (fun (files, place) name =>
    if name = [] || name = utf8 "." then pure (files, place)
    else if name = utf8 ".." then pure (files, place.dropLast)
    else glance files (place ++ [name])) (files, [])

/-- The picture with what is in a directory and with all that is below it, where a link is followed as
well, and the directories that were gone through. -/
partial def picture (files : FileSystem) (through : List Location) (place : Location) :
    IO (FileSystem × List Location) := do
  let here := (← IO.currentDir) / pathOf place
  if !(← here.isDir) || through.contains place then pure (files, through)
  else
    let mut seen := (files, place :: through)
    for entry in ← here.readDir do
      let (next, there) ← glance seen.1 (place ++ [utf8 entry.fileName])
      seen ← picture next seen.2 there
    pure seen

/-! ## Doing what was done -/

/-- Takes away what the run took away, the inner places first. A link goes away, but not what it leads
to. -/
def takeAway (before after : FileSystem) : IO Unit := do
  let entries := before.tree.entries.mergeSort fun first second =>
    second.1.length ≤ first.1.length
  for (place, node) in entries do
    if (after.tree.get? place).isNone then
      let here := (← IO.currentDir) / pathOf place
      if node = .directory then IO.FS.removeDir here else IO.FS.removeFile here

/-- Makes and writes what the run made and wrote, the outer directories first. -/
def putInPlace (before after : FileSystem) : IO Unit := do
  let entries := after.tree.entries.mergeSort fun first second =>
    first.1.length ≤ second.1.length
  for (place, _) in entries do
    match before.item place, after.item place with
    | some .directory, some .directory => pure ()
    | _, some .directory => IO.FS.createDirAll (pathOf place)
    | held, some (.file bytes) =>
      if held ≠ some (.file bytes) then
        -- a file takes the place of a link, and is not written where the link leads
        if let some (.link _) := held then IO.FS.removeFile (pathOf place)
        IO.FS.writeBinFile (pathOf place) bytes.toByteArray
    | _, _ => pure ()

/-! ## The run -/

/-- The variables that the program looks at. -/
def variableNames : List String :=
  ["LOGCABINET_CONFIG_DIR", "LOGCABINET_ROOT", "XDG_CONFIG_HOME", "HOME", "RUST_LOG",
    "CLICOLOR_FORCE", "TZ"]

def readEnvironment : IO Environment := do
  let mut found := []
  for name in variableNames do
    if let some value ← IO.getEnv name then found := (name, value) :: found
  pure { bindings := found }

/-- The cabinet that a command is about. -/
def cabinetOf : Command → Option String
  | .create name _ | .info name | .list name | .sheet name _ _ _ _ | .read name _
  | .remove name => some name
  | .settings _ => none

/-- Whether a command takes its entries from the input. -/
def readsInput : Command → Bool
  | .sheet _ _ _ entries _ => entries.isEmpty
  | _ => false

def pictureFor (call : Call) (invocation : Invocation) : IO FileSystem := do
  let shown (files : FileSystem) (path : Path) : IO FileSystem := do
    let (seen, place) ← follow files (Path.join call.workingDirectory path)
    pure (← picture seen [] place).1
  let home := placeOf call.workingDirectory
  let empty : FileSystem := { withDirectory {} home with home := home }
  let some directory := call.environment.settingsDirectory? | pure empty
  let known ← shown empty directory
  match start call.environment invocation.root call.workingDirectory { files := known } with
  | .ok (places, _) _ =>
    match cabinetOf invocation.command with
    | some name => shown known (Path.join places.root name)
    | none => pure known
  | .error _ _ => pure known

/-- A name for a draft, chosen at random. -/
def randomUuid : IO Uuid := do
  let mut digits : List Char := []
  for _ in [0:30] do
    digits := hexDigit (← IO.rand 0 15) :: digits
  let variant := hexDigit (← IO.rand 8 11)
  let text := String.ofList (digits.take 8 ++ '-' :: (digits.drop 8).take 4 ++ '-' :: '4' ::
    (digits.drop 12).take 3 ++ '-' :: variant :: (digits.drop 15).take 3 ++ '-' :: digits.drop 18)
  pure ((Uuid.ofText? text).getD default)

def runWords (words : List String) : IO UInt32 := do
  let plain : Call := {
    words := words
    environment := ← readEnvironment
    workingDirectory := (← IO.currentDir).toString
    chance := { draft := { uuid := ← randomUuid } } }
  let (call, files) ← match Invocation.parse words with
    | .error _ => pure (plain, ({} : FileSystem))
    | .ok invocation => do
      let input ← if readsInput invocation.command then
          (← IO.getStdin).readToEnd
        else pure ""
      pure ({ plain with input := utf8 input }, ← pictureFor plain invocation)
  let (printout, after) := run call files
  takeAway files after
  putInPlace files after
  IO.print printout.output
  for event in printout.log do
    IO.eprintln (logLine event)
  IO.eprint printout.errors
  pure (UInt32.ofNat printout.exitCode)

end SheetCabinet.Program

def main (words : List String) : IO UInt32 := SheetCabinet.Program.runWords words
