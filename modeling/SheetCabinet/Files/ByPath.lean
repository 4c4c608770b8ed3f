import SheetCabinet.Files.System

/-!
# Operations on files by path

What can be asked of a file system by giving a path. Each operation either succeeds with a new
file system or is refused for one cause and changes nothing; only `makeDirectories`, which is a run
of such operations, can stop halfway.

Operations that read or write what a path leads to follow symbolic links; operations that give a
name or take one away do not follow a link at the last name.

Results:
* an operation that makes something makes it at a vacant name in a directory
  (`vacancy_eq_ok`, `openOrCreate_eq_ok`).
-/

namespace SheetCabinet

namespace FileSystem

/-! ## Walking -/

/-- Where a path leads, links followed to the end. -/
def arrive (files : FileSystem) (creating : Bool) (path : Bytes) : Except FileError Arrival := do
  checkPath path
  walk files.tree.get? creating mostLinks (startOf files.home path) (parts path)

/-- The place of something that is there. -/
def locate (files : FileSystem) (path : Bytes) : Except FileError Location :=
  match files.arrive false path with
  | .ok (.found place) => .ok place
  | .ok (.vacant _ _) => .error .notFound
  | .error cause => .error cause

def status (files : FileSystem) (path : Bytes) : Except FileError Node :=
  match files.locate path with
  | .ok place =>
    match files.tree.get? place with
    | some node => .ok node
    | none => .error .notFound
  | .error cause => .error cause

def isPresent (files : FileSystem) (path : Bytes) : Bool := (files.status path).isOk

def isDirectory (files : FileSystem) (path : Bytes) : Bool :=
  match files.status path with
  | .ok .directory => true
  | _ => false

/-- The directory a path leads to, and what the path says about its last name. -/
def parent (files : FileSystem) (path : Bytes) : Except FileError (Location × Final) := do
  checkPath path
  let final := Final.ofParts (parts path)
  match ← walk files.tree.get? false mostLinks (startOf files.home path)
      (final.before ++ [.slash]) with
  | .found place => .ok (place, final)
  | .vacant _ _ => .error .notFound

/-! ## Reading -/

def read (files : FileSystem) (path : Bytes) : Except FileError Bytes :=
  match files.status path with
  | .ok (.file id) => .ok (files.body id).bytes
  | .ok .directory => .error .isADirectory
  | .ok (.link _) => .error .tooManyLinks
  | .error cause => .error cause

def readText (files : FileSystem) (path : Bytes) : Except FileError String :=
  match files.read path with
  | .ok bytes =>
    match bytes.text? with
    | some text => .ok text
    | none => .error .notUtf8
  | .error cause => .error cause

def list (files : FileSystem) (path : Bytes) : Except FileError (List (Bytes × Node)) :=
  match files.locate path with
  | .ok place =>
    match files.tree.get? place with
    | some .directory => .ok (files.tree.children place)
    | _ => .error .notADirectory
  | .error cause => .error cause

def modified (files : FileSystem) (path : Bytes) : Except FileError Int :=
  match files.status path with
  | .ok (.file id) => .ok (files.body id).modified
  | .ok _ => .ok files.clock
  | .error cause => .error cause

/-! ## Making -/

/-- The directory and the name at which something new can be made. Separators behind the name are
refused with the cause given for them, if one is given. -/
def vacancy (files : FileSystem) (slash : Option FileError) (path : Bytes) :
    Except FileError (Location × Bytes) :=
  match files.parent path with
  | .error cause => .error cause
  | .ok (place, final) =>
    match final.name with
    | none => .error .alreadyExists
    | some name =>
      match if final.slashed then slash else none with
      | some cause => .error cause
      | none =>
        if longestName < name.length then .error .nameTooLong
        else match files.tree.get? (place ++ [name]) with
          | some _ => .error .alreadyExists
          | none => if files.tree.get? place = some .directory then .ok (place, name)
              else .error .notADirectory

def createNew (files : FileSystem) (path : Bytes) : Except FileError (FileId × FileSystem) :=
  match files.vacancy (some .isADirectory) path with
  | .ok (place, name) => .ok (files.newFile place name)
  | .error cause => .error cause

def makeDirectory (files : FileSystem) (path : Bytes) : Except FileError FileSystem :=
  match files.vacancy none path with
  | .ok (place, name) => .ok (files.place place name .directory)
  | .error cause => .error cause

def makeLink (files : FileSystem) (path target : Bytes) : Except FileError FileSystem :=
  match checkPath target with
  | .error cause => .error cause
  | .ok () =>
    match files.vacancy (some .notFound) path with
    | .ok (place, name) => .ok (files.place place name (.link target))
    | .error cause => .error cause

/-- Opens the file a path leads to, and makes it if only its name is missing. -/
def openOrCreate (files : FileSystem) (path : Bytes) : Except FileError (FileId × FileSystem) :=
  match files.arrive true path with
  | .error cause => .error cause
  | .ok (.vacant place name) => .ok (files.newFile place name)
  | .ok (.found place) =>
    match files.tree.get? place with
    | some (.file id) => .ok (id, files)
    | _ => .error .isADirectory

/-- Replaces the contents of the file a path leads to, and makes it if only its name is missing. -/
def write (files : FileSystem) (path contents : Bytes) : Except FileError FileSystem :=
  match files.openOrCreate path with
  | .ok (id, opened) => .ok (opened.setBytes id contents)
  | .error cause => .error cause

/-! ## Taking away and moving -/

/-- What the last name of a path holds, a link not followed. -/
def lastNode (files : FileSystem) (path : Bytes) :
    Except FileError (Location × Node × Bool) :=
  match files.parent path with
  | .error cause => .error cause
  | .ok (place, final) =>
    match final.name with
    | none => .error .isADirectory
    | some name =>
      if longestName < name.length then .error .nameTooLong
      else match files.tree.get? (place ++ [name]) with
        | none => .error .notFound
        | some node => .ok (place ++ [name], node, final.slashed)

def removeFile (files : FileSystem) (path : Bytes) : Except FileError FileSystem :=
  match files.lastNode path with
  | .error cause => .error cause
  | .ok (_, .directory, _) => .error .isADirectory
  | .ok (place, _, slashed) => if slashed then .error .notADirectory else .ok (files.clear place)

/-- Takes away a directory with all that is in it; of a link, only the link. -/
def removeTree (files : FileSystem) (path : Bytes) : Except FileError FileSystem :=
  match files.lastNode path with
  | .error cause => .error cause
  | .ok (_, .file _, _) => .error .notADirectory
  | .ok (place, _, _) => .ok (files.clear place)

/-- Moves what a place holds, with all that is below it, to a name in another directory. -/
def move (files : FileSystem) (source : Location) (node : Node) (directory : Location)
    (name : Bytes) : FileSystem :=
  let below := (files.tree.entries.filter fun entry =>
    source.isPrefixOf entry.1 && !decide (entry.1 = source)).mergeSort
      fun first second => first.1.length ≤ second.1.length
  let moved := ((files.tree.clear (directory ++ [name])).clear source).put directory name node
  { files with
    tree := below.foldl (fun tree entry =>
      let inner := directory ++ [name] ++ entry.1.drop source.length
      match inner.getLast? with
      | some last => tree.put inner.dropLast last entry.2
      | none => tree) moved }

/-- Whether what a place holds may be put in the place of another thing. -/
def replaceable (files : FileSystem) (node : Node) (target : Location) : Except FileError Unit :=
  match node, files.tree.get? target with
  | _, none => .ok ()
  | .directory, some .directory =>
    if (files.tree.children target).isEmpty then .ok () else .error .notEmpty
  | .directory, some _ => .error .notADirectory
  | _, some .directory => .error .isADirectory
  | _, some _ => .ok ()

def onOneDevice (files : FileSystem) (first second : Location) : Bool :=
  files.mounted.isPrefixOf first == files.mounted.isPrefixOf second

/-- Gives what one path names the name of another path, in place of what had that name. -/
def rename (files : FileSystem) (path newPath : Bytes) : Except FileError FileSystem := do
  let (oldPlace, old) ← files.parent path
  let (newPlace, new) ← files.parent newPath
  if !files.onOneDevice oldPlace newPlace then throw .crossDevice
  match old.name, new.name with
  | some oldName, some newName =>
    if longestName < oldName.length then .error .nameTooLong
    else match files.tree.get? (oldPlace ++ [oldName]) with
      | none => .error .notFound
      | some node =>
        let source := oldPlace ++ [oldName]
        let target := newPlace ++ [newName]
        if longestName < newName.length then .error .nameTooLong
        else if node ≠ .directory ∧ (old.slashed ∨ new.slashed) then .error .notADirectory
        else if source = target then .ok files
        else if source.isPrefixOf target then .error .invalidArgument
        else if target.isPrefixOf source then .error .notEmpty
        else match files.replaceable node target with
          | .ok () => .ok (files.move source node newPlace newName)
          | .error cause => .error cause
  | _, _ => .error .busy

/-! ## Directories with the ones they are in -/

/-- A path after those of the directories it is in, from the outside inwards, without the one that
every path starts in. -/
def inward (path : Bytes) : List Bytes :=
  let all := pieces path
  let ends := (List.range all.length).filter fun last =>
    match all[last]? with
    | some piece => piece ≠ [] ∧ (piece ≠ utf8 "." ∨ last = 0)
    | none => false
  if ends = [] then []
  else (ends.dropLast.map fun last => [separator].intercalate (all.take (last + 1))) ++ [path]

/-- Makes a directory unless it is there already, and gives its place. -/
def ensureDirectory (files : FileSystem) (path : Bytes) :
    Except FileError Location × FileSystem :=
  match files.vacancy none path with
  | .ok (outer, name) => (.ok (outer ++ [name]), files.place outer name .directory)
  | .error cause =>
    match files.locate path with
    | .ok place =>
      if files.tree.get? place = some .directory then (.ok place, files) else (.error cause, files)
    | .error _ => (.error cause, files)

/-- Does what `ensureDirectory` does, for a path that leads to the outer directory as far as its
last name; the way there is not walked again if that name is free or that of a directory. -/
def ensureWithin (files : FileSystem) (outer : Location) (path : Bytes) :
    Except FileError Location × FileSystem :=
  match (Final.ofParts (parts path)).name with
  | none => files.ensureDirectory path
  | some name =>
    match files.tree.get? (outer ++ [name]) with
    | some .directory => (.ok (outer ++ [name]), files)
    | some _ => files.ensureDirectory path
    | none =>
      if longestName < name.length then (.error .nameTooLong, files)
      else (.ok (outer ++ [name]), files.place outer name .directory)

/-- Makes those of the directories that are missing, each in the one before it. What was made stays
when a later one is refused. -/
def ensureEach : Location → List Bytes → FileSystem → Except FileError Unit × FileSystem
  | _, [], files => (.ok (), files)
  | outer, path :: inner, files =>
    match files.ensureWithin outer path with
    | (.ok place, ready) => ensureEach place inner ready
    | (.error cause, stopped) => (.error cause, stopped)

/-- Makes a directory and those of the directories it is in that are missing. -/
def makeDirectories (files : FileSystem) (path : Bytes) : Except FileError Unit × FileSystem :=
  match files.ensureDirectory path with
  | (.ok _, ready) => (.ok (), ready)
  | (.error .notFound, _) => ensureEach (startOf files.home path) (inward path) files
  | (.error cause, _) => (.error cause, files)

/-! ## Where something new is made -/

theorem vacancy_eq_ok {files : FileSystem} {slash : Option FileError} {path : Bytes}
    {place : Location} {name : Bytes} (made : files.vacancy slash path = .ok (place, name)) :
    files.tree.get? place = some .directory ∧ files.tree.get? (place ++ [name]) = none ∧
      name.length ≤ longestName := by
  unfold vacancy at made
  split at made
  · cases made
  · split at made
    · cases made
    · split at made
      · cases made
      · split at made
        · cases made
        · rename_i short
          split at made
          · cases made
          · rename_i missing
            split at made
            · rename_i inside
              cases made
              exact ⟨inside, missing, Nat.not_lt.1 short⟩
            · cases made

theorem openOrCreate_eq_ok {files opened : FileSystem} {path : Bytes} {id : FileId}
    (done : files.openOrCreate path = .ok (id, opened)) :
    (opened = files ∧ ∃ place, files.tree.get? place = some (.file id)) ∨
      ∃ place name, files.tree.get? place = some .directory ∧
        files.tree.get? (place ++ [name]) = none ∧ (id, opened) = files.newFile place name := by
  unfold openOrCreate at done
  split at done
  · cases done
  · rename_i place name arrived
    have walked : walk files.tree.get? true mostLinks (startOf files.home path) (parts path) =
        .ok (.vacant place name) := by
      unfold arrive at arrived
      cases checked : checkPath path with
      | error cause => simp [checked, bind, Except.bind] at arrived
      | ok _ => simpa [checked, bind, Except.bind] using arrived
    have vacant := walk_vacant walked
    refine Or.inr ⟨place, name, vacant.1, vacant.2.1, ?_⟩
    cases done
    rfl
  · split at done
    · rename_i held
      cases done
      exact Or.inl ⟨rfl, _, held⟩
    · cases done

end FileSystem

end SheetCabinet
