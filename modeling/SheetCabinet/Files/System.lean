import SheetCabinet.Files.Route

/-!
# The file system

A file system is a tree of names, the contents of every file that was ever made, the files that
are locked, the working directory and the present time. A file that loses its name keeps its
contents, so whoever still has it open can go on writing to it unseen.

What can be seen of a file system is what each place holds (`item`): nothing, a directory, a link
with its target, or a file with its bytes.

Results:
* a new file is unlike every file that is anywhere in the tree or was ever written
  (`freshId_not_mem_tree`, `freshId_not_mem_bodies`);
* what is seen after a file was made, written to, or cleared away (`item_newFile`, `item_setBytes`,
  `item_append`, `item_clear`).
-/

namespace SheetCabinet

/-- What a file contains, and when that was last changed, in seconds since 1970. -/
structure Body where
  /-- What was written one after the other, the last first, so that writing more takes no longer
  the longer the file is. -/
  chunks : List Bytes := []
  modified : Int := 0
deriving DecidableEq, Repr

def Body.bytes (body : Body) : Bytes := body.chunks.reverse.flatten

structure FileSystem where
  tree : Tree := .empty
  bodies : Table FileId Body := .empty
  /-- The files that someone holds the exclusive lock of. -/
  locked : List FileId := []
  /-- The working directory. -/
  home : Location := []
  /-- The place from which on everything is on a second device, if that is not the whole tree. -/
  mounted : Location := []
  /-- The present time, in seconds since 1970. -/
  clock : Int := 0

inductive Item
  | file (bytes : Bytes)
  | directory
  | link (target : Bytes)
deriving DecidableEq, Repr

namespace FileSystem

/-! ## Seeing -/

def body (files : FileSystem) (id : FileId) : Body := (files.bodies.get? id).getD {}

def itemOf (files : FileSystem) : Node → Item
  | .file id => .file (files.body id).bytes
  | .directory => .directory
  | .link target => .link target

def item (files : FileSystem) (place : Location) : Option Item :=
  (files.tree.get? place).map files.itemOf

/-! ## Files -/

/-- The number of a node that is a file. -/
def fileIndex : Node → Option Nat
  | .file id => some id.index
  | _ => none

/-- The numbers of all files that have a name or were ever written. -/
def fileIndices (files : FileSystem) : List Nat :=
  (files.tree.entries.filterMap fun entry => fileIndex entry.2) ++
    files.bodies.keys.map FileId.index

/-- A file that is not yet anywhere. -/
def freshId (files : FileSystem) : FileId := ⟨files.fileIndices.foldr max 0 + 1⟩

def setBody (files : FileSystem) (id : FileId) (body : Body) : FileSystem :=
  { files with bodies := files.bodies.set id body }

def setBytes (files : FileSystem) (id : FileId) (bytes : Bytes) : FileSystem :=
  files.setBody id ⟨[bytes], files.clock⟩

/-- Puts an empty file at a vacant name in a directory. -/
def newFile (files : FileSystem) (directory : Location) (name : Bytes) : FileId × FileSystem :=
  let id := files.freshId
  (id, { files with tree := files.tree.put directory name (.file id) }.setBytes id [])

/-- Puts a directory or a link at a vacant name in a directory. -/
def place (files : FileSystem) (directory : Location) (name : Bytes) (node : Node) : FileSystem :=
  { files with tree := files.tree.put directory name node }

/-- Takes away what a place holds and all that is below it. -/
def clear (files : FileSystem) (place : Location) : FileSystem :=
  { files with tree := files.tree.clear place }

/-- Writes at the end of a file. To write nothing is no change. -/
def append (files : FileSystem) (id : FileId) (bytes : Bytes) : FileSystem :=
  let body := files.body id
  files.setBody id ⟨bytes :: body.chunks, if bytes = [] then body.modified else files.clock⟩

/-- Cuts a file to a length, or fills it up with NUL bytes to that length. -/
def resize (files : FileSystem) (id : FileId) (length : Nat) : FileSystem :=
  let bytes := (files.body id).bytes
  files.setBytes id (bytes.take length ++ List.replicate (length - bytes.length) 0)

/-! ## Locks -/

def lock? (files : FileSystem) (id : FileId) : Option FileSystem :=
  if id ∈ files.locked then none else some { files with locked := id :: files.locked }

def unlock (files : FileSystem) (id : FileId) : FileSystem :=
  { files with locked := files.locked.filter (· ≠ id) }

/-! ## What is seen afterwards -/

theorem le_foldr_max {n : Nat} {ns : List Nat} (member : n ∈ ns) : n ≤ ns.foldr max 0 := by
  induction ns with
  | nil => simp at member
  | cons m ms ih =>
    rcases List.mem_cons.1 member with rfl | later
    · exact Nat.le_max_left _ _
    · exact Nat.le_trans (ih later) (Nat.le_max_right _ _)

theorem freshId_not_mem_tree (files : FileSystem) (place : Location) :
    files.tree.get? place ≠ some (.file files.freshId) := by
  intro held
  by_cases root : place = []
  · simp [root] at held
  · rw [← Tree.mem_entries_iff root] at held
    have listed : files.freshId.index ∈ files.fileIndices :=
      List.mem_append_left _ (List.mem_filterMap.2 ⟨_, held, rfl⟩)
    exact absurd (le_foldr_max listed) (Nat.not_succ_le_self _)

theorem freshId_not_mem_bodies (files : FileSystem) : files.bodies.get? files.freshId = none := by
  refine Option.not_isSome_iff_eq_none.1 fun present => ?_
  have listed : files.freshId.index ∈ files.fileIndices :=
    List.mem_append_right _
      (List.mem_map.2 ⟨files.freshId, (Table.mem_keys_iff _ _).2 present, rfl⟩)
  exact absurd (le_foldr_max listed) (Nat.not_succ_le_self _)

@[simp] theorem bytes_singleton (bytes : Bytes) (modified : Int) :
    (Body.mk [bytes] modified).bytes = bytes := by
  simp [Body.bytes]

@[simp] theorem body_setBody (files : FileSystem) (id other : FileId) (body : Body) :
    (files.setBody id body).body other = if other = id then body else files.body other := by
  unfold FileSystem.body setBody
  rw [Table.get?_set]
  split <;> rfl

theorem bytes_setBytes (files : FileSystem) (id other : FileId) (bytes : Bytes) :
    ((files.setBytes id bytes).body other).bytes =
      if other = id then bytes else (files.body other).bytes := by
  rw [setBytes, body_setBody]
  split <;> simp

theorem bytes_append (files : FileSystem) (id other : FileId) (bytes : Bytes) :
    ((files.append id bytes).body other).bytes =
      if other = id then (files.body id).bytes ++ bytes else (files.body other).bytes := by
  rw [append, body_setBody]
  split <;> simp [Body.bytes]

theorem item_setBody (files : FileSystem) (id : FileId) (body : Body) (place : Location) :
    (files.setBody id body).item place =
      if files.tree.get? place = some (.file id) then some (.file body.bytes)
      else files.item place := by
  have same : (files.setBody id body).tree = files.tree := rfl
  unfold item
  rw [same]
  cases held : files.tree.get? place with
  | none => simp
  | some node =>
    cases node with
    | file other =>
      by_cases equal : other = id <;> simp [itemOf, equal]
    | directory => simp [itemOf]
    | link target => simp [itemOf]

theorem item_setBytes (files : FileSystem) (id : FileId) (bytes : Bytes) (place : Location) :
    (files.setBytes id bytes).item place =
      if files.tree.get? place = some (.file id) then some (.file bytes) else files.item place := by
  rw [setBytes, item_setBody, bytes_singleton]

theorem item_append (files : FileSystem) (id : FileId) (bytes : Bytes) (place : Location) :
    (files.append id bytes).item place =
      if files.tree.get? place = some (.file id) then
        some (.file ((files.body id).bytes ++ bytes))
      else files.item place := by
  have whole := bytes_append files id id bytes
  rw [append, body_setBody, if_pos rfl, if_pos rfl] at whole
  rw [append, item_setBody, whole]

theorem item_place {files : FileSystem} {directory : Location} {name : Bytes}
    (inside : files.tree.get? directory = some .directory)
    (vacant : files.tree.get? (directory ++ [name]) = none) (node : Node) (other : Location) :
    (files.place directory name node).item other =
      if other = directory ++ [name] then some (files.itemOf node) else files.item other := by
  unfold item
  simp only [place, Tree.get?_put inside vacant]
  split
  · cases node <;> rfl
  · cases files.tree.get? other with
    | none => rfl
    | some held => cases held <;> rfl

theorem item_newFile {files : FileSystem} {directory : Location} {name : Bytes}
    (inside : files.tree.get? directory = some .directory)
    (vacant : files.tree.get? (directory ++ [name]) = none) (other : Location) :
    (files.newFile directory name).2.item other =
      if other = directory ++ [name] then some (.file []) else files.item other := by
  have made : (files.newFile directory name).2 =
      (files.place directory name (.file files.freshId)).setBytes files.freshId [] := rfl
  rw [made, item_setBytes, item_place inside vacant]
  have there : (files.place directory name (.file files.freshId)).tree.get? other =
      if other = directory ++ [name] then some (.file files.freshId) else files.tree.get? other :=
    Tree.get?_put inside vacant _ _
  rw [there]
  by_cases same : other = directory ++ [name]
  · simp [same]
  · simp [same, freshId_not_mem_tree]

theorem item_clear (files : FileSystem) (place other : Location) :
    (files.clear place).item other =
      if other ≠ [] ∧ place <+: other then none else files.item other := by
  unfold item
  simp only [clear, Tree.get?_clear]
  split
  · rfl
  · cases files.tree.get? other with
    | none => rfl
    | some held => cases held <;> rfl

end FileSystem

end SheetCabinet
