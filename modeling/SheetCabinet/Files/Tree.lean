import SheetCabinet.Table
import SheetCabinet.Text.Bytes

/-!
# The tree of names

A place is named by the names that lead to it from the root. Each place holds a file, a directory
or a symbolic link, or nothing. What a file contains is kept apart from the tree (`FileSystem`), so
that an open file stays what it is when its name goes away.

Every tree is closed: whatever is somewhere is inside a directory. The two operations that change a
tree keep it so, and do nothing where they cannot.

Results:
* what is where after each operation (`get?_put`, `get?_clear`);
* below a place that holds no directory there is nothing (`get?_below_none`);
* what the tree holds is listed exactly, and once (`mem_entries_iff`, `nodup_entries`), and so is
  what a directory holds (`mem_children_iff`, `nodup_children`).
-/

namespace SheetCabinet

/-- An open or closed file, known by a number that no other file ever gets. -/
structure FileId where
  index : Nat
deriving DecidableEq, Repr

inductive Node
  | file (id : FileId)
  | directory
  /-- A symbolic link: the path to go on with, as it was written. -/
  | link (target : Bytes)
deriving DecidableEq, Repr

/-- The names that lead to a place from the root; the root itself is the empty list. -/
abbrev Location := List Bytes

/-- A place with its depth in front, so that places of different depths are told apart before any
name is looked at. -/
structure Address where
  depth : Nat
  names : Location
  depth_eq : depth = names.length
deriving DecidableEq

def Address.of (place : Location) : Address := ⟨place.length, place, rfl⟩

@[simp] theorem Address.names_of (place : Location) : (Address.of place).names = place := rfl

@[simp] theorem Address.of_names (address : Address) : Address.of address.names = address := by
  obtain ⟨depth, names, rfl⟩ := address
  rfl

@[simp] theorem Address.of_inj {place other : Location} :
    Address.of place = Address.of other ↔ place = other :=
  ⟨fun same => congrArg Address.names same, congrArg Address.of⟩

theorem Address.get?_set (nodes : Table Address Node) (place other : Location) (node : Node) :
    (nodes.set (.of place) node).get? (.of other) =
      if other = place then some node else nodes.get? (.of other) := by
  rw [Table.get?_set]
  by_cases same : other = place <;> simp [same]

/-- The places that hold something, the root apart, which is always a directory. -/
structure Tree where
  nodes : Table Address Node
  closed : ∀ place name, (nodes.get? (.of (place ++ [name]))).isSome →
    place = [] ∨ nodes.get? (.of place) = some .directory

namespace Tree

def get? (tree : Tree) (place : Location) : Option Node :=
  if place = [] then some .directory else tree.nodes.get? (.of place)

def empty : Tree := ⟨.empty, by simp⟩

@[simp] theorem get?_root (tree : Tree) : tree.get? [] = some .directory := rfl

theorem get?_of_ne_root (tree : Tree) {place : Location} (inner : place ≠ []) :
    tree.get? place = tree.nodes.get? (.of place) := if_neg inner

@[simp] theorem get?_child (tree : Tree) (place : Location) (name : Bytes) :
    tree.get? (place ++ [name]) = tree.nodes.get? (.of (place ++ [name])) :=
  tree.get?_of_ne_root (by simp)

/-- Whatever is somewhere is inside a directory. -/
theorem directory_of_child {tree : Tree} {place : Location} {name : Bytes}
    (present : (tree.get? (place ++ [name])).isSome) : tree.get? place = some .directory := by
  rw [get?_child] at present
  rcases tree.closed place name present with root | inside
  · simp [root]
  · by_cases root : place = []
    · simp [root]
    · rw [tree.get?_of_ne_root root, inside]

/-- Below a place that holds no directory there is nothing. -/
theorem get?_below_none {tree : Tree} {place : Location}
    (other : tree.get? place ≠ some .directory) (first : Bytes) (rest : Location) :
    tree.get? (place ++ first :: rest) = none := by
  have nothing : tree.get? (place ++ [first]) = none :=
    Option.not_isSome_iff_eq_none.1 fun present => other (directory_of_child present)
  induction rest generalizing place first with
  | nil => exact nothing
  | cons second rest ih =>
    have vacant : tree.get? (place ++ [first]) ≠ some .directory := by simp [nothing]
    have further := ih vacant second
      (Option.not_isSome_iff_eq_none.1 fun present => vacant (directory_of_child present))
    simpa using further

/-! ## Changing a tree -/

/-- The tree with a node at a vacant name in a directory; where the name is taken, or there is no
such directory, the tree as it was. -/
def put (tree : Tree) (place : Location) (name : Bytes) (node : Node) : Tree :=
  if vacant : tree.get? place = some .directory ∧ tree.get? (place ++ [name]) = none then
    { nodes := tree.nodes.set (.of (place ++ [name])) node
      closed := by
        intro outer inner present
        rw [Address.get?_set] at present
        by_cases root : outer = []
        · exact Or.inl root
        · refine Or.inr ?_
          rw [Address.get?_set]
          have holds : tree.get? outer = some .directory := by
            by_cases same : outer ++ [inner] = place ++ [name]
            · rw [(List.append_inj' same rfl).1]
              exact vacant.1
            · rw [if_neg same] at present
              have inside : (tree.get? (outer ++ [inner])).isSome := by simpa using present
              exact directory_of_child inside
          have distinct : outer ≠ place ++ [name] := by
            rintro rfl
            rw [vacant.2] at holds
            cases holds
          rw [if_neg distinct, ← tree.get?_of_ne_root root]
          exact holds }
  else tree

/-- The tree without what a place holds and all that is below it; the root stays. -/
def clear (tree : Tree) (place : Location) : Tree where
  nodes := tree.nodes.keep fun other => !place.isPrefixOf other.names
  closed := by
    intro outer inner present
    rw [Table.get?_keep, Address.names_of] at present
    by_cases below : place <+: outer ++ [inner]
    · simp [List.isPrefixOf_iff_prefix.2 below] at present
    · have kept : (place.isPrefixOf (outer ++ [inner])) = false := by
        simpa [← List.isPrefixOf_iff_prefix] using below
      rw [kept] at present
      have outside : (place.isPrefixOf outer) = false := by
        refine Bool.eq_false_iff.2 fun above => below ?_
        exact (List.isPrefixOf_iff_prefix.1 above).trans (List.prefix_append outer [inner])
      rcases tree.closed outer inner (by simpa using present) with root | holds
      · exact Or.inl root
      · exact Or.inr (by rw [Table.get?_keep, Address.names_of, outside]; simpa using holds)

theorem get?_put {tree : Tree} {place : Location} {name : Bytes}
    (inside : tree.get? place = some .directory) (vacant : tree.get? (place ++ [name]) = none)
    (node : Node) (other : Location) :
    (tree.put place name node).get? other =
      if other = place ++ [name] then some node else tree.get? other := by
  by_cases root : other = []
  · subst root
    simp
  · rw [get?_of_ne_root _ root, tree.get?_of_ne_root root, put, dif_pos ⟨inside, vacant⟩,
      Address.get?_set]

theorem get?_clear (tree : Tree) (place other : Location) :
    (tree.clear place).get? other =
      if other ≠ [] ∧ place <+: other then none else tree.get? other := by
  by_cases root : other = []
  · subst root
    simp
  · rw [get?_of_ne_root _ root, tree.get?_of_ne_root root, clear, Table.get?_keep,
      Address.names_of]
    by_cases below : place <+: other
    · simp [List.isPrefixOf_iff_prefix.2 below, below, root]
    · have outside : (place.isPrefixOf other) = false := by
        simpa [← List.isPrefixOf_iff_prefix] using below
      simp [outside, below]

/-! ## Listing -/

def entries (tree : Tree) : List (Location × Node) :=
  tree.nodes.entries.map fun entry => (entry.1.names, entry.2)

theorem mem_entries_iff {tree : Tree} {place : Location} (inner : place ≠ []) (node : Node) :
    (place, node) ∈ tree.entries ↔ tree.get? place = some node := by
  rw [tree.get?_of_ne_root inner, ← Table.mem_entries_iff, entries, List.mem_map]
  constructor
  · rintro ⟨⟨address, held⟩, member, equal⟩
    cases equal
    simpa using member
  · exact fun member => ⟨_, member, rfl⟩

theorem nodup_entries (tree : Tree) : (tree.entries.map Prod.fst).Nodup := by
  have each := List.pairwise_map.1 tree.nodes.distinct
  rw [entries, List.map_map]
  refine List.pairwise_map.2 (each.imp fun different same => different ?_)
  simpa using congrArg Address.of same

/-- The last name on the way to a place, if the place is directly inside the directory. -/
def nameIn (place : Location) (inner : Location) : Option Bytes :=
  match inner.getLast? with
  | some name => if inner.dropLast = place then some name else none
  | none => none

theorem nameIn_eq_some_iff {place inner : Location} {name : Bytes} :
    nameIn place inner = some name ↔ inner = place ++ [name] := by
  rcases List.eq_nil_or_concat inner with rfl | ⟨front, last, rfl⟩
  · simp [nameIn]
  · rw [List.concat_eq_append]
    by_cases same : front = place
    · simp [nameIn, same]
    · have different : front ++ [last] ≠ place ++ [name] := fun equal =>
        same (List.append_inj' equal rfl).1
      simp [nameIn, same]

/-- The names directly inside a directory, with what each holds. -/
def children (tree : Tree) (place : Location) : List (Bytes × Node) :=
  tree.entries.filterMap fun entry => (nameIn place entry.1).map fun name => (name, entry.2)

theorem mem_children_iff {tree : Tree} {place : Location} {name : Bytes} {node : Node} :
    (name, node) ∈ tree.children place ↔ tree.get? (place ++ [name]) = some node := by
  rw [← mem_entries_iff (by simp)]
  simp only [children, List.mem_filterMap]
  constructor
  · rintro ⟨⟨inner, held⟩, member, named⟩
    obtain ⟨found, located, equal⟩ := Option.map_eq_some_iff.1 named
    cases equal
    rwa [← nameIn_eq_some_iff.1 located]
  · intro member
    refine ⟨_, member, ?_⟩
    rw [nameIn_eq_some_iff.2 rfl]
    rfl

theorem nodup_children (tree : Tree) (place : Location) :
    ((tree.children place).map Prod.fst).Nodup := by
  have each := List.pairwise_map.1 tree.nodup_entries
  refine List.pairwise_map.2 (List.pairwise_filterMap.2 (each.imp ?_))
  intro first second different left foundLeft right foundRight same
  obtain ⟨_, firstName, rfl⟩ := Option.map_eq_some_iff.1 foundLeft
  obtain ⟨_, secondName, rfl⟩ := Option.map_eq_some_iff.1 foundRight
  simp only at same
  subst same
  exact different ((nameIn_eq_some_iff.1 firstName).trans (nameIn_eq_some_iff.1 secondName).symm)

end Tree

end SheetCabinet
