import SheetCabinet.Store
import SheetCabinet.Proofs.Files.Change

/-!
# Listing a directory

The names that are listed for a directory are those of the files in it that a cabinet does not keep
for itself, each of them once. So their number changes only with such a file.

Results:
* which names are listed (`mem_itemNames_iff`, `nodup_itemNames`), and that they are what is
  listed by path (`listItems_of_locate`, `listItems_eq_ok`);
* a file more is a name more (`length_itemNames_new`), and nothing else is
  (`length_itemNames_congr`);
* the names rise strictly, so there is one list of them (`rising_sortNames`, `Listing.unique`), and that
  is what is listed in whatever order the directory is enumerated (`listing_of_enumeration`,
  `listItemsBy_eq`, `exists_listing`).
-/

namespace SheetCabinet

namespace Work

def itemNames (files : FileSystem) (place : Location) : List String :=
  (files.tree.children place).filterMap itemName

/-! ## The names -/

theorem itemName_eq_some_iff {entry : Bytes × Node} {name : String} :
    itemName entry = some name ↔
      (∃ id, entry.2 = .file id) ∧ entry.1 = utf8 name ∧ isReserved name = false := by
  obtain ⟨bytes, node⟩ := entry
  cases node with
  | directory => simp [itemName]
  | link target => simp [itemName]
  | file id =>
    unfold itemName
    dsimp only
    constructor
    · intro named
      split at named
      · rename_i text read
        split at named
        · cases named
        · rename_i free
          cases named
          exact ⟨⟨id, rfl⟩, Bytes.text?_eq_some_iff.1 read, Bool.eq_false_iff.2 free⟩
      · cases named
    · rintro ⟨-, rfl, free⟩
      simp [Bytes.text?_utf8, free]

variable {files after : FileSystem} {place : Location}

section Entries

variable {entries : List (Bytes × Node)}

theorem mem_filterMap_itemName_iff {name : String} : name ∈ entries.filterMap itemName ↔
    isReserved name = false ∧ ∃ id, (utf8 name, .file id) ∈ entries := by
  rw [List.mem_filterMap]
  constructor
  · rintro ⟨⟨bytes, node⟩, member, named⟩
    obtain ⟨⟨id, kind⟩, same, free⟩ := itemName_eq_some_iff.1 named
    dsimp only at kind same
    subst kind same
    exact ⟨free, id, member⟩
  · rintro ⟨free, id, member⟩
    exact ⟨_, member, itemName_eq_some_iff.2 ⟨⟨id, rfl⟩, rfl, free⟩⟩

/-- Two entries that give the same name have the same name. -/
theorem nodup_filterMap_itemName (distinct : (entries.map Prod.fst).Nodup) :
    (entries.filterMap itemName).Nodup := by
  refine List.pairwise_filterMap.2 ((List.pairwise_map.1 distinct).imp ?_)
  intro first second different left leftNamed right rightNamed same
  subst same
  have one := (itemName_eq_some_iff.1 leftNamed).2.1
  have other := (itemName_eq_some_iff.1 rightNamed).2.1
  exact different (one.trans other.symm)

end Entries

theorem mem_itemNames_iff {name : String} : name ∈ itemNames files place ↔
    isReserved name = false ∧ ∃ id, files.tree.get? (place ++ [utf8 name]) = some (.file id) := by
  unfold itemNames
  rw [mem_filterMap_itemName_iff]
  simp only [Tree.mem_children_iff]

theorem nodup_itemNames (files : FileSystem) (place : Location) :
    (itemNames files place).Nodup :=
  nodup_filterMap_itemName (Tree.nodup_children files.tree place)

/-! ## Their number -/

/-- Only the names that no cabinet keeps for itself count. -/
theorem length_itemNames_congr
    (look : ∀ name, isReserved name = false →
      after.tree.get? (place ++ [utf8 name]) = files.tree.get? (place ++ [utf8 name])) :
    (itemNames after place).length = (itemNames files place).length := by
  refine List.Perm.length_eq ?_
  refine (List.perm_ext_iff_of_nodup (nodup_itemNames _ _) (nodup_itemNames _ _)).2 ?_
  intro name
  rw [mem_itemNames_iff, mem_itemNames_iff]
  refine and_congr_right ?_
  intro free
  rw [look name free]

/-- One file more is one name more. -/
theorem length_itemNames_new {new : String} {id : FileId} (free : isReserved new = false)
    (vacant : files.tree.get? (place ++ [utf8 new]) = none)
    (held : after.tree.get? (place ++ [utf8 new]) = some (.file id))
    (look : ∀ name, isReserved name = false → name ≠ new →
      after.tree.get? (place ++ [utf8 name]) = files.tree.get? (place ++ [utf8 name])) :
    (itemNames after place).length = (itemNames files place).length + 1 := by
  -- both lists have no name twice, so it is enough that they have the same names
  have absent : new ∉ itemNames files place := by
    intro member
    obtain ⟨-, other, present⟩ := mem_itemNames_iff.1 member
    rw [vacant] at present
    cases present
  have distinct : (new :: itemNames files place).Nodup :=
    List.nodup_cons.2 ⟨absent, nodup_itemNames files place⟩
  have same : (itemNames after place).Perm (new :: itemNames files place) := by
    refine (List.perm_ext_iff_of_nodup (nodup_itemNames _ _) distinct).2 ?_
    intro name
    rw [List.mem_cons, mem_itemNames_iff, mem_itemNames_iff]
    by_cases own : name = new
    · subst own
      exact ⟨fun _ => .inl rfl, fun _ => ⟨free, id, held⟩⟩
    · constructor
      · rintro ⟨unreserved, other, present⟩
        exact .inr ⟨unreserved, other, (look name unreserved own).symm.trans present⟩
      · rintro (equal | ⟨unreserved, other, present⟩)
        · exact absurd equal own
        · exact ⟨unreserved, other, (look name unreserved own).trans present⟩
  rw [same.length_eq, List.length_cons]

/-! ## Listing by path -/

variable {store : Store} {directory : Path}

theorem listItems_of_locate (led : store.files.locate (utf8 directory) = .ok place)
    (inside : store.files.tree.get? place = some .directory) :
    listItems directory store = .ok (sortNames (itemNames store.files place)) store := by
  have listed : store.files.list (utf8 directory) = .ok (store.files.tree.children place) := by
    unfold FileSystem.list
    rw [led]
    simp only [inside]
  unfold listItems
  rw [query_apply, listed]
  rfl

theorem listItems_of_folder (askable : checkPath (utf8 directory) = .ok ())
    (found : store.files.folder directory = .ok place) :
    listItems directory store = .ok (sortNames (itemNames store.files place)) store :=
  listItems_of_locate (FileSystem.locate_folder askable found)
    (FileSystem.directory_of_folder found)

theorem length_sortNames (names : List String) : (sortNames names).length = names.length :=
  List.length_mergeSort names

/-- Whatever path a directory was listed by, as many names came as there are. -/
theorem listItems_eq_ok {names : List String} {later : Store}
    (found : store.files.folder directory = .ok place)
    (done : listItems directory store = .ok names later) :
    later = store ∧ names.length = (itemNames store.files place).length := by
  have askable : checkPath (utf8 directory) = .ok () := by
    cases checked : checkPath (utf8 directory) with
    | ok _ => rfl
    | error cause =>
      have lost : store.files.list (utf8 directory) = .error cause := by
        unfold FileSystem.list FileSystem.locate FileSystem.arrive
        rw [checked]
        rfl
      unfold listItems at done
      rw [query_apply, lost] at done
      cases done
  rw [listItems_of_folder askable found] at done
  cases done
  exact ⟨rfl, length_sortNames _⟩

/-! ## In rising order -/

theorem mem_sortNames {name : String} {names : List String} :
    name ∈ sortNames names ↔ name ∈ names := List.mem_mergeSort

/-- Names of which none comes twice rise strictly once they are sorted. -/
theorem rising_sortNames {names : List String} (distinct : names.Nodup) :
    (sortNames names).Pairwise fun first second => utf8 first < utf8 second := by
  have sorted : (sortNames names).Pairwise fun first second => utf8 first ≤ utf8 second := by
    refine (List.pairwise_mergeSort ?_ ?_ names).imp of_decide_eq_true
    · intro first second third before after
      exact decide_eq_true (List.le_trans (of_decide_eq_true before) (of_decide_eq_true after))
    · intro first second
      rw [Bool.or_eq_true, decide_eq_true_eq, decide_eq_true_eq]
      exact List.le_total _ _
  have apart : (sortNames names).Nodup := (List.mergeSort_perm names _).nodup_iff.2 distinct
  refine sorted.imp₂ ?_ apart
  intro first second before different
  rcases List.le_iff_lt_or_eq.1 before with less | same
  · exact less
  · exact absurd (utf8_inj.1 same) different

theorem nodup_of_rising {names : List String}
    (rising : names.Pairwise fun first second => utf8 first < utf8 second) : names.Nodup := by
  refine rising.imp ?_
  rintro first second less rfl
  exact List.lt_irrefl _ less

/-- Names rise strictly in one order only. -/
theorem eq_of_rising {names others : List String}
    (one : names.Pairwise fun first second => utf8 first < utf8 second)
    (other : others.Pairwise fun first second => utf8 first < utf8 second)
    (same : names.Perm others) : names = others := by
  refine same.eq_of_pairwise ?_ one other
  intro first second _ _ less more
  exact absurd more (List.lt_asymm less)

theorem sortNames_eq_of_perm {names sorted : List String}
    (rising : sorted.Pairwise fun first second => utf8 first < utf8 second)
    (same : names.Perm sorted) : sortNames names = sorted :=
  eq_of_rising (rising_sortNames (same.nodup_iff.2 (nodup_of_rising rising))) rising
    ((List.mergeSort_perm names _).trans same)

/-- What is to be listed of a directory: the texts that are names of files in it and do not begin as the
names do that cabinets keep for themselves, in the rising order of their stored forms. -/
structure Listing (files : FileSystem) (place : Location) (names : List String) : Prop where
  rising : names.Pairwise fun first second => utf8 first < utf8 second
  mem_iff : ∀ name, name ∈ names ↔
    (∃ id, files.tree.get? (place ++ [utf8 name]) = some (.file id)) ∧
      ¬reservedPrefix.toList <+: name.toList

namespace Listing

variable {names others : List String}

/-- There is only one such list. -/
theorem unique (one : Listing files place names) (other : Listing files place others) :
    names = others := by
  refine eq_of_rising one.rising other.rising ?_
  refine (List.perm_ext_iff_of_nodup (nodup_of_rising one.rising)
    (nodup_of_rising other.rising)).2 fun name => ?_
  rw [one.mem_iff, other.mem_iff]

theorem not_mem_of_reserved (listing : Listing files place names) {name : String}
    (reserved : isReserved name = true) : name ∉ names := by
  intro member
  exact ((listing.mem_iff name).1 member).2 (isReserved_iff.1 reserved)

/-- A file is listed exactly if a sheet may have its name, as far as that is one component of a path. -/
theorem mem_iff_check (listing : Listing files place names) {name : String} {id : FileId}
    (held : files.tree.get? (place ++ [utf8 name]) = some (.file id))
    (component : checkComponent name "sheet" = .ok ()) :
    name ∈ names ↔ checkSheetName name = .ok () := by
  rw [listing.mem_iff, checkSheetName_eq_ok_iff, isReserved_eq_false_iff]
  exact ⟨fun member => ⟨component, member.2⟩, fun accepted => ⟨⟨id, held⟩, accepted.2⟩⟩

end Listing

/-! ## In whatever order they come -/

/-- A way to enumerate what is in a directory. Each name comes once, with what it holds; the order can
be any, and another one for every file system and every place. -/
structure Enumeration where
  entries : FileSystem → Location → List (Bytes × Node)
  distinct : ∀ files place, ((entries files place).map Prod.fst).Nodup
  mem_iff : ∀ files place name node,
    (name, node) ∈ entries files place ↔ files.tree.get? (place ++ [name]) = some node

namespace Enumeration

/-- What is in a directory comes as the tree holds it. -/
def ofTree : Enumeration where
  entries files place := files.tree.children place
  distinct files place := Tree.nodup_children files.tree place
  mem_iff _ _ _ _ := Tree.mem_children_iff

/-- What is in a directory comes the other way round. -/
def reverse (enumeration : Enumeration) : Enumeration where
  entries files place := (enumeration.entries files place).reverse
  distinct files place := by
    rw [List.map_reverse]
    exact (List.reverse_perm _).nodup_iff.2 (enumeration.distinct files place)
  mem_iff files place name node := by
    rw [List.mem_reverse]
    exact enumeration.mem_iff files place name node

/-- The names that are listed when the entries of a directory come in this order. -/
def itemsIn (enumeration : Enumeration) (files : FileSystem) (place : Location) : List String :=
  sortNames ((enumeration.entries files place).filterMap itemName)

end Enumeration

/-- Lists a directory whose entries come in the order of an enumeration. -/
def listItemsBy (enumeration : Enumeration) (directory : Path) : Work (List String) :=
  query fun files =>
    match files.locate (utf8 directory) with
    | .ok place =>
      match files.tree.get? place with
      | some .directory => .ok (enumeration.itemsIn files place)
      | _ => .error .notADirectory
    | .error cause => .error cause

theorem listing_of_enumeration (enumeration : Enumeration) (files : FileSystem) (place : Location) :
    Listing files place (enumeration.itemsIn files place) where
  rising := rising_sortNames (nodup_filterMap_itemName (enumeration.distinct files place))
  mem_iff name := by
    unfold Enumeration.itemsIn
    rw [mem_sortNames, mem_filterMap_itemName_iff, and_comm, isReserved_eq_false_iff]
    simp only [enumeration.mem_iff]

theorem listItemsBy_ofTree (directory : Path) :
    listItemsBy .ofTree directory = listItems directory := by
  funext store
  unfold listItemsBy listItems
  rw [query_apply, query_apply]
  unfold FileSystem.list
  cases store.files.locate (utf8 directory) with
  | error cause => rfl
  | ok place =>
    dsimp only
    cases store.files.tree.get? place with
    | none => rfl
    | some node => cases node <;> rfl

/-- The order in which a directory is enumerated makes no difference. -/
theorem listItemsBy_eq (enumeration : Enumeration) (directory : Path) :
    listItemsBy enumeration directory = listItems directory := by
  rw [← listItemsBy_ofTree]
  have same (files : FileSystem) (place : Location) :
      enumeration.itemsIn files place = Enumeration.ofTree.itemsIn files place :=
    (listing_of_enumeration enumeration files place).unique (listing_of_enumeration .ofTree files place)
  unfold listItemsBy
  simp only [same]

/-- A directory that a path leads to is listed. -/
theorem exists_listing (led : store.files.locate (utf8 directory) = .ok place)
    (inside : store.files.tree.get? place = some .directory) :
    ∃ names, listItems directory store = .ok names store ∧ Listing store.files place names :=
  ⟨_, listItems_of_locate led inside, listing_of_enumeration .ofTree store.files place⟩

end Work

end SheetCabinet
