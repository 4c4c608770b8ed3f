import SheetCabinet.Proofs.Files.Folder

/-!
# What an operation leaves alone

An operation that makes, changes, moves or takes away one file changes what is seen at one or two
places. What it leaves alone is the same before and after, and two operations one after the other
leave alone what both do.

Results:
* the places that each operation changes (`sameBut_newFile`, `sameBut_setBytes`, `sameBut_clear`,
  `sameBut_move`), and what is seen there afterwards;
* what has happened if something was renamed (`rename_eq_ok`);
* a directory is found where it was unless one of these places was a directory or a link to one
  (`folder_of_sameBut`), and a new one where it was made (`folder_place`).
-/

namespace SheetCabinet

namespace FileSystem

/-- The file systems hold and show the same at all places but the given ones. -/
structure SameBut (spots : List Location) (files after : FileSystem) : Prop where
  home : after.home = files.home
  look : ∀ place, place ∉ spots → after.tree.get? place = files.tree.get? place
  item : ∀ place, place ∉ spots → after.item place = files.item place

namespace SameBut

variable {files between after : FileSystem} {spots more : List Location}

theorem refl (files : FileSystem) : SameBut [] files files :=
  ⟨rfl, fun _ _ => rfl, fun _ _ => rfl⟩

theorem symm (same : SameBut spots files after) : SameBut spots after files :=
  ⟨same.home.symm, fun place outside => (same.look place outside).symm,
    fun place outside => (same.item place outside).symm⟩

theorem trans (first : SameBut spots files between) (second : SameBut more between after) :
    SameBut (spots ++ more) files after where
  home := second.home.trans first.home
  look place outside := by
    rw [List.mem_append, not_or] at outside
    exact (second.look place outside.2).trans (first.look place outside.1)
  item place outside := by
    rw [List.mem_append, not_or] at outside
    exact (second.item place outside.2).trans (first.item place outside.1)

/-- A place that holds and shows the same as before need not be given. -/
theorem settle {spots fewer : List Location} (same : SameBut spots files after)
    (settled : ∀ place ∈ spots, place ∉ fewer →
      after.tree.get? place = files.tree.get? place ∧ after.item place = files.item place) :
    SameBut fewer files after where
  home := same.home
  look place outside := by
    by_cases spot : place ∈ spots
    · exact (settled place spot outside).1
    · exact same.look place spot
  item place outside := by
    by_cases spot : place ∈ spots
    · exact (settled place spot outside).2
    · exact same.item place spot

/-- All places but one hold what they held. -/
theorem look_ne {spot : Location} (same : SameBut [spot] files after) :
    ∀ other, other ≠ spot → after.tree.get? other = files.tree.get? other :=
  fun other apart => same.look other (by simpa using apart)

/-- Two operations on one place. -/
theorem again {spot : Location} (first : SameBut [spot] files between)
    (second : SameBut [spot] between after) : SameBut [spot] files after :=
  (first.trans second).settle fun place member outside => absurd (by simpa using member) outside

end SameBut

/-- Nothing is seen where nothing is held. -/
theorem both_none {files after : FileSystem} {place : Location}
    (gone : after.tree.get? place = none) (vacant : files.tree.get? place = none) :
    after.tree.get? place = files.tree.get? place ∧ after.item place = files.item place := by
  refine ⟨gone.trans vacant.symm, ?_⟩
  unfold item
  rw [gone, vacant]
  rfl

theorem item_eq_none_iff {files : FileSystem} {place : Location} :
    files.item place = none ↔ files.tree.get? place = none := Option.map_eq_none_iff

/-- Nothing is seen at a vacant place, nor below it. -/
theorem item_below_vacant {files : FileSystem} {place : Location}
    (vacant : files.tree.get? place = none) (rest : Location) : files.item (place ++ rest) = none := by
  refine item_eq_none_iff.2 ?_
  cases rest with
  | nil => rw [List.append_nil, vacant]
  | cons first rest => exact Tree.get?_below_none (by simp [vacant]) first rest

/-! ## Making a file -/

section NewFile

variable {files : FileSystem} {place : Location} {name : Bytes}

theorem look_newFile (inside : files.tree.get? place = some .directory)
    (vacant : files.tree.get? (place ++ [name]) = none) (other : Location) :
    (files.newFile place name).2.tree.get? other =
      if other = place ++ [name] then some (.file files.freshId) else files.tree.get? other :=
  Tree.get?_put inside vacant _ other

theorem sameBut_newFile (inside : files.tree.get? place = some .directory)
    (vacant : files.tree.get? (place ++ [name]) = none) :
    SameBut [place ++ [name]] files (files.newFile place name).2 where
  home := rfl
  look other outside := by
    rw [look_newFile inside vacant, if_neg (List.ne_of_not_mem_cons outside)]
  item other outside := by
    rw [item_newFile inside vacant, if_neg (List.ne_of_not_mem_cons outside)]

/-- A directory or a link can be made as well. -/
theorem sameBut_place (inside : files.tree.get? place = some .directory)
    (vacant : files.tree.get? (place ++ [name]) = none) (node : Node) :
    SameBut [place ++ [name]] files (files.place place name node) where
  home := rfl
  look other outside :=
    (Tree.get?_put inside vacant node other).trans (if_neg (List.ne_of_not_mem_cons outside))
  item other outside := by
    rw [item_place inside vacant, if_neg (List.ne_of_not_mem_cons outside)]

/-- A new file has one name only. -/
theorem eq_of_look_newFile (inside : files.tree.get? place = some .directory)
    (vacant : files.tree.get? (place ++ [name]) = none) {other : Location}
    (held : (files.newFile place name).2.tree.get? other = some (.file files.freshId)) :
    other = place ++ [name] := by
  rw [look_newFile inside vacant] at held
  by_cases same : other = place ++ [name]
  · exact same
  · rw [if_neg same] at held
    exact absurd held (freshId_not_mem_tree files other)

end NewFile

/-! ## Changing a file -/

/-- The file is at this place and nowhere else. -/
structure OnlyAt (files : FileSystem) (id : FileId) (place : Location) : Prop where
  held : files.tree.get? place = some (.file id)
  only : ∀ other, files.tree.get? other = some (.file id) → other = place

variable {files : FileSystem} {id : FileId} {place : Location}

theorem onlyAt_newFile {name : Bytes} (inside : files.tree.get? place = some .directory)
    (vacant : files.tree.get? (place ++ [name]) = none) :
    (files.newFile place name).2.OnlyAt files.freshId (place ++ [name]) where
  held := by rw [look_newFile inside vacant, if_pos rfl]
  only _ held := eq_of_look_newFile inside vacant held

theorem OnlyAt.of_sameBut {after : FileSystem} {spots : List Location}
    (only : files.OnlyAt id place) (same : SameBut spots files after) (outside : place ∉ spots)
    (others : ∀ spot ∈ spots, after.tree.get? spot ≠ some (.file id)) : after.OnlyAt id place where
  held := by rw [same.look place outside, only.held]
  only other held := by
    by_cases spot : other ∈ spots
    · exact absurd held (others other spot)
    · rw [same.look other spot] at held
      exact only.only other held

/-- The file is at this place and nowhere else, and holds these bytes. -/
structure Stands (files : FileSystem) (id : FileId) (place : Location) (contents : Bytes) : Prop
    extends OnlyAt files id place where
  holds : (files.body id).bytes = contents

theorem stands_newFile {name : Bytes} (inside : files.tree.get? place = some .directory)
    (vacant : files.tree.get? (place ++ [name]) = none) :
    (files.newFile place name).2.Stands files.freshId (place ++ [name]) [] where
  toOnlyAt := onlyAt_newFile inside vacant
  holds := by
    refine (bytes_setBytes _ files.freshId files.freshId []).trans ?_
    exact if_pos rfl

theorem sameBut_setBytes (only : files.OnlyAt id place) (bytes : Bytes) :
    SameBut [place] files (files.setBytes id bytes) where
  home := rfl
  look _ _ := rfl
  item other outside := by
    rw [item_setBytes, if_neg fun held => outside (List.mem_singleton.2 (only.only other held))]

theorem stands_setBytes (only : files.OnlyAt id place) (bytes : Bytes) :
    (files.setBytes id bytes).Stands id place bytes where
  held := only.held
  only := only.only
  holds := by rw [bytes_setBytes, if_pos rfl]

theorem sameBut_append (only : files.OnlyAt id place) (bytes : Bytes) :
    SameBut [place] files (files.append id bytes) where
  home := rfl
  look _ _ := rfl
  item other outside := by
    rw [item_append, if_neg fun held => outside (List.mem_singleton.2 (only.only other held))]

theorem stands_append {contents : Bytes} (stands : files.Stands id place contents)
    (bytes : Bytes) : (files.append id bytes).Stands id place (contents ++ bytes) where
  held := stands.held
  only := stands.only
  holds := by rw [bytes_append, if_pos rfl, stands.holds]

theorem item_of_look (held : files.tree.get? place = some (.file id)) :
    files.item place = some (.file (files.body id).bytes) := by
  unfold item
  rw [held]
  rfl

/-- Where no link is, a name that can be read is a file that holds what is read. -/
theorem item_of_read {directory : Path} {name : String} {bytes : Bytes}
    (within : files.Within directory name place)
    (unlinked : ∀ target, files.tree.get? (place ++ [utf8 name]) ≠ some (.link target))
    (done : files.read (utf8 (Path.join directory name)) = .ok bytes) :
    files.item (place ++ [utf8 name]) = some (.file bytes) := by
  rcases read_cases within done with ⟨id, held, rfl⟩ | ⟨target, _, _, _, linked, -⟩
  · exact item_of_look held
  · exact absurd linked (unlinked target)

theorem Stands.item {contents : Bytes} (stands : files.Stands id place contents) :
    files.item place = some (.file contents) := by
  rw [item_of_look stands.held, stands.holds]

/-- A file that is still seen where it was still holds what it held. -/
theorem Stands.of_sameBut {after : FileSystem} {spots : List Location} {contents : Bytes}
    (stands : files.Stands id place contents) (same : SameBut spots files after)
    (outside : place ∉ spots) (others : ∀ spot ∈ spots, after.tree.get? spot ≠ some (.file id)) :
    after.Stands id place contents where
  toOnlyAt := stands.toOnlyAt.of_sameBut same outside others
  holds := by
    have shown := same.item place outside
    rw [stands.item, item_of_look ((same.look place outside).trans stands.held)] at shown
    simpa using shown

/-- A file with no name was not seen anywhere. -/
def Unnamed (files : FileSystem) (id : FileId) : Prop :=
  ∀ place, files.tree.get? place ≠ some (.file id)

theorem unnamed_freshId (files : FileSystem) : files.Unnamed files.freshId :=
  freshId_not_mem_tree files

/-- A file that had no name before and got one elsewhere is not this one. -/
theorem Stands.aside {after : FileSystem} {spot : Location} {other : FileId} {contents : Bytes}
    (stands : files.Stands id place contents) (same : SameBut [spot] files after)
    (unnamed : files.Unnamed other) (held : after.tree.get? spot = some (.file other))
    (distinct : place ≠ spot) : after.Stands id place contents := by
  refine stands.of_sameBut same (by simpa using distinct) ?_
  intro found member shown
  rw [List.mem_singleton.1 member, held] at shown
  cases shown
  exact unnamed place stands.held

/-! ## Taking a file away and moving it -/

/-- Nothing is below what is no directory. -/
theorem not_prefix_of_solid (solid : files.tree.get? place ≠ some .directory) {other : Location}
    (present : files.tree.get? other ≠ none) (distinct : other ≠ place) : ¬place <+: other := by
  rintro ⟨rest, rfl⟩
  cases rest with
  | nil => exact distinct (List.append_nil place)
  | cons first rest => exact present (Tree.get?_below_none solid first rest)

theorem solid_of_file (held : files.tree.get? place = some (.file id)) :
    files.tree.get? place ≠ some .directory := by
  rw [held]
  exact fun same => by cases same

/-- What is held after a place was cleared. -/
theorem look_cleared (files : FileSystem) (place other : Location) :
    (files.clear place).tree.get? other =
      if other ≠ [] ∧ place <+: other then none else files.tree.get? other :=
  Tree.get?_clear files.tree place other

theorem look_clear (solid : files.tree.get? place ≠ some .directory) (other : Location) :
    (files.clear place).tree.get? other =
      if other = place then none else files.tree.get? other := by
  have inner : place ≠ [] := by
    rintro rfl
    exact solid rfl
  rw [look_cleared]
  by_cases same : other = place
  · subst same
    rw [if_pos ⟨inner, List.prefix_rfl⟩, if_pos rfl]
  · rw [if_neg same]
    by_cases present : files.tree.get? other = none
    · rw [present, ite_self]
    · rw [if_neg fun below => not_prefix_of_solid solid present same below.2]

/-- What is shown depends on what is held and on the bodies of files. -/
theorem item_congr {after : FileSystem} (bodies : after.bodies = files.bodies) {other : Location}
    (look : after.tree.get? other = files.tree.get? other) : after.item other = files.item other := by
  have shown : after.itemOf = files.itemOf := by
    funext node
    cases node with
    | file id => simp only [itemOf, body, bodies]
    | directory => rfl
    | link target => rfl
  unfold item
  rw [look, shown]

/-- A file that is not below the place stays where it is. -/
theorem Stands.cleared {gone : Location} {contents : Bytes} (stands : files.Stands id place contents)
    (aside : ¬gone <+: place) : (files.clear gone).Stands id place contents := by
  refine ⟨⟨?_, ?_⟩, stands.holds⟩
  · rw [look_cleared, if_neg fun below => aside below.2]
    exact stands.held
  · intro other shown
    rw [look_cleared] at shown
    split at shown
    · cases shown
    · exact stands.only other shown

theorem sameBut_clear (held : files.tree.get? place = some (.file id)) :
    SameBut [place] files (files.clear place) := by
  have look (other : Location) (outside : other ∉ [place]) :
      (files.clear place).tree.get? other = files.tree.get? other := by
    rw [look_clear (solid_of_file held), if_neg (List.ne_of_not_mem_cons outside)]
  refine ⟨rfl, look, ?_⟩
  intro other outside
  refine item_congr ?_ (look other outside)
  rfl

section Move

variable {outer : Location} {name other : Bytes}

/-- Nothing moves along with a file. -/
theorem move_file (held : files.tree.get? (place ++ [name]) = some (.file id)) (outer : Location)
    (other : Bytes) : files.move (place ++ [name]) (.file id) outer other =
      { files with
        tree := ((files.tree.clear (outer ++ [other])).clear (place ++ [name])).put outer other
          (.file id) } := by
  have below : (files.tree.entries.filter fun entry =>
      (place ++ [name]).isPrefixOf entry.1 && !decide (entry.1 = place ++ [name])) = [] := by
    refine List.filter_eq_nil_iff.2 ?_
    intro entry member
    rw [Bool.and_eq_true, List.isPrefixOf_iff_prefix, Bool.not_eq_true', decide_eq_false_iff_not]
    rintro ⟨under, distinct⟩
    have inner : entry.1 ≠ [] := by
      intro root
      rw [root, List.prefix_nil] at under
      exact List.append_ne_nil_of_right_ne_nil _ (List.cons_ne_nil _ _) under
    have present : files.tree.get? entry.1 = some entry.2 := (Tree.mem_entries_iff inner _).1 member
    exact not_prefix_of_solid (solid_of_file held) (by simp [present]) distinct under
  unfold move
  rw [below, List.mergeSort_nil]
  rfl

/-- A file that moves into a directory takes the place of whatever is there, if that is no
directory. -/
theorem look_move (held : files.tree.get? (place ++ [name]) = some (.file id))
    (inside : files.tree.get? outer = some .directory)
    (solid : files.tree.get? (outer ++ [other]) ≠ some .directory) (spot : Location) :
    (files.move (place ++ [name]) (.file id) outer other).tree.get? spot =
      if spot = outer ++ [other] then some (.file id)
      else if spot = place ++ [name] then none else files.tree.get? spot := by
  rw [move_file held]
  have cleared (spot : Location) :
      ((files.tree.clear (outer ++ [other])).clear (place ++ [name])).get? spot =
        if spot = outer ++ [other] then none
        else if spot = place ++ [name] then none else files.tree.get? spot := by
    have source : (files.clear (outer ++ [other])).tree.get? (place ++ [name]) ≠
        some .directory := by
      rw [look_clear solid]
      split
      · exact fun same => by cases same
      · exact solid_of_file held
    have both : ((files.clear (outer ++ [other])).clear (place ++ [name])).tree.get? spot =
        if spot = place ++ [name] then none
        else if spot = outer ++ [other] then none else files.tree.get? spot := by
      rw [look_clear source, look_clear solid]
    refine both.trans ?_
    by_cases new : spot = outer ++ [other]
    · rw [if_pos new, if_pos new, ite_self]
    · rw [if_neg new, if_neg new]
  have aside : outer ≠ outer ++ [other] := by simp
  have apart : outer ≠ place ++ [name] := by
    rintro rfl
    exact solid_of_file held inside
  refine (Tree.get?_put ?_ ?_ _ spot).trans ?_
  · rw [cleared, if_neg aside, if_neg apart, inside]
  · rw [cleared, if_pos rfl]
  · rw [cleared]
    by_cases new : spot = outer ++ [other]
    · rw [if_pos new, if_pos new]
    · rw [if_neg new, if_neg new, if_neg new]

theorem stands_move {contents : Bytes} (stands : files.Stands id (place ++ [name]) contents)
    (inside : files.tree.get? outer = some .directory)
    (solid : files.tree.get? (outer ++ [other]) ≠ some .directory) :
    (files.move (place ++ [name]) (.file id) outer other).Stands id (outer ++ [other]) contents where
  held := by rw [look_move stands.held inside solid, if_pos rfl]
  only spot held := by
    rw [look_move stands.held inside solid] at held
    by_cases new : spot = outer ++ [other]
    · exact new
    · rw [if_neg new] at held
      split at held
      · cases held
      · rename_i old
        exact absurd (stands.only spot held) old
  holds := by
    rw [move_file stands.held]
    exact stands.holds

theorem sameBut_move (held : files.tree.get? (place ++ [name]) = some (.file id))
    (inside : files.tree.get? outer = some .directory)
    (solid : files.tree.get? (outer ++ [other]) ≠ some .directory) :
    SameBut [outer ++ [other], place ++ [name]] files
      (files.move (place ++ [name]) (.file id) outer other) := by
  have look (spot : Location) (outside : spot ∉ [outer ++ [other], place ++ [name]]) :
      (files.move (place ++ [name]) (.file id) outer other).tree.get? spot =
        files.tree.get? spot := by
    rw [List.mem_cons, List.mem_singleton, not_or] at outside
    rw [look_move held inside solid, if_neg outside.1, if_neg outside.2]
  refine ⟨by rw [move_file held], look, ?_⟩
  intro spot outside
  exact item_congr (by rw [move_file held]) (look spot outside)

theorem solid_of_replaceable {spot : Location}
    (allowed : files.replaceable (.file id) spot = .ok ()) :
    files.tree.get? spot ≠ some .directory := by
  intro inside
  simp [replaceable, inside] at allowed

/-- What is renamed has a name, and gets one in a directory; it stays as it is if that is the name it
has, and otherwise moves there if it may take the place of what is there. -/
theorem rename_eq_ok {path newPath : Bytes} {renamed : FileSystem}
    (done : files.rename path newPath = .ok renamed) :
    ∃ place name old outer other new node,
      files.parent path = .ok (place, old) ∧ old.name = some name ∧
      files.parent newPath = .ok (outer, new) ∧ new.name = some other ∧
      files.tree.get? (place ++ [name]) = some node ∧
      (place ++ [name] = outer ++ [other] ∧ renamed = files ∨
        place ++ [name] ≠ outer ++ [other] ∧ files.replaceable node (outer ++ [other]) = .ok () ∧
          renamed = files.move (place ++ [name]) node outer other) := by
  unfold rename at done
  cases first : files.parent path with
  | error cause =>
    rw [first] at done
    cases done
  | ok source =>
    cases second : files.parent newPath with
    | error cause =>
      rw [first, second] at done
      cases done
    | ok target =>
      obtain ⟨place, old⟩ := source
      obtain ⟨outer, new⟩ := target
      rw [first, second] at done
      simp only [bind, Except.bind] at done
      split at done
      · cases done
      · split at done
        · rename_i name other named renamedTo
          split at done
          · cases done
          · split at done
            · cases done
            · rename_i node held
              refine ⟨place, name, old, outer, other, new, node, rfl, named, rfl, renamedTo, held, ?_⟩
              split at done
              · cases done
              · split at done
                · cases done
                · split at done
                  · rename_i same
                    cases done
                    exact .inl ⟨same, rfl⟩
                  · rename_i apart
                    split at done
                    · cases done
                    · split at done
                      · cases done
                      · split at done
                        · rename_i allowed
                          cases done
                          exact .inr ⟨apart, allowed, rfl⟩
                        · cases done
        · cases done

end Move

/-! ## Locks -/

theorem sameBut_lock {locked : FileSystem} (taken : files.lock? id = some locked) :
    SameBut [] files locked := by
  unfold lock? at taken
  split at taken
  · cases taken
  · cases taken
    exact ⟨rfl, fun _ _ => rfl, fun _ _ => rfl⟩

theorem sameBut_unlock (files : FileSystem) (id : FileId) : SameBut [] files (files.unlock id) :=
  ⟨rfl, fun _ _ => rfl, fun _ _ => rfl⟩

/-! ## Directories -/

/-- What may change without anybody losing the way to a directory. -/
def Idle (files : FileSystem) (spot : Location) : Prop :=
  files.tree.get? spot ≠ some .directory ∧
    ∀ place name target, spot = place ++ [name] →
      files.tree.get? spot = some (.link target) → Dead files.tree.get? place target

theorem idle_of_vacant (vacant : files.tree.get? place = none) : files.Idle place := by
  refine ⟨by simp [vacant], ?_⟩
  intro _ _ target _ held
  rw [vacant] at held
  cases held

theorem idle_of_file (held : files.tree.get? place = some (.file id)) : files.Idle place := by
  refine ⟨by simp [held], ?_⟩
  intro _ _ target _ other
  rw [held] at other
  cases other

theorem idle_of_read {directory : Path} {item : String} {bytes : Bytes}
    (within : files.Within directory item place)
    (done : files.read (utf8 (Path.join directory item)) = .ok bytes) :
    files.Idle (place ++ [utf8 item]) := by
  refine ⟨solid_of_read within done, ?_⟩
  intro inner name target split held
  obtain ⟨rfl, -⟩ := List.append_inj' split rfl
  exact dead_of_read within done held

theorem keeps_of_sameBut {after : FileSystem} {spots : List Location}
    (same : SameBut spots files after) (idle : ∀ spot ∈ spots, files.Idle spot) :
    Keeps files.tree.get? after.tree.get? where
  directory place inside := by
    rw [same.look place fun spot => (idle place spot).1 inside, inside]
  link place name target held := by
    by_cases spot : place ++ [name] ∈ spots
    · exact .inr ((idle _ spot).2 place name target rfl held)
    · exact .inl ((same.look _ spot).trans held)

theorem folder_of_sameBut {after : FileSystem} {spots : List Location} {directory : Path}
    (same : SameBut spots files after) (idle : ∀ spot ∈ spots, files.Idle spot)
    (found : files.folder directory = .ok place) : after.folder directory = .ok place :=
  folder_stable (keeps_of_sameBut same idle) same.home found

/-- A directory that is made at a free name is found behind the one it is in. -/
theorem folder_place {directory : Path} {item : String} (component : Component item)
    (found : files.folder directory = .ok place)
    (vacant : files.tree.get? (place ++ [utf8 item]) = none)
    (short : (utf8 item).length ≤ longestName) :
    (files.place place (utf8 item) .directory).folder (Path.join directory item) =
      .ok (place ++ [utf8 item]) := by
  have inside := directory_of_folder found
  have made := sameBut_place inside vacant .directory
  have kept := folder_of_sameBut made (by simpa using idle_of_vacant vacant) found
  exact folder_join component kept short ((Tree.get?_put inside vacant _ _).trans (if_pos rfl))

end FileSystem

end SheetCabinet
