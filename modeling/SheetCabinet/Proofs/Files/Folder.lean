import SheetCabinet.Proofs.Files.Joined

/-!
# Operations on a name in a directory

What an operation does by the path of a name in a directory depends on three things: whether the
path can be asked for, where the directory is, and what the name holds there.

Results:
* each operation on such a path is an operation on a place (`vacancy_within`, `lastNode_within`,
  `openOrCreate_within`, `status_within`);
* whoever makes or opens something by such a path has reached the directory
  (`within_of_vacancy`, `within_of_openOrCreate`), and whoever reads by it has found a file
  (`read_cases`);
* a directory stays where it is while directories and links do (`folder_stable`), and can be opened
  by its own path (`status_folder`);
* a directory that was made in another is found behind it (`folder_join`).
-/

namespace SheetCabinet

namespace FileSystem

/-- The directory that a path leads to. -/
def folder (files : FileSystem) (directory : Path) : Except FileError Location :=
  match walk files.tree.get? false mostLinks (startOf files.home (utf8 directory))
      (stem (utf8 directory) ++ [.slash]) with
  | .ok (.found place) => .ok place
  | .ok (.vacant _ _) => .error .notFound
  | .error cause => .error cause

/-- A name in a directory can be reached by its path. -/
structure Within (files : FileSystem) (directory : Path) (item : String) (place : Location) :
    Prop where
  component : Component item
  askable : checkPath (utf8 (Path.join directory item)) = .ok ()
  folder : files.folder directory = .ok place

variable {files : FileSystem} {directory : Path} {item : String} {place : Location}

theorem folder_eq_ok_iff : files.folder directory = .ok place ↔
    walk files.tree.get? false mostLinks (startOf files.home (utf8 directory))
      (stem (utf8 directory) ++ [.slash]) = .ok (.found place) := by
  unfold folder
  split
  · rename_i reached walked
    rw [walked, Except.ok.injEq, Except.ok.injEq, Arrival.found.injEq]
  · rename_i walked
    simp [walked]
  · rename_i walked
    simp [walked]

/-- Where names lead depends on the names alone. -/
theorem Within.of_tree {after : FileSystem} (within : files.Within directory item place)
    (tree : after.tree = files.tree) (home : after.home = files.home) :
    after.Within directory item place where
  component := within.component
  askable := within.askable
  folder := by
    rw [folder_eq_ok_iff, tree, home]
    exact folder_eq_ok_iff.1 within.folder

theorem directory_of_folder (found : files.folder directory = .ok place) :
    files.tree.get? place = some .directory :=
  directory_of_walk_slash (folder_eq_ok_iff.1 found)

/-! ## The directory and the name -/

theorem parent_join (component : Component item) (files : FileSystem) (directory : Path) :
    files.parent (utf8 (Path.join directory item)) =
      match checkPath (utf8 (Path.join directory item)) with
      | .error cause => .error cause
      | .ok () =>
        match files.folder directory with
        | .error cause => .error cause
        | .ok place => .ok (place, ⟨stem (utf8 directory), some (utf8 item), false⟩) := by
  unfold parent folder
  rw [parts_join component, startOf_join component, ofParts_stem]
  cases checkPath (utf8 (Path.join directory item)) with
  | error cause => rfl
  | ok _ =>
    dsimp only [bind, Except.bind]
    cases walk files.tree.get? false mostLinks (startOf files.home (utf8 directory))
        (stem (utf8 directory) ++ [.slash]) with
    | error cause => rfl
    | ok arrival => cases arrival <;> rfl

theorem parent_within (within : files.Within directory item place) :
    files.parent (utf8 (Path.join directory item)) =
      .ok (place, ⟨stem (utf8 directory), some (utf8 item), false⟩) := by
  rw [parent_join within.component, within.askable, within.folder]

theorem within_of_parent {final : Final} (component : Component item)
    (reached : files.parent (utf8 (Path.join directory item)) = .ok (place, final)) :
    files.Within directory item place := by
  rw [parent_join component] at reached
  split at reached
  · cases reached
  · rename_i askable
    split at reached
    · cases reached
    · rename_i found
      cases reached
      exact ⟨component, askable, found⟩

theorem vacancy_within (within : files.Within directory item place) (slash : Option FileError) :
    files.vacancy slash (utf8 (Path.join directory item)) =
      if longestName < (utf8 item).length then .error .nameTooLong
      else match files.tree.get? (place ++ [utf8 item]) with
        | some _ => .error .alreadyExists
        | none => .ok (place, utf8 item) := by
  have inside := directory_of_folder within.folder
  unfold vacancy
  rw [parent_within within]
  cases held : files.tree.get? (place ++ [utf8 item]) with
  | none => simp only [Bool.false_eq_true, if_false, held, if_pos inside]
  | some node => simp only [Bool.false_eq_true, if_false, held]

theorem within_of_vacancy {slash : Option FileError} {reached : Location × Bytes}
    (component : Component item)
    (free : files.vacancy slash (utf8 (Path.join directory item)) = .ok reached) :
    files.Within directory item reached.1 ∧ reached.2 = utf8 item := by
  have led : ∃ place, files.Within directory item place := by
    unfold vacancy at free
    split at free
    · cases free
    · rename_i led
      exact ⟨_, within_of_parent component led⟩
  obtain ⟨place, within⟩ := led
  rw [vacancy_within within] at free
  split at free
  · cases free
  · split at free
    · cases free
    · cases free
      exact ⟨within, rfl⟩

theorem lastNode_within (within : files.Within directory item place) :
    files.lastNode (utf8 (Path.join directory item)) =
      if longestName < (utf8 item).length then .error .nameTooLong
      else match files.tree.get? (place ++ [utf8 item]) with
        | none => .error .notFound
        | some node => .ok (place ++ [utf8 item], node, false) := by
  unfold lastNode
  cases held : files.tree.get? (place ++ [utf8 item]) with
  | none => simp only [parent_within within, held]
  | some node => simp only [parent_within within, held]

/-- A file goes away by its path. -/
theorem removeFile_within {id : FileId} (within : files.Within directory item place)
    (short : (utf8 item).length ≤ longestName)
    (held : files.tree.get? (place ++ [utf8 item]) = some (.file id)) :
    files.removeFile (utf8 (Path.join directory item)) =
      .ok (files.clear (place ++ [utf8 item])) := by
  unfold removeFile
  rw [lastNode_within within, if_neg (Nat.not_lt.2 short), held]
  rfl

/-- A directory is made at a free name. -/
theorem makeDirectory_eq_ok {made : FileSystem} (component : Component item)
    (done : files.makeDirectory (utf8 (Path.join directory item)) = .ok made) :
    ∃ place, files.Within directory item place ∧ files.tree.get? (place ++ [utf8 item]) = none ∧
      (utf8 item).length ≤ longestName ∧ made = files.place place (utf8 item) .directory := by
  unfold makeDirectory at done
  split at done
  · rename_i place last free
    obtain ⟨within, rfl⟩ := within_of_vacancy component free
    obtain ⟨-, vacant, short⟩ := vacancy_eq_ok free
    cases done
    exact ⟨place, within, vacant, short, rfl⟩
  · cases done

/-- Whoever finds what a name holds has reached the directory. -/
theorem within_of_lastNode {found : Location × Node × Bool} (component : Component item)
    (reached : files.lastNode (utf8 (Path.join directory item)) = .ok found) :
    ∃ place, files.Within directory item place := by
  unfold lastNode at reached
  cases led : files.parent (utf8 (Path.join directory item)) with
  | ok outer => exact ⟨outer.1, within_of_parent component led⟩
  | error cause =>
    rw [led] at reached
    cases reached

/-- Whoever takes away what a name holds has reached the directory. -/
theorem removeTree_eq_ok {cleared : FileSystem} (component : Component item)
    (done : files.removeTree (utf8 (Path.join directory item)) = .ok cleared) :
    ∃ place, files.Within directory item place ∧ cleared = files.clear (place ++ [utf8 item]) := by
  unfold removeTree at done
  split at done
  · cases done
  · cases done
  · rename_i last
    obtain ⟨place, within⟩ := within_of_lastNode component last
    refine ⟨place, within, ?_⟩
    rw [lastNode_within within] at last
    split at last
    · cases last
    · split at last
      · cases last
      · cases last
        cases done
        rfl

/-- A directory goes away by its path. -/
theorem removeTree_within (within : files.Within directory item place)
    (short : (utf8 item).length ≤ longestName)
    (held : files.tree.get? (place ++ [utf8 item]) = some .directory) :
    files.removeTree (utf8 (Path.join directory item)) =
      .ok (files.clear (place ++ [utf8 item])) := by
  unfold removeTree
  rw [lastNode_within within, if_neg (Nat.not_lt.2 short), held]

/-- Something has the last name of a path: a file, a directory, or a link that leads anywhere. -/
def Occupied (files : FileSystem) (path : Bytes) : Prop :=
  ∃ place node slashed, files.lastNode path = .ok (place, node, slashed)

/-- At a name that is taken no directory is made. -/
theorem makeDirectory_of_occupied (component : Component item)
    (occupied : files.Occupied (utf8 (Path.join directory item))) :
    files.makeDirectory (utf8 (Path.join directory item)) = .error .alreadyExists := by
  obtain ⟨spot, node, slashed, reached⟩ := occupied
  obtain ⟨place, within⟩ := within_of_lastNode component reached
  rw [lastNode_within within] at reached
  unfold makeDirectory
  rw [vacancy_within within]
  split at reached
  · cases reached
  · rename_i short
    rw [if_neg short]
    split at reached
    · cases reached
    · rename_i held
      rw [held]

/-! ## What the name holds -/

theorem walk_name (inside : files.tree.get? place = some .directory) (creating : Bool) (links : Nat)
    (name : Bytes) :
    walk files.tree.get? creating links place [.name name] =
      if longestName < name.length then .error .nameTooLong
      else match files.tree.get? (place ++ [name]) with
        | none => .ok (.vacant place name)
        | some (.link target) =>
          match links with
          | 0 => .error .tooManyLinks
          | left + 1 => walk files.tree.get? creating left (startOf place target) (parts target)
        | some _ => .ok (.found (place ++ [name])) := by
  rw [walk_eq, advance_inside inside]
  dsimp only
  rw [if_neg fun making => making.2.1 rfl]
  by_cases long : longestName < name.length
  · rw [if_pos long, if_pos long]
  · rw [if_neg long, if_neg long]
    cases files.tree.get? (place ++ [name]) with
    | none => rfl
    | some node =>
      cases node with
      | file id => rfl
      | directory => rfl
      | link target => cases links <;> simp

/-- The walk of a joined path is the walk to the directory and one step more. -/
theorem arrive_join (component : Component item) (files : FileSystem) (directory : Path) :
    ∃ left, ∀ creating, files.arrive creating (utf8 (Path.join directory item)) =
      match checkPath (utf8 (Path.join directory item)) with
      | .error cause => .error cause
      | .ok () =>
        match files.folder directory with
        | .error cause => .error cause
        | .ok place => walk files.tree.get? creating left place [.name (utf8 item)] := by
  obtain ⟨left, enter⟩ := walk_enter files.tree.get? mostLinks
    (startOf files.home (utf8 directory)) (stem (utf8 directory))
  refine ⟨left, ?_⟩
  intro creating
  unfold arrive folder
  rw [parts_join component, startOf_join component,
    enter creating _ (onward_name creating _) (List.cons_ne_nil _ _)]
  cases checkPath (utf8 (Path.join directory item)) with
  | error cause => rfl
  | ok _ =>
    dsimp only [bind, Except.bind]
    cases walk files.tree.get? false mostLinks (startOf files.home (utf8 directory))
        (stem (utf8 directory) ++ [.slash]) with
    | error cause => rfl
    | ok arrival => cases arrival <;> rfl

theorem within_of_arrive {creating : Bool} {arrival : Arrival} (component : Component item)
    (arrived : files.arrive creating (utf8 (Path.join directory item)) = .ok arrival) :
    ∃ place, files.Within directory item place := by
  obtain ⟨left, split⟩ := arrive_join component files directory
  rw [split] at arrived
  split at arrived
  · cases arrived
  · rename_i askable
    split at arrived
    · cases arrived
    · rename_i place found
      exact ⟨place, component, askable, found⟩

theorem arrive_within (within : files.Within directory item place) :
    ∃ left, ∀ creating, files.arrive creating (utf8 (Path.join directory item)) =
      walk files.tree.get? creating left place [.name (utf8 item)] := by
  obtain ⟨left, split⟩ := arrive_join within.component files directory
  refine ⟨left, ?_⟩
  intro creating
  rw [split, within.askable, within.folder]

/-- Opening what a name holds, if that is no link, or making a file if it holds nothing. -/
theorem openOrCreate_within (within : files.Within directory item place)
    (solid : ∀ target, files.tree.get? (place ++ [utf8 item]) ≠ some (.link target)) :
    files.openOrCreate (utf8 (Path.join directory item)) =
      if longestName < (utf8 item).length then .error .nameTooLong
      else match files.tree.get? (place ++ [utf8 item]) with
        | none => .ok (files.newFile place (utf8 item))
        | some (.file id) => .ok (id, files)
        | some _ => .error .isADirectory := by
  obtain ⟨left, arrived⟩ := arrive_within within
  unfold openOrCreate
  rw [arrived, walk_name (directory_of_folder within.folder)]
  by_cases long : longestName < (utf8 item).length
  · rw [if_pos long, if_pos long]
  · rw [if_neg long, if_neg long]
    cases held : files.tree.get? (place ++ [utf8 item]) with
    | none => rfl
    | some node =>
      cases node with
      | file id => simp only [held]
      | directory => simp only [held]
      | link target => exact absurd held (solid target)

theorem within_of_openOrCreate {opened : FileId × FileSystem} (component : Component item)
    (done : files.openOrCreate (utf8 (Path.join directory item)) = .ok opened) :
    ∃ place, files.Within directory item place := by
  unfold openOrCreate at done
  split at done
  · cases done
  · rename_i arrived
    exact within_of_arrive component arrived
  · rename_i arrived
    exact within_of_arrive component arrived

/-- The path of a file leads to the file. -/
theorem status_within {id : FileId} (within : files.Within directory item place)
    (short : (utf8 item).length ≤ longestName)
    (held : files.tree.get? (place ++ [utf8 item]) = some (.file id)) :
    files.status (utf8 (Path.join directory item)) = .ok (.file id) := by
  obtain ⟨left, arrived⟩ := arrive_within within
  unfold status locate
  rw [arrived, walk_name (directory_of_folder within.folder), if_neg (Nat.not_lt.2 short), held]
  simp only [held]

theorem read_within {id : FileId} (within : files.Within directory item place)
    (short : (utf8 item).length ≤ longestName)
    (held : files.tree.get? (place ++ [utf8 item]) = some (.file id)) :
    files.read (utf8 (Path.join directory item)) = .ok (files.body id).bytes := by
  unfold read
  rw [status_within within short held]

theorem within_of_read {bytes : Bytes} (component : Component item)
    (done : files.read (utf8 (Path.join directory item)) = .ok bytes) :
    ∃ place, files.Within directory item place := by
  unfold read status locate at done
  cases arrived : files.arrive false (utf8 (Path.join directory item)) with
  | error cause =>
    rw [arrived] at done
    cases done
  | ok arrival => exact within_of_arrive component arrived

/-- A name that can be read is that of a file, or of a link that leads to one. -/
theorem read_cases {bytes : Bytes} (within : files.Within directory item place)
    (done : files.read (utf8 (Path.join directory item)) = .ok bytes) :
    (∃ id, files.tree.get? (place ++ [utf8 item]) = some (.file id) ∧
      bytes = (files.body id).bytes) ∨
    ∃ target links reached id, files.tree.get? (place ++ [utf8 item]) = some (.link target) ∧
      walk files.tree.get? false links (startOf place target) (parts target) =
        .ok (.found reached) ∧ files.tree.get? reached = some (.file id) := by
  obtain ⟨left, arrived⟩ := arrive_within within
  have walked := arrived false
  rw [walk_name (directory_of_folder within.folder)] at walked
  unfold read status locate at done
  rw [walked] at done
  by_cases long : longestName < (utf8 item).length
  · rw [if_pos long] at done
    cases done
  · rw [if_neg long] at done
    cases held : files.tree.get? (place ++ [utf8 item]) with
    | none =>
      rw [held] at done
      cases done
    | some node =>
      rw [held] at done
      cases node with
      | file id =>
        dsimp only at done
        rw [held] at done
        cases done
        exact .inl ⟨id, rfl, rfl⟩
      | directory =>
        dsimp only at done
        rw [held] at done
        cases done
      | link target =>
        cases left with
        | zero => cases done
        | succ left =>
          dsimp only at done
          cases ends : walk files.tree.get? false left (startOf place target) (parts target) with
          | error cause =>
            rw [ends] at done
            cases done
          | ok arrival =>
            rw [ends] at done
            cases arrival with
            | vacant inner name => cases done
            | found reached =>
              dsimp only at done
              cases there : files.tree.get? reached with
              | none =>
                rw [there] at done
                cases done
              | some node =>
                rw [there] at done
                cases node with
                | file id => exact .inr ⟨target, left, reached, id, rfl, ends, there⟩
                | directory => cases done
                | link other => cases done

/-- A name that can be read is no directory. -/
theorem solid_of_read {bytes : Bytes} (within : files.Within directory item place)
    (done : files.read (utf8 (Path.join directory item)) = .ok bytes) :
    files.tree.get? (place ++ [utf8 item]) ≠ some .directory := by
  rcases read_cases within done with ⟨id, held, -⟩ | ⟨target, _, _, _, held, -⟩ <;> simp [held]

/-- A name that is a link, but can be read, leads to a file and to no directory. -/
theorem dead_of_read {bytes target : Bytes} (within : files.Within directory item place)
    (done : files.read (utf8 (Path.join directory item)) = .ok bytes)
    (held : files.tree.get? (place ++ [utf8 item]) = some (.link target)) :
    Dead files.tree.get? place target := by
  rcases read_cases within done with ⟨id, other, -⟩ | ⟨_, links, reached, id, linked, ends, there⟩
  · rw [other] at held
    cases held
  · rw [linked] at held
    cases held
    exact ⟨links, reached, ends, by simp [there]⟩

/-! ## The directory itself -/

/-- A directory stays where it is while directories and links do. -/
theorem folder_stable {after : FileSystem} (keeps : Keeps files.tree.get? after.tree.get?)
    (home : after.home = files.home) (found : files.folder directory = .ok place) :
    after.folder directory = .ok place := by
  have walked := folder_eq_ok_iff.1 found
  rw [folder_eq_ok_iff, home]
  exact walk_stable keeps walked (directory_of_walk_slash walked)

/-- A directory in a directory is found behind it. -/
theorem folder_join (component : Component item) (found : files.folder directory = .ok place)
    (short : (utf8 item).length ≤ longestName)
    (held : files.tree.get? (place ++ [utf8 item]) = some .directory) :
    files.folder (Path.join directory item) = .ok (place ++ [utf8 item]) := by
  obtain ⟨left, enter⟩ := walk_enter files.tree.get? mostLinks
    (startOf files.home (utf8 directory)) (stem (utf8 directory))
  have free : ¬(false = true ∧ [Part.slash] ≠ [] ∧ [Part.slash].all (· = .slash) = true) :=
    fun making => by cases making.1
  rw [folder_eq_ok_iff, stem_join component, startOf_join component, List.append_assoc,
    List.singleton_append, enter false _ (onward_false _) (List.cons_ne_nil _ _),
    folder_eq_ok_iff.1 found]
  show walk files.tree.get? false left place [.name (utf8 item), .slash] =
    .ok (.found (place ++ [utf8 item]))
  rw [walk_eq, advance_inside (directory_of_folder found)]
  dsimp only
  rw [if_neg free, if_neg (Nat.not_lt.2 short), held]
  dsimp only
  rw [advance_inside held]
  rfl

/-- The path of a directory leads to it also without a separator behind it. -/
theorem walk_folder (found : files.folder directory = .ok place) :
    walk files.tree.get? false mostLinks (startOf files.home (utf8 directory))
      (parts (utf8 directory)) = .ok (.found place) := by
  have walked := folder_eq_ok_iff.1 found
  rcases parts_eq_stem (utf8 directory) with plain | slashed
  · obtain ⟨left, split⟩ := walk_append files.tree.get? mostLinks
      (startOf files.home (utf8 directory)) (stem (utf8 directory))
    rw [plain]
    rw [split false [.slash] (onward_false _) (List.cons_ne_nil _ _)] at walked
    split at walked
    · rename_i reached first
      by_cases solid : files.tree.get? reached = some .directory
      · rw [walk_slash solid] at walked
        rw [first, ← walked]
      · rw [walk_outside solid (List.cons_ne_nil _ _)] at walked
        cases walked
    · cases walked
    · cases walked
  · rw [slashed]
    exact walked

theorem locate_folder (askable : checkPath (utf8 directory) = .ok ())
    (found : files.folder directory = .ok place) : files.locate (utf8 directory) = .ok place := by
  unfold locate arrive
  rw [askable]
  simp only [bind, Except.bind, walk_folder found]

theorem status_folder (askable : checkPath (utf8 directory) = .ok ())
    (found : files.folder directory = .ok place) :
    files.status (utf8 directory) = .ok .directory := by
  have inside := directory_of_folder found
  unfold status
  rw [locate_folder askable found]
  simp only [inside]

end FileSystem

end SheetCabinet
