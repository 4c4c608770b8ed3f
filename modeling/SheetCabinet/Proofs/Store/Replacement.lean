import SheetCabinet.Proofs.Files.Named
import SheetCabinet.Proofs.Store.Reading

/-!
# Replacing a file

A file is replaced by a draft that was written under a name of its own before. Whatever goes wrong on
the way, the draft does not stay.

Results:
* the name of a draft is one step of a path (`component_name`);
* whatever becomes of a draft, nothing changes but perhaps what the path names (`placeDraft_cases`);
* a file in a directory is replaced, or nothing has changed (`replaceFile_outcome`), and that is what is
  reported unless the directory cannot be synced (`replaceFile_eq`, `replaceFile_cases`).
-/

namespace SheetCabinet

/-! ## The names of drafts -/

namespace Draft

theorem mem_name {draft : Draft} {c : Char} (member : c ∈ draft.name.toList) :
    c.isAlphanum ∨ c ∈ ".lctmp-".toList := by
  rw [toList_name, List.mem_append] at member
  rcases member with front | random
  · exact .inr front
  · have plain : isUuidChar c = true := List.all_eq_true.1 draft.uuid.plain c random
    rcases Bool.or_eq_true_iff.1 plain with known | hyphen
    · exact .inl known
    · rw [beq_iff_eq.1 hyphen]
      exact .inr (by decide)

theorem component_name (draft : Draft) : Component draft.name := by
  have long : 7 ≤ draft.name.toList.length := by
    rw [toList_name, List.length_append]
    exact Nat.le_add_right _ _
  refine ⟨?_, ?_, ?_, ?_, ?_⟩
  · intro same
    rw [same] at long
    exact absurd long (by decide)
  · intro same
    rw [same] at long
    exact absurd long (by decide)
  · intro same
    rw [same] at long
    exact absurd long (by decide)
  · intro slash
    exact absurd (mem_name slash) (by decide)
  · intro nul
    exact absurd (mem_name nul) (by decide)

/-- Nothing in a directory has the name of the draft. -/
def Unused (draft : Draft) (files : FileSystem) (directory : Path) : Prop :=
  ∀ place, files.folder directory = .ok place → files.tree.get? (place ++ [utf8 draft.name]) = none

instance (draft : Draft) (files : FileSystem) (directory : Path) :
    Decidable (draft.Unused files directory) :=
  match found : files.folder directory with
  | .ok place => decidable_of_iff (files.tree.get? (place ++ [utf8 draft.name]) = none)
      ⟨fun free _ led => Except.ok.inj (found.symm.trans led) ▸ free, fun unused => unused place found⟩
  | .error _ => .isTrue fun _ led => nomatch found.symm.trans led

theorem Unused.synced {draft : Draft} {files : FileSystem} {directory : Path}
    (unused : draft.Unused files directory) : draft.synced.Unused files directory := unused

end Draft

namespace Work

/-! ## The draft -/

variable {files : FileSystem} {directory : Path} {item : String} {place : Location}

/-- Writing a file that is not there makes it. -/
theorem write_vacant (within : files.Within directory item place)
    (vacant : files.tree.get? (place ++ [utf8 item]) = none) (contents : Bytes) :
    files.write (utf8 (Path.join directory item)) contents =
      if longestName < (utf8 item).length then .error .nameTooLong
      else .ok ((files.newFile place (utf8 item)).2.setBytes files.freshId contents) := by
  have solid (target : Bytes) : files.tree.get? (place ++ [utf8 item]) ≠ some (.link target) := by
    rw [vacant]
    exact fun same => by cases same
  unfold FileSystem.write
  rw [FileSystem.openOrCreate_within within solid, vacant]
  by_cases long : longestName < (utf8 item).length
  · rw [if_pos long, if_pos long]
  · rw [if_neg long, if_neg long]
    rfl

theorem within_of_write {contents : Bytes} {written : FileSystem} (component : Component item)
    (done : files.write (utf8 (Path.join directory item)) contents = .ok written) :
    ∃ place, files.Within directory item place := by
  unfold FileSystem.write at done
  split at done
  · rename_i opened
    exact FileSystem.within_of_openOrCreate component opened
  · cases done

/-- The file systems before and after a file was written at a name that nothing had. -/
structure Drafted (files written : FileSystem) (directory : Path) (item : String) (place : Location)
    (id : FileId) (contents : Bytes) : Prop where
  within : files.Within directory item place
  short : (utf8 item).length ≤ longestName
  vacant : files.tree.get? (place ++ [utf8 item]) = none
  unnamed : files.Unnamed id
  same : FileSystem.SameBut [place ++ [utf8 item]] files written
  stands : written.Stands id (place ++ [utf8 item]) contents

/-- A file is written whole at a name that nothing has in the directory, or not at all. -/
theorem drafted_of_write {contents : Bytes} {written : FileSystem} (component : Component item)
    (free : ∀ place, files.folder directory = .ok place →
      files.tree.get? (place ++ [utf8 item]) = none)
    (done : files.write (utf8 (Path.join directory item)) contents = .ok written) :
    ∃ place id, Drafted files written directory item place id contents := by
  obtain ⟨place, within⟩ := within_of_write component done
  have inside := FileSystem.directory_of_folder within.folder
  have vacant := free place within.folder
  rw [write_vacant within vacant] at done
  split at done
  · cases done
  · rename_i short
    cases done
    have made := FileSystem.sameBut_newFile inside vacant
    have stands := FileSystem.stands_newFile inside vacant
    exact ⟨place, files.freshId, within, Nat.not_lt.1 short, vacant, FileSystem.unnamed_freshId files,
      made.again (FileSystem.sameBut_setBytes stands.toOnlyAt contents),
      FileSystem.stands_setBytes stands.toOnlyAt contents⟩

namespace Drafted

variable {written : FileSystem} {id : FileId} {contents : Bytes}

/-- Directories and links are as they were. -/
theorem keeps (drafted : Drafted files written directory item place id contents) :
    Keeps files.tree.get? written.tree.get? ∧ Keeps written.tree.get? files.tree.get? := by
  have idle := FileSystem.idle_of_vacant drafted.vacant
  have still := FileSystem.idle_of_file drafted.stands.held
  exact ⟨FileSystem.keeps_of_sameBut drafted.same (by simpa using idle),
    FileSystem.keeps_of_sameBut drafted.same.symm (by simpa using still)⟩

/-- So the file is found by its path. -/
theorem led (drafted : Drafted files written directory item place id contents) :
    written.Within directory item place :=
  ⟨drafted.within.component, drafted.within.askable,
    FileSystem.folder_stable drafted.keeps.1 drafted.same.home drafted.within.folder⟩

/-- Without the file everything is as it was before. -/
theorem cleared (drafted : Drafted files written directory item place id contents) :
    written.removeFile (utf8 (Path.join directory item)) =
        .ok (written.clear (place ++ [utf8 item])) ∧
      FileSystem.SameBut [] files (written.clear (place ++ [utf8 item])) := by
  refine ⟨FileSystem.removeFile_within drafted.led drafted.short drafted.stands.held, ?_⟩
  refine (drafted.same.trans (FileSystem.sameBut_clear drafted.stands.held)).settle ?_
  intro other member _
  obtain rfl : other = place ++ [utf8 item] := by simpa using member
  refine FileSystem.both_none ?_ drafted.vacant
  rw [FileSystem.look_clear (FileSystem.solid_of_file drafted.stands.held), if_pos rfl]

theorem discarded (drafted : Drafted files written directory item place id contents)
    (cause : FileError) (store : Store) :
    discard (utf8 (Path.join directory item)) cause written store =
      .error (.io cause) { store with files := written.clear (place ++ [utf8 item]) } := by
  unfold discard
  rw [drafted.cleared.1]

end Drafted

/-! ## Replacing -/

/-- What the file systems are before and after a file was replaced. -/
structure Replaced (files after : FileSystem) (spot : Location) (contents : Bytes) : Prop where
  same : FileSystem.SameBut [spot] files after
  stands : ∃ id, files.Unnamed id ∧ after.Stands id spot contents

/-- A file that moves leaves its name free and takes the place of what has the other one. -/
theorem Drafted.moved {written : FileSystem} {id : FileId} {other contents : Bytes} {outer : Location}
    (drafted : Drafted files written directory item place id contents)
    (inside : written.tree.get? outer = some .directory)
    (solid : written.tree.get? (outer ++ [other]) ≠ some .directory) :
    Replaced files (written.move (place ++ [utf8 item]) (.file id) outer other) (outer ++ [other])
      contents := by
  refine ⟨?_, id, drafted.unnamed, FileSystem.stands_move drafted.stands inside solid⟩
  refine (drafted.same.trans (FileSystem.sameBut_move drafted.stands.held inside solid)).settle ?_
  intro spot member outside
  obtain rfl : spot = place ++ [utf8 item] := by
    simp only [List.cons_append, List.nil_append, List.mem_cons, List.not_mem_nil,
      or_false] at member outside
    rcases member with same | same | same
    · exact same
    · exact absurd same outside
    · exact same
  refine FileSystem.both_none ?_ drafted.vacant
  rw [FileSystem.look_move drafted.stands.held inside solid,
    if_neg fun same => outside (List.mem_singleton.2 same), if_pos rfl]

/-- A file that is renamed takes the place of what the path names, and that is no directory. -/
theorem Drafted.replaced {written renamed : FileSystem} {id : FileId} {contents path : Bytes}
    (drafted : Drafted files written directory item place id contents)
    (done : written.rename (utf8 (Path.join directory item)) path = .ok renamed) :
    ∃ spot, files.named path = some spot ∧ files.tree.get? spot ≠ some .directory ∧
      Replaced files renamed spot contents := by
  obtain ⟨source, name, old, outer, other, new, node, first, last, second, target, held, moved⟩ :=
    FileSystem.rename_eq_ok done
  rw [FileSystem.parent_within drafted.led] at first
  cases first
  cases last
  obtain rfl : node = .file id := Option.some.inj (held.symm.trans drafted.stands.held)
  have named : files.named path = some (outer ++ [other]) :=
    FileSystem.named_stable drafted.keeps.2 drafted.same.symm.home
      (FileSystem.named_eq_some_iff.2 ⟨outer, new, other, second, target, rfl⟩)
  refine ⟨outer ++ [other], named, ?_⟩
  rcases moved with ⟨same, rfl⟩ | ⟨apart, allowed, rfl⟩
  · -- the path names the file itself
    rw [← same]
    exact ⟨by simp [drafted.vacant], drafted.same, id, drafted.unnamed, drafted.stands⟩
  · have solid := FileSystem.solid_of_replaceable allowed
    refine ⟨?_, drafted.moved (FileSystem.directory_of_parent second) solid⟩
    rwa [← drafted.same.look_ne _ (Ne.symm apart)]

/-- Either nothing has changed, or what the path names is replaced. -/
theorem placeDraft_cases {draft : Draft} {store : Store} (unused : draft.Unused store.files directory)
    (file : Path) (contents : Bytes) :
    (∃ cause files, FileSystem.SameBut [] store.files files ∧
      placeDraft draft directory file contents store =
        .error (.io cause) { store with files := files }) ∨
    ∃ place spot files, store.files.Within directory draft.name place ∧
      store.files.named (utf8 (Path.join directory file)) = some spot ∧
      store.files.tree.get? spot ≠ some .directory ∧ Replaced store.files files spot contents ∧
      placeDraft draft directory file contents store = .ok () { store with files := files } := by
  unfold placeDraft
  dsimp only
  cases done : store.files.write (utf8 (Path.join directory draft.name)) (draft.stored contents) with
  | error cause => exact .inl ⟨cause, store.files, .refl _, rfl⟩
  | ok written =>
    obtain ⟨place, id, drafted⟩ := drafted_of_write draft.component_name unused done
    have same := drafted.cleared.2
    cases stopped : draft.stopped with
    | some stop =>
      dsimp only
      rw [drafted.discarded]
      exact .inl ⟨_, _, same, rfl⟩
    | none =>
      have whole : draft.stored contents = contents := by
        unfold Draft.stored
        rw [stopped]
      rw [whole] at drafted
      dsimp only
      cases renamed : written.rename (utf8 (Path.join directory draft.name))
          (utf8 (Path.join directory file)) with
      | error cause =>
        dsimp only
        rw [drafted.discarded]
        exact .inl ⟨_, _, same, rfl⟩
      | ok after =>
        obtain ⟨spot, named, solid, replaced⟩ := drafted.replaced renamed
        exact .inr ⟨place, spot, after, drafted.within, named, solid, replaced, rfl⟩

/-- Syncing a directory changes nothing. -/
theorem syncDirectory_store (unsynced : Option FileError) (directory : Path) (store : Store) :
    leftBy (syncDirectory unsynced directory store) = store := by
  unfold syncDirectory
  split <;> rfl

/-- What is reported of work that is done but for syncing a directory. -/
def reported {α : Type} (unsynced : Option FileError) :
    EStateM.Result Failure Store α → EStateM.Result Failure Store α
  | .ok value after =>
    match unsynced with
    | none => .ok value after
    | some cause => .error (.io cause) after
  | .error failure after => .error failure after

theorem reported_eq_ok {α : Type} {unsynced : Option FileError}
    {result : EStateM.Result Failure Store α} {value : α} {after : Store}
    (done : reported unsynced result = .ok value after) : result = .ok value after := by
  cases result with
  | error failure left => cases done
  | ok other left => cases unsynced with
    | none => exact done
    | some cause => cases done

/-- What is reported does not change what is left. -/
theorem leftBy_reported {α : Type} (unsynced : Option FileError)
    (result : EStateM.Result Failure Store α) : leftBy (reported unsynced result) = leftBy result := by
  cases result <;> cases unsynced <;> rfl

/-- Whether the directory can be synced comes last, when all else is done. -/
theorem replaceFile_eq (draft : Draft) (directory file : Path) (contents : Bytes) (store : Store) :
    replaceFile draft directory file contents store =
      reported draft.unsynced (replaceFile draft.synced directory file contents store) := by
  have same : placeDraft draft.synced directory file contents store =
      placeDraft draft directory file contents store := rfl
  unfold replaceFile
  rw [bind_apply, bind_apply, same]
  cases placeDraft draft directory file contents store with
  | error failure after => rfl
  | ok value after =>
    dsimp only [Draft.unsynced_synced]
    unfold syncDirectory
    cases after.files.status (utf8 directory) <;> cases draft.unsynced <;> rfl

/-! ## Replacing a name in a directory -/

/-- Whatever comes of replacing a file, either nothing has changed or the file is replaced. -/
theorem replaceFile_outcome {draft : Draft} {store : Store} (component : Component item)
    (unused : draft.Unused store.files directory) (contents : Bytes) :
    FileSystem.SameBut [] store.files
      (leftBy (replaceFile draft directory item contents store)).files ∨
    ∃ place, store.files.Within directory item place ∧
      store.files.tree.get? (place ++ [utf8 item]) ≠ some .directory ∧
      Replaced store.files (leftBy (replaceFile draft directory item contents store)).files
        (place ++ [utf8 item]) contents := by
  unfold replaceFile
  rw [bind_apply]
  rcases placeDraft_cases unused item contents with
    ⟨cause, files, same, failed⟩ | ⟨_, spot, files, -, named, solid, replaced, done⟩
  · rw [failed]
    exact .inl same
  · obtain ⟨place, within, rfl⟩ := (FileSystem.named_join_iff component).1 named
    rw [done]
    dsimp only
    rw [syncDirectory_store]
    exact .inr ⟨place, within, solid, replaced⟩

/-- The path of a file that was replaced can be asked for. -/
theorem askable_of_replaceFile {draft : Draft} {contents : Bytes} {store after : Store} {value : Unit}
    (component : Component item) (unused : draft.Unused store.files directory)
    (done : replaceFile draft directory item contents store = .ok value after) :
    checkPath (utf8 (Path.join directory item)) = .ok () := by
  unfold replaceFile at done
  rw [bind_apply] at done
  rcases placeDraft_cases unused item contents with
    ⟨cause, files, -, failed⟩ | ⟨_, spot, files, -, named, -, -, -⟩
  · rw [failed] at done
    cases done
  · obtain ⟨place, within, -⟩ := (FileSystem.named_join_iff component).1 named
    exact within.askable

/-- A replacement that fails has changed nothing, unless all that failed was to sync the directory, and
one that succeeds has changed only the file. -/
theorem replaceFile_cases {draft : Draft} {store : Store} (unused : draft.Unused store.files directory)
    (within : store.files.Within directory item place) (present : directory ≠ "")
    (idle : store.files.Idle (place ++ [utf8 item])) (contents : Bytes) :
    (∃ cause files, FileSystem.SameBut [] store.files files ∧
      replaceFile draft.synced directory item contents store =
        .error (.io cause) { store with files := files }) ∨
    ∃ files, Replaced store.files files (place ++ [utf8 item]) contents ∧
      replaceFile draft.synced directory item contents store = .ok () { store with files := files } := by
  unfold replaceFile
  rw [bind_apply]
  rcases placeDraft_cases unused.synced item contents with
    ⟨cause, files, same, failed⟩ | ⟨_, spot, files, -, named, -, replaced, done⟩
  · rw [failed]
    exact .inl ⟨cause, files, same, rfl⟩
  · obtain ⟨reached, again, rfl⟩ := (FileSystem.named_join_iff within.component).1 named
    obtain rfl : place = reached := Except.ok.inj (within.folder.symm.trans again.folder)
    have kept := FileSystem.folder_of_sameBut replaced.same (by simpa using idle) within.folder
    have reached := FileSystem.status_folder
      (checkPath_of_join within.component present within.askable) kept
    refine .inr ⟨files, replaced, ?_⟩
    rw [done]
    dsimp only [Draft.unsynced_synced]
    unfold syncDirectory
    rw [reached]

end Work

end SheetCabinet
