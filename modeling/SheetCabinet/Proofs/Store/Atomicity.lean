import Mathlib.Tactic.ByContra
import SheetCabinet.Proofs.Store.Replacement

/-!
# Whether a file is replaced as a whole

Replacing a file is meant to be one thing: either it is done, and all else is as it was, or it fails,
and everything is. Until the draft takes its place this is so whatever goes wrong. But what comes after
that can still fail: the directory is opened by its path once more, and synced. An empty path, which is
good enough to find the file in the working directory, leads to no directory, and neither does a path
that goes on behind the place of the file, which was a link then. So a failure is reported of a file
that has been replaced.

Results:
* nothing changes but what the path names, and that is replaced or not; once it is replaced, it
  depends on the directory alone what is reported (`settled_replaceFile`);
* replacing a file is atomic exactly if nothing is in the way of opening and syncing the directory
  afterwards; nothing is in the way of opening one whose path is not empty, unless the path of the file
  names a link (`replacement_atomic_iff`).
-/

namespace SheetCabinet

namespace Work

open FileSystem

/-- What replacing a file is meant to come to. If it succeeds, a file with the contents is where the
path names one, and all else is as it was; if it fails, everything is. -/
def Atomic (files : FileSystem) (path contents : Bytes) :
    EStateM.Result Failure Store Unit → Prop
  | .ok _ after => ∃ spot id, files.named path = some spot ∧ after.files.Stands id spot contents ∧
      SameBut [spot] files after.files
  | .error _ after => SameBut [] files after.files

/-- What comes of replacing a file: nothing has changed and it fails, or what the path names is
replaced, and it succeeds if the path of the directory is not empty and did not pass that place, and the
directory can be synced. -/
inductive Settled (files : FileSystem) (unsynced : Option FileError) (directory file : Path)
    (contents : Bytes) : EStateM.Result Failure Store Unit → Prop
  | unchanged {cause : FileError} {after : Store} (same : SameBut [] files after.files) :
      Settled files unsynced directory file contents (.error (.io cause) after)
  | done {place spot : Location} {after : Store} (led : files.folder directory = .ok place)
      (named : files.named (utf8 (Path.join directory file)) = some spot)
      (solid : files.tree.get? spot ≠ some .directory)
      (replaced : Replaced files after.files spot contents) (present : directory ≠ "")
      (free : ¬files.LeadsPast (utf8 directory) spot) (synced : unsynced = none) :
      Settled files unsynced directory file contents (.ok () after)
  | unsynced {cause : FileError} {place spot : Location} {after : Store}
      (led : files.folder directory = .ok place)
      (named : files.named (utf8 (Path.join directory file)) = some spot)
      (solid : files.tree.get? spot ≠ some .directory)
      (replaced : Replaced files after.files spot contents)
      (lost : directory = "" ∨ files.LeadsPast (utf8 directory) spot ∨ unsynced ≠ none) :
      Settled files unsynced directory file contents (.error (.io cause) after)

variable {draft : Draft} {directory file : Path} {contents : Bytes} {store : Store}

/-- An empty path leads nowhere. -/
theorem status_empty (files : FileSystem) : files.status (utf8 "") = .error .notFound := rfl

theorem settled_replaceFile (unused : draft.Unused store.files directory) (file : Path)
    (contents : Bytes) :
    Settled store.files draft.unsynced directory file contents
      (replaceFile draft directory file contents store) := by
  unfold replaceFile
  rw [bind_apply]
  rcases placeDraft_cases unused file contents with
    ⟨cause, files, same, failed⟩ | ⟨place, spot, files, within, named, solid, replaced, done⟩
  · rw [failed]
    exact .unchanged same
  · rw [done]
    dsimp only
    unfold syncDirectory
    dsimp only
    obtain ⟨id, -, stands⟩ := replaced.stands
    by_cases empty : directory = ""
    · rw [empty, status_empty, ← empty]
      exact .unsynced within.folder named solid replaced (.inl empty)
    · have found := status_beside replaced.same solid stands.held
        (checkPath_of_join within.component empty within.askable) within.folder
      cases reached : files.status (utf8 directory) with
      | ok node =>
        cases synced : draft.unsynced with
        | none => exact .done within.folder named solid replaced empty (found.1 ⟨node, reached⟩) rfl
        | some cause =>
          exact .unsynced within.folder named solid replaced (.inr (.inr (Option.some_ne_none cause)))
      | error cause =>
        refine .unsynced within.folder named solid replaced (.inr (.inl ?_))
        by_contra free
        obtain ⟨node, again⟩ := found.2 free
        rw [again] at reached
        cases reached

/-- A file that was replaced is another one than was there. -/
theorem Replaced.changed {files after : FileSystem} {spot : Location}
    (replaced : Replaced files after spot contents) :
    after.tree.get? spot ≠ files.tree.get? spot := by
  obtain ⟨id, unnamed, stands⟩ := replaced.stands
  rw [stands.held]
  exact fun same => unnamed spot same.symm

/-- Only the place of the file has changed. -/
theorem Replaced.eq_of_changed {files after : FileSystem} {spot other : Location}
    (replaced : Replaced files after spot contents)
    (changed : after.tree.get? other ≠ files.tree.get? other) : other = spot := by
  by_contra apart
  exact changed (replaced.same.look_ne other apart)

section
variable {files : FileSystem} {unsynced : Option FileError}
  {result : EStateM.Result Failure Store Unit}

theorem atomic_iff_of_settled (settled : Settled files unsynced directory file contents result) :
    Atomic files (utf8 (Path.join directory file)) contents result ↔
      ∀ spot, (leftBy result).files.tree.get? spot ≠ files.tree.get? spot →
        directory ≠ "" ∧ ¬files.LeadsPast (utf8 directory) spot ∧ unsynced = none := by
  cases settled with
  | unchanged same =>
    exact ⟨fun _ spot changed => absurd (same.look spot List.not_mem_nil) changed, fun _ => same⟩
  | @done place spot after led named solid replaced present free synced =>
    obtain ⟨id, -, stands⟩ := replaced.stands
    constructor
    · intro atomic other changed
      obtain rfl := replaced.eq_of_changed changed
      exact ⟨present, free, synced⟩
    · exact fun _ => ⟨spot, id, named, stands, replaced.same⟩
  | @unsynced cause place spot after led named solid replaced lost =>
    constructor
    · intro same
      exact absurd (SameBut.look same spot List.not_mem_nil) replaced.changed
    · intro clear
      obtain ⟨present, free, synced⟩ := clear spot replaced.changed
      rcases lost with empty | past | failed
      · exact absurd empty present
      · exact absurd past free
      · exact absurd synced failed

/-- What was replaced is what the path names, and no directory. -/
theorem Settled.of_changed (settled : Settled files unsynced directory file contents result)
    {spot : Location}
    (changed : (leftBy result).files.tree.get? spot ≠ files.tree.get? spot) :
    (∃ place, files.folder directory = .ok place) ∧
      files.named (utf8 (Path.join directory file)) = some spot ∧
      files.tree.get? spot ≠ some .directory ∧
      Replaced files (leftBy result).files spot contents := by
  cases settled with
  | unchanged same => exact absurd (same.look spot List.not_mem_nil) changed
  | done led named solid replaced present free synced =>
    obtain rfl := replaced.eq_of_changed changed
    exact ⟨⟨_, led⟩, named, solid, replaced⟩
  | unsynced led named solid replaced lost =>
    obtain rfl := replaced.eq_of_changed changed
    exact ⟨⟨_, led⟩, named, solid, replaced⟩

/-- The path of the file names it afterwards, unless it goes on behind it. -/
theorem Settled.named_iff (settled : Settled files unsynced directory file contents result)
    {spot : Location}
    (changed : (leftBy result).files.tree.get? spot ≠ files.tree.get? spot) :
    (leftBy result).files.named (utf8 (Path.join directory file)) = some spot ↔
      ¬files.NamedPast (utf8 (Path.join directory file)) spot := by
  obtain ⟨-, named, solid, replaced⟩ := settled.of_changed changed
  obtain ⟨id, -, stands⟩ := replaced.stands
  exact named_beside replaced.same solid stands.held named

/-- No path goes on behind a place that holds no link. -/
theorem Settled.not_past (settled : Settled files unsynced directory file contents result)
    {spot : Location}
    (changed : (leftBy result).files.tree.get? spot ≠ files.tree.get? spot)
    (unlinked : ∀ target, files.tree.get? spot ≠ some (.link target)) :
    ¬files.LeadsPast (utf8 directory) spot ∧
      ¬files.NamedPast (utf8 (Path.join directory file)) spot := by
  obtain ⟨⟨place, led⟩, named, solid, -⟩ := settled.of_changed changed
  have stuck : ∀ node, files.tree.get? spot = some node → ∃ id, node = .file id := by
    intro node held
    cases node with
    | file id => exact ⟨id, rfl⟩
    | directory => exact absurd held solid
    | link target => exact absurd held (unlinked target)
  obtain ⟨outer, final, name, reached, -, -⟩ := named_eq_some_iff.1 named
  obtain ⟨-, rfl, walked⟩ := parent_eq_ok_iff.1 reached
  exact ⟨not_passes_of_walk stuck (walk_folder led), not_passes_of_walk stuck walked⟩

theorem atomic_of_settled (settled : Settled files unsynced directory file contents result)
    (present : directory ≠ "") (synced : unsynced = none)
    (unlinked : ∀ spot target, files.named (utf8 (Path.join directory file)) = some spot →
      files.tree.get? spot ≠ some (.link target)) :
    Atomic files (utf8 (Path.join directory file)) contents result ∧
      ∀ spot, (leftBy result).files.tree.get? spot ≠ files.tree.get? spot →
        (leftBy result).files.named (utf8 (Path.join directory file)) = some spot := by
  have free (spot : Location)
      (changed : (leftBy result).files.tree.get? spot ≠ files.tree.get? spot) :=
    settled.not_past changed fun target => unlinked spot target (settled.of_changed changed).2.1
  exact ⟨(atomic_iff_of_settled settled).2 fun spot changed => ⟨present, (free spot changed).1, synced⟩,
    fun spot changed => (settled.named_iff changed).2 (free spot changed).2⟩

end

/-- Replacing a file, whatever the draft is called as long as nothing else is, and whatever becomes of
it: either it fails and has changed nothing, or what the path names is replaced and nothing else is
changed, and it succeeds if the directory can be opened again and synced. So it is atomic exactly if,
once it has changed something, nothing is in the way of that, and the path of the file names it
afterwards if nothing is in the way of that; in a directory whose path is not empty, and that can be
synced, nothing is, unless the path of the file names a link. -/
theorem replacement_atomic_iff (draft : Draft) (directory file : Path) (contents : Bytes)
    (store : Store) (unused : draft.Unused store.files directory) :
    let path := utf8 (Path.join directory file)
    let result := replaceFile draft directory file contents store
    Settled store.files draft.unsynced directory file contents result ∧
      (Atomic store.files path contents result ↔
        ∀ spot, (leftBy result).files.tree.get? spot ≠ store.files.tree.get? spot →
          directory ≠ "" ∧ ¬store.files.LeadsPast (utf8 directory) spot ∧ draft.unsynced = none) ∧
      (∀ spot, (leftBy result).files.tree.get? spot ≠ store.files.tree.get? spot →
        ((leftBy result).files.named path = some spot ↔ ¬store.files.NamedPast path spot)) ∧
      (directory ≠ "" → draft.unsynced = none →
        (∀ spot target, store.files.named path = some spot →
          store.files.tree.get? spot ≠ some (.link target)) →
        Atomic store.files path contents result ∧
          ∀ spot, (leftBy result).files.tree.get? spot ≠ store.files.tree.get? spot →
            (leftBy result).files.named path = some spot) := by
  have settled := settled_replaceFile unused file contents
  exact ⟨settled, atomic_iff_of_settled settled, fun spot => settled.named_iff,
    atomic_of_settled settled⟩

/-- In the working directory, by its own path, a new file is made as a whole. -/
theorem replacement_atomic_new_file :
    ∃ after, replaceFile default "." "f" (utf8 "x") { files := {} } = .ok () after ∧
      Atomic {} (utf8 (Path.join "." "f")) (utf8 "x") (.ok () after) := by
  have facts : passes (fun _ _ => true) (replaceFile default "." "f" (utf8 "x") { files := {} }) =
      true := by decide +kernel
  obtain ⟨⟨⟩, after, done, -⟩ := exists_of_passes facts
  refine ⟨after, done, ?_⟩
  obtain ⟨-, -, -, atomic⟩ := replacement_atomic_iff default "." "f" (utf8 "x") { files := {} }
    (by decide +kernel)
  rw [← done]
  refine (atomic (by decide) rfl fun spot target named => ?_).1
  have place : FileSystem.named {} (utf8 (Path.join "." "f")) = some [utf8 "f"] := by
    decide +kernel
  have vacant : Tree.empty.get? [utf8 "f"] = none := by decide +kernel
  rw [Option.some.inj (named.symm.trans place)]
  show Tree.empty.get? [utf8 "f"] ≠ some (.link target)
  rw [vacant]
  exact fun linked => by cases linked

/-- By an empty path it is made as well, and then a failure is reported. -/
theorem not_atomic_of_empty_path :
    ∃ after, replaceFile default "" "f" (utf8 "x") { files := {} } = .error (.io .notFound) after ∧
      FileSystem.item {} [utf8 "f"] = none ∧
      after.files.item [utf8 "f"] = some (.file (utf8 "x")) ∧
      ¬Atomic {} (utf8 (Path.join "" "f")) (utf8 "x") (.error (.io .notFound) after) := by
  have facts : fails (.io .notFound) (replaceFile default "" "f" (utf8 "x") { files := {} }) =
      true := by decide +kernel
  obtain ⟨after, failed⟩ := exists_of_fails facts
  have there : (leftBy (replaceFile default "" "f" (utf8 "x") { files := {} })).files.item
      [utf8 "f"] = some (.file (utf8 "x")) := by decide +kernel
  rw [failed] at there
  refine ⟨after, failed, rfl, there, fun same => ?_⟩
  have before := SameBut.item same [utf8 "f"] List.not_mem_nil
  rw [leftBy_error] at there
  rw [there] at before
  cases before

end Work

end SheetCabinet
