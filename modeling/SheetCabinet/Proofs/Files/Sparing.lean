import SheetCabinet.Proofs.Files.Way

/-!
# What is spared

A file that somebody relies on is spared by whoever makes directories, makes files, or writes to other
files. So what such a change has touched is said by the places of the files that may not be what they
were; where no links are, everything else that leads to a file or holds it is as before.

Results:
* what is done one after the other spares what each of it does (`Spares.trans`), and a directory is
  found where it was (`Spares.folder`);
* what making directories, making a file, writing by a path and clearing a place that was vacant spare
  (`spares_makeDirectories`, `spares_newFile`, `spares_write`, `Spares.clear`).
-/

namespace SheetCabinet

namespace FileSystem

/-- Nothing has become a link, every directory is still there, and so is every file, with what it
holds, but for those that were at the touched places. -/
structure Spares (touched : Location → Prop) (files after : FileSystem) : Prop where
  home : after.home = files.home
  linkless : Linkless files.tree.get? → Linkless after.tree.get?
  directory : ∀ place, files.tree.get? place = some .directory →
    after.tree.get? place = some .directory
  stands : ∀ id place contents, ¬touched place → files.Stands id place contents →
    after.Stands id place contents

variable {touched more : Location → Prop} {files between after : FileSystem} {place : Location}

/-- What is held is not at a vacant place, nor below it. -/
theorem not_below_vacant {spot : Location} {node : Node} (held : files.tree.get? spot = some node)
    (vacant : files.tree.get? place = none) : ¬place <+: spot := by
  rintro ⟨rest, rfl⟩
  rw [item_eq_none_iff.1 (item_below_vacant vacant rest)] at held
  cases held

theorem ne_of_vacant {spot : Location} {node : Node} (held : files.tree.get? spot = some node)
    (vacant : files.tree.get? place = none) : spot ≠ place := by
  rintro rfl
  exact not_below_vacant held vacant List.prefix_rfl

namespace Spares

theorem refl (touched : Location → Prop) (files : FileSystem) : Spares touched files files :=
  ⟨rfl, fun linkless => linkless, fun _ held => held, fun _ _ _ _ stands => stands⟩

theorem of_eq (touched : Location → Prop) (same : after = files) : Spares touched files after :=
  same ▸ refl touched files

theorem trans (first : Spares touched files between) (second : Spares touched between after) :
    Spares touched files after where
  home := second.home.trans first.home
  linkless before := second.linkless (first.linkless before)
  directory spot held := second.directory spot (first.directory spot held)
  stands id spot contents aside stands :=
    second.stands id spot contents aside (first.stands id spot contents aside stands)

/-- Whoever spares more spares less. -/
theorem mono (spares : Spares touched files after) (wider : ∀ place, touched place → more place) :
    Spares more files after where
  home := spares.home
  linkless := spares.linkless
  directory := spares.directory
  stands id spot contents aside :=
    spares.stands id spot contents fun inside => aside (wider spot inside)

/-- A directory is found where it was. -/
theorem folder {directory : Path} (spares : Spares touched files after)
    (linkless : Linkless files.tree.get?) (found : files.folder directory = .ok place) :
    after.folder directory = .ok place :=
  folder_of_way linkless spares.home (fun spot _ => spares.directory spot) found

/-- What is touched at a place that was vacant at first was not there then. -/
theorem trans_vacant (first : Spares touched files between) (second : Spares (· = place) between after)
    (vacant : files.tree.get? place = none) : Spares touched files after where
  home := second.home.trans first.home
  linkless before := second.linkless (first.linkless before)
  directory spot held := second.directory spot (first.directory spot held)
  stands id spot contents aside stands :=
    second.stands id spot contents (ne_of_vacant stands.held vacant)
      (first.stands id spot contents aside stands)

/-- A place that was vacant at first can be cleared. -/
theorem clear (spares : Spares touched files after) (vacant : files.tree.get? place = none) :
    Spares touched files (after.clear place) where
  home := spares.home
  linkless before := linkless_clear (spares.linkless before) place
  directory spot held := by
    rw [look_cleared, if_neg fun below => not_below_vacant held vacant below.2]
    exact spares.directory spot held
  stands id spot contents aside stands :=
    (spares.stands id spot contents aside stands).cleared (not_below_vacant stands.held vacant)

end Spares

/-- What is different at a few places only, none of which was a directory or is a link. -/
theorem spares_of_sameBut {spots : List Location} (same : SameBut spots files after)
    (solid : ∀ spot ∈ spots, files.tree.get? spot ≠ some .directory)
    (unlinked : ∀ spot ∈ spots, ∀ target, after.tree.get? spot ≠ some (.link target))
    (stands : ∀ id place contents, ¬touched place → files.Stands id place contents →
      after.Stands id place contents) : Spares touched files after where
  home := same.home
  linkless linkless spot target := by
    by_cases inside : spot ∈ spots
    · exact unlinked spot inside target
    · rw [same.look spot inside]
      exact linkless spot target
  directory spot held := by
    rw [same.look spot fun inside => solid spot inside held, held]
  stands := stands

/-- What changes nothing that can be seen touches nothing. -/
theorem spares_of_same (touched : Location → Prop) (same : SameBut [] files after) :
    Spares touched files after := by
  refine spares_of_sameBut same (by simp) (by simp) ?_
  intro id spot contents _ stands
  exact stands.of_sameBut same List.not_mem_nil (by simp)

/-- What has become a file at one place, where no directory was. -/
theorem spares_of_one {id : FileId} (same : SameBut [place] files after)
    (solid : files.tree.get? place ≠ some .directory) (unnamed : files.Unnamed id)
    (held : after.tree.get? place = some (.file id)) : Spares (· = place) files after := by
  refine spares_of_sameBut same (by simpa using solid) (by simp [held]) ?_
  intro other spot contents aside stands
  exact stands.aside same unnamed held aside

/-! ## Making something -/

section Making

variable {name : Bytes}

/-- A directory that was made is in nobody's way. -/
theorem spares_place (touched : Location → Prop)
    (vacant : files.tree.get? (place ++ [name]) = none) :
    Spares touched files (files.place place name .directory) := by
  by_cases inside : files.tree.get? place = some .directory
  · have same := sameBut_place inside vacant .directory
    have held : (files.place place name .directory).tree.get? (place ++ [name]) = some .directory :=
      (Tree.get?_put inside vacant _ _).trans (if_pos rfl)
    refine spares_of_sameBut same (by simp [vacant]) (by simp [held]) ?_
    intro id spot contents _ stands
    have distinct : spot ≠ place ++ [name] := ne_of_vacant stands.held vacant
    exact stands.of_sameBut same (by simpa using distinct) (by simp [held])
  · -- where there is no directory nothing is made
    have same : files.place place name .directory = files := by
      have tree : files.tree.put place name .directory = files.tree :=
        dif_neg fun both => inside both.1
      show { files with tree := files.tree.put place name .directory } = files
      rw [tree]
    exact .of_eq touched same

/-- A file that was made is in nobody's way either. -/
theorem spares_newFile (touched : Location → Prop) (inside : files.tree.get? place = some .directory)
    (vacant : files.tree.get? (place ++ [name]) = none) :
    Spares touched files (files.newFile place name).2 := by
  have made := spares_of_one (sameBut_newFile inside vacant) (by simp [vacant])
    (unnamed_freshId files) (onlyAt_newFile inside vacant).held
  exact (Spares.refl touched files).trans_vacant made vacant

end Making

/-! ## Writing -/

/-- Whoever writes to a file touches the place at which it is. -/
theorem spares_setBytes {id : FileId} (held : files.tree.get? place = some (.file id))
    (bytes : Bytes) : Spares (· = place) files (files.setBytes id bytes) where
  home := rfl
  linkless linkless := linkless
  directory _ inside := inside
  stands other spot contents aside stands := by
    have distinct : other ≠ id := by
      rintro rfl
      exact aside (stands.only place held).symm
    refine ⟨⟨stands.held, stands.only⟩, ?_⟩
    rw [bytes_setBytes, if_neg distinct, stands.holds]

theorem spares_write {path contents : Bytes} (linkless : Linkless files.tree.get?)
    (done : files.write path contents = .ok after) :
    Spares (· = endOf files.home path) files after := by
  unfold write at done
  split at done
  · rename_i id opened reached
    cases done
    rcases openOrCreate_lead linkless reached with
      ⟨rfl, held⟩ | ⟨inner, name, led, inside, vacant, made⟩
    · exact spares_setBytes held contents
    · have new := onlyAt_newFile inside vacant
      cases made
      rw [led]
      exact (spares_newFile _ inside vacant).trans (spares_setBytes new.held contents)
  · cases done

/-! ## Making directories -/

theorem spares_ensureDirectory (touched : Location → Prop) (files : FileSystem) (path : Bytes) :
    Spares touched files (files.ensureDirectory path).2 := by
  unfold ensureDirectory
  split
  · rename_i outer name free
    exact spares_place touched (vacancy_eq_ok free).2.1
  · split
    · split <;> exact .refl touched files
    · exact .refl touched files

theorem spares_ensureWithin (touched : Location → Prop) (files : FileSystem) (outer : Location)
    (path : Bytes) : Spares touched files (files.ensureWithin outer path).2 := by
  unfold ensureWithin
  split
  · exact spares_ensureDirectory touched files path
  · split
    · exact .refl touched files
    · exact spares_ensureDirectory touched files path
    · rename_i vacant
      split
      · exact .refl touched files
      · exact spares_place touched vacant

theorem spares_ensureEach (touched : Location → Prop) (files : FileSystem) (outer : Location)
    (paths : List Bytes) : Spares touched files (ensureEach outer paths files).2 := by
  induction paths generalizing outer files with
  | nil => exact .refl touched files
  | cons path inner ih =>
    have first := spares_ensureWithin touched files outer path
    rw [ensureEach]
    split
    · rename_i place ready made
      rw [made] at first
      exact first.trans (ih ready place)
    · rename_i cause stopped made
      rw [made] at first
      exact first

/-- However far it gets, making directories touches no file. -/
theorem spares_makeDirectories (touched : Location → Prop) (files : FileSystem) (path : Bytes) :
    Spares touched files (files.makeDirectories path).2 := by
  have first := spares_ensureDirectory touched files path
  unfold makeDirectories
  split
  · rename_i ready made
    rw [made] at first
    exact first
  · exact spares_ensureEach touched files _ _
  · exact .refl touched files

end FileSystem

end SheetCabinet
