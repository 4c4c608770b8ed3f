import SheetCabinet.Proofs.Files.Leading
import SheetCabinet.Proofs.Files.Named
import SheetCabinet.Proofs.Files.Way

/-!
# What was written by a path

A path by which a file was opened, or made, leads to that file from then on: a new file has the very
name at which the walk found nothing. So whoever writes by a path reads by it what was written, links
on the way or not, and can write by it again.

Results:
* the path of a file that was opened leads to the file (`arrive_of_openOrCreate`), so that whoever has
  written opens it again and makes nothing (`openOrCreate_of_write`);
* what was written is read (`read_of_write`);
* where something can be made nothing is found (`locate_of_vacancy`), so a directory that is there is
  not made again (`makeDirectories_of_openOrCreate`).
-/

namespace SheetCabinet

section Walks

variable {look : Location → Option Node}

/-- Whether something is to be made matters only where separators follow the last name. -/
theorem advance_creating (place : Location) (steps : List Part) :
    advance look true place steps = .failed .isADirectory ∨
      advance look true place steps = advance look false place steps := by
  induction steps generalizing place with
  | nil => exact .inr rfl
  | cons part rest ih =>
    by_cases inside : look place = some .directory
    · rw [advance_inside inside, advance_inside inside]
      cases part with
      | here => exact ih place
      | slash => exact ih place
      | up => exact ih place.dropLast
      | name name =>
        dsimp only
        have looking : ¬(false = true ∧ rest ≠ [] ∧ rest.all (· = .slash) = true) :=
          fun making => Bool.false_ne_true making.1
        rw [if_neg looking]
        split
        · exact .inl rfl
        · split
          · exact .inr rfl
          · cases look (place ++ [name]) with
            | none => exact .inr rfl
            | some node =>
              cases node with
              | link target => exact .inr rfl
              | file id => exact ih _
              | directory => exact ih _
    · rw [advance_outside inside, advance_outside inside]
      exact .inr rfl

/-- Where something can be made, or is there, it is found. -/
theorem walk_creating {links : Nat} {place : Location} {steps : List Part} {arrival : Arrival}
    (arrived : walk look true links place steps = .ok arrival) :
    walk look false links place steps = .ok arrival := by
  induction links generalizing place steps with
  | zero =>
    rw [walk_eq] at arrived ⊢
    rcases advance_creating place steps with refused | same
    · rw [refused] at arrived
      cases arrived
    · rw [← same]
      exact arrived
  | succ left ih =>
    rw [walk_eq] at arrived ⊢
    rcases advance_creating place steps with refused | same
    · rw [refused] at arrived
      cases arrived
    · rw [← same]
      cases stop : advance look true place steps with
      | link inner target rest =>
        rw [stop] at arrived
        exact ih arrived
      | «at» reached =>
        rw [stop] at arrived
        exact arrived
      | vacant inner name =>
        rw [stop] at arrived
        exact arrived
      | failed cause =>
        rw [stop] at arrived
        exact arrived

end Walks

namespace FileSystem

variable {files opened after : FileSystem} {path contents : Bytes} {id : FileId}

theorem arrive_of_askable (askable : checkPath path = .ok ()) (files : FileSystem) (creating : Bool) :
    files.arrive creating path =
      walk files.tree.get? creating mostLinks (startOf files.home path) (parts path) := by
  unfold arrive
  rw [askable]
  rfl

theorem askable_of_arrive {creating : Bool} {arrival : Arrival}
    (arrived : files.arrive creating path = .ok arrival) : checkPath path = .ok () := by
  unfold arrive at arrived
  cases checked : checkPath path with
  | ok _ => rfl
  | error cause =>
    rw [checked] at arrived
    cases arrived

/-! ## Files -/

/-- The path by which a file was opened, or made, leads to it, whatever for it is walked again. -/
theorem arrive_of_openOrCreate (done : files.openOrCreate path = .ok (id, opened)) :
    ∃ spot, (∀ creating, opened.arrive creating path = .ok (.found spot)) ∧
      opened.tree.get? spot = some (.file id) := by
  have enough {spot : Location} (askable : checkPath path = .ok ())
      (walked : walk opened.tree.get? true mostLinks (startOf opened.home path) (parts path) =
        .ok (.found spot)) (creating : Bool) : opened.arrive creating path = .ok (.found spot) := by
    rw [arrive_of_askable askable]
    cases creating with
    | true => exact walked
    | false => exact walk_creating walked
  unfold openOrCreate at done
  split at done
  · cases done
  · rename_i inner name arrived
    have walked := arrive_eq_ok arrived
    obtain ⟨inside, vacant, -⟩ := walk_vacant walked
    cases done
    have held := (stands_newFile inside vacant).held
    have grows := grows_of_sameBut (sameBut_newFile inside vacant) vacant
    refine ⟨inner ++ [name], enough (askable_of_arrive arrived) (walk_grown grows walked ?_), held⟩
    rintro _ _ same
    cases same
    exact ⟨_, held⟩
  · rename_i spot arrived
    split at done
    · rename_i held
      cases done
      exact ⟨spot, enough (askable_of_arrive arrived) (arrive_eq_ok arrived), held⟩
    · cases done

theorem status_of_openOrCreate (done : files.openOrCreate path = .ok (id, opened)) :
    opened.status path = .ok (.file id) := by
  obtain ⟨spot, arrived, held⟩ := arrive_of_openOrCreate done
  unfold status locate
  rw [arrived]
  simp only [held]

/-- Whoever wrote by a path opens by it what was written, and makes nothing. -/
theorem openOrCreate_of_write (done : files.write path contents = .ok after) :
    ∃ id, after.openOrCreate path = .ok (id, after) ∧ (after.body id).bytes = contents := by
  unfold write at done
  split at done
  · rename_i id opened reached
    cases done
    obtain ⟨spot, arrived, held⟩ := arrive_of_openOrCreate reached
    have led : (opened.setBytes id contents).arrive true path = .ok (.found spot) := arrived true
    have there : (opened.setBytes id contents).tree.get? spot = some (.file id) := held
    refine ⟨id, ?_, by rw [bytes_setBytes, if_pos rfl]⟩
    unfold openOrCreate
    rw [led]
    simp only [there]
  · cases done

/-- What was written by a path is read by it. -/
theorem read_of_write (done : files.write path contents = .ok after) :
    after.isPresent path = true ∧ after.read path = .ok contents := by
  obtain ⟨id, reached, holds⟩ := openOrCreate_of_write done
  unfold isPresent read
  rw [status_of_openOrCreate reached]
  exact ⟨rfl, congrArg Except.ok holds⟩

/-! ## Directories -/

/-- The steps of a path, put together again from its last name and what is before and behind it. -/
theorem eq_of_ofParts {steps : List Part} {name : Bytes}
    (last : (Final.ofParts steps).name = some name) :
    ∃ slashes, steps = (Final.ofParts steps).before ++ .name name :: slashes := by
  have split : steps = (steps.reverse.dropWhile (· = .slash)).reverse ++
      (steps.reverse.takeWhile (· = .slash)).reverse := by
    rw [← List.reverse_append, List.takeWhile_append_dropWhile, List.reverse_reverse]
  unfold Final.ofParts at last ⊢
  dsimp only at last ⊢
  cases ends : steps.reverse.dropWhile (· = .slash) with
  | nil =>
    rw [ends] at last
    cases last
  | cons part before =>
    rw [ends] at last split
    cases part with
    | name own =>
      cases last
      rw [List.reverse_cons, List.append_assoc] at split
      exact ⟨_, split⟩
    | here => cases last
    | up => cases last
    | slash => cases last

/-- Something can be made at the last name of a path, in the directory before it. -/
theorem parent_of_vacancy {slash : Option FileError} {place : Location} {name : Bytes}
    (free : files.vacancy slash path = .ok (place, name)) :
    ∃ final, files.parent path = .ok (place, final) ∧ final.name = some name := by
  unfold vacancy at free
  split at free
  · cases free
  · rename_i final led
    split at free
    · cases free
    · rename_i last
      split at free
      · cases free
      · split at free
        · cases free
        · split at free
          · cases free
          · split at free
            · cases free
              exact ⟨final, led, last⟩
            · cases free

/-- Where something can be made by a path, nothing is found by it. -/
theorem locate_of_vacancy {slash : Option FileError} {place : Location} {name : Bytes}
    (free : files.vacancy slash path = .ok (place, name)) : files.locate path = .error .notFound := by
  obtain ⟨inside, vacant, short⟩ := vacancy_eq_ok free
  obtain ⟨final, led, last⟩ := parent_of_vacancy free
  obtain ⟨askable, rfl, walked⟩ := parent_eq_ok_iff.1 led
  obtain ⟨slashes, steps⟩ := eq_of_ofParts last
  obtain ⟨left, enter⟩ := walk_enter files.tree.get? mostLinks (startOf files.home path)
    (Final.ofParts (parts path)).before
  unfold locate
  rw [arrive_of_askable askable, steps, enter false _ (onward_false _) (List.cons_ne_nil _ _), walked]
  dsimp only
  rw [walk_inside inside]
  simp only [if_neg (Nat.not_lt.2 short), vacant]
  by_cases plain : slashes = []
  · rw [if_pos plain]
  · rw [if_neg plain]

/-- A directory that is there is not made. -/
theorem makeDirectories_of_status (led : files.status path = .ok .directory) :
    files.makeDirectories path = (.ok (), files) := by
  unfold status at led
  have ensured : ∃ place, files.ensureDirectory path = (.ok place, files) := by
    unfold ensureDirectory
    split
    · rename_i free
      rw [locate_of_vacancy free] at led
      cases led
    · split
      · rename_i place found
        rw [found] at led
        dsimp only at led
        cases held : files.tree.get? place with
        | none =>
          rw [held] at led
          cases led
        | some node =>
          rw [held] at led
          cases led
          exact ⟨place, if_pos rfl⟩
      · rename_i lost
        rw [lost] at led
        cases led
  obtain ⟨place, there⟩ := ensured
  unfold makeDirectories
  rw [there]

/-- Nor is the working directory, by the empty path. -/
theorem makeDirectories_nil (files : FileSystem) : files.makeDirectories [] = (.ok (), files) := by
  have refused : files.ensureDirectory [] = (.error .notFound, files) := rfl
  have outer : inward [] = [] := rfl
  unfold makeDirectories
  rw [refused, outer]
  rfl

/-- A directory in which a file can be opened is not made. -/
theorem makeDirectories_of_openOrCreate {directory : Path} {item : String}
    (component : Component item)
    (done : files.openOrCreate (utf8 (Path.join directory item)) = .ok (id, opened)) :
    files.makeDirectories (utf8 directory) = (.ok (), files) := by
  obtain ⟨place, within⟩ := within_of_openOrCreate component done
  by_cases empty : directory = ""
  · rw [empty]
    exact makeDirectories_nil files
  · have askable := checkPath_of_join component empty within.askable
    exact makeDirectories_of_status (status_folder askable within.folder)

end FileSystem

end SheetCabinet
