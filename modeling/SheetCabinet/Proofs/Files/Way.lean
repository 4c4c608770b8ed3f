import SheetCabinet.Proofs.Files.Confinement

/-!
# Ways without symbolic links

In a tree without symbolic links a path alone says where it leads, whatever is there: every part of it
is one step, and two dots lead back by one name. So a path that leads to a directory does so as long
as the places that it passes stay directories, and a file that is written by a path is at the place
that the path names.

Results:
* a walk ends at the place that its steps lead to (`walk_lead`), so a file that is opened to be written
  is there (`openOrCreate_lead`);
* a directory is found where it was as long as the way to it is there (`folder_of_way`).
-/

namespace SheetCabinet

/-! ## Where steps lead -/

/-- The place that a step leads to if nothing on the way is a link. -/
def Part.lead (place : Location) : Part → Location
  | .here => place
  | .slash => place
  | .up => place.dropLast
  | .name next => place ++ [next]

/-- The place that steps lead to. -/
def leadBy (place : Location) (steps : List Part) : Location := steps.foldl Part.lead place

/-- The places that steps pass, the first and the last one included. -/
def wayBy (place : Location) : List Part → List Location
  | [] => [place]
  | part :: rest => place :: wayBy (part.lead place) rest

def endOf (home : Location) (path : Bytes) : Location := leadBy (startOf home path) (parts path)

def wayOf (home : Location) (path : Bytes) : List Location :=
  wayBy (startOf home path) (parts path)

theorem leadBy_append (place : Location) (first second : List Part) :
    leadBy place (first ++ second) = leadBy (leadBy place first) second := List.foldl_append

theorem mem_wayBy_self (place : Location) (steps : List Part) : place ∈ wayBy place steps := by
  cases steps <;> exact List.mem_cons_self

/-- A separator at the end leads nowhere else. -/
theorem mem_wayBy_slash {place spot : Location} {steps : List Part} :
    spot ∈ wayBy place (steps ++ [.slash]) ↔ spot ∈ wayBy place steps := by
  induction steps generalizing place with
  | nil => simp [wayBy, Part.lead]
  | cons part rest ih => rw [List.cons_append, wayBy, wayBy, List.mem_cons, List.mem_cons, ih]

theorem leadBy_slash (place : Location) (steps : List Part) :
    leadBy place (steps ++ [.slash]) = leadBy place steps := leadBy_append place steps [.slash]

theorem endOf_eq (home : Location) (path : Bytes) :
    endOf home path = leadBy (startOf home path) (stem path) := by
  unfold endOf
  rcases parts_eq_stem path with plain | slashed
  · rw [plain]
  · rw [slashed, leadBy_slash]

theorem mem_wayOf_iff {home spot : Location} {path : Bytes} :
    spot ∈ wayOf home path ↔ spot ∈ wayBy (startOf home path) (stem path) := by
  unfold wayOf
  rcases parts_eq_stem path with plain | slashed
  · rw [plain]
  · rw [slashed, mem_wayBy_slash]

/-- A name in a directory is behind the place of the directory. -/
theorem endOf_join {item : String} (component : Component item) (home : Location)
    (directory : Path) : endOf home (utf8 (Path.join directory item)) =
      endOf home (utf8 directory) ++ [utf8 item] := by
  rw [endOf_eq home (utf8 directory)]
  unfold endOf
  rw [parts_join component, startOf_join component, leadBy_append]
  rfl

/-! ## Walking without links -/

def Linkless (look : Location → Option Node) : Prop :=
  ∀ place target, look place ≠ some (.link target)

section Walks

variable {look later : Location → Option Node}

/-- A stretch without links ends where its steps lead. -/
theorem advance_lead (linkless : Linkless look) (creating : Bool) (place : Location)
    (steps : List Part) :
    match advance look creating place steps with
    | .at reached => reached = leadBy place steps
    | .vacant inner name => inner ++ [name] = leadBy place steps
    | .link _ _ _ => False
    | .failed _ => True := by
  induction steps generalizing place with
  | nil => rfl
  | cons part rest ih =>
    by_cases inside : look place = some .directory
    · rw [advance_inside inside]
      cases part with
      | here => exact ih _
      | slash => exact ih _
      | up => exact ih _
      | name name =>
        by_cases slashed : creating = true ∧ rest ≠ [] ∧ rest.all (· = .slash) = true
        · simp only [if_pos slashed]
        · by_cases long : longestName < name.length
          · simp only [if_neg slashed, if_pos long]
          · simp only [if_neg slashed, if_neg long]
            cases held : look (place ++ [name]) with
            | none =>
              cases rest with
              | nil => rfl
              | cons next more => trivial
            | some node =>
              cases node with
              | link target => exact linkless _ _ held
              | file id => exact ih _
              | directory => exact ih _
    · rw [advance_outside inside]
      trivial

theorem walk_lead (linkless : Linkless look) {creating : Bool} {links : Nat} {place : Location}
    {steps : List Part} {arrival : Arrival}
    (arrived : walk look creating links place steps = .ok arrival) :
    match arrival with
    | .found reached => reached = leadBy place steps
    | .vacant inner name => inner ++ [name] = leadBy place steps := by
  have ends := advance_lead linkless creating place steps
  rw [walk_eq] at arrived
  split at arrived
  · rename_i stop
    rw [stop] at ends
    cases arrived
    exact ends
  · rename_i stop
    rw [stop] at ends
    cases arrived
    exact ends
  · cases arrived
  · rename_i stop
    rw [stop] at ends
    exact ends.elim

/-- A way that stays a way leads to the same directory. -/
theorem advance_of_way (linkless : Linkless look) {place reached : Location} {steps : List Part}
    (stop : advance look false place steps = .at reached)
    (inside : look reached = some .directory)
    (kept : ∀ spot ∈ wayBy place steps, look spot = some .directory →
      later spot = some .directory) : advance later false place steps = .at reached := by
  induction steps generalizing place with
  | nil => exact stop
  | cons part rest ih =>
    have further : ∀ spot ∈ wayBy (part.lead place) rest, look spot = some .directory →
        later spot = some .directory := fun spot member => kept spot (List.mem_cons_of_mem _ member)
    by_cases here : look place = some .directory
    · have there := kept place List.mem_cons_self here
      cases part with
      | here =>
        rw [advance_inside here] at stop
        rw [advance_inside there]
        exact ih stop further
      | slash =>
        rw [advance_inside here] at stop
        rw [advance_inside there]
        exact ih stop further
      | up =>
        rw [advance_inside here] at stop
        rw [advance_inside there]
        exact ih stop further
      | name name =>
        by_cases long : longestName < name.length
        · rw [advance_inside here] at stop
          simp [long] at stop
        · rw [advance_name here long] at stop
          rw [advance_name there long]
          cases held : look (place ++ [name]) with
          | none =>
            rw [held] at stop
            dsimp only at stop
            split at stop <;> cases stop
          | some node =>
            rw [held] at stop
            cases node with
            | link target => exact absurd held (linkless _ target)
            | directory =>
              have next : later (place ++ [name]) = some .directory :=
                further _ (mem_wayBy_self _ _) held
              rw [next]
              exact ih stop further
            | file id =>
              have solid : look (place ++ [name]) ≠ some .directory := by simp [held]
              cases rest with
              | nil =>
                cases stop
                exact absurd inside solid
              | cons next more =>
                dsimp only at stop
                rw [advance_outside solid] at stop
                cases stop
    · rw [advance_outside here] at stop
      cases stop

end Walks

namespace FileSystem

variable {files after : FileSystem} {directory : Path} {place : Location}

theorem arrive_eq_ok {creating : Bool} {path : Bytes} {arrival : Arrival}
    (arrived : files.arrive creating path = .ok arrival) :
    walk files.tree.get? creating mostLinks (startOf files.home path) (parts path) = .ok arrival := by
  unfold arrive at arrived
  cases checked : checkPath path with
  | error cause => simp [checked, bind, Except.bind] at arrived
  | ok _ => simpa [checked, bind, Except.bind] using arrived

/-- A directory is where its path says. -/
theorem folder_lead (linkless : Linkless files.tree.get?) (found : files.folder directory = .ok place) :
    place = endOf files.home (utf8 directory) := by
  have led := walk_lead linkless (folder_eq_ok_iff.1 found)
  rw [leadBy_slash, ← endOf_eq] at led
  exact led

/-- A directory stays where it is as long as the places on the way to it are directories. -/
theorem folder_of_way (linkless : Linkless files.tree.get?) (home : after.home = files.home)
    (kept : ∀ spot ∈ wayOf files.home (utf8 directory), files.tree.get? spot = some .directory →
      after.tree.get? spot = some .directory)
    (found : files.folder directory = .ok place) : after.folder directory = .ok place := by
  have walked := folder_eq_ok_iff.1 found
  have inside := directory_of_folder found
  have stop : advance files.tree.get? false (startOf files.home (utf8 directory))
      (stem (utf8 directory) ++ [.slash]) = .at place := by
    have ends := advance_lead linkless false (startOf files.home (utf8 directory))
      (stem (utf8 directory) ++ [.slash])
    rw [walk_eq] at walked
    split at walked
    · rename_i reached stop
      cases walked
      exact stop
    · cases walked
    · cases walked
    · rename_i stop
      rw [stop] at ends
      exact ends.elim
  rw [folder_eq_ok_iff, home, walk_eq, advance_of_way linkless stop inside]
  intro spot member
  exact kept spot (mem_wayOf_iff.2 (mem_wayBy_slash.1 member))

/-- Where something was cleared away no links came. -/
theorem linkless_clear (linkless : Linkless files.tree.get?) (place : Location) :
    Linkless (files.clear place).tree.get? := by
  intro spot target
  rw [look_cleared]
  split
  · exact fun linked => by cases linked
  · exact linkless spot target

/-- A file that is opened to be written is at the place that its path names, and was there or is
new. -/
theorem openOrCreate_lead (linkless : Linkless files.tree.get?) {path : Bytes} {id : FileId}
    {opened : FileSystem} (done : files.openOrCreate path = .ok (id, opened)) :
    (opened = files ∧ files.tree.get? (endOf files.home path) = some (.file id)) ∨
      ∃ inner name, endOf files.home path = inner ++ [name] ∧
        files.tree.get? inner = some .directory ∧ files.tree.get? (inner ++ [name]) = none ∧
        (id, opened) = files.newFile inner name := by
  unfold openOrCreate at done
  split at done
  · cases done
  · rename_i inner name arrived
    have walked := arrive_eq_ok arrived
    have vacant := walk_vacant walked
    cases done
    exact .inr ⟨inner, name, (walk_lead linkless walked).symm, vacant.1, vacant.2.1, rfl⟩
  · rename_i reached arrived
    have led : reached = endOf files.home path := walk_lead linkless (arrive_eq_ok arrived)
    split at done
    · rename_i held
      cases done
      exact .inl ⟨rfl, led ▸ held⟩
    · cases done

end FileSystem

end SheetCabinet
