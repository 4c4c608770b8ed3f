import SheetCabinet.Proofs.Files.Change

/-!
# Changes in one region

What is done in one part of the tree leaves the rest as it was, but a path may lead through that part
and come out of it again. It still comes out at the same place, if it comes out at all, as long as no
symbolic links came or went.

Results:
* walks in two trees with the same links do not end at two different places (`walk_agree`);
* what a change in one region is (`Confined`), with what changes at single places and clearing do
  (`confined_of_sameBut`, `confined_clear`);
* after a change below a name in a directory, the path of the directory leads to where it led
  (`folder_of_confined`).
-/

namespace SheetCabinet

/-! ## Two trees with the same links -/

section Walks

variable {look later : Location → Option Node}

/-- The same places are links, with the same targets. -/
def SameLinks (look later : Location → Option Node) : Prop :=
  ∀ place target, look place = some (.link target) ↔ later place = some (.link target)

/-- A stretch ended at something that is there. -/
def Stop.Arrived : Stop → Prop
  | .at _ | .link _ _ _ => True
  | .vacant _ _ | .failed _ => False

theorem advance_name {place : Location} {name : Bytes}
    (inside : look place = some .directory) (short : ¬longestName < name.length) (rest : List Part) :
    advance look false place (.name name :: rest) =
      match look (place ++ [name]) with
      | none => if rest = [] then .vacant place name else .failed .notFound
      | some (.link target) => .link place target rest
      | some _ => advance look false (place ++ [name]) rest := by
  refine (advance_inside inside false (.name name) rest).trans ?_
  exact (if_neg fun checked => Bool.noConfusion checked.1).trans (if_neg short)

/-- Nothing is found where nothing is. -/
theorem some_of_arrived {place : Location} {name : Bytes} {rest : List Part}
    (inside : look place = some .directory) (short : ¬longestName < name.length)
    (arrived : (advance look false place (.name name :: rest)).Arrived) :
    ∃ node, look (place ++ [name]) = some node := by
  rw [advance_name inside short] at arrived
  cases held : look (place ++ [name]) with
  | some node => exact ⟨node, rfl⟩
  | none =>
    rw [held] at arrived
    dsimp only at arrived
    split at arrived <;> cases arrived

theorem advance_agree (same : SameLinks look later) {place : Location} {steps : List Part}
    (one : (advance look false place steps).Arrived)
    (other : (advance later false place steps).Arrived) :
    advance later false place steps = advance look false place steps := by
  induction steps generalizing place with
  | nil => rfl
  | cons part rest ih =>
    by_cases inside : look place = some .directory
    · by_cases there : later place = some .directory
      · cases part with
        | here =>
          rw [advance_inside inside] at one ⊢
          rw [advance_inside there] at other ⊢
          exact ih one other
        | slash =>
          rw [advance_inside inside] at one ⊢
          rw [advance_inside there] at other ⊢
          exact ih one other
        | up =>
          rw [advance_inside inside] at one ⊢
          rw [advance_inside there] at other ⊢
          exact ih one other
        | name name =>
          by_cases long : longestName < name.length
          · rw [advance_inside inside] at one
            simp [long, Stop.Arrived] at one
          · obtain ⟨node, held⟩ := some_of_arrived inside long one
            obtain ⟨next, found⟩ := some_of_arrived there long other
            rw [advance_name inside long, held] at one ⊢
            rw [advance_name there long, found] at other ⊢
            cases node with
            | link target =>
              rw [(same _ target).1 held] at found
              cases found
              rfl
            | file id =>
              cases next with
              | link target => rw [(same _ target).2 found] at held; cases held
              | file other => exact ih one other
              | directory => exact ih one other
            | directory =>
              cases next with
              | link target => rw [(same _ target).2 found] at held; cases held
              | file other => exact ih one other
              | directory => exact ih one other
      · rw [advance_outside there] at other
        cases other
    · rw [advance_outside inside] at one
      cases one

theorem arrived_of_walk {links : Nat} {place reached : Location} {steps : List Part}
    (walked : walk look false links place steps = .ok (.found reached)) :
    (advance look false place steps).Arrived := by
  rw [walk_eq] at walked
  split at walked
  · rename_i stop
    rw [stop]
    trivial
  · cases walked
  · cases walked
  · rename_i stop
    rw [stop]
    trivial

theorem walk_agree (same : SameLinks look later) {links : Nat} {place one other : Location}
    {steps : List Part} (first : walk look false links place steps = .ok (.found one))
    (second : walk later false links place steps = .ok (.found other)) : one = other := by
  induction links generalizing place steps with
  | zero =>
    have stop := advance_agree same (arrived_of_walk first) (arrived_of_walk second)
    rw [walk_eq] at first second
    rw [stop] at second
    split at first
    · rename_i ends
      rw [ends] at second
      cases first
      cases second
      rfl
    · cases first
    · cases first
    · cases first
  | succ links ih =>
    have stop := advance_agree same (arrived_of_walk first) (arrived_of_walk second)
    rw [walk_eq] at first second
    rw [stop] at second
    split at first
    · rename_i ends
      rw [ends] at second
      cases first
      cases second
      rfl
    · cases first
    · cases first
    · rename_i ends
      rw [ends] at second
      exact ih first second

end Walks

namespace FileSystem

variable {files between after : FileSystem} {region : Location → Prop} {place outer : Location}
  {parent : Path} {name : String}

theorem folder_agree (home : after.home = files.home)
    (same : SameLinks files.tree.get? after.tree.get?) (found : files.folder parent = .ok outer)
    (again : after.folder parent = .ok place) : outer = place := by
  rw [folder_eq_ok_iff] at found again
  rw [home] at again
  exact walk_agree same found again

/-- A directory that is found behind another is in it, unless there is a link in its place. -/
theorem folder_of_join (component : Component name)
    (unlinked : ∀ outer target, files.folder parent = .ok outer →
      files.tree.get? (outer ++ [utf8 name]) ≠ some (.link target))
    (found : files.folder (Path.join parent name) = .ok place) :
    ∃ outer, files.folder parent = .ok outer ∧ place = outer ++ [utf8 name] ∧
      (utf8 name).length ≤ longestName := by
  obtain ⟨left, enter⟩ := walk_enter files.tree.get? mostLinks
    (startOf files.home (utf8 parent)) (stem (utf8 parent))
  rw [folder_eq_ok_iff, stem_join component, startOf_join component, List.append_assoc,
    List.singleton_append, enter false _ (onward_false _) (List.cons_ne_nil _ _)] at found
  split at found
  · rename_i outer walked
    have led : files.folder parent = .ok outer := folder_eq_ok_iff.2 walked
    have inside := directory_of_folder led
    have arrived := arrived_of_walk found
    by_cases long : longestName < (utf8 name).length
    · rw [advance_inside inside] at arrived
      simp [long, Stop.Arrived] at arrived
    · obtain ⟨node, held⟩ := some_of_arrived inside long arrived
      rw [walk_eq, advance_name inside long, held] at found
      cases node with
      | link target => exact absurd held (unlinked outer target led)
      | file id =>
        have solid : files.tree.get? (outer ++ [utf8 name]) ≠ some .directory :=
          solid_of_file held
        dsimp only at found
        rw [advance_outside solid] at found
        cases found
      | directory =>
        dsimp only at found
        rw [advance_inside held] at found
        cases found
        exact ⟨outer, led, rfl, Nat.not_lt.1 long⟩
  · cases found
  · cases found

/-! ## A region -/

/-- There are no symbolic links in the region. -/
def Bare (region : Location → Prop) (files : FileSystem) : Prop :=
  ∀ place target, region place → files.tree.get? place ≠ some (.link target)

/-- The file systems hold and show the same outside of the region, and no links came into it. -/
structure Confined (region : Location → Prop) (files after : FileSystem) : Prop where
  home : after.home = files.home
  look : ∀ place, ¬region place → after.tree.get? place = files.tree.get? place
  item : ∀ place, ¬region place → after.item place = files.item place
  bare : Bare region files → Bare region after

namespace Confined

theorem refl (region : Location → Prop) (files : FileSystem) : Confined region files files :=
  ⟨rfl, fun _ _ => rfl, fun _ _ => rfl, fun bare => bare⟩

theorem trans (first : Confined region files between) (second : Confined region between after) :
    Confined region files after where
  home := second.home.trans first.home
  look place outside := (second.look place outside).trans (first.look place outside)
  item place outside := (second.item place outside).trans (first.item place outside)
  bare before := second.bare (first.bare before)

theorem sameLinks (confined : Confined region files after) (bare : Bare region files) :
    SameLinks files.tree.get? after.tree.get? := by
  intro place target
  by_cases inside : region place
  · have before := bare place target inside
    have later := confined.bare bare place target inside
    exact ⟨fun held => absurd held before, fun held => absurd held later⟩
  · rw [confined.look place inside]

end Confined

theorem confined_of_sameBut {spots : List Location} (same : SameBut spots files after)
    (inside : ∀ spot ∈ spots, region spot)
    (unlinked : ∀ spot ∈ spots, ∀ target, after.tree.get? spot ≠ some (.link target)) :
    Confined region files after where
  home := same.home
  look place outside := same.look place fun spot => outside (inside place spot)
  item place outside := same.item place fun spot => outside (inside place spot)
  bare before place target inside := by
    by_cases spot : place ∈ spots
    · exact unlinked place spot target
    · rw [same.look place spot]
      exact before place target inside

/-- What is changed at one place of the region is no link afterwards. -/
theorem confined_of_one {spot : Location} (same : SameBut [spot] files after) (inside : region spot)
    (unlinked : ∀ target, after.tree.get? spot ≠ some (.link target)) :
    Confined region files after := by
  refine confined_of_sameBut same ?_ ?_
  · intro other member
    rw [List.mem_singleton.1 member]
    exact inside
  · intro other member
    rw [List.mem_singleton.1 member]
    exact unlinked

theorem unlinked_of_file {id : FileId} (held : files.tree.get? place = some (.file id))
    (target : Bytes) : files.tree.get? place ≠ some (.link target) := by
  rw [held]
  exact fun same => by cases same

theorem confined_clear (below : ∀ other, place <+: other → region other) :
    Confined region files (files.clear place) where
  home := rfl
  look other outside :=
    (look_cleared files place other).trans
      (if_neg fun cleared => outside (below other cleared.2))
  item other outside := by
    rw [item_clear, if_neg fun cleared => outside (below other cleared.2)]
  bare before other target inside := by
    rw [look_cleared]
    split
    · exact fun linked => by cases linked
    · exact before other target inside

/-! ## Below a name in a directory -/

/-- The place of a name in the directory that a path leads to, and all that is below it. -/
def Below (files : FileSystem) (parent : Path) (name : String) (place : Location) : Prop :=
  ∃ outer, files.folder parent = .ok outer ∧ outer ++ [utf8 name] <+: place

/-- Whatever was done below the name, the path leads to no other directory than it did. -/
theorem folder_of_confined (confined : Confined (files.Below parent name) files after)
    (bare : Bare (files.Below parent name) files) (found : after.folder parent = .ok outer) :
    files.folder parent = .ok outer := by
  cases led : files.folder parent with
  | ok other =>
    rw [folder_agree confined.home (confined.sameLinks bare) led found]
  | error cause =>
    have same : after.tree.get? = files.tree.get? := by
      funext place
      refine confined.look place ?_
      rintro ⟨other, there, -⟩
      rw [led] at there
      cases there
    unfold folder at found led
    rw [same, confined.home] at found
    rw [found] at led
    cases led

end FileSystem

end SheetCabinet
