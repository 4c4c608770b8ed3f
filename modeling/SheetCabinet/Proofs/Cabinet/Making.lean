import SheetCabinet.Proofs.Cabinet.Sparing

/-!
# Making a cabinet, all or nothing

A cabinet is made in two steps: a directory at a free name, and then the control file in it. When the
second step fails the directory goes away again, with whatever the attempt left in it. What is
checked of the name and the description is what the control file can carry, so a cabinet that was
made can be opened, and is known as it was made.

Results:
* what was only done at a vacant place and below it is undone by clearing the place (`item_of_undone`);
* a new cabinet can be opened (`openIn_of_made`);
* a cabinet is made whole or not at all (`create_cases`, `create_all_or_nothing`).
-/

namespace SheetCabinet

open FileSystem

theorem FileSystem.item_of_undone {files after : FileSystem} {place : Location}
    {spots : List Location} (vacant : files.tree.get? place = none)
    (same : SameBut spots files after) (below : ∀ spot ∈ spots, place <+: spot) (spot : Location) :
    (after.clear place).item spot = files.item spot := by
  rw [item_clear]
  split
  · rename_i inside
    obtain ⟨rest, rfl⟩ := inside.2
    exact (item_below_vacant vacant rest).symm
  · rename_i aside
    refine same.item spot ?_
    intro member
    have under := below spot member
    refine aside ⟨?_, under⟩
    rintro rfl
    rw [List.prefix_nil.1 under] at vacant
    cases vacant

namespace Cabinet

variable {name description : String} {parent : Path} {store : Store}

/-- Whoever opens a new cabinet has it as it was made. -/
theorem openIn_of_made {cabinet : Cabinet} {place : Location}
    (made : Made cabinet name description parent store.files place) :
    ∃ after, openIn name parent store = .ok cabinet after := by
  obtain ⟨id, stands⟩ := made.control
  have short : (utf8 controlName).length ≤ longestName := by decide +kernel
  have read := read_within made.within short stands.held
  rw [stands.holds] at read
  have plain := ControlRecord.plain_of_check made.named made.described 0
  obtain ⟨after, opened, -⟩ :=
    openIn_of_parsed made.named made.within read (ControlRecord.parse_render plain) rfl
  rw [made.cabinet_eq]
  exact ⟨after, opened⟩

/-- A new cabinet is a directory with its control file, and nothing else is different. -/
structure Founded (name description : String) (files after : FileSystem) (outer : Location) :
    Prop where
  vacant : files.item (outer ++ [utf8 name]) = none
  item : ∀ spot, after.item spot =
    if spot = outer ++ [utf8 name] then some .directory
    else if spot = outer ++ [utf8 name] ++ [utf8 controlName] then
      some (.file (utf8 (ControlRecord.mk name description 0).render))
    else files.item spot

theorem founded_of_replaced {files after : FileSystem} {outer : Location}
    (founding : Founding files name description parent outer)
    (replaced : Work.Replaced (files.place outer (utf8 name) .directory) after
      (outer ++ [utf8 name] ++ [utf8 controlName])
      (utf8 (ControlRecord.mk name description 0).render)) :
    Founded name description files after outer where
  vacant := item_eq_none_iff.2 founding.vacant
  item spot := by
    by_cases control : spot = outer ++ [utf8 name] ++ [utf8 controlName]
    · obtain ⟨id, -, stands⟩ := replaced.stands
      rw [if_neg (by simp [control]), if_pos control, control, stands.item]
    · rw [if_neg control, replaced.same.item spot (by simpa using control),
        item_place founding.inside founding.vacant]
      rfl

/-- The directory is where it was made, and when it goes away with all that is in it, all is as it
was. -/
theorem undone_of_sameBut {files after : FileSystem} {outer : Location}
    (founding : Founding files name description parent outer)
    (same : SameBut [outer ++ [utf8 name] ++ [utf8 controlName]]
      (files.place outer (utf8 name) .directory) after) :
    after.removeTree (utf8 (Path.join parent name)) = .ok (after.clear (outer ++ [utf8 name])) ∧
      ∀ spot, (after.clear (outer ++ [utf8 name])).item spot = files.item spot := by
  have vacant := founding.vacant
  have whole := (sameBut_place founding.inside vacant .directory).trans same
  have idle : ∀ spot ∈ [outer ++ [utf8 name]] ++ [outer ++ [utf8 name] ++ [utf8 controlName]],
      files.Idle spot := by
    intro spot member
    simp only [List.cons_append, List.nil_append, List.mem_cons, List.not_mem_nil, or_false] at member
    rcases member with rfl | rfl
    · exact idle_of_vacant vacant
    · exact idle_of_vacant (item_eq_none_iff.1 (item_below_vacant vacant _))
  have within := founding.within
  have led : after.Within parent name outer :=
    ⟨within.component, within.askable, folder_of_sameBut whole idle within.folder⟩
  have held : after.tree.get? (outer ++ [utf8 name]) = some .directory := by
    rw [same.look _ (by simp)]
    exact (Tree.get?_put founding.inside vacant _ _).trans (if_pos rfl)
  refine ⟨removeTree_within led founding.short held, item_of_undone vacant whole ?_⟩
  simp

/-- However it ends, making a cabinet leaves nothing behind but the whole cabinet. -/
theorem create_cases (draft : Draft) (name description : String) (parent : Path) (store : Store) :
    (∃ failure after, create draft name description parent store = .error failure after ∧
      ∀ spot, after.files.item spot = store.files.item spot) ∨
    ∃ outer after, create draft name description parent store =
        .ok ⟨name, description, parent, Path.join parent name, 0⟩ after ∧
      store.files.folder parent = .ok outer ∧
      Founded name description store.files after.files outer := by
  rcases create_attempt draft name description parent store with
    ⟨failure, refused⟩ | ⟨outer, founding, tried⟩
  · exact .inl ⟨failure, store, refused, fun _ => rfl⟩
  · rw [tried]
    rcases saveRecord_fresh founding draft with
      ⟨failure, after, failed, same⟩ | ⟨after, saved, -, replaced⟩
    · obtain ⟨removed, undone⟩ := undone_of_sameBut founding same
      rw [failed]
      dsimp only [concluded]
      rw [removed]
      exact .inl ⟨failure, _, rfl, undone⟩
    · rw [saved]
      exact .inr ⟨outer, _, rfl, founding.within.folder, founded_of_replaced founding replaced⟩

/-- A cabinet that is not made leaves everything as it was. One that is made is a directory with a
control file at a name that was free, nothing else is different, and whoever opens it has the same
name and description, and a count of zero. Where the name is taken, be it by a file, a directory or a
link, that is what whoever asked is told. -/
theorem create_all_or_nothing (draft : Draft) (name description : String) (parent : Path)
    (store : Store) :
    ((∃ failure after, create draft name description parent store = .error failure after ∧
        ∀ spot, after.files.item spot = store.files.item spot) ∨
      ∃ outer cabinet after reopened,
        create draft name description parent store = .ok cabinet after ∧
        cabinet = ⟨name, description, parent, Path.join parent name, 0⟩ ∧
        openIn name parent after = .ok cabinet reopened ∧
        store.files.folder parent = .ok outer ∧
        store.files.item (outer ++ [utf8 name]) = none ∧
        ∀ spot, after.files.item spot =
          if spot = outer ++ [utf8 name] then some .directory
          else if spot = outer ++ [utf8 name] ++ [utf8 controlName] then
            some (.file (utf8 (ControlRecord.mk name description 0).render))
          else store.files.item spot) ∧
    (checkCabinetName name = .ok () → checkDescription description = .ok () →
      store.files.Occupied (utf8 (Path.join parent name)) →
        create draft name description parent store =
          .error (.alreadyExists (Path.join parent name)) store) := by
  constructor
  · rcases create_cases draft name description parent store with
      failed | ⟨outer, after, done, found, founded⟩
    · exact .inl failed
    · obtain ⟨place, made⟩ := made_of_create done
      obtain ⟨reopened, opened⟩ := openIn_of_made made
      exact .inr ⟨outer, _, after, reopened, done, rfl, opened, found, founded.vacant, founded.item⟩
  · intro named described occupied
    rw [create_eq, named, described, makeDirectory_of_occupied (component_of_check named) occupied]

theorem create_all_or_nothing_taken :
    ∃ cabinet made, create default "c" "d" "" { files := {} } = .ok cabinet made ∧
      create default "c" "x" "" made = .error (.alreadyExists "c") made := by
  have facts : Work.passes (fun _ made => (made.files.lastNode (utf8 "c")).isOk)
      (create default "c" "d" "" { files := {} }) = true := by decide +kernel
  obtain ⟨cabinet, made, done, facts⟩ := Work.exists_of_passes facts
  refine ⟨cabinet, made, done, ?_⟩
  have occupied : made.files.Occupied (utf8 (Path.join "" "c")) := by
    have path : Path.join "" "c" = "c" := by decide +kernel
    rw [path]
    cases found : made.files.lastNode (utf8 "c") with
    | ok whole => exact ⟨whole.1, whole.2.1, whole.2.2, found⟩
    | error cause =>
      rw [found] at facts
      cases facts
  exact (create_all_or_nothing default "c" "x" "" made).2 (by decide +kernel) (by decide +kernel)
    occupied

end Cabinet

end SheetCabinet
