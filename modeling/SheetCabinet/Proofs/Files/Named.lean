import SheetCabinet.Proofs.Files.Change

/-!
# The place that a path names

Whoever gives something a name or takes one away goes to the directory that a path leads to, and to
the last name there, whatever that holds: a link at the last name is not followed. A link on the way
is, and if it is a file that has its name later, the way ends there.

Results:
* a path names the same place as long as directories and links stay (`named_stable`), and a name
  behind the path of a directory is a name in it (`named_join_iff`);
* where a file comes in the place of something that was no directory, a walk that passed the place is
  refused (`walk_passed`), and any other ends where it did or at the file (`walk_beside`); so it depends
  on the way alone whether a path still leads somewhere (`status_beside`) or names what it did
  (`named_beside`).
-/

namespace SheetCabinet

namespace FileSystem

variable {files after : FileSystem} {path : Bytes} {place spot : Location}

/-- The place that a path names, whatever is there. -/
def named (files : FileSystem) (path : Bytes) : Option Location :=
  match files.parent path with
  | .ok (place, final) => final.name.map fun name => place ++ [name]
  | .error _ => none

theorem parent_eq_ok_iff {final : Final} : files.parent path = .ok (place, final) ↔
    checkPath path = .ok () ∧ final = Final.ofParts (parts path) ∧
      walk files.tree.get? false mostLinks (startOf files.home path) (final.before ++ [.slash]) =
        .ok (.found place) := by
  unfold parent
  cases checked : checkPath path with
  | error cause => simp [bind, Except.bind]
  | ok _ =>
    simp only [bind, Except.bind, true_and]
    cases walked : walk files.tree.get? false mostLinks (startOf files.home path)
        ((Final.ofParts (parts path)).before ++ [.slash]) with
    | error cause =>
      constructor
      · intro reached
        cases reached
      · rintro ⟨rfl, found⟩
        rw [walked] at found
        cases found
    | ok arrival =>
      cases arrival with
      | vacant inner name =>
        constructor
        · intro reached
          cases reached
        · rintro ⟨rfl, found⟩
          rw [walked] at found
          cases found
      | found reached =>
        constructor
        · intro same
          cases same
          exact ⟨rfl, walked⟩
        · rintro ⟨rfl, found⟩
          rw [walked] at found
          cases found
          rfl

theorem named_eq_some_iff : files.named path = some spot ↔
    ∃ place final name, files.parent path = .ok (place, final) ∧ final.name = some name ∧
      spot = place ++ [name] := by
  unfold named
  cases files.parent path with
  | error cause => simp
  | ok reached =>
    obtain ⟨place, final⟩ := reached
    simp only [Option.map_eq_some_iff]
    constructor
    · rintro ⟨name, named, rfl⟩
      exact ⟨place, final, name, rfl, named, rfl⟩
    · rintro ⟨_, _, name, same, named, rfl⟩
      cases same
      exact ⟨name, named, rfl⟩

/-- The last name of a path is in a directory. -/
theorem directory_of_parent {final : Final} (reached : files.parent path = .ok (place, final)) :
    files.tree.get? place = some .directory :=
  directory_of_walk_slash (parent_eq_ok_iff.1 reached).2.2

theorem parent_stable {final : Final} (keeps : Keeps files.tree.get? after.tree.get?)
    (home : after.home = files.home) (reached : files.parent path = .ok (place, final)) :
    after.parent path = .ok (place, final) := by
  obtain ⟨checked, same, walked⟩ := parent_eq_ok_iff.1 reached
  refine parent_eq_ok_iff.2 ⟨checked, same, ?_⟩
  rw [home]
  exact walk_stable keeps walked (directory_of_walk_slash walked)

theorem named_stable (keeps : Keeps files.tree.get? after.tree.get?)
    (home : after.home = files.home) (named : files.named path = some spot) :
    after.named path = some spot := by
  obtain ⟨place, final, name, reached, last, same⟩ := named_eq_some_iff.1 named
  exact named_eq_some_iff.2 ⟨place, final, name, parent_stable keeps home reached, last, same⟩

theorem named_join_iff {directory : Path} {item : String} (component : Component item) :
    files.named (utf8 (Path.join directory item)) = some spot ↔
      ∃ place, files.Within directory item place ∧ spot = place ++ [utf8 item] := by
  rw [named_eq_some_iff]
  constructor
  · rintro ⟨place, final, name, reached, last, rfl⟩
    have within := within_of_parent component reached
    rw [parent_within within] at reached
    cases reached
    cases last
    exact ⟨place, within, rfl⟩
  · rintro ⟨place, within, rfl⟩
    exact ⟨place, _, _, parent_within within, rfl, rfl⟩

end FileSystem

/-! ## A file on the way -/

/-- The way of the steps passes a place: it comes there by a name and goes on. -/
inductive Passes (look : Location → Option Node) (spot : Location) : Location → List Part → Prop
  | here {place : Location} {rest : List Part} (goes : Passes look spot place rest) :
      Passes look spot place (.here :: rest)
  | slash {place : Location} {rest : List Part} (goes : Passes look spot place rest) :
      Passes look spot place (.slash :: rest)
  | up {place : Location} {rest : List Part} (goes : Passes look spot place.dropLast rest) :
      Passes look spot place (.up :: rest)
  | meet {place : Location} {name : Bytes} {rest : List Part} (met : place ++ [name] = spot)
      (further : rest ≠ []) : Passes look spot place (.name name :: rest)
  | enter {place : Location} {name : Bytes} {rest : List Part} (aside : place ++ [name] ≠ spot)
      (unlinked : ∀ target, look (place ++ [name]) ≠ some (.link target))
      (goes : Passes look spot (place ++ [name]) rest) : Passes look spot place (.name name :: rest)
  | follow {place : Location} {name target : Bytes} {rest : List Part}
      (aside : place ++ [name] ≠ spot) (linked : look (place ++ [name]) = some (.link target))
      (goes : Passes look spot (startOf place target) (parts target ++ rest)) :
      Passes look spot place (.name name :: rest)

section Walks

variable {look later : Location → Option Node} {place spot : Location} {steps : List Part}

theorem Passes.ne_nil (passes : Passes look spot place steps) : steps ≠ [] := by
  cases passes <;> exact List.cons_ne_nil _ _

theorem walk_nil (links : Nat) (place : Location) :
    walk look false links place [] = .ok (.found place) := walk_eq false links place []

theorem walk_inside (inside : look place = some .directory) (links : Nat) (part : Part)
    (rest : List Part) : walk look false links place (part :: rest) =
      match part with
      | .here => walk look false links place rest
      | .slash => walk look false links place rest
      | .up => walk look false links place.dropLast rest
      | .name name =>
        if longestName < name.length then .error .nameTooLong
        else match look (place ++ [name]) with
          | none => if rest = [] then .ok (.vacant place name) else .error .notFound
          | some (.link target) =>
            match links with
            | 0 => .error .tooManyLinks
            | left + 1 => walk look false left (startOf place target) (parts target ++ rest)
          | some _ => walk look false links (place ++ [name]) rest := by
  rw [walk_eq, advance_inside inside]
  cases part with
  | here => exact (walk_eq false links place rest).symm
  | slash => exact (walk_eq false links place rest).symm
  | up => exact (walk_eq false links place.dropLast rest).symm
  | name name =>
    dsimp only
    rw [if_neg fun making => Bool.false_ne_true making.1]
    by_cases long : longestName < name.length
    · rw [if_pos long, if_pos long]
    · rw [if_neg long, if_neg long]
      cases look (place ++ [name]) with
      | none => by_cases last : rest = [] <;> simp [last]
      | some node =>
        cases node with
        | link target => rfl
        | file id => exact (walk_eq false links (place ++ [name]) rest).symm
        | directory => exact (walk_eq false links (place ++ [name]) rest).symm

theorem exists_error_of_inside {part : Part} {rest : List Part} {links : Nat}
    (refused : look place = some .directory →
      ∃ cause, walk look false links place (part :: rest) = .error cause) :
    ∃ cause, walk look false links place (part :: rest) = .error cause := by
  by_cases inside : look place = some .directory
  · exact refused inside
  · exact ⟨_, walk_outside inside (List.cons_ne_nil _ _) false links⟩

/-- With nothing but a file at a place no walk passes it. -/
theorem walk_passed (same : ∀ other, other ≠ spot → later other = look other)
    (stuck : ∀ node, later spot = some node → ∃ id, node = .file id)
    (passes : Passes look spot place steps) (links : Nat) :
    ∃ cause, walk later false links place steps = .error cause := by
  induction passes generalizing links with
  | here goes ih =>
    refine exists_error_of_inside fun inside => ?_
    rw [walk_inside inside]
    exact ih links
  | slash goes ih =>
    refine exists_error_of_inside fun inside => ?_
    rw [walk_inside inside]
    exact ih links
  | up goes ih =>
    refine exists_error_of_inside fun inside => ?_
    rw [walk_inside inside]
    exact ih links
  | @meet place name rest met further =>
    refine exists_error_of_inside fun inside => ?_
    rw [walk_inside inside]
    by_cases long : longestName < name.length
    · exact ⟨_, if_pos long⟩
    · simp only [if_neg long, met]
      cases held : later spot with
      | none => exact ⟨_, if_neg further⟩
      | some node =>
        obtain ⟨id, rfl⟩ := stuck node held
        have solid : later spot ≠ some .directory := by simp [held]
        exact ⟨_, walk_outside solid further false links⟩
  | @enter place name rest aside unlinked goes ih =>
    refine exists_error_of_inside fun inside => ?_
    rw [walk_inside inside]
    by_cases long : longestName < name.length
    · exact ⟨_, if_pos long⟩
    · rw [← same _ aside] at unlinked
      simp only [if_neg long]
      cases there : later (place ++ [name]) with
      | none => exact ⟨_, if_neg goes.ne_nil⟩
      | some node =>
        cases node with
        | link target => exact absurd there (unlinked target)
        | file id => exact ih links
        | directory => exact ih links
  | @follow place name target rest aside linked goes ih =>
    refine exists_error_of_inside fun inside => ?_
    rw [← same _ aside] at linked
    rw [walk_inside inside]
    by_cases long : longestName < name.length
    · exact ⟨_, if_pos long⟩
    · simp only [if_neg long, linked]
      cases links with
      | zero => exact ⟨_, rfl⟩
      | succ left => exact ih left

/-- A walk that arrives passes no place where there is nothing but a file. -/
theorem not_passes_of_walk {links : Nat} {arrival : Arrival}
    (stuck : ∀ node, look spot = some node → ∃ id, node = .file id)
    (arrived : walk look false links place steps = .ok arrival) : ¬Passes look spot place steps := by
  intro passes
  obtain ⟨cause, refused⟩ := walk_passed (fun _ _ => rfl) stuck passes links
  rw [refused] at arrived
  cases arrived

variable {id : FileId}

theorem stuck_of_file (held : look spot = some (.file id)) :
    ∀ node, look spot = some node → ∃ id, node = .file id :=
  fun _ there => ⟨id, Option.some.inj (there.symm.trans held)⟩

/-- A walk that does not pass the place of the file ends where it did, or at the file. -/
theorem walk_beside (same : ∀ other, other ≠ spot → later other = look other)
    (held : later spot = some (.file id)) (solid : look spot ≠ some .directory) {links : Nat}
    {reached : Location} (free : ¬Passes look spot place steps)
    (arrived : walk look false links place steps = .ok (.found reached)) :
    ∃ ends, walk later false links place steps = .ok (.found ends) ∧
      (ends = reached ∨ ends = spot) := by
  -- on each stretch by its steps, and behind a link with one link less
  induction links using Nat.strongRecOn generalizing place steps with
  | _ links fewer =>
    induction steps generalizing place with
    | nil =>
      rw [walk_nil] at arrived
      cases arrived
      exact ⟨_, walk_nil links _, .inl rfl⟩
    | cons part rest ih =>
      by_cases inside : look place = some .directory
      · have there : later place = some .directory := by
          rw [same place fun met => solid (met ▸ inside), inside]
        rw [walk_inside inside] at arrived
        rw [walk_inside there]
        cases part with
        | here => exact ih (fun passes => free (.here passes)) arrived
        | slash => exact ih (fun passes => free (.slash passes)) arrived
        | up => exact ih (fun passes => free (.up passes)) arrived
        | name name =>
          dsimp only at arrived ⊢
          by_cases long : longestName < name.length
          · rw [if_pos long] at arrived
            cases arrived
          rw [if_neg long] at arrived ⊢
          by_cases met : place ++ [name] = spot
          · cases rest with
            | nil =>
              rw [met, held]
              exact ⟨spot, walk_nil links spot, .inr rfl⟩
            | cons next more => exact absurd (.meet met (List.cons_ne_nil next more)) free
          · rw [same _ met]
            cases found : look (place ++ [name]) with
            | none =>
              rw [found] at arrived
              dsimp only at arrived
              split at arrived <;> cases arrived
            | some node =>
              rw [found] at arrived
              cases node with
              | link target =>
                cases links with
                | zero => cases arrived
                | succ left =>
                  exact fewer left (Nat.lt_succ_self left)
                    (fun passes => free (.follow met found passes)) arrived
              | file id =>
                refine ih (fun passes => free (.enter met ?_ passes)) arrived
                simp [found]
              | directory =>
                refine ih (fun passes => free (.enter met ?_ passes)) arrived
                simp [found]
      · rw [walk_outside inside (List.cons_ne_nil _ _)] at arrived
        cases arrived

end Walks

namespace FileSystem

variable {files after : FileSystem} {directory : Path} {path : Bytes} {place spot : Location}
  {id : FileId}

/-- The way to what a path leads to passes a place. -/
def LeadsPast (files : FileSystem) (path : Bytes) (spot : Location) : Prop :=
  Passes files.tree.get? spot (startOf files.home path) (parts path)

/-- The way to the directory of a path's last name passes a place. -/
def NamedPast (files : FileSystem) (path : Bytes) (spot : Location) : Prop :=
  Passes files.tree.get? spot (startOf files.home path)
    ((Final.ofParts (parts path)).before ++ [.slash])

/-- Where a file took the place of something, a path that led to a directory leads to that directory
or to the file, unless its way passed the place. -/
theorem status_beside (same : SameBut [spot] files after)
    (solid : files.tree.get? spot ≠ some .directory)
    (held : after.tree.get? spot = some (.file id)) (askable : checkPath (utf8 directory) = .ok ())
    (found : files.folder directory = .ok place) :
    (∃ node, after.status (utf8 directory) = .ok node) ↔ ¬files.LeadsPast (utf8 directory) spot := by
  have arrived := walk_folder found
  constructor
  · rintro ⟨node, reached⟩ passes
    obtain ⟨cause, refused⟩ := walk_passed same.look_ne (stuck_of_file held) passes mostLinks
    unfold status locate arrive at reached
    rw [askable, same.home] at reached
    simp only [bind, Except.bind, refused] at reached
    cases reached
  · intro free
    obtain ⟨ends, again, which⟩ := walk_beside same.look_ne held solid free arrived
    have inside := directory_of_folder found
    have there : ∃ node, after.tree.get? ends = some node := by
      rcases which with rfl | rfl
      · exact ⟨.directory, by rw [same.look_ne ends fun met => solid (met ▸ inside), inside]⟩
      · exact ⟨.file id, held⟩
    obtain ⟨node, shown⟩ := there
    refine ⟨node, ?_⟩
    unfold status locate arrive
    rw [askable, same.home]
    simp only [bind, Except.bind, again, shown]

/-- Where a file took the place of something, a path names what it named before, unless the way to the
last name passed the place. -/
theorem named_beside {other : Location} (same : SameBut [spot] files after)
    (solid : files.tree.get? spot ≠ some .directory)
    (held : after.tree.get? spot = some (.file id)) (named : files.named path = some other) :
    after.named path = some other ↔ ¬files.NamedPast path spot := by
  obtain ⟨place, final, name, reached, last, rfl⟩ := named_eq_some_iff.1 named
  obtain ⟨checked, rfl, walked⟩ := parent_eq_ok_iff.1 reached
  constructor
  · intro still passes
    obtain ⟨_, _, _, again, -, -⟩ := named_eq_some_iff.1 still
    obtain ⟨-, rfl, rewalked⟩ := parent_eq_ok_iff.1 again
    rw [same.home] at rewalked
    obtain ⟨cause, refused⟩ := walk_passed same.look_ne (stuck_of_file held) passes mostLinks
    rw [refused] at rewalked
    cases rewalked
  · intro free
    obtain ⟨ends, again, which⟩ := walk_beside same.look_ne held solid free walked
    have inside := directory_of_walk_slash again
    have ended : ends = place := by
      rcases which with stays | file
      · exact stays
      · rw [file, held] at inside
        cases inside
    rw [ended] at again
    refine named_eq_some_iff.2 ⟨place, _, name, parent_eq_ok_iff.2 ⟨checked, rfl, ?_⟩, last, rfl⟩
    rw [same.home]
    exact again

end FileSystem

end SheetCabinet
