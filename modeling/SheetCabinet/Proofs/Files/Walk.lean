import SheetCabinet.Files.Route

/-!
# Walks put together, and walks in a changed tree

A walk over two runs of steps is a walk over the first and then, with the links that are left, a
walk over the second. A walk that ends in a directory has met only directories and links on its way,
so it ends there also in a tree in which files came, went or were replaced.

Results:
* walking into a directory and then on (`walk_enter`);
* the end of a walk does not depend on how many links it could have followed (`walk_unique`);
* a walk into a directory stays what it is while directories and links do (`walk_stable`); a link
  may even go, if it led to no directory (`Dead`);
* where nothing goes, every walk stays what it is, but for a missing name that may be a file's then
  (`walk_grown`).
-/

namespace SheetCabinet

variable {look : Location → Option Node}

/-! ## One stretch -/

/-- Steps that do not turn the name in front of them into the last one. -/
def Onward (creating : Bool) (steps : List Part) : Prop :=
  creating = true → steps.all (· = .slash) = false

theorem onward_false (steps : List Part) : Onward false steps := fun absurd => by cases absurd

theorem onward_name (creating : Bool) (name : Bytes) : Onward creating [.name name] :=
  fun _ => by simp

theorem onward_cons {creating : Bool} {steps : List Part} (onward : Onward creating steps)
    (front : List Part) : ¬(creating = true ∧ front ++ steps ≠ [] ∧
      (front ++ steps).all (· = .slash) = true) := by
  rintro ⟨making, -, all⟩
  have rest := onward making
  rw [List.all_append, Bool.and_eq_true] at all
  rw [all.2] at rest
  cases rest

theorem advance_outside {place : Location} (outside : look place ≠ some .directory)
    (creating : Bool) (part : Part) (rest : List Part) :
    advance look creating place (part :: rest) = .failed .notADirectory := if_pos outside

theorem advance_inside {place : Location} (inside : look place = some .directory) (creating : Bool)
    (part : Part) (rest : List Part) :
    advance look creating place (part :: rest) =
      match part with
      | .here => advance look creating place rest
      | .slash => advance look creating place rest
      | .up => advance look creating place.dropLast rest
      | .name name =>
        if creating ∧ rest ≠ [] ∧ rest.all (· = .slash) then .failed .isADirectory
        else if longestName < name.length then .failed .nameTooLong
        else match look (place ++ [name]) with
          | none => if rest = [] then .vacant place name else .failed .notFound
          | some (.link target) => .link place target rest
          | some _ => advance look creating (place ++ [name]) rest :=
  if_neg fun outside => outside inside

theorem advance_append {creating : Bool} {more : List Part} (onward : Onward creating more)
    (place : Location) (steps : List Part) :
    advance look creating place (steps ++ more) =
      match advance look false place steps with
      | .at reached => advance look creating reached more
      | .vacant inner name => if more = [] then .vacant inner name else .failed .notFound
      | .link inner target rest => .link inner target (rest ++ more)
      | .failed cause => .failed cause := by
  induction steps generalizing place with
  | nil => rfl
  | cons part rest ih =>
    rw [List.cons_append]
    by_cases inside : look place = some .directory
    · rw [advance_inside inside, advance_inside inside]
      cases part with
      | here => exact ih place
      | slash => exact ih place
      | up => exact ih place.dropLast
      | name name =>
        dsimp only
        have free : ¬(false = true ∧ rest ≠ [] ∧ rest.all (· = .slash) = true) :=
          fun making => by cases making.1
        rw [if_neg (onward_cons onward rest), if_neg free]
        by_cases long : longestName < name.length
        · rw [if_pos long, if_pos long]
        · rw [if_neg long, if_neg long]
          cases look (place ++ [name]) with
          | none => by_cases last : rest = [] <;> simp [last]
          | some node =>
            cases node with
            | link target => rfl
            | file id => exact ih _
            | directory => exact ih _
    · rw [advance_outside inside, advance_outside inside]

/-! ## Whole walks -/

theorem walk_eq (creating : Bool) (links : Nat) (place : Location) (steps : List Part) :
    walk look creating links place steps =
      match advance look creating place steps with
      | .at reached => .ok (.found reached)
      | .vacant inner name => .ok (.vacant inner name)
      | .failed cause => .error cause
      | .link inner target rest =>
        match links with
        | 0 => .error .tooManyLinks
        | left + 1 => walk look creating left (startOf inner target) (parts target ++ rest) := by
  cases stop : advance look creating place steps <;> cases links <;> rw [walk, stop]

theorem walk_append (look : Location → Option Node) (links : Nat) (place : Location)
    (steps : List Part) :
    ∃ left, ∀ creating more, Onward creating more → more ≠ [] →
      walk look creating links place (steps ++ more) =
        match walk look false links place steps with
        | .ok (.found reached) => walk look creating left reached more
        | .ok (.vacant _ _) => .error .notFound
        | .error cause => .error cause := by
  induction links generalizing place steps with
  | zero =>
    refine ⟨0, ?_⟩
    intro creating more onward further
    rw [walk_eq, walk_eq false, advance_append onward]
    cases advance look false place steps with
    | «at» reached => exact (walk_eq creating 0 reached more).symm
    | vacant inner name => simp [further]
    | link inner target rest => rfl
    | failed cause => rfl
  | succ links ih =>
    cases stop : advance look false place steps with
    | «at» reached =>
      refine ⟨links + 1, ?_⟩
      intro creating more onward further
      rw [walk_eq, walk_eq false, advance_append onward, stop]
      exact (walk_eq creating (links + 1) reached more).symm
    | vacant inner name =>
      refine ⟨0, ?_⟩
      intro creating more onward further
      rw [walk_eq, walk_eq false, advance_append onward, stop]
      simp [further]
    | link inner target rest =>
      obtain ⟨left, split⟩ := ih (startOf inner target) (parts target ++ rest)
      refine ⟨left, ?_⟩
      intro creating more onward further
      rw [walk_eq, walk_eq false, advance_append onward, stop]
      show walk look creating links (startOf inner target) (parts target ++ (rest ++ more)) = _
      rw [← List.append_assoc, split creating more onward further]
    | failed cause =>
      refine ⟨0, ?_⟩
      intro creating more onward further
      rw [walk_eq, walk_eq false, advance_append onward, stop]

theorem walk_outside {reached : Location} (outside : look reached ≠ some .directory)
    {more : List Part} (further : more ≠ []) (creating : Bool) (links : Nat) :
    walk look creating links reached more = .error .notADirectory := by
  cases more with
  | nil => exact absurd rfl further
  | cons part rest => rw [walk_eq, advance_outside outside]

theorem walk_slash {reached : Location} (inside : look reached = some .directory) (links : Nat) :
    walk look false links reached [.slash] = .ok (.found reached) := by
  rw [walk_eq, advance_inside inside]
  rfl

/-- A walk into a directory, and on from there. -/
theorem walk_enter (look : Location → Option Node) (links : Nat) (place : Location)
    (steps : List Part) :
    ∃ left, ∀ creating more, Onward creating more → more ≠ [] →
      walk look creating links place (steps ++ more) =
        match walk look false links place (steps ++ [.slash]) with
        | .ok (.found reached) => walk look creating left reached more
        | .ok (.vacant _ _) => .error .notFound
        | .error cause => .error cause := by
  obtain ⟨left, split⟩ := walk_append look links place steps
  refine ⟨left, ?_⟩
  intro creating more onward further
  rw [split creating more onward further, split false [.slash] (onward_false _) (by simp)]
  cases walk look false links place steps with
  | error cause => rfl
  | ok arrival =>
    cases arrival with
    | vacant inner name => rfl
    | found reached =>
      by_cases inside : look reached = some .directory
      · simp only [walk_slash inside]
      · simp only [walk_outside inside further, walk_outside inside (List.cons_ne_nil _ _)]

/-- A walk into a directory ends in a directory. -/
theorem directory_of_walk_slash {links : Nat} {place reached : Location} {steps : List Part}
    (arrived : walk look false links place (steps ++ [.slash]) = .ok (.found reached)) :
    look reached = some .directory := by
  obtain ⟨left, split⟩ := walk_append look links place steps
  rw [split false [.slash] (onward_false _) (by simp)] at arrived
  split at arrived
  · rename_i inner _
    by_cases inside : look inner = some .directory
    · rw [walk_slash inside] at arrived
      cases arrived
      exact inside
    · rw [walk_outside inside (List.cons_ne_nil _ _)] at arrived
      cases arrived
  · cases arrived
  · cases arrived

theorem walk_unique {creating : Bool} {first second : Arrival} {links others : Nat}
    {place : Location} {steps : List Part}
    (one : walk look creating links place steps = .ok first)
    (other : walk look creating others place steps = .ok second) : first = second := by
  -- both walks take the same stretches, and only one of them could run out of links
  induction links generalizing others place steps with
  | zero =>
    rw [walk_eq] at one other
    split at one
    · rename_i stop
      rw [stop] at other
      cases one
      cases other
      rfl
    · rename_i stop
      rw [stop] at other
      cases one
      cases other
      rfl
    · cases one
    · cases one
  | succ links ih =>
    rw [walk_eq] at one other
    split at one
    · rename_i stop
      rw [stop] at other
      cases one
      cases other
      rfl
    · rename_i stop
      rw [stop] at other
      cases one
      cases other
      rfl
    · cases one
    · rename_i stop
      rw [stop] at other
      cases others with
      | zero => cases other
      | succ others => exact ih one other

/-! ## A tree that changes -/

/-- A link that leads to something that is no directory. -/
def Dead (look : Location → Option Node) (place : Location) (target : Bytes) : Prop :=
  ∃ links reached, walk look false links (startOf place target) (parts target) =
    .ok (.found reached) ∧ look reached ≠ some .directory

/-- What is held later keeps every directory, and every link but dead ones. -/
structure Keeps (look later : Location → Option Node) : Prop where
  directory : ∀ place, look place = some .directory → later place = some .directory
  link : ∀ place name target, look (place ++ [name]) = some (.link target) →
    later (place ++ [name]) = some (.link target) ∨ Dead look place target

variable {later : Location → Option Node}

/-- A stretch ended in a directory, or at a link that is not dead. -/
def Stop.Lasting (look : Location → Option Node) : Stop → Prop
  | .at place => look place = some .directory
  | .link place target _ => ¬Dead look place target
  | .vacant _ _ => False
  | .failed _ => False

/-- A stretch with a lasting end is walked again. -/
theorem advance_stable {place : Location} {steps : List Part} {ends : Stop}
    (keeps : Keeps look later) (stop : advance look false place steps = ends)
    (lasting : ends.Lasting look) : advance later false place steps = ends := by
  induction steps generalizing place with
  | nil => exact stop
  | cons part rest ih =>
    by_cases here : look place = some .directory
    · rw [advance_inside here] at stop
      rw [advance_inside (keeps.directory place here)]
      cases part with
      | here => exact ih stop
      | slash => exact ih stop
      | up => exact ih stop
      | name name =>
        simp only [Bool.false_eq_true, false_and, if_false] at stop ⊢
        by_cases long : longestName < name.length
        · rw [if_pos long] at stop
          subst stop
          cases lasting
        · rw [if_neg long] at stop ⊢
          cases held : look (place ++ [name]) with
          | none =>
            rw [held] at stop
            dsimp only at stop
            split at stop
            · subst stop
              cases lasting
            · subst stop
              cases lasting
          | some node =>
            rw [held] at stop
            cases node with
            | link target =>
              subst stop
              rcases keeps.link place name target held with kept | dead
              · rw [kept]
              · exact absurd dead lasting
            | directory =>
              rw [keeps.directory _ held]
              exact ih stop
            | file id =>
              have solid : look (place ++ [name]) ≠ some .directory := by simp [held]
              cases rest with
              | nil =>
                subst stop
                exact absurd lasting solid
              | cons next others =>
                dsimp only at stop
                rw [advance_outside solid] at stop
                subst stop
                cases lasting
    · rw [advance_outside here] at stop
      subst stop
      cases lasting

/-- Behind a dead link no walk ends in a directory. -/
theorem not_directory_of_dead {place reached : Location} {target : Bytes} {rest : List Part}
    {links : Nat} (dead : Dead look place target)
    (arrived : walk look false links (startOf place target) (parts target ++ rest) =
      .ok (.found reached)) : look reached ≠ some .directory := by
  obtain ⟨others, stuck, led, solid⟩ := dead
  cases rest with
  | nil =>
    rw [List.append_nil] at arrived
    have same := walk_unique led arrived
    cases same
    exact solid
  | cons next more =>
    obtain ⟨left, split⟩ := walk_append look links (startOf place target) (parts target)
    rw [split false (next :: more) (onward_false _) (List.cons_ne_nil _ _)] at arrived
    split at arrived
    · rename_i between first
      have same := walk_unique led first
      cases same
      rw [walk_outside solid (List.cons_ne_nil _ _)] at arrived
      cases arrived
    · cases arrived
    · cases arrived

theorem walk_stable {links : Nat} {place reached : Location} {steps : List Part}
    (keeps : Keeps look later)
    (arrived : walk look false links place steps = .ok (.found reached))
    (inside : look reached = some .directory) :
    walk later false links place steps = .ok (.found reached) := by
  -- each stretch is walked again, up to the same link
  induction links generalizing place steps with
  | zero =>
    rw [walk_eq] at arrived ⊢
    split at arrived
    · rename_i stop
      cases arrived
      rw [advance_stable keeps stop inside]
    · cases arrived
    · cases arrived
    · cases arrived
  | succ links ih =>
    rw [walk_eq] at arrived ⊢
    split at arrived
    · rename_i stop
      cases arrived
      rw [advance_stable keeps stop inside]
    · cases arrived
    · cases arrived
    · rename_i inner target rest stop
      have lasting : ¬Dead look inner target := by
        intro dead
        exact not_directory_of_dead dead arrived inside
      rw [advance_stable keeps stop lasting]
      exact ih arrived

/-! ## A tree that grows -/

/-- Whatever is somewhere is there later. -/
def Grows (look later : Location → Option Node) : Prop :=
  ∀ place node, look place = some node → later place = some node

/-- Where a walk ends, the name that is missing included. -/
def Arrival.goal : Arrival → Location
  | .found place => place
  | .vacant place name => place ++ [name]

/-- How a stretch ends in a tree that has grown: as before, or at a file that has the name that was
missing. What failed may end in any way. -/
def Stop.Grown (later : Location → Option Node) : Stop → Stop → Prop
  | .at reached, ends => ends = .at reached
  | .link inner target rest, ends => ends = .link inner target rest
  | .vacant inner name, ends => ∀ id, later (inner ++ [name]) = some (.file id) →
      ends = .at (inner ++ [name])
  | .failed _, _ => True

theorem advance_grown (grows : Grows look later) (creating : Bool) (place : Location)
    (steps : List Part) :
    (advance look creating place steps).Grown later (advance later creating place steps) := by
  induction steps generalizing place with
  | nil => exact rfl
  | cons part rest ih =>
    by_cases here : look place = some .directory
    · rw [advance_inside here, advance_inside (grows place _ here)]
      cases part with
      | here => exact ih place
      | slash => exact ih place
      | up => exact ih place.dropLast
      | name name =>
        dsimp only
        split
        · trivial
        · split
          · trivial
          · cases held : look (place ++ [name]) with
            | none =>
              dsimp only
              split
              · rename_i last
                subst last
                intro id there
                rw [there]
                rfl
              · trivial
            | some node =>
              rw [grows _ node held]
              cases node with
              | link target => exact rfl
              | directory => exact ih _
              | file id => exact ih _
    · rw [advance_outside here]
      trivial

/-- A walk that arrived arrives again in a tree that has grown, if the name that was missing is that of
a file now. -/
theorem walk_grown (grows : Grows look later) {creating : Bool} {links : Nat} {place : Location}
    {steps : List Part} {arrival : Arrival}
    (arrived : walk look creating links place steps = .ok arrival)
    (present : ∀ inner name, arrival = .vacant inner name →
      ∃ id, later (inner ++ [name]) = some (.file id)) :
    walk later creating links place steps = .ok (.found arrival.goal) := by
  induction links generalizing place steps with
  | zero =>
    have again := advance_grown grows creating place steps
    rw [walk_eq] at arrived ⊢
    split at arrived
    · rename_i stop
      rw [stop] at again
      cases arrived
      rw [again]
      rfl
    · rename_i inner name stop
      rw [stop] at again
      cases arrived
      obtain ⟨id, there⟩ := present inner name rfl
      rw [again id there]
      rfl
    · cases arrived
    · cases arrived
  | succ links ih =>
    have again := advance_grown grows creating place steps
    rw [walk_eq] at arrived ⊢
    split at arrived
    · rename_i stop
      rw [stop] at again
      cases arrived
      rw [again]
      rfl
    · rename_i inner name stop
      rw [stop] at again
      cases arrived
      obtain ⟨id, there⟩ := present inner name rfl
      rw [again id there]
      rfl
    · cases arrived
    · rename_i stop
      rw [stop] at again
      rw [again]
      exact ih arrived

end SheetCabinet
