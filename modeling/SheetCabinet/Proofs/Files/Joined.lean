import SheetCabinet.Path
import SheetCabinet.Naming
import SheetCabinet.Files.ByPath
import SheetCabinet.Proofs.Files.Walk
import SheetCabinet.Proofs.Text.Encoding

/-!
# Paths of what is in a directory

Everything that a cabinet or a sheet does with its files it does by a path that joins a directory
and one name. Such a path leads into the directory and then to the name, whichever of the three
forms the join takes: behind an empty path, behind a separator, or behind a new separator.

Results:
* the steps of a joined path (`parts_join`), and where its walk starts (`startOf_join`);
* a path that can be asked for with a name behind it can be asked for without (`checkPath_of_join`).
-/

namespace SheetCabinet

/-! ## Names -/

/-- A text that is one step of a path, and a step to a name. -/
structure Component (item : String) : Prop where
  present : item ≠ ""
  notHere : item ≠ "."
  notUp : item ≠ ".."
  whole : '/' ∉ item.toList
  nulFree : '\x00' ∉ item.toList

theorem component_of_check {name what : String} (checked : checkComponent name what = .ok ()) :
    Component name := by
  obtain ⟨present, notHere, notUp, allowed⟩ := checkComponent_eq_ok_iff.1 checked
  refine ⟨present, notHere, notUp, ?_, ?_⟩
  · intro slash
    exact absurd (allowed _ slash) (by decide)
  · intro nul
    exact absurd (allowed _ nul) (by decide)

theorem component_controlName : Component controlName := by
  have checked : checkComponent controlName "" = .ok () := by decide +kernel
  exact component_of_check checked

theorem component_lockName : Component lockName := by
  have checked : checkComponent lockName "" = .ok () := by decide +kernel
  exact component_of_check checked

namespace Component

variable {item : String}

theorem separator_not_mem (component : Component item) : separator ∉ utf8 item := fun member =>
  component.whole ((mem_utf8_iff (c := '/') (by decide) item).1 member)

theorem bytes_ne_nil (component : Component item) : utf8 item ≠ [] := fun empty =>
  component.present (utf8_eq_nil_iff.1 empty)

theorem ofPiece_eq (component : Component item) :
    Part.ofPiece (utf8 item) = some (.name (utf8 item)) := by
  unfold Part.ofPiece
  rw [if_neg component.bytes_ne_nil, if_neg fun here => component.notHere (utf8_inj.1 here),
    if_neg fun up => component.notUp (utf8_inj.1 up)]

end Component

/-! ## Pieces -/

theorem pieces_cons (b : UInt8) (rest : Bytes) :
    pieces (b :: rest) = addToPieces b (pieces rest) := rfl

theorem addToPieces_separator (rest : List Bytes) : addToPieces separator rest = [] :: rest :=
  if_pos rfl

theorem addToPieces_cons {b : UInt8} (inside : b ≠ separator) (piece : Bytes)
    (others : List Bytes) : addToPieces b (piece :: others) = (b :: piece) :: others :=
  if_neg inside

theorem exists_pieces (path : Bytes) : ∃ piece others, pieces path = piece :: others := by
  induction path with
  | nil => exact ⟨[], [], rfl⟩
  | cons b rest ih =>
    obtain ⟨piece, others, split⟩ := ih
    rw [pieces_cons, split]
    by_cases ends : b = separator
    · rw [ends, addToPieces_separator]
      exact ⟨_, _, rfl⟩
    · rw [addToPieces_cons ends]
      exact ⟨_, _, rfl⟩

theorem pieces_append_separator (first second : Bytes) :
    pieces (first ++ separator :: second) = pieces first ++ pieces second := by
  induction first with
  | nil => exact addToPieces_separator (pieces second)
  | cons b rest ih =>
    obtain ⟨piece, others, split⟩ := exists_pieces rest
    rw [List.cons_append, pieces_cons, pieces_cons, ih, split]
    by_cases ends : b = separator
    · rw [ends, addToPieces_separator, addToPieces_separator]
      rfl
    · rw [List.cons_append, addToPieces_cons ends, addToPieces_cons ends]
      rfl

theorem pieces_of_not_mem {name : Bytes} (whole : separator ∉ name) : pieces name = [name] := by
  induction name with
  | nil => rfl
  | cons b rest ih =>
    rw [List.mem_cons, not_or] at whole
    rw [pieces_cons, ih whole.2, addToPieces_cons (Ne.symm whole.1)]

/-! ## Steps -/

/-- The steps of a path, whether or not a separator ends it. -/
def stem (path : Bytes) : List Part := (pieces path).filterMap Part.ofPiece

theorem stem_append_separator (path : Bytes) : stem (path ++ [separator]) = stem path := by
  unfold stem
  rw [pieces_append_separator, List.filterMap_append]
  exact List.append_nil _

theorem parts_of_pieces {item : String} (component : Component item) (front : Bytes)
    (outer : List Bytes) (split : pieces (front ++ utf8 item) = outer ++ [utf8 item]) :
    parts (front ++ utf8 item) = outer.filterMap Part.ofPiece ++ [.name (utf8 item)] := by
  have last : (front ++ utf8 item).getLast? ≠ some separator := by
    obtain ⟨b, ends⟩ := Option.isSome_iff_exists.1 (List.getLast?_isSome.2 component.bytes_ne_nil)
    rw [List.getLast?_append, ends, Option.some_or, ne_eq, Option.some.injEq]
    rintro rfl
    exact component.separator_not_mem (List.mem_of_getLast? ends)
  unfold parts
  rw [split, if_neg last, List.append_nil, List.filterMap_append]
  simp [component.ofPiece_eq]

theorem isAbsolute_component {item : String} (component : Component item) :
    Path.isAbsolute item = false := by
  unfold Path.isAbsolute
  cases characters : item.toList with
  | nil => rfl
  | cons c rest =>
    have other : c ≠ '/' := by
      rintro rfl
      exact component.whole (by rw [characters]; exact List.mem_cons_self)
    simpa using other

/-- The three forms of a joined path. -/
theorem join_cases {item : String} (component : Component item) (directory : Path) :
    (directory = "" ∧ Path.join directory item = item) ∨
      (∃ front, directory = front ++ "/" ∧ Path.join directory item = front ++ "/" ++ item) ∨
      (directory ≠ "" ∧ Path.join directory item = directory ++ "/" ++ item) := by
  rw [Path.join_relative (isAbsolute_component component), Path.needsSeparator]
  cases last : directory.toList.getLast? with
  | none =>
    have empty : directory = "" := String.toList_eq_nil_iff.1 (List.getLast?_eq_none_iff.1 last)
    subst empty
    exact .inl ⟨rfl, String.empty_append⟩
  | some c =>
    by_cases ends : c = '/'
    · subst ends
      obtain ⟨front, split⟩ := List.getLast?_eq_some_iff.1 last
      have whole : directory = String.ofList front ++ "/" := by
        rw [← String.toList_inj, split, String.toList_append, String.toList_ofList]
        rfl
      exact .inr (.inl ⟨_, whole, by rw [whole]; rfl⟩)
    · refine .inr (.inr ⟨?_, by simp [ends]⟩)
      rintro rfl
      cases last

theorem utf8_slash : utf8 "/" = [separator] := by decide +kernel

theorem parts_join {item : String} (component : Component item) (directory : Path) :
    parts (utf8 (Path.join directory item)) =
      stem (utf8 directory) ++ [.name (utf8 item)] := by
  have alone := pieces_of_not_mem component.separator_not_mem
  have behind (front : Bytes) : parts (front ++ [separator] ++ utf8 item) =
      stem front ++ [.name (utf8 item)] := by
    refine parts_of_pieces component _ _ ?_
    rw [List.append_assoc, List.singleton_append, pieces_append_separator, alone]
  rcases join_cases component directory with ⟨rfl, joined⟩ | ⟨front, rfl, joined⟩ | ⟨-, joined⟩
  · rw [joined]
    exact parts_of_pieces component [] [] alone
  · rw [joined, utf8_append, utf8_append, utf8_slash, behind, stem_append_separator]
  · rw [joined, utf8_append, utf8_append, utf8_slash, behind]

theorem parts_eq_stem (path : Bytes) :
    parts path = stem path ∨ parts path = stem path ++ [.slash] := by
  unfold parts stem
  split
  · exact .inr rfl
  · exact .inl (List.append_nil _)

/-- No separator ends a joined path. -/
theorem stem_join {item : String} (component : Component item) (directory : Path) :
    stem (utf8 (Path.join directory item)) = stem (utf8 directory) ++ [.name (utf8 item)] := by
  rcases parts_eq_stem (utf8 (Path.join directory item)) with plain | slashed
  · exact plain.symm.trans (parts_join component directory)
  · rw [parts_join component] at slashed
    cases (List.append_inj' slashed rfl).2

theorem startOf_append {front : Bytes} (present : front ≠ []) (home : Location) (rest : Bytes) :
    startOf home (front ++ rest) = startOf home front := by
  unfold startOf
  cases front with
  | nil => exact absurd rfl present
  | cons b others => rfl

/-- A joined path starts where its directory does. -/
theorem startOf_join {item : String} (component : Component item) (home : Location)
    (directory : Path) :
    startOf home (utf8 (Path.join directory item)) = startOf home (utf8 directory) := by
  rcases join_cases component directory with ⟨rfl, joined⟩ | ⟨front, rfl, joined⟩ | ⟨inner, joined⟩
  · have relative : (utf8 item).head? ≠ some separator := fun first =>
      component.separator_not_mem (List.mem_of_head? first)
    rw [joined, startOf, if_neg relative]
    rfl
  · have present : utf8 (front ++ "/") ≠ [] := by simp [utf8_slash]
    rw [joined, utf8_append, startOf_append present]
  · have present : utf8 directory ≠ [] := fun empty => inner (utf8_eq_nil_iff.1 empty)
    rw [joined, utf8_append, utf8_append, List.append_assoc, startOf_append present]

/-! ## Paths that can be asked for -/

theorem checkPath_eq_ok_iff {path : Bytes} :
    checkPath path = .ok () ↔ (0 : UInt8) ∉ path ∧ path ≠ [] ∧ path.length ≤ longestPath := by
  unfold checkPath
  by_cases nul : (0 : UInt8) ∈ path
  · simp [nul]
  · by_cases empty : path = []
    · simp [empty]
    · by_cases long : longestPath < path.length
      · simp [nul, empty, long]
      · simp [nul, empty, Nat.not_lt.1 long]

/-- A path that can be asked for can be asked for without what ends it. -/
theorem checkPath_of_append {front rest : Bytes} (present : front ≠ [])
    (checked : checkPath (front ++ rest) = .ok ()) : checkPath front = .ok () := by
  obtain ⟨nulFree, -, short⟩ := checkPath_eq_ok_iff.1 checked
  rw [List.length_append] at short
  refine checkPath_eq_ok_iff.2 ⟨fun nul => nulFree (List.mem_append_left _ nul), present, ?_⟩
  exact Nat.le_trans (Nat.le_add_right _ _) short

theorem checkPath_of_join {item : String} {directory : Path} (component : Component item)
    (present : directory ≠ "") (checked : checkPath (utf8 (Path.join directory item)) = .ok ()) :
    checkPath (utf8 directory) = .ok () := by
  have bytes : utf8 directory ≠ [] := fun empty => present (utf8_eq_nil_iff.1 empty)
  rcases join_cases component directory with ⟨empty, -⟩ | ⟨front, rfl, joined⟩ | ⟨-, joined⟩
  · exact absurd empty present
  · rw [joined, utf8_append] at checked
    exact checkPath_of_append bytes checked
  · rw [joined, utf8_append, utf8_append, List.append_assoc] at checked
    exact checkPath_of_append bytes checked

/-- A directory named by a path is not the empty path. -/
theorem join_ne_empty {item : String} (component : Component item) (directory : Path) :
    Path.join directory item ≠ "" := by
  intro empty
  have steps := parts_join component directory
  rw [empty] at steps
  have none : parts (utf8 "") = [] := by decide
  rw [none] at steps
  exact List.append_ne_nil_of_right_ne_nil _ (List.cons_ne_nil _ _) steps.symm

theorem ofParts_stem (steps : List Part) (name : Bytes) :
    Final.ofParts (steps ++ [.name name]) = ⟨steps, some name, false⟩ := by
  simp [Final.ofParts]

end SheetCabinet
