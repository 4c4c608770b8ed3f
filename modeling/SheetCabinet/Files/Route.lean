import SheetCabinet.Files.Error
import SheetCabinet.Files.Tree

/-!
# Finding a place by its path

A path is walked part by part, from the root if it is absolute and from the working directory
otherwise. A symbolic link on the way is replaced by the parts of its target, at most `mostLinks`
times on one walk. Every part but the last has to lead into a directory, and so has the last one
when a separator follows it.

The walk looks at the tree only by asking what a place holds, so that two trees which hold the same
everywhere are walked alike.

Results:
* a walk that ends at a vacant name ends in a directory (`advance_vacant`, and `walk_vacant` for the
  whole walk).
-/

namespace SheetCabinet

/-! ## Limits -/

def longestName : Nat := 255

def longestPath : Nat := 4095

/-- The number of symbolic links that one walk may follow. -/
def mostLinks : Nat := 40

/-! ## Parts of a path -/

def separator : UInt8 := '/'.toUInt8

inductive Part
  | here
  | up
  | name (name : Bytes)
  /-- Separators at the end of a path: what was reached has to be a directory. -/
  | slash
deriving DecidableEq, Repr

/-- One byte put in front of pieces that are already split. -/
def addToPieces (b : UInt8) (rest : List Bytes) : List Bytes :=
  if b = separator then [] :: rest
  else match rest with
    | [] => [[b]]
    | piece :: others => (b :: piece) :: others

/-- The pieces of a path between its separators, empty ones included. -/
def pieces (path : Bytes) : List Bytes := path.foldr addToPieces [[]]

/-- The step that a piece stands for; an empty piece stands for none. -/
def Part.ofPiece (piece : Bytes) : Option Part :=
  if piece = [] then none
  else if piece = utf8 "." then some .here
  else if piece = utf8 ".." then some .up
  else some (.name piece)

def parts (path : Bytes) : List Part :=
  (pieces path).filterMap Part.ofPiece ++ if path.getLast? = some separator then [.slash] else []

def startOf (home : Location) (path : Bytes) : Location :=
  if path.head? = some separator then [] else home

/-! ## Walking -/

/-- Where a walk comes to a stop for the first time. -/
inductive Stop
  | at (place : Location)
  /-- Only the last name is missing, in a directory that is there. -/
  | vacant (place : Location) (name : Bytes)
  /-- A symbolic link was met in a directory, with these parts still to walk. -/
  | link (place : Location) (target : Bytes) (rest : List Part)
  | failed (cause : FileError)

/-- Walks on from a place up to the first symbolic link. When something is to be created, a name
that only separators follow cannot be the name of a file. -/
def advance (look : Location → Option Node) (creating : Bool) : Location → List Part → Stop
  | place, [] => .at place
  | place, part :: rest =>
    if look place ≠ some .directory then .failed .notADirectory
    else match part with
      | .here => advance look creating place rest
      | .slash => advance look creating place rest
      | .up => advance look creating place.dropLast rest
      | .name name =>
        if creating ∧ rest ≠ [] ∧ rest.all (· = .slash) then .failed .isADirectory
        else if longestName < name.length then .failed .nameTooLong
        else match look (place ++ [name]) with
          | none => if rest = [] then .vacant place name else .failed .notFound
          | some (.link target) => .link place target rest
          | some _ => advance look creating (place ++ [name]) rest

inductive Arrival
  | found (place : Location)
  /-- Only the last name is missing, in a directory that is there. -/
  | vacant (place : Location) (name : Bytes)
deriving DecidableEq, Repr

/-- Walks to the end, following at most `links` symbolic links. -/
def walk (look : Location → Option Node) (creating : Bool) :
    Nat → Location → List Part → Except FileError Arrival
  | links, place, steps =>
    match advance look creating place steps with
    | .at reached => .ok (.found reached)
    | .vacant directory name => .ok (.vacant directory name)
    | .failed cause => .error cause
    | .link directory target rest =>
      match links with
      | 0 => .error .tooManyLinks
      | left + 1 => walk look creating left (startOf directory target) (parts target ++ rest)

/-- A path that can be asked for: not empty, not too long, and without NUL. -/
def checkPath (path : Bytes) : Except FileError Unit :=
  if (0 : UInt8) ∈ path then .error .nulInPath
  else if path = [] then .error .notFound
  else if longestPath < path.length then .error .nameTooLong
  else .ok ()

/-! ## The last name of a path -/

/-- A path taken apart at its last name, which is not followed if it is a symbolic link. -/
structure Final where
  /-- The steps that lead to the directory. -/
  before : List Part
  /-- The last name; none if the path ends in a dot, two dots or the root. -/
  name : Option Bytes
  /-- Whether separators follow the last name. -/
  slashed : Bool
deriving Repr

/-- The steps of a path, taken apart at the last name. -/
def Final.ofParts (steps : List Part) : Final :=
  let slashed := steps.getLast? = some .slash
  match steps.reverse.dropWhile (· = .slash) with
  | .name name :: before => ⟨before.reverse, some name, slashed⟩
  | _ :: before => ⟨before.reverse, none, slashed⟩
  | [] => ⟨[], none, slashed⟩

/-! ## Where walks end -/

theorem advance_vacant {look : Location → Option Node} {creating : Bool} {place reached : Location}
    {steps : List Part} {name : Bytes}
    (stop : advance look creating place steps = .vacant reached name) :
    look reached = some .directory ∧ look (reached ++ [name]) = none ∧
      name.length ≤ longestName := by
  induction steps generalizing place with
  | nil => cases stop
  | cons part rest ih =>
    unfold advance at stop
    split at stop
    · cases stop
    · rename_i directory
      have inside : look place = some .directory := by simpa using directory
      cases part with
      | here => exact ih stop
      | slash => exact ih stop
      | up => exact ih stop
      | name name =>
        simp only at stop
        split at stop
        · cases stop
        · split at stop
          · cases stop
          · rename_i short
            split at stop
            · rename_i missing
              split at stop
              · cases stop
                exact ⟨inside, missing, Nat.not_lt.1 short⟩
              · cases stop
            · cases stop
            · exact ih stop

theorem walk_vacant {look : Location → Option Node} {creating : Bool} {links : Nat}
    {place reached : Location} {steps : List Part} {name : Bytes}
    (arrived : walk look creating links place steps = .ok (.vacant reached name)) :
    look reached = some .directory ∧ look (reached ++ [name]) = none ∧
      name.length ≤ longestName := by
  induction links generalizing place steps with
  | zero =>
    rw [walk] at arrived
    split at arrived
    · cases arrived
    · rename_i stop
      cases arrived
      exact advance_vacant stop
    · cases arrived
    · cases arrived
  | succ left ih =>
    rw [walk] at arrived
    split at arrived
    · cases arrived
    · rename_i stop
      cases arrived
      exact advance_vacant stop
    · cases arrived
    · exact ih arrived

example : parts (utf8 "p/./../q/") = [.name (utf8 "p"), .here, .up, .name (utf8 "q"), .slash] := by
  decide +kernel
example : (Final.ofParts (parts (utf8 "a/b"))).name = some (utf8 "b") := by decide +kernel

end SheetCabinet
