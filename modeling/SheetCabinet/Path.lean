/-!
# Paths

A path is kept as it was given: it is joined, shown and handed to the file system, but never
shortened. Joining puts one separator between the two parts unless the first is empty or ends in
one, and an absolute second part replaces the first.
-/

namespace SheetCabinet

/-- A path as it was given and as it is shown. -/
abbrev Path := String

namespace Path

def isAbsolute (path : Path) : Bool := path.toList.head? == some '/'

def needsSeparator (path : Path) : Bool :=
  match path.toList.getLast? with
  | none => false
  | some last => last != '/'

/-- The path of `item` as seen from `base`. -/
def join (base item : Path) : Path :=
  if isAbsolute item then item
  else if needsSeparator base then base ++ "/" ++ item
  else base ++ item

theorem join_relative {base item : Path} (relative : isAbsolute item = false) :
    join base item = (if needsSeparator base then base ++ "/" else base) ++ item := by
  simp only [join, relative, Bool.false_eq_true, if_false]
  split <;> rfl

example : join "." "cab1" = "./cab1" ∧ join "" "x" = "x" ∧ join "p/" "x" = "p/x" := by
  decide +kernel
example : join "p" "" = "p/" ∧ join "p" "/x" = "/x" := by decide +kernel

end Path

end SheetCabinet
