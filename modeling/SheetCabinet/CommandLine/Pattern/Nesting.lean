/-!
# Nesting

How deep a pattern is nested decides whether it can be used. A sequence of parts, alternatives and
the members of a class are one level above the deepest of them, unless there is only one of them,
which then counts for itself.
-/

namespace SheetCabinet.CommandLine.Pattern

/-- How deep several things together are nested that are as deep as said. -/
def joined : List Nat → Nat
  | [] => 0
  | [depth] => depth
  | depths => 1 + depths.foldr max 0

def deepest : Nat := 250

end SheetCabinet.CommandLine.Pattern
