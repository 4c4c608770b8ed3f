/-!
# Outcomes

Whatever can be refused answers with a value or with the cause of the refusal. Two such answers can
be compared when the values and the causes can.
-/

namespace SheetCabinet

instance decidableEqOutcome {ε α : Type} [DecidableEq ε] [DecidableEq α] :
    DecidableEq (Except ε α)
  | .error first, .error second => decidable_of_iff (first = second) (by simp)
  | .ok first, .ok second => decidable_of_iff (first = second) (by simp)
  | .error _, .ok _ => isFalse (by simp)
  | .ok _, .error _ => isFalse (by simp)

end SheetCabinet
