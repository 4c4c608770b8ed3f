/-!
# Hexadecimal digits

Code points are written with the digits from 0 to 9 and the letters from a to f. Where they are
read, capital letters will do as well.
-/

namespace SheetCabinet

def hexDigit (n : Nat) : Char := (Nat.toDigits 16 n).getLastD '0'

def hexValue? (c : Char) : Option Nat :=
  if '0' ≤ c ∧ c ≤ '9' then some (c.toNat - '0'.toNat)
  else if 'a' ≤ c ∧ c ≤ 'f' then some (c.toNat - 'a'.toNat + 10)
  else if 'A' ≤ c ∧ c ≤ 'F' then some (c.toNat - 'A'.toNat + 10)
  else none

example : hexValue? 'b' = some 11 ∧ hexValue? 'B' = some 11 ∧ hexValue? 'g' = none := by decide

end SheetCabinet
