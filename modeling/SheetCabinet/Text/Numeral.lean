/-!
# Decimal numerals

Entry numbers and sheet counts are 32-bit numbers written in decimal digits. They are written
without a sign and without leading zeros; when they are read, one plus sign and leading zeros are
allowed, and nothing else is.

Results:
* what is written is read back (`numeral?_decimal`);
* reading stops early exactly where the number is too large (`atMost?_eq`);
* a written numeral consists of digits (`isDigit_of_mem_decimal`).
-/

namespace SheetCabinet

/-- The decimal digits of a number, the first one not zero unless the number is. -/
def decimal (n : Nat) : List Char := Nat.toDigits 10 n

def showNumber (n : Nat) : String := String.ofList (decimal n)

/-- The numeral without its plus sign, if it has one. -/
def unsigned : List Char → List Char
  | '+' :: digits => digits
  | digits => digits

/-- The number that digits make behind a number, if it is not above what is said. The digits are
read up to where it gets too large. -/
def atMost? (most value : Nat) : List Char → Option Nat
  | [] => some value
  | c :: rest =>
    let longer := 10 * value + (c.toNat - '0'.toNat)
    if longer ≤ most then atMost? most longer rest else none

/-- The 32-bit number that a numeral stands for. -/
def numeral? (text : List Char) : Option UInt32 :=
  let digits := unsigned text
  if digits ≠ [] ∧ digits.all Char.isDigit then
    (atMost? (UInt32.size - 1) 0 digits).map UInt32.ofNat
  else none

theorem le_ofDigitChars (value : Nat) (digits : List Char) :
    value ≤ Nat.ofDigitChars 10 digits value := by
  induction digits generalizing value with
  | nil => exact Nat.le_refl _
  | cons c rest ih =>
    rw [Nat.ofDigitChars_cons]
    exact Nat.le_trans (by omega) (ih _)

theorem atMost?_eq {most value : Nat} (small : value ≤ most) (digits : List Char) :
    atMost? most value digits =
      if Nat.ofDigitChars 10 digits value ≤ most then some (Nat.ofDigitChars 10 digits value)
      else none := by
  induction digits generalizing value with
  | nil => simp [atMost?, small]
  | cons c rest ih =>
    rw [atMost?, Nat.ofDigitChars_cons]
    split
    · rename_i longer
      exact ih longer
    · rename_i large
      have above := le_ofDigitChars (10 * value + (c.toNat - '0'.toNat)) rest
      rw [if_neg (by omega)]

theorem isDigit_of_mem_decimal {n : Nat} {c : Char} (member : c ∈ decimal n) : c.isDigit :=
  Nat.isDigit_of_mem_toDigits (by decide) (by decide) member

theorem decimal_ne_nil (n : Nat) : decimal n ≠ [] := Nat.toDigits_ne_nil

theorem unsigned_of_isDigit {digits : List Char} (all : ∀ c ∈ digits, c.isDigit) :
    unsigned digits = digits := by
  unfold unsigned
  split
  · have plus : ('+' : Char).isDigit := all '+' (by simp)
    exact absurd plus (by decide)
  · rfl

@[simp] theorem unsigned_decimal (n : Nat) : unsigned (decimal n) = decimal n :=
  unsigned_of_isDigit fun _ member => isDigit_of_mem_decimal member

@[simp] theorem numeral?_decimal (n : UInt32) : numeral? (decimal n.toNat) = some n := by
  have digits : (decimal n.toNat).all Char.isDigit :=
    List.all_eq_true.2 fun _ member => isDigit_of_mem_decimal member
  have value : Nat.ofDigitChars 10 (decimal n.toNat) 0 = n.toNat := Nat.ofDigitChars_ten_toDigits
  have small : n.toNat ≤ UInt32.size - 1 := Nat.le_sub_one_of_lt n.toNat_lt_size
  have read : atMost? (UInt32.size - 1) 0 (decimal n.toNat) = some n.toNat := by
    rw [atMost?_eq (Nat.zero_le _), value, if_pos small]
  rw [numeral?, unsigned_decimal, if_pos ⟨decimal_ne_nil _, digits⟩, read, Option.map_some,
    UInt32.ofNat_toNat]

example : numeral? "+007".toList = some 7 := by decide
example : numeral? "4294967296".toList = none := by decide
example : numeral? "+".toList = none ∧ numeral? "-0".toList = none := by decide

end SheetCabinet
