import SheetCabinet.Text.Numeral

/-!
# What a numeral is

A number is spelled by one or more ASCII digits with at most one plus sign in front of them. Leading
zeros do not matter, and the value has to be one of 32 bits; so a number has many spellings, but a
spelling determines its number.

Results:
* what is read as a numeral is what spells a number (`numeral?_eq_some_iff`), and the number is the
  value of its digits (`Spells.value`);
* nothing but digits and the sign is in it (`Spells.not_mem`).
-/

namespace SheetCabinet

/-- The word is a spelling of the number: digits with that value, and maybe a plus sign. -/
def Spells (word : List Char) (n : UInt32) : Prop :=
  ∃ digits, (word = digits ∨ word = '+' :: digits) ∧ digits ≠ [] ∧
    (∀ c ∈ digits, '0' ≤ c ∧ c ≤ '9') ∧ Nat.ofDigitChars 10 digits 0 = n.toNat

theorem isDigit_iff {c : Char} : c.isDigit = true ↔ '0' ≤ c ∧ c ≤ '9' := by
  simp only [Char.isDigit, Bool.and_eq_true, decide_eq_true_eq]
  exact Iff.rfl

theorem all_isDigit_iff {digits : List Char} :
    digits.all Char.isDigit = true ↔ ∀ c ∈ digits, '0' ≤ c ∧ c ≤ '9' := by
  simp only [List.all_eq_true, isDigit_iff]

/-- What digits make is a number of 32 bits exactly if it is not above the greatest of them. -/
theorem map_atMost?_eq_some_iff {digits : List Char} {n : UInt32} :
    (atMost? (UInt32.size - 1) 0 digits).map UInt32.ofNat = some n ↔
      Nat.ofDigitChars 10 digits 0 = n.toNat := by
  have small := n.toNat_lt_size
  rw [atMost?_eq (Nat.zero_le _)]
  split
  · rename_i fits
    rw [Option.map_some, Option.some.injEq, ← UInt32.toNat_inj,
      UInt32.toNat_ofNat_of_lt' (Nat.lt_of_le_sub_one (by decide) fits)]
  · rename_i large
    constructor
    · intro absent
      cases absent
    · intro same
      refine absurd ?_ large
      rw [same]
      exact Nat.le_sub_one_of_lt small

/-- The digits of a word are the word itself or what comes behind its plus sign. -/
theorem unsigned_cases (word : List Char) :
    word = unsigned word ∨ word = '+' :: unsigned word := by
  unfold unsigned
  split
  · exact .inr rfl
  · exact .inl rfl

/-- Digits are what is read of a word, with or without the sign. -/
theorem unsigned_of_digits {word digits : List Char} (form : word = digits ∨ word = '+' :: digits)
    (all : ∀ c ∈ digits, '0' ≤ c ∧ c ≤ '9') : unsigned word = digits := by
  rcases form with rfl | rfl
  · exact unsigned_of_isDigit fun c member => isDigit_iff.2 (all c member)
  · rfl

theorem numeral?_eq_some_iff {word : List Char} {n : UInt32} :
    numeral? word = some n ↔ Spells word n := by
  constructor
  · intro read
    unfold numeral? at read
    dsimp only at read
    split at read
    · rename_i digits
      exact ⟨unsigned word, unsigned_cases word, digits.1, all_isDigit_iff.1 digits.2,
        map_atMost?_eq_some_iff.1 read⟩
    · cases read
  · rintro ⟨digits, form, present, all, value⟩
    unfold numeral?
    dsimp only
    rw [unsigned_of_digits form all, if_pos ⟨present, all_isDigit_iff.2 all⟩]
    exact map_atMost?_eq_some_iff.2 value

namespace Spells

variable {word : List Char} {n : UInt32}

/-- The number is the value of the digits. -/
theorem value (spelled : Spells word n) :
    n.toNat = Nat.ofDigitChars 10 (unsigned word) 0 := by
  obtain ⟨digits, form, -, all, same⟩ := spelled
  rw [unsigned_of_digits form all, same]

theorem ne_nil (spelled : Spells word n) : word ≠ [] := by
  obtain ⟨digits, rfl | rfl, present, -⟩ := spelled
  · exact present
  · exact List.cons_ne_nil _ _

theorem sign_or_digit (spelled : Spells word n) : ∀ c ∈ word, c = '+' ∨ c.isDigit := by
  obtain ⟨digits, form, -, all, -⟩ := spelled
  intro c member
  rcases form with rfl | rfl
  · exact .inr (isDigit_iff.2 (all c member))
  · rcases List.mem_cons.1 member with sign | digit
    · exact .inl sign
    · exact .inr (isDigit_iff.2 (all c digit))

theorem not_mem (spelled : Spells word n) {c : Char} (other : c ≠ '+' ∧ c.isDigit = false) :
    c ∉ word := by
  intro member
  rcases spelled.sign_or_digit c member with sign | digit
  · exact other.1 sign
  · rw [other.2] at digit
    cases digit

end Spells

end SheetCabinet
