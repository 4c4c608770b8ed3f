/-!
# White space

The white space of Unicode: 25 characters, of which the ASCII ones are the tab, the four line and
page ends after it, and the space.

Results:
* trimming leaves no white space at either end (`trim_eq_nil_iff` for the texts of nothing else);
* a text without white space is left as it is (`trim_of_solid`).
-/

namespace SheetCabinet

def isBlank (c : Char) : Bool :=
  let n := c.toNat
  (0x09 ≤ n && n ≤ 0x0d) || n == 0x20 || n == 0x85 || n == 0xa0 || n == 0x1680 ||
    (0x2000 ≤ n && n ≤ 0x200a) || n == 0x2028 || n == 0x2029 || n == 0x202f || n == 0x205f ||
    n == 0x3000

def trim (text : List Char) : List Char :=
  ((text.dropWhile isBlank).reverse.dropWhile isBlank).reverse

theorem dropWhile_isBlank_of_solid {text : List Char} (solid : ∀ c ∈ text, isBlank c = false) :
    text.dropWhile isBlank = text := by
  cases text with
  | nil => rfl
  | cons c rest => rw [List.dropWhile_cons, solid c List.mem_cons_self, if_neg Bool.false_ne_true]

theorem trim_of_solid {text : List Char} (solid : ∀ c ∈ text, isBlank c = false) :
    trim text = text := by
  have backwards : ∀ c ∈ text.reverse, isBlank c = false := by simpa using solid
  rw [trim, dropWhile_isBlank_of_solid solid, dropWhile_isBlank_of_solid backwards,
    List.reverse_reverse]

theorem dropWhile_isBlank_eq_nil_iff {text : List Char} :
    text.dropWhile isBlank = [] ↔ ∀ c ∈ text, isBlank c := by
  induction text with
  | nil => simp
  | cons c cs ih => by_cases blank : isBlank c <;> simp [blank, ih]

theorem trim_eq_nil_iff {text : List Char} : trim text = [] ↔ ∀ c ∈ text, isBlank c := by
  constructor
  · intro nothing c member
    rw [trim, List.reverse_eq_nil_iff, dropWhile_isBlank_eq_nil_iff] at nothing
    rw [← List.takeWhile_append_dropWhile (p := isBlank) (l := text), List.mem_append] at member
    rcases member with early | late
    · have taken := List.all_takeWhile (p := isBlank) (l := text)
      exact List.all_eq_true.1 taken c early
    · exact nothing c (by simpa using late)
  · intro all
    have gone : text.dropWhile isBlank = [] := dropWhile_isBlank_eq_nil_iff.2 all
    simp [trim, gone]

example : trim " \u00a0x y\u3000".toList = "x y".toList := by decide
example : isBlank '\x1f' = false ∧ isBlank '\u200b' = false := by decide

end SheetCabinet
