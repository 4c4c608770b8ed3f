import SheetCabinet.CommandLine.Pattern
import SheetCabinet.Text.Numeral

/-!
# Values of fields

What can be asked of a field is a truth value, a number or a pattern. Numbers are decimal, with a
point and an exponent if need be, and there are words for those beyond all others and for what is no
number. All but the numbers with a plus sign in front are patterns as well.
-/

namespace SheetCabinet.CommandLine

/-- The words for what is beyond all numbers, and for what is none. -/
def numberWords : List String := ["inf", "infinity", "nan"]

def withoutSign : List Char → List Char
  | '-' :: rest => rest
  | text => unsigned text

/-- Whether a text is nothing or an exponent. -/
def isExponent : List Char → Bool
  | [] => true
  | c :: rest =>
    let digits := withoutSign rest
    (c = 'e' || c = 'E') && !digits.isEmpty && digits.all Char.isDigit

/-- A character of the digits in front of the exponent. -/
def isMantissa (c : Char) : Bool := c.isDigit || c = '.'

def isNumber (text : List Char) : Bool :=
  let size := withoutSign text
  let mantissa := size.takeWhile isMantissa
  numberWords.contains (String.ofList (size.map Char.toLower)) ||
    (mantissa.any Char.isDigit && mantissa.count '.' ≤ 1 && isExponent (size.dropWhile isMantissa))

def isValue (text : List Char) : Bool := isNumber text || Pattern.usable text

example : isNumber "+1.e2".toList ∧ isNumber "+.5e-3".toList ∧ isNumber "+Inf".toList := by
  decide +kernel
example : isValue "+.".toList = false ∧ isValue "+1e".toList = false ∧
    isValue "+1.5.2".toList = false := by decide +kernel

end SheetCabinet.CommandLine
