import SheetCabinet.Text.Unprintable

/-!
# Text shown inside messages

A text that is put between quotes in a message is shown with a backslash in front of quotes and
backslashes, with short names for the common controls, and with the code point in hexadecimal for
what would not be visible. A mark can be read only behind another character, so it is shown by its
code point when it comes first.
-/

namespace SheetCabinet

def codePoint (c : Char) : List Char :=
  ['\\', 'u', '{'] ++ Nat.toDigits 16 c.toNat ++ ['}']

/-- The short name that a backslash gives to a character, if it has one. -/
def shortEscape : Char → Option Char
  | '\x00' => some '0'
  | '\t' => some 't'
  | '\r' => some 'r'
  | '\n' => some 'n'
  | '\'' => some '\''
  | '"' => some '"'
  | '\\' => some '\\'
  | _ => none

/-- A character as it is shown behind another one. -/
def escapeLater (c : Char) : List Char :=
  match shortEscape c with
  | some name => ['\\', name]
  | none => if isUnprintable c then codePoint c else [c]

/-- A character as it is shown where nothing stands before it. -/
def escapeFirst (c : Char) : List Char :=
  if (shortEscape c).isNone && isMark c then codePoint c else escapeLater c

def escape : List Char → List Char
  | [] => []
  | c :: rest => escapeFirst c ++ rest.flatMap escapeLater

def escapeText (text : String) : String := String.ofList (escape text.toList)

/-- A single character in its quotes; a double quote needs no backslash there. -/
def quoteChar (c : Char) : String :=
  String.ofList (['\''] ++ (if c = '"' then [c] else escapeFirst c) ++ ['\''])

example : escape "a\x00'\u200b".toList = "a\\0\\'\\u\x7b200b\x7d".toList := by decide +kernel
example : escape "\u0301a\u0301".toList = "\\u\x7b301\x7da\u0301".toList := by decide +kernel
example : quoteChar '\\' = "'\\\\'" := by decide +kernel

end SheetCabinet
