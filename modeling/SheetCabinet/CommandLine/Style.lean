/-!
# Styles of text on a terminal

A styled text stands between the sequence that starts its style and the one that ends all styles.
Where the text itself ends all styles, its own is started anew.
-/

namespace SheetCabinet.CommandLine

inductive Style
  | bold
  | dimmed
  | red
  | green
  | yellow
deriving DecidableEq, Repr

namespace Style

def code : Style → List Char
  | bold => ['1']
  | dimmed => ['2']
  | red => ['3', '1']
  | green => ['3', '2']
  | yellow => ['3', '3']

def opening (style : Style) : List Char := ['\x1b', '['] ++ style.code ++ ['m']

end Style

def reset : List Char := ['\x1b', '[', '0', 'm']

/-- The text with the style started anew wherever all styles end. -/
def reopened (style : Style) : List Char → List Char
  | '\x1b' :: '[' :: '0' :: 'm' :: rest => reset ++ style.opening ++ reopened style rest
  | c :: rest => c :: reopened style rest
  | [] => []

/-- A text in a style, or as it is if there are no colours. -/
def paint (coloured : Bool) (style : Style) (text : String) : String :=
  if coloured then String.ofList (style.opening ++ reopened style text.toList ++ reset) else text

example : paint true .red "a\x1b[0mb" = "\x1b[31ma\x1b[0m\x1b[31mb\x1b[0m" := by decide +kernel

end SheetCabinet.CommandLine
