import SheetCabinet.Text.Lines
import SheetCabinet.Text.Numeral

/-!
# What a sheet says

A sheet has a description and numbered entries. In its file the description comes first, and each
entry after it starts with its number and a space; every line after the first of a description or
an entry starts with a tab.

Results:
* the file of a sheet with one more entry is the file so far with one more line
  (`render_push`).
-/

namespace SheetCabinet

structure Entry where
  number : UInt32
  text : String
deriving DecidableEq, Repr

structure Contents where
  description : String
  entries : List Entry
deriving DecidableEq, Repr

/-- The first line, or lines, of a sheet's file. -/
def descriptionLine (description : String) : String :=
  String.ofList (fold description.toList ++ ['\n'])

def entryLine (number : UInt32) (text : String) : String :=
  String.ofList (decimal number.toNat ++ [' '] ++ fold text.toList ++ ['\n'])

namespace Contents

def render (contents : Contents) : String :=
  String.ofList ((descriptionLine contents.description).toList ++
    contents.entries.flatMap fun entry => (entryLine entry.number entry.text).toList)

theorem render_push (description : String) (entries : List Entry) (entry : Entry) :
    render ⟨description, entries ++ [entry]⟩ =
      render ⟨description, entries⟩ ++ entryLine entry.number entry.text := by
  simp [render, ← String.toList_inj]

example : render ⟨"runs", [⟨1, "a\nb"⟩, ⟨2, ""⟩]⟩ = "runs\n1 a\n\tb\n2 \n" := by decide +kernel

end Contents

end SheetCabinet
