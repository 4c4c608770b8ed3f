/-!
# Bytes and text

Files hold bytes, and names in a directory are bytes; the rest of the library speaks of text.
A text is stored as its UTF-8 form, and a run of bytes is a text only when it is a valid UTF-8
form.

Results:
* reading back the stored form of a text gives the text (`text?_utf8`);
* only stored forms of texts can be read (`text?_eq_some_iff`);
* texts one after the other are stored one after the other (`utf8_append`).
-/

namespace SheetCabinet

/-- The contents of a file, or a name in a directory. -/
abbrev Bytes := List UInt8

def utf8 (text : String) : Bytes := text.toByteArray.data.toList

/-- The text that the bytes are the stored form of, if there is one. -/
def Bytes.text? (bytes : Bytes) : Option String := String.fromUTF8? bytes.toByteArray

@[simp] theorem utf8_empty : utf8 "" = [] := rfl

@[simp] theorem utf8_append (first second : String) :
    utf8 (first ++ second) = utf8 first ++ utf8 second := by
  simp [utf8]

theorem toByteArray_utf8 (text : String) : (utf8 text).toByteArray = text.toByteArray := by
  apply ByteArray.ext
  simp [utf8]

@[simp] theorem Bytes.text?_utf8 (text : String) : Bytes.text? (utf8 text) = some text := by
  simp only [Bytes.text?, toByteArray_utf8, String.fromUTF8?, text.isValidUTF8, dite_true]
  rfl

theorem Bytes.text?_eq_some_iff {bytes : Bytes} {text : String} :
    bytes.text? = some text ↔ bytes = utf8 text := by
  constructor
  · intro read
    simp only [Bytes.text?, String.fromUTF8?] at read
    split at read
    · cases read
      simp [utf8, String.fromUTF8]
    · cases read
  · rintro rfl
    exact Bytes.text?_utf8 text

theorem utf8_inj {first second : String} : utf8 first = utf8 second ↔ first = second := by
  constructor
  · intro same
    have read := Bytes.text?_utf8 first
    rw [same, Bytes.text?_utf8] at read
    exact (Option.some.inj read).symm
  · rintro rfl
    rfl

end SheetCabinet
