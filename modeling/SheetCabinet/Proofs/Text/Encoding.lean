import SheetCabinet.Text.Bytes

/-!
# ASCII in stored texts

The stored form of a text is put together character by character, and a byte below 128 stands for
the ASCII character with its number and for nothing else. So what is said about separators, line
feeds and digits of a text can be said about its bytes.

Results:
* the bytes of a text are those of its characters (`utf8_eq_flatMap`);
* an ASCII byte occurs in the stored form exactly if its character occurs in the text
  (`mem_utf8_iff`);
* the stored form of a text can be cut off in front of the stored form of a longer one
  (`exists_rest_of_utf8`).
-/

namespace SheetCabinet

abbrev encodeChar (c : Char) : Bytes := String.utf8EncodeChar c

abbrev asciiByte (c : Char) : UInt8 := UInt8.ofNat c.toNat

theorem utf8_eq_flatMap (text : String) : utf8 text = text.toList.flatMap encodeChar := by
  have parts := congrArg String.toByteArray (String.ofList_toList (s := text)).symm
  rw [utf8, parts, String.toByteArray_ofList]
  simp [List.utf8Encode]

@[simp] theorem utf8_ofList (cs : List Char) :
    utf8 (String.ofList cs) = cs.flatMap encodeChar := by
  rw [utf8_eq_flatMap, String.toList_ofList]

theorem encodeChar_of_ascii {c : Char} (ascii : c.toNat < 128) : encodeChar c = [asciiByte c] :=
  if_pos (Nat.le_of_lt_succ ascii)

/-- Every byte of a character that is not ASCII is 128 or more. -/
theorem le_of_mem_encodeChar {c : Char} {b : UInt8} (large : 128 ≤ c.toNat)
    (member : b ∈ encodeChar c) : 128 ≤ b.toNat := by
  have notAscii : ¬ c.val.toNat ≤ 0x7f := Nat.not_le.2 large
  unfold encodeChar String.utf8EncodeChar at member
  simp only [if_neg notAscii] at member
  split at member
  · simp only [List.mem_cons, List.not_mem_nil, or_false] at member
    rcases member with rfl | rfl <;> rw [UInt8.toNat_ofNat'] <;> omega
  · split at member
    · simp only [List.mem_cons, List.not_mem_nil, or_false] at member
      rcases member with rfl | rfl | rfl <;> rw [UInt8.toNat_ofNat'] <;> omega
    · simp only [List.mem_cons, List.not_mem_nil, or_false] at member
      rcases member with rfl | rfl | rfl | rfl <;> rw [UInt8.toNat_ofNat'] <;> omega

theorem asciiByte_toNat {c : Char} (ascii : c.toNat < 128) : (asciiByte c).toNat = c.toNat := by
  rw [asciiByte, UInt8.toNat_ofNat']
  exact Nat.mod_eq_of_lt (by omega)

theorem asciiByte_inj {c d : Char} (ascii : c.toNat < 128) (other : d.toNat < 128)
    (same : asciiByte c = asciiByte d) : c = d := by
  have numbers := congrArg UInt8.toNat same
  rw [asciiByte_toNat ascii, asciiByte_toNat other] at numbers
  exact Char.toNat_inj.1 numbers

theorem mem_encodeChar_iff {c d : Char} (ascii : c.toNat < 128) :
    asciiByte c ∈ encodeChar d ↔ d = c := by
  constructor
  · intro member
    rcases Nat.lt_or_ge d.toNat 128 with small | large
    · rw [encodeChar_of_ascii small, List.mem_singleton] at member
      exact (asciiByte_inj ascii small member).symm
    · have above := le_of_mem_encodeChar large member
      rw [asciiByte_toNat ascii] at above
      omega
  · rintro rfl
    simp [encodeChar_of_ascii ascii]

theorem mem_flatMap_encodeChar_iff {c : Char} (ascii : c.toNat < 128) (cs : List Char) :
    asciiByte c ∈ cs.flatMap encodeChar ↔ c ∈ cs := by
  simp only [List.mem_flatMap, mem_encodeChar_iff ascii, exists_eq_right]

theorem mem_utf8_iff {c : Char} (ascii : c.toNat < 128) (text : String) :
    asciiByte c ∈ utf8 text ↔ c ∈ text.toList := by
  rw [utf8_eq_flatMap, mem_flatMap_encodeChar_iff ascii]

/-- A run of ASCII characters has one byte for each of them. -/
theorem flatMap_encodeChar_of_ascii {cs : List Char} (ascii : ∀ c ∈ cs, c.toNat < 128) :
    cs.flatMap encodeChar = cs.map asciiByte := by
  induction cs with
  | nil => rfl
  | cons c rest ih =>
    have small : c.toNat < 128 := ascii c List.mem_cons_self
    rw [List.flatMap_cons, encodeChar_of_ascii small,
      ih fun d member => ascii d (List.mem_cons_of_mem _ member)]
    rfl

/-- What follows a character in the stored form of a text is the stored form of a text. -/
theorem exists_utf8_of_encodeChar {c : Char} {bytes : Bytes} {text : String}
    (whole : encodeChar c ++ bytes = utf8 text) : ∃ rest, bytes = utf8 rest := by
  have stored : [c].utf8Encode ++ bytes.toByteArray = text.toByteArray := by
    rw [← toByteArray_utf8, ← whole]
    apply ByteArray.ext
    simp [List.utf8Encode]
  have valid := text.isValidUTF8
  rw [← stored, ByteArray.isValidUTF8_utf8Encode_singleton_append_iff] at valid
  refine ⟨String.ofByteArray bytes.toByteArray valid, ?_⟩
  simp [utf8]

theorem exists_rest_of_flatMap {cs : List Char} {bytes : Bytes} {text : String}
    (whole : cs.flatMap encodeChar ++ bytes = utf8 text) :
    ∃ rest, text = String.ofList cs ++ rest ∧ bytes = utf8 rest := by
  induction cs generalizing text with
  | nil => exact ⟨text, by simp, whole⟩
  | cons c cs ih =>
    rw [List.flatMap_cons, List.append_assoc] at whole
    obtain ⟨inner, stored⟩ := exists_utf8_of_encodeChar whole
    obtain ⟨rest, rfl, ends⟩ := ih stored
    refine ⟨rest, ?_, ends⟩
    rw [← utf8_inj, ← whole, stored, utf8_append, utf8_append, utf8_ofList, utf8_ofList,
      List.flatMap_cons, List.append_assoc]

/-- What follows the stored form of a text in that of another is the stored form of a text. -/
theorem exists_rest_of_utf8 {front text : String} {bytes : Bytes}
    (whole : utf8 front ++ bytes = utf8 text) :
    ∃ rest, text = front ++ rest ∧ bytes = utf8 rest := by
  rw [utf8_eq_flatMap front] at whole
  obtain ⟨rest, split, ends⟩ := exists_rest_of_flatMap whole
  rw [String.ofList_toList] at split
  exact ⟨rest, split, ends⟩

theorem utf8_eq_nil_iff {text : String} : utf8 text = [] ↔ text = "" := by
  rw [← utf8_empty, utf8_inj]

example : (utf8 "é/\n").filter (· < 128) = ['/', '\n'].map asciiByte := by decide +kernel

end SheetCabinet
