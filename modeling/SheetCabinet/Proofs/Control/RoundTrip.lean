import SheetCabinet.Proofs.Control.Grammar
import SheetCabinet.Proofs.Files.Change

/-!
# What a control file says

A cabinet checks its name and its description before it writes them, so each of them is one line of
the control file, and the carriage returns that a reader drops are none of theirs.

Results:
* what is read from the file of a record (`ControlRecord.parse_render_eq_ok_iff`), which is what was
  written if a name and a description were checked (`ControlRecord.parse_render`), also from the file
  of a cabinet (`ControlRecord.load_of_stands`, `ControlRecord.eq_of_load`);
* a record is what its file says exactly if it has a name and no line break that a reader would take
  for the end of a line (`ControlRecord.said_again_iff`);
* whatever was read, if it is written with another count it still names the cabinet
  (`ControlRecord.reparse`).
-/

namespace SheetCabinet

/-! ## Lines -/

/-- A text without the carriage return that may end it. -/
def withoutReturn (text : String) : String := String.ofList (dropReturn text.toList)

theorem withoutReturn_of_not_mem {text : String} (plain : '\r' ∉ text.toList) :
    withoutReturn text = text := by
  rw [withoutReturn, dropReturn_of_not_mem plain, String.ofList_toList]

theorem withoutReturn_eq_self_iff {text : String} :
    withoutReturn text = text ↔ text.toList.getLast? ≠ some '\r' := by
  rw [← dropReturn_eq_self_iff, ← String.toList_inj, withoutReturn, String.toList_ofList]

theorem trim_decimal (n : Nat) : trim (decimal n) = decimal n :=
  trim_of_solid fun _ member => isBlank_of_isDigit (isDigit_of_mem_decimal member)

namespace ControlRecord

/-- A record whose name and description are one line each. -/
structure Plain (record : ControlRecord) : Prop where
  named : record.name ≠ ""
  name : '\n' ∉ record.name.toList ∧ '\r' ∉ record.name.toList
  description : '\n' ∉ record.description.toList ∧ '\r' ∉ record.description.toList

/-- The name of a cabinet is one line. -/
theorem clean_of_check {name : String} (named : checkCabinetName name = .ok ()) :
    '\n' ∉ name.toList ∧ '\r' ∉ name.toList := by
  obtain ⟨-, -, -, allowed⟩ := checkComponent_eq_ok_iff.1 named
  constructor
  · intro feed
    exact absurd (allowed _ feed) (by decide)
  · intro carriage
    exact absurd (allowed _ carriage) (by decide)

/-- What is checked of a cabinet is enough. -/
theorem plain_of_check {name description : String} (named : checkCabinetName name = .ok ())
    (described : checkDescription description = .ok ()) (count : UInt32) :
    Plain ⟨name, description, count⟩ where
  named := (checkComponent_eq_ok_iff.1 named).1
  name := clean_of_check named
  description := checkDescription_eq_ok_iff.1 described

theorem Plain.recount {record : ControlRecord} (plain : record.Plain) (count : UInt32) :
    ({ record with count := count } : ControlRecord).Plain :=
  ⟨plain.named, plain.name, plain.description⟩

theorem lines_render {record : ControlRecord} (name : '\n' ∉ record.name.toList)
    (description : '\n' ∉ record.description.toList) :
    lines (dropReturns record.render.toList) =
      [dropReturn record.name.toList, dropReturn record.description.toList,
        decimal record.count.toNat] := by
  have written : record.render.toList = record.name.toList ++ '\n' ::
      (record.description.toList ++ '\n' :: (decimal record.count.toNat ++ '\n' :: [])) := by
    simp [render, showNumber]
  have digits {c : Char} (other : c.isDigit = false) : c ∉ decimal record.count.toNat := by
    intro member
    rw [isDigit_of_mem_decimal member] at other
    cases other
  rw [written, dropReturns_append_line name, dropReturns_append_line description,
    dropReturns_append_line (digits (by decide)),
    dropReturn_of_not_mem (digits (by decide)), lines_append_line (not_mem_dropReturn name),
    lines_append_line (not_mem_dropReturn description), lines_append_line (digits (by decide))]
  rfl

/-- What is read from the file of a record whose name and description have no line feed. -/
theorem parse_render_eq_ok_iff {record again : ControlRecord} (name : '\n' ∉ record.name.toList)
    (description : '\n' ∉ record.description.toList) :
    parse record.render = .ok again ↔ withoutReturn record.name ≠ "" ∧
      again = ⟨withoutReturn record.name, withoutReturn record.description, record.count⟩ := by
  have empty : withoutReturn record.name = "" ↔ dropReturn record.name.toList = [] := by
    rw [← String.toList_inj, withoutReturn, String.toList_ofList]
    rfl
  unfold parse
  rw [lines_render name description, ne_eq, empty]
  simp only [ofLines, trim_decimal, numeral?_decimal, List.any_nil, Bool.false_eq_true, if_false]
  by_cases absent : dropReturn record.name.toList = []
  · simp [absent]
  · rw [if_neg absent, Except.ok.injEq]
    exact ⟨fun same => ⟨absent, same.symm⟩, fun both => both.2.symm⟩

/-- What was read from a line of a control file has no line feed. -/
theorem unbroken_of_parse {text : String} {record : ControlRecord}
    (parsed : parse text = .ok record) :
    record.name ≠ "" ∧ '\n' ∉ record.name.toList ∧ '\n' ∉ record.description.toList := by
  obtain ⟨name, description, count, rest, split, present, -, -, named, described⟩ :=
    ofLines_eq_ok_iff.1 parsed
  have unbroken {line : List Char} (member : line ∈ [name, description]) : '\n' ∉ line := by
    have written : line ∈ lines (dropReturns text.toList) := by
      rw [split]
      exact List.mem_append_left (count :: rest) member
    exact not_mem_of_mem_lines written
  rw [named, described, String.toList_ofList, String.toList_ofList]
  refine ⟨?_, unbroken (by simp), unbroken (by simp)⟩
  intro empty
  exact present (by simpa using congrArg String.toList empty)

/-- A record that its file says again: it has a name, and neither the name nor the description has a
line feed or ends in a carriage return. -/
structure Storable (record : ControlRecord) : Prop where
  named : record.name ≠ ""
  name : '\n' ∉ record.name.toList ∧ record.name.toList.getLast? ≠ some '\r'
  description : '\n' ∉ record.description.toList ∧ record.description.toList.getLast? ≠ some '\r'

theorem Plain.storable {record : ControlRecord} (plain : record.Plain) : record.Storable where
  named := plain.named
  name := ⟨plain.name.1, fun ends => plain.name.2 (List.mem_of_getLast? ends)⟩
  description := ⟨plain.description.1, fun ends => plain.description.2 (List.mem_of_getLast? ends)⟩

/-- A record is read as it was written exactly if it is storable. -/
theorem parse_render_self_iff {record : ControlRecord} :
    parse record.render = .ok record ↔ record.Storable := by
  constructor
  · intro parsed
    obtain ⟨named, name, description⟩ := unbroken_of_parse parsed
    obtain ⟨-, same⟩ := (parse_render_eq_ok_iff name description).1 parsed
    have whole : withoutReturn record.name = record.name := (congrArg ControlRecord.name same).symm
    have rest : withoutReturn record.description = record.description :=
      (congrArg ControlRecord.description same).symm
    exact ⟨named, ⟨name, withoutReturn_eq_self_iff.1 whole⟩,
      ⟨description, withoutReturn_eq_self_iff.1 rest⟩⟩
  · intro storable
    have whole := withoutReturn_eq_self_iff.2 storable.name.2
    have rest := withoutReturn_eq_self_iff.2 storable.description.2
    refine (parse_render_eq_ok_iff storable.name.1 storable.description.1).2 ⟨?_, ?_⟩
    · rw [whole]
      exact storable.named
    · rw [whole, rest]

/-- A record whose name and description are one line each is read as it was written. -/
theorem parse_render {record : ControlRecord} (plain : record.Plain) :
    parse record.render = .ok record :=
  parse_render_self_iff.2 plain.storable

/-- The file of a record says the record again exactly if the record has a name, and neither its name
nor its description has a line feed or ends in a carriage return. All names and descriptions that are
accepted for a cabinet make such records, whatever the count. -/
theorem said_again_iff (name description : String) (count : UInt32) :
    (parse (render ⟨name, description, count⟩) = .ok ⟨name, description, count⟩ ↔
      Storable ⟨name, description, count⟩) ∧
    (checkCabinetName name = .ok () → checkDescription description = .ok () →
      Storable ⟨name, description, count⟩) :=
  ⟨parse_render_self_iff, fun named described => (plain_of_check named described count).storable⟩

/-- A carriage return inside a description is kept, and one at its end is lost, whether or not the
description could have been given to a cabinet. -/
theorem said_again_iff_returns :
    parse (render ⟨"c", "a\rb", 7⟩) = .ok ⟨"c", "a\rb", 7⟩ ∧
      parse (render ⟨"c", "b\r", 7⟩) ≠ .ok ⟨"c", "b\r", 7⟩ ∧
      checkDescription "a\rb" ≠ .ok () ∧ Storable ⟨"c", "ab", 7⟩ := by
  refine ⟨?_, ?_, by decide +kernel, ?_⟩
  · exact (said_again_iff "c" "a\rb" 7).1.2 ⟨by decide, by decide, by decide⟩
  · intro again
    exact absurd ((said_again_iff "c" "b\r" 7).1.1 again).description.2 (by decide)
  · exact (said_again_iff "c" "ab" 7).2 (by decide +kernel) (by decide +kernel)

/-- What was read can be written with another count, and then says the same name. -/
theorem reparse {text : String} {record : ControlRecord} (parsed : parse text = .ok record)
    (plain : '\r' ∉ record.name.toList) (count : UInt32) :
    ∃ again, parse ({ record with count := count } : ControlRecord).render = .ok again ∧
      again.name = record.name := by
  obtain ⟨named, name, description⟩ := unbroken_of_parse parsed
  have same := withoutReturn_of_not_mem plain
  have present : withoutReturn record.name ≠ "" := by
    rw [same]
    exact named
  have written := @parse_render_eq_ok_iff ⟨record.name, record.description, count⟩
  exact ⟨_, (written name description).2 ⟨present, rfl⟩, same⟩

/-! ## In a cabinet -/

variable {store : Store} {directory : Path} {place : Location} {id : FileId}
  {record : ControlRecord}

/-- The control file of a cabinet is read as it was written. -/
theorem load_of_stands (plain : record.Plain)
    (within : store.files.Within directory controlName place)
    (stands : store.files.Stands id (place ++ [utf8 controlName]) (utf8 record.render)) :
    load directory store = .ok record store := by
  have short : (utf8 controlName).length ≤ longestName := by decide +kernel
  have read := FileSystem.read_within within short stands.held
  rw [stands.holds] at read
  unfold load
  rw [Work.bind_apply, Work.readText_of_read read, Bytes.text?_utf8]
  dsimp only
  rw [parse_render plain]
  rfl

/-- Whatever is read from where the control file stands is what was written. -/
theorem eq_of_load {after : Store} {loaded : ControlRecord} (plain : record.Plain)
    (found : store.files.folder directory = .ok place)
    (stands : store.files.Stands id (place ++ [utf8 controlName]) (utf8 record.render))
    (done : load directory store = .ok loaded after) : loaded = record := by
  obtain ⟨text, _, read, -⟩ := Work.bind_eq_ok.1 done
  have within : store.files.Within directory controlName place := by
    rcases Work.readText_cases (Path.join directory controlName) store with
      ⟨failure, refused⟩ | ⟨text, -, bytes⟩
    · rw [refused] at read
      cases read
    · obtain ⟨other, led⟩ := FileSystem.within_of_read component_controlName bytes
      obtain rfl : place = other := Except.ok.inj (found.symm.trans led.folder)
      exact led
  rw [load_of_stands plain within stands] at done
  cases done
  rfl

end ControlRecord

end SheetCabinet
