import SheetCabinet.CommandLine.Run
import SheetCabinet.Proofs.Settings.RoundTrip
import SheetCabinet.Proofs.Text.Lines

/-!
# Entries from the input

Entries are given as words, or one to a line of the input. An entry that has no line feed and does not
end in a carriage return is a line just as it is, and the last one may go without its line feed, unless
it is empty. From there on the two ways are one. The input is read before anything is done.

Results:
* the entries that the input says (`inputLines_asLines`, `inputLines_of_unended`);
* what the command makes of them is what it makes of the same entries as words, and an input that is no
  text leaves everything alone (`entries_agree`).
-/

namespace SheetCabinet.CommandLine

/-! ## Lines -/

/-- The text that has these entries as its lines. -/
def asLines (entries : List String) : String := String.join (entries.map (· ++ "\n"))

/-- An entry that a line can say: it goes on to the end of the line, and nothing is dropped there. -/
def IsLine (entry : String) : Prop := '\n' ∉ entry.toList ∧ entry.toList.getLast? ≠ some '\r'

instance (entry : String) : Decidable (IsLine entry) :=
  inferInstanceAs (Decidable ('\n' ∉ entry.toList ∧ entry.toList.getLast? ≠ some '\r'))

theorem toList_asLines_cons (entry : String) (rest : List String) :
    (asLines (entry :: rest)).toList = entry.toList ++ '\n' :: (asLines rest).toList := by
  simp [asLines]

theorem toList_asLines_concat (front : List String) (last : String) :
    (asLines (front ++ [last])).toList = (asLines front).toList ++ last.toList ++ ['\n'] := by
  simp [asLines]

/-- Entries that are lines stand in front of whatever lines come after them. -/
theorem linesOf_followed {entries : List String} (plain : ∀ entry ∈ entries, IsLine entry)
    {rest : List Char} {others : List (List Char)} (later : LinesOf dropReturn rest others) :
    LinesOf dropReturn ((asLines entries).toList ++ rest) (entries.map String.toList ++ others) := by
  induction entries with
  | nil => exact later
  | cons entry more ih =>
    obtain ⟨unbroken, kept⟩ := plain entry List.mem_cons_self
    have line := LinesOf.line unbroken
      (ih fun other member => plain other (List.mem_cons_of_mem _ member))
    rw [dropReturn_eq_self_iff.2 kept] at line
    rw [toList_asLines_cons, List.append_assoc]
    exact line

theorem inputLines_of_linesOf {entries : List String} {text : String}
    (split : LinesOf dropReturn text.toList (entries.map String.toList)) :
    inputLines (utf8 text) = .ok entries := by
  unfold inputLines
  rw [Bytes.text?_utf8]
  dsimp only
  rw [← linesOf_dropReturn_iff.1 split, List.map_map]
  simp

/-- The input says the entries that are its lines. -/
theorem inputLines_asLines {entries : List String} (plain : ∀ entry ∈ entries, IsLine entry) :
    inputLines (utf8 (asLines entries)) = .ok entries := by
  have split := linesOf_followed plain .nil
  rw [List.append_nil, List.append_nil] at split
  exact inputLines_of_linesOf split

/-- The last line feed may be left out, unless the last entry is empty. -/
theorem inputLines_of_unended {entries : List String} (plain : ∀ entry ∈ entries, IsLine entry)
    (present : entries ≠ []) (filled : entries.getLast? ≠ some "") {text : String}
    (unended : text ++ "\n" = asLines entries) : inputLines (utf8 text) = .ok entries := by
  obtain ⟨front, last, rfl⟩ : ∃ front last, entries = front ++ [last] :=
    ⟨_, _, (List.dropLast_concat_getLast present).symm⟩
  have whole := congrArg String.toList unended
  rw [toList_asLines_concat, String.toList_append] at whole
  have same : text.toList = (asLines front).toList ++ last.toList := List.append_cancel_right whole
  have own := plain last (List.mem_append_right _ List.mem_cons_self)
  have written : last.toList ≠ [] := by
    intro empty
    rw [List.getLast?_concat, String.toList_eq_nil_iff.1 empty] at filled
    exact filled rfl
  have split := linesOf_followed (fun entry member => plain entry (List.mem_append_left _ member))
    (.last own.1 written)
  rw [← same] at split
  refine inputLines_of_linesOf ?_
  rw [List.map_append]
  exact split

/-! ## The command -/

variable {cabinet sheet description : String} {autoSync : Bool}

/-- Whichever way the entries are given, the command is the same. -/
theorem complete_of_inputLines {entries : List String} {input : Bytes} (present : entries ≠ [])
    (read : inputLines input = .ok entries) (settings : Settings) (other : Bytes) :
    complete settings input (.sheet cabinet sheet description [] autoSync) =
      complete settings other (.sheet cabinet sheet description entries autoSync) := by
  unfold complete chooseEntries
  dsimp only
  rw [if_pos rfl, if_neg present, read]

/-- An input that is no text is refused before anything is done. -/
theorem complete_of_no_text {input : Bytes} (unread : ∀ text, input ≠ utf8 text)
    (settings : Settings) (store : Store) :
    complete settings input (.sheet cabinet sheet description [] autoSync) store =
      .error (.io .notUtf8) store := by
  have refused : input.text? = none := by
    cases said : input.text? with
    | none => rfl
    | some text => exact absurd (Bytes.text?_eq_some_iff.1 said) (unread text)
  unfold complete chooseEntries inputLines
  dsimp only
  rw [if_pos rfl, refused]

theorem quiet_start (environment : Environment) (flag : Option Path) (workingDirectory : Path) :
    Work.Quiet (start environment flag workingDirectory) := by
  unfold start
  split
  · exact .throw _
  · rename_i directory found
    refine (Settings.quiet_load directory).bind ?_
    intro settings
    exact (Work.Quiet.tell _).bind fun _ => .pure _

/-- Whichever way the entries are given, all that is done is the same. -/
theorem carryOut_of_inputLines {entries : List String} {input : Bytes} (present : entries ≠ [])
    (read : inputLines input = .ok entries) (call : Call) (root : Option Path) (verbosity : Nat) :
    carryOut { call with input := input }
        ⟨root, verbosity, .sheet cabinet sheet description [] autoSync⟩ =
      carryOut call ⟨root, verbosity, .sheet cabinet sheet description entries autoSync⟩ := by
  unfold carryOut
  dsimp only
  simp only [complete_of_inputLines present read _ call.input]

theorem carryOut_of_no_text {call : Call} (unread : ∀ text, call.input ≠ utf8 text)
    (root : Option Path) (verbosity : Nat) (store : Store) :
    carryOut call ⟨root, verbosity, .sheet cabinet sheet description [] autoSync⟩ store =
      match start call.environment root call.workingDirectory store with
      | .ok _ after => .error (.io .notUtf8) after
      | .error failure after => .error failure after := by
  unfold carryOut
  rw [Work.bind_apply]
  cases start call.environment root call.workingDirectory store with
  | error failure after => rfl
  | ok ready after =>
    dsimp only
    rw [Work.bind_apply, complete_of_no_text unread]

/-- Entries that are lines of the input are entries that are given as words: the same comes of them, is
shown and is left, and the last line feed of the input does not matter unless the last entry is empty.
An input that is no text is refused before anything is changed. -/
theorem entries_agree (call : Call) (root : Option Path) (verbosity : Nat)
    (cabinet sheet description : String) (autoSync : Bool) :
    let asked (entries : List String) : Invocation :=
      ⟨root, verbosity, .sheet cabinet sheet description entries autoSync⟩
    (∀ entries, entries ≠ [] → (∀ entry ∈ entries, IsLine entry) → ∀ text,
      text = asLines entries ∨ (text ++ "\n" = asLines entries ∧ entries.getLast? ≠ some "") →
        carryOut { call with input := utf8 text } (asked []) = carryOut call (asked entries) ∧
        ∀ files, runInvocation { call with input := utf8 text } (asked []) files =
          runInvocation call (asked entries) files) ∧
    ∀ input, (∀ text, input ≠ utf8 text) → ∀ files,
      let came := runInvocation { call with input := input } (asked []) files
      came.2 = files ∧
        ∀ ready after, start call.environment root call.workingDirectory { files := files } =
          .ok ready after →
            carryOut { call with input := input } (asked []) { files := files } =
              .error (.io .notUtf8) after ∧
            came.1.exitCode = 1 ∧
            came.1.errors = failureText (isColoured call.environment) (.io .notUtf8) := by
  intro asked
  constructor
  · intro entries present plain text given
    have read : inputLines (utf8 text) = .ok entries := by
      rcases given with rfl | ⟨unended, filled⟩
      · exact inputLines_asLines plain
      · exact inputLines_of_unended plain present filled unended
    have same : carryOut { call with input := utf8 text } (asked []) =
        carryOut call (asked entries) := carryOut_of_inputLines present read call root verbosity
    refine ⟨same, ?_⟩
    intro files
    unfold runInvocation
    rw [same]
  · intro input unread files came
    have quiet := quiet_start call.environment root call.workingDirectory { files := files }
    have refused := @carryOut_of_no_text cabinet sheet description autoSync
      { call with input := input } unread root verbosity { files := files }
    have shown : came = runInvocation { call with input := input } (asked []) files := rfl
    unfold runInvocation at shown
    rw [refused] at shown
    rw [refused]
    dsimp only at shown ⊢
    cases begun : start call.environment root call.workingDirectory { files := files } with
    | error failure after =>
      rw [begun] at quiet shown
      rw [shown]
      exact ⟨quiet, nofun⟩
    | ok ready after =>
      rw [begun] at quiet shown
      rw [shown]
      refine ⟨quiet, ?_⟩
      intro _ _ same
      cases same
      exact ⟨rfl, rfl, rfl⟩

/-- In a cabinet that was just made, two entries are written the one way and the other, the second one
empty; so are two of which nothing ends the last, and a byte that is no text is refused. -/
theorem entries_agree_two :
    let call : Call :=
      { words := [], environment := { bindings := [("LOGCABINET_CONFIG_DIR", "k")] }
        workingDirectory := "." }
    let asked (entries : List String) : Invocation := ⟨none, 0, .sheet "c" "s" "d" entries false⟩
    ∃ cabinet made ready after, Cabinet.create default "c" "" "." { files := {} } = .ok cabinet made ∧
      runInvocation { call with input := utf8 "a\n\n" } (asked []) made.files =
        runInvocation call (asked ["a", ""]) made.files ∧
      runInvocation { call with input := utf8 "a\nb" } (asked []) made.files =
        runInvocation call (asked ["a", "b"]) made.files ∧
      start call.environment none "." { files := made.files } = .ok ready after ∧
      (runInvocation { call with input := [0xff] } (asked []) made.files).1.exitCode = 1 ∧
      (runInvocation call (asked ["a", ""]) made.files).1.exitCode = 0 := by
  intro call asked
  have facts : Work.passes (fun _ made =>
        Work.passes (fun _ _ => true) (start call.environment none "." { files := made.files }) &&
          decide ((runInvocation call (asked ["a", ""]) made.files).1.exitCode = 0))
      (Cabinet.create default "c" "" "." { files := {} }) = true := by decide +kernel
  obtain ⟨cabinet, made, created, facts⟩ := Work.exists_of_passes facts
  rw [Bool.and_eq_true, decide_eq_true_eq] at facts
  obtain ⟨ready, after, started, -⟩ := Work.exists_of_passes facts.1
  obtain ⟨agree, refused⟩ := entries_agree call none 0 "c" "s" "d" false
  have first := agree ["a", ""] (List.cons_ne_nil _ _) (by decide +kernel) "a\n\n"
    (.inl (by decide +kernel))
  have second := agree ["a", "b"] (List.cons_ne_nil _ _) (by decide +kernel) "a\nb"
    (.inr (by decide +kernel))
  have unread (text : String) : [0xff] ≠ utf8 text := by
    intro same
    have refusal : Bytes.text? [0xff] = none := by decide +kernel
    rw [same, Bytes.text?_utf8] at refusal
    cases refusal
  have third := (refused [0xff] unread made.files).2 ready after started
  exact ⟨cabinet, made, ready, after, created, first.2 _, second.2 _, started, third.2.1, facts.2⟩

end SheetCabinet.CommandLine
