import SheetCabinet.Settings.Stored
import SheetCabinet.Proofs.Store.Reading
import SheetCabinet.Proofs.Files.Written

/-!
# Settings that were stored are read again

The file of the settings is an object with one member for every setting that is made, in one fixed
layout. Every text is quoted so that it is read as it was, and no root is written by leaving its member
out, which is what a reader takes a missing member for. What the file held before does not matter, nor
how its path leads to it.

Results:
* the tokens of the file (`tokens?_render`), and the value that they make (`json_render`);
* what was written of the settings says them (`parse_render`);
* where settings can be stored, and that from then on they are read from the same directory
  (`save_then_load`).
-/

namespace SheetCabinet

namespace Json

/-! ## Tokens, whatever follows -/

/-- A character that is a token. -/
theorem readTokens_mark {c : Char} {token : Token} (mark : mark? c = some token)
    (solid : isGap c = false) (before : List Token) (rest : List Char) :
    readTokens before (c :: rest) = readTokens (token :: before) rest := by
  have next : nextToken (c :: rest) = some (token, rest) := by
    simp only [nextToken, mark]
  exact readTokens_of_nextToken solid next before

theorem readTokens_quoted (before : List Token) (text rest : List Char) :
    readTokens before (quoted text ++ rest) =
      readTokens (.string (some (String.ofList text)) :: before) rest :=
  readTokens_of_nextToken (by decide) (nextToken_quoted text rest) before

/-- A key as it is written in front of its value. -/
theorem readTokens_key (before : List Token) (key rest : List Char) :
    readTokens before (' ' :: ' ' :: (quoted key ++ ':' :: ' ' :: rest)) =
      readTokens (.colon :: .string (some (String.ofList key)) :: before) rest := by
  have gap : isGap ' ' = true := by decide
  have colon : mark? ':' = some .colon := by decide
  rw [readTokens_blank gap, readTokens_blank gap, readTokens_quoted,
    readTokens_mark colon (by decide), readTokens_blank gap]

theorem readTokens_choice (before : List Token) (on : Bool) (rest : List Char) :
    readTokens before ((Settings.showChoice on).toList ++ rest) =
      readTokens (.bool on :: before) rest := by
  cases on with
  | true =>
    have word : (Settings.showChoice true).toList = ['t', 'r', 'u', 'e'] := by decide +kernel
    have next : nextToken ('t' :: 'r' :: 'u' :: 'e' :: rest) = some (.bool true, rest) := rfl
    rw [word]
    exact readTokens_of_nextToken (by decide) next before
  | false =>
    have word : (Settings.showChoice false).toList = ['f', 'a', 'l', 's', 'e'] := by decide +kernel
    have next : nextToken ('f' :: 'a' :: 'l' :: 's' :: 'e' :: rest) = some (.bool false, rest) := rfl
    rw [word]
    exact readTokens_of_nextToken (by decide) next before

end Json

namespace Settings

open Json

/-! ## The file -/

def members (settings : Settings) : List (Option String × Json) :=
  (settings.root.map fun root => (some "root", .string (some root))).toList ++
    [(some "auto_sync", .bool settings.autoSync)]

/-- The tokens of the member for the root, if there is one. -/
def rootTokens (settings : Settings) : List Token :=
  match settings.root with
  | some root => [.string (some "root"), .colon, .string (some root), .comma]
  | none => []

theorem toList_render (settings : Settings) : settings.render.toList =
    '\x7b' :: '\n' :: (settings.rootMember ++ ' ' :: ' ' :: (quoted "auto_sync".toList ++
      ':' :: ' ' :: ((showChoice settings.autoSync).toList ++ ['\n', '\x7d']))) := by
  have key : "  \"auto_sync\": ".toList =
      ' ' :: ' ' :: (quoted "auto_sync".toList ++ [':', ' ']) := by decide +kernel
  have opening : "\x7b\n".toList = ['\x7b', '\n'] := by decide +kernel
  have closing : "\n\x7d".toList = ['\n', '\x7d'] := by decide +kernel
  unfold render
  simp only [String.toList_ofList, key, opening, closing, List.append_assoc, List.cons_append,
    List.nil_append]

theorem readTokens_rootMember (settings : Settings) (before : List Token) (rest : List Char) :
    readTokens before (settings.rootMember ++ rest) =
      readTokens (settings.rootTokens.reverse ++ before) rest := by
  unfold rootMember rootTokens
  cases settings.root with
  | none => rfl
  | some root =>
    have key : "  \"root\": ".toList = ' ' :: ' ' :: (quoted "root".toList ++ [':', ' ']) := by
      decide +kernel
    have ending : ",\n".toList = [',', '\n'] := by decide +kernel
    have comma : mark? ',' = some .comma := by decide
    have gap : isGap '\n' = true := by decide
    simp only [key, ending, List.append_assoc, List.cons_append, List.nil_append]
    rw [readTokens_key, readTokens_quoted, readTokens_mark comma (by decide), readTokens_blank gap,
      String.ofList_toList, String.ofList_toList]
    simp

theorem tokens?_render (settings : Settings) : tokens? settings.render.toList =
    some (.openObject :: (settings.rootTokens ++
      [.string (some "auto_sync"), .colon, .bool settings.autoSync, .closeObject])) := by
  have gap : isGap '\n' = true := by decide
  have opening : mark? '\x7b' = some .openObject := by decide
  have closing : mark? '\x7d' = some .closeObject := by decide
  unfold tokens?
  rw [toList_render, readTokens_mark opening (by decide), readTokens_blank gap,
    readTokens_rootMember, readTokens_key, readTokens_choice, readTokens_blank gap,
    readTokens_mark closing (by decide), readTokens_nil, String.ofList_toList]
  simp

theorem json_render (settings : Settings) :
    Json.parse settings.render.toList = some (.object settings.members) := by
  refine parse_eq_some_iff.2 ⟨_, tokens?_render settings, ?_⟩
  unfold rootTokens members
  cases settings.root <;> rfl

/-- What is written of the settings says just them. -/
theorem parse_render (settings : Settings) : parse settings.render = some settings := by
  obtain ⟨root, autoSync⟩ := settings
  unfold parse
  rw [json_render]
  cases root <;> rfl

/-! ## The directory -/

theorem quiet_load (directory : Path) : Work.Quiet (load directory) := by
  intro store
  unfold load
  dsimp only
  split
  · split
    · rfl
    · split <;> rfl
  · rfl

/-- The settings are in the directory, and whoever stores others there writes to the same file and
makes nothing. -/
structure Kept (settings : Settings) (directory : Path) (files : FileSystem) : Prop where
  made : files.makeDirectories (utf8 directory) = (.ok (), files)
  present : files.isPresent (utf8 (pathIn directory)) = true
  read : files.read (utf8 (pathIn directory)) = .ok (utf8 settings.render)
  opened : ∃ id, files.openOrCreate (utf8 (pathIn directory)) = .ok (id, files)

theorem component_settingsName : Component settingsName := by
  have checked : checkComponent settingsName "" = .ok () := by decide +kernel
  exact component_of_check checked

theorem kept_of_save {settings : Settings} {directory : Path} {store after : Store}
    (saved : settings.save directory store = .ok () after) : Kept settings directory after.files := by
  obtain ⟨_, between, -, wrote⟩ := Work.bind_eq_ok.1 saved
  rw [Work.change_apply] at wrote
  split at wrote
  · rename_i files written
    cases wrote
    obtain ⟨id, opened, -⟩ := FileSystem.openOrCreate_of_write written
    obtain ⟨present, read⟩ := FileSystem.read_of_write written
    exact ⟨FileSystem.makeDirectories_of_openOrCreate component_settingsName opened, present, read,
      ⟨id, opened⟩⟩
  · cases wrote

theorem load_of_kept {settings : Settings} {directory : Path} {store : Store}
    (kept : Kept settings directory store.files) : load directory store = .ok settings store := by
  have text : store.files.readText (utf8 (pathIn directory)) = .ok settings.render := by
    unfold FileSystem.readText
    rw [kept.read]
    simp only [Bytes.text?_utf8]
  unfold load
  simp only [kept.present, if_true, text, parse_render]

/-- The directory can be made, as far as it is missing, and the file of the settings can be opened in
it or made. -/
def Writable (directory : Path) (files : FileSystem) : Prop :=
  ∃ made, files.makeDirectories (utf8 directory) = (.ok (), made) ∧
    ∃ opened, made.openOrCreate (utf8 (pathIn directory)) = .ok opened

theorem Kept.writable {settings : Settings} {directory : Path} {files : FileSystem}
    (kept : Kept settings directory files) : Writable directory files := by
  obtain ⟨id, opened⟩ := kept.opened
  exact ⟨files, kept.made, _, opened⟩

theorem save_of_writable {directory : Path} {store : Store} (settings : Settings)
    (writable : Writable directory store.files) :
    ∃ after, settings.save directory store = .ok () after ∧ Kept settings directory after.files := by
  obtain ⟨made, directories, ⟨id, opened⟩, reached⟩ := writable
  have saved : settings.save directory store =
      .ok () { store with files := opened.setBytes id (utf8 settings.render) } := by
    unfold save
    rw [Work.bind_apply]
    unfold Work.makeDirectories
    rw [directories]
    dsimp only
    rw [Work.change_apply]
    dsimp only
    unfold FileSystem.write
    rw [reached]
  exact ⟨_, saved, kept_of_save saved⟩

/-- Where settings were stored, the directory and the file could be made or were there. -/
theorem writable_of_save {settings : Settings} {directory : Path} {store after : Store}
    (saved : settings.save directory store = .ok () after) : Writable directory store.files := by
  obtain ⟨_, between, directories, wrote⟩ := Work.bind_eq_ok.1 saved
  unfold Work.makeDirectories at directories
  split at directories
  · rename_i made ensured
    cases directories
    rw [Work.change_apply] at wrote
    dsimp only at wrote
    unfold FileSystem.write at wrote
    cases reached : made.openOrCreate (utf8 (pathIn directory)) with
    | ok opened => exact ⟨made, ensured, opened, reached⟩
    | error cause =>
      rw [reached] at wrote
      cases wrote
  · cases directories

/-- Settings can be stored exactly where the directory and the file in it can be made or are there, and
whatever was in the file before, settings that were stored are read from the same directory. -/
theorem save_then_load (settings : Settings) (directory : Path) (store : Store) :
    ((∃ after, settings.save directory store = .ok () after) ↔ Writable directory store.files) ∧
      ∀ after, settings.save directory store = .ok () after →
        load directory after = .ok settings after := by
  refine ⟨⟨?_, ?_⟩, fun after saved => load_of_kept (kept_of_save saved)⟩
  · rintro ⟨after, saved⟩
    exact writable_of_save saved
  · intro writable
    obtain ⟨after, saved, -⟩ := save_of_writable settings writable
    exact ⟨after, saved⟩

/-- A quotation mark, a backslash, a line end and a character outside of the first plane are stored
over something that is no JSON, and are read again. -/
theorem save_then_load_over_junk :
    let settings : Settings := ⟨some "\"\\\n😀", true⟩
    ∃ made written after,
      Work.makeDirectories "d" { files := {} } = .ok () made ∧
      Work.change (fun files => files.write (utf8 "d/config.json") (utf8 "\x7b\"")) made =
        .ok () written ∧
      settings.save "d" written = .ok () after ∧ load "d" after = .ok settings after := by
  intro settings
  have facts : Work.passes (fun _ made => Work.passes (fun _ written =>
          Work.passes (fun _ _ => true) (settings.save "d" written))
        (Work.change (fun files => files.write (utf8 "d/config.json") (utf8 "\x7b\"")) made))
      (Work.makeDirectories "d" { files := {} }) = true := by decide +kernel
  obtain ⟨⟨⟩, made, directory, facts⟩ := Work.exists_of_passes facts
  obtain ⟨⟨⟩, written, junk, facts⟩ := Work.exists_of_passes facts
  obtain ⟨⟨⟩, after, saved, -⟩ := Work.exists_of_passes facts
  have loaded := (save_then_load settings "d" written).2 after saved
  exact ⟨made, written, after, directory, junk, saved, loaded⟩

end Settings

end SheetCabinet
