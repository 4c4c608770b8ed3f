import SheetCabinet.Proofs.Cabinet.SideBySide

/-!
# What is listed of a cabinet

What is listed of a directory depends on what is in it, and not on the order in which that comes. And
it is the other side of the rule for names of sheets: every sheet that a cabinet hands out is listed,
and goes on being listed whatever sheets are ordered and written beside it, while nothing is that the
cabinet keeps for itself.

Results:
* a file that a path leads to is listed in its directory unless its name is reserved (`Seated.listed`),
  and so is a new sheet, from then on (`listed_of_newSheet`);
* a listing is exact, in whatever order the directory is enumerated (`listing_exact`).
-/

namespace SheetCabinet

open FileSystem

theorem Seated.listed {store : Store} {id : FileId} {directory : Path} {name : String}
    {place : Location} (seated : Seated store.files id directory name place)
    (present : directory ≠ "") (free : isReserved name = false) :
    ∃ names, Work.listItems directory store = .ok names store ∧ name ∈ names := by
  have askable := checkPath_of_join seated.within.component present seated.within.askable
  have led := locate_folder askable seated.within.folder
  have inside := directory_of_folder seated.within.folder
  obtain ⟨names, done, listing⟩ := Work.exists_listing led inside
  exact ⟨names, done,
    (listing.mem_iff name).2 ⟨⟨id, seated.only.held⟩, isReserved_eq_false_iff.1 free⟩⟩

namespace Cabinet

/-- A new sheet is listed, whatever is done beside it. -/
theorem listed_of_newSheet {cabinet : Cabinet} (placed : cabinet.Placed) {chance : Chance}
    {name description : String} {store : Store} {office : Office} {sheet : Sheet}
    (unused : chance.Unused cabinet name description store)
    (done : newSheet chance name description ⟨cabinet, store⟩ = .ok sheet office)
    {beside : Session} (same : beside.store = office.store) {acts : List Act}
    (clear : beside.Unused acts) :
    ∃ names, office.cabinet.sheetNames (beside.acts acts).store =
      .ok names (beside.acts acts).store ∧ name ∈ names := by
  obtain ⟨accepted, made, counted, up, -, -, learned, -⟩ := newSheet_eq_ok done
  obtain ⟨place, -, seated⟩ := seated_of_newSheet unused done
  rw [← same] at seated
  unfold sheetNames
  rw [learned]
  exact (seated_acts seated clear).listed placed.directory_ne_empty
    (checkSheetName_eq_ok_iff.1 accepted).2

/-- A directory that a path leads to is listed, and in whatever order it is enumerated the same comes
of it: the texts that are names of files in it and do not begin with the reserved prefix, each once,
in the strictly rising order of their stored forms. Among the names that could be those of sheets, a
file's is listed exactly if a sheet may have it; the control file, the lock file and drafts never
are. And a sheet that a cabinet hands out is listed, then and after whatever sheets are ordered and
written beside it. -/
theorem listing_exact :
    (∀ (enumeration : Work.Enumeration) (directory : Path),
      Work.listItemsBy enumeration directory = Work.listItems directory) ∧
    (∀ (store : Store) (directory : Path) (place : Location),
      store.files.locate (utf8 directory) = .ok place →
      store.files.tree.get? place = some .directory →
      ∃ names, Work.listItems directory store = .ok names store ∧
        (names.Pairwise fun first second => utf8 first < utf8 second) ∧
        (∀ name, name ∈ names ↔
          (∃ id, store.files.tree.get? (place ++ [utf8 name]) = some (.file id)) ∧
            ¬reservedPrefix.toList <+: name.toList) ∧
        (∀ name id, store.files.tree.get? (place ++ [utf8 name]) = some (.file id) →
          checkComponent name "sheet" = .ok () →
            (name ∈ names ↔ checkSheetName name = .ok ())) ∧
        controlName ∉ names ∧ lockName ∉ names ∧ (∀ draft : Draft, draft.name ∉ names) ∧
        ∀ token, reservedPrefix ++ "tmp-" ++ token ∉ names) ∧
    ∀ (cabinet : Cabinet) (chance : Chance) (name description : String) (store : Store)
      (office : Office) (sheet : Sheet), Handed cabinet →
      chance.Unused cabinet name description store →
      newSheet chance name description ⟨cabinet, store⟩ = .ok sheet office →
      ∀ (beside : Session) (acts : List Act), beside.store = office.store → beside.Unused acts →
        ∃ names, office.cabinet.sheetNames (beside.acts acts).store =
          .ok names (beside.acts acts).store ∧ name ∈ names := by
  refine ⟨Work.listItemsBy_eq, fun store directory place led inside => ?_, ?_⟩
  · -- of a listing only its order and its members count
    obtain ⟨names, done, listing⟩ := Work.exists_listing led inside
    refine ⟨names, done, listing.rising, listing.mem_iff,
      fun name id held component => listing.mem_iff_check held component,
      listing.not_mem_of_reserved isReserved_controlName,
      listing.not_mem_of_reserved isReserved_lockName,
      fun draft => listing.not_mem_of_reserved draft.isReserved_name, fun token => ?_⟩
    rw [String.append_assoc]
    exact listing.not_mem_of_reserved (isReserved_append _)
  · intro cabinet chance name description store office sheet handed unused done beside acts same clear
    exact listed_of_newSheet (placed_of_handed handed) unused done same clear

/-- Beside the new sheet, the directory holds two files of others, a draft that was left, one with a name
that is no text, a directory and a link to a file. -/
theorem listing_exact_mixed :
    ∃ (cabinet : Cabinet) (store : Store) (office : Office) (sheet : Sheet) (place : Location),
      Handed cabinet ∧ newSheet default "s" "x" ⟨cabinet, store⟩ = .ok sheet office ∧
      office.store.files.locate (utf8 "c") = .ok place ∧
      office.store.files.tree.get? (place ++ [[0xff]]) ≠ none ∧
      Work.listItemsBy Work.Enumeration.ofTree.reverse "c" office.store =
        .ok [".hidden", "b", "s"] office.store ∧
      ∃ (beside : Session) (names : List String), beside.store = office.store ∧
        let later := beside.acts [.order (.ofCabinet default 0 "t" ""), .step 0 ⟨.write "one", {}⟩]
        office.cabinet.sheetNames later.store = .ok names later.store ∧ "s" ∈ names := by
  let mixed : Work Cabinet := do
    let cabinet ← create default "c" "" ""
    Work.change fun files => do
      let files ← files.write (utf8 "c/b") []
      let files ← files.write (utf8 "c/.hidden") []
      let files ← files.write (utf8 "c/.lctmp-old") []
      let files ← files.write (utf8 "c/" ++ [0xff]) []
      let files ← files.makeDirectory (utf8 "c/d")
      files.makeLink (utf8 "c/a") (utf8 "b")
    pure cabinet
  let beside (sheet : Sheet) (office : Office) : Session :=
    { store := office.store, cabinets := [office.cabinet], sheets := [sheet] }
  let acts : List Act := [.order (.ofCabinet default 0 "t" ""), .step 0 ⟨.write "one", {}⟩]
  have facts : Work.passes (fun cabinet store => Chance.Unused default cabinet "s" "x" store &&
      Work.passes (fun sheet office =>
          let files := office.store.files
          decide (files.locate (utf8 "c") = .ok [utf8 "c"] ∧
            files.tree.get? [utf8 "c"] = some .directory ∧
            files.tree.get? [utf8 "c", [0xff]] ≠ none ∧
            (files.tree.children [utf8 "c"]).filterMap Work.itemName = ["s", ".hidden", "b"] ∧
            (beside sheet office).Unused acts))
        (newSheet default "s" "x" ⟨cabinet, store⟩)) (mixed { files := {} }) = true := by
    decide +kernel
  obtain ⟨cabinet, store, made, facts⟩ := Work.exists_of_passes facts
  rw [Bool.and_eq_true, decide_eq_true_eq] at facts
  obtain ⟨sheet, office, done, whole⟩ := Work.exists_of_passes facts.2
  obtain ⟨led, inside, odd, present, clear⟩ := of_decide_eq_true whole
  obtain ⟨created, _, first, rest⟩ := Work.bind_eq_ok.1 made
  obtain ⟨_, _, _, rest⟩ := Work.bind_eq_ok.1 rest
  obtain rfl : cabinet = created := by
    cases rest
    rfl
  obtain ⟨anyOrder, listings, listed⟩ := listing_exact
  obtain ⟨names, listing, rising, mem_iff, -⟩ := listings office.store "c" [utf8 "c"] led inside
  have known : names = [".hidden", "b", "s"] := by
    have whole : Work.Listing office.store.files [utf8 "c"] names := ⟨rising, mem_iff⟩
    rw [whole.unique (Work.listing_of_enumeration .ofTree _ _)]
    show Work.sortNames ((office.store.files.tree.children [utf8 "c"]).filterMap Work.itemName) = _
    rw [present]
    exact Work.sortNames_eq_of_perm (by decide +kernel) (by decide +kernel)
  obtain ⟨later, again, member⟩ := listed cabinet default "s" "x" store office sheet (.created first)
    facts.1 done (beside sheet office) acts rfl clear
  refine ⟨cabinet, store, office, sheet, [utf8 "c"], .created first, done, led, odd, ?_,
    beside sheet office, later, rfl, again, member⟩
  rw [anyOrder, listing, known]

end Cabinet

end SheetCabinet
