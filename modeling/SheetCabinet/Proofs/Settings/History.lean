import SheetCabinet.Proofs.Command.Permanence

/-!
# The settings after any number of errands

Every errand reads the settings anew, so what the settings are is a matter of what was stored, and that
is decided by the errands alone: for each setting the last value it was given counts, if it was ever
given one that is accepted. A value that is not accepted is refused before anything is stored.

Results:
* the settings change as the last accepted value says (`set_settled`, `settled_concat`);
* after every errand the file says what the errands settled (`persisted_errand`), and so after any
  number of them (`persisted_run`);
* which errands succeed, what they answer and what they leave (`errands_settle`).
-/

namespace SheetCabinet

namespace Settings

/-! ## What errands settle -/

/-- A text with small letters for the ASCII capital letters in it. -/
def smallLetters (text : String) : String := String.ofList (text.toList.map Char.toLower)

def onWords : List String := ["true", "on", "yes", "1"]

def offWords : List String := ["false", "off", "no", "0"]

/-- The values that a setting can be given. -/
def Acceptable (name value : String) : Prop :=
  name = "root" ∨ name = "auto-sync" ∧ smallLetters value ∈ onWords ++ offWords

instance (name value : String) : Decidable (Acceptable name value) :=
  inferInstanceAs (Decidable (name = "root" ∨
    name = "auto-sync" ∧ smallLetters value ∈ onWords ++ offWords))

/-- The errand gives a setting a value that it can be given. -/
def Changes : SettingsErrand → Prop
  | .set name value => Acceptable name value
  | .showAll | .showKey _ => False

def given (name : String) : SettingsErrand → Option String
  | .set other value => if other = name ∧ Acceptable name value then some value else none
  | .showAll | .showKey _ => none

def lastGiven (name : String) (errands : List SettingsErrand) : Option String :=
  (errands.filterMap (given name)).getLast?

/-- The settings as the errands leave them: no root is chosen by the empty text. -/
def settled (errands : List SettingsErrand) : Settings where
  root := (lastGiven "root" errands).filter (· ≠ "")
  autoSync := (lastGiven "auto-sync" errands).any (smallLetters · ∈ onWords)

/-- The text by which a setting is shown after the errands, if there is one of this name. -/
def shown (errands : List SettingsErrand) (name : String) : Option String :=
  if name = "root" then some ((lastGiven "root" errands).getD "")
  else if name = "auto-sync" then some (if (settled errands).autoSync then "true" else "false")
  else none

theorem given_own {name value : String} (accepted : Acceptable name value) :
    given name (.set name value) = some value := by
  simp [given, accepted]

theorem given_other {name other : String} (apart : other ≠ name) (value : String) :
    given name (.set other value) = none := by
  simp [given, apart]

theorem lastGiven_concat (name : String) (errands : List SettingsErrand) (next : SettingsErrand) :
    lastGiven name (errands ++ [next]) = (given name next).or (lastGiven name errands) := by
  unfold lastGiven
  rw [List.filterMap_append]
  cases giving : given name next <;> simp [giving]

/-- An errand that gives no value settles nothing. -/
theorem settled_concat {next : SettingsErrand} (idle : ¬Changes next) (errands : List SettingsErrand) :
    settled (errands ++ [next]) = settled errands := by
  have nothing (name : String) : given name next = none := by
    cases next with
    | showAll => rfl
    | showKey key => rfl
    | set other value =>
      refine if_neg ?_
      rintro ⟨rfl, accepted⟩
      exact idle accepted
  unfold settled
  simp only [lastGiven_concat, nothing, Option.none_or]

theorem settled_of_idle {errands : List SettingsErrand} (idle : ∀ errand ∈ errands, ¬Changes errand) :
    settled errands = {} := by
  induction errands using List.reverseRecOn with
  | nil => rfl
  | append_singleton front last ih =>
    rw [settled_concat (idle last (List.mem_append_right _ List.mem_cons_self))]
    exact ih fun errand member => idle errand (List.mem_append_left _ member)

/-! ## One setting -/

theorem choice?_of_mem {value : String} (word : smallLetters value ∈ onWords ++ offWords) :
    choice? value = some (decide (smallLetters value ∈ onWords)) := by
  show (if smallLetters value ∈ onWords then some true
    else if smallLetters value ∈ offWords then some false else none) = _
  by_cases on : smallLetters value ∈ onWords
  · rw [if_pos on, decide_eq_true on]
  · rw [if_neg on, if_pos ((List.mem_append.1 word).resolve_left on), decide_eq_false on]

theorem choice?_of_not_mem {value : String} (other : smallLetters value ∉ onWords ++ offWords) :
    choice? value = none := by
  rw [List.mem_append, not_or] at other
  show (if smallLetters value ∈ onWords then some true
    else if smallLetters value ∈ offWords then some false else none) = _
  rw [if_neg other.1, if_neg other.2]

theorem ofName?_root : Key.ofName? "root" = some .root := Key.ofName?_name .root

theorem ofName?_autoSync : Key.ofName? "auto-sync" = some .autoSync := Key.ofName?_name .autoSync

theorem ofName?_of_ne {name : String} (other : name ≠ "root" ∧ name ≠ "auto-sync") :
    Key.ofName? name = none := by
  cases found : Key.ofName? name with
  | none => rfl
  | some key =>
    have own := Key.name_of_ofName? found
    cases key with
    | root => exact absurd own.symm other.1
    | autoSync => exact absurd own.symm other.2

/-- A value that is accepted is what the setting is then, and the other one stays as it is. -/
theorem set_settled {name value : String} (accepted : Acceptable name value)
    (errands : List SettingsErrand) :
    (settled errands).set name value = .ok (settled (errands ++ [.set name value])) := by
  unfold settled
  simp only [lastGiven_concat]
  rcases accepted with rfl | ⟨rfl, word⟩
  · rw [given_own (.inl rfl), given_other (by decide), set, ofName?_root]
    by_cases empty : value = "" <;> simp [change, empty, Option.filter_some]
  · rw [given_own (.inr ⟨rfl, word⟩), given_other (by decide), set, ofName?_autoSync]
    simp [change, choice?_of_mem word]

/-- A value that is not accepted is refused. -/
theorem set_of_not_acceptable {name value : String} (refused : ¬Acceptable name value)
    (settings : Settings) : ∃ cause, settings.set name value = .error cause := by
  unfold Acceptable at refused
  rw [not_or, not_and] at refused
  unfold set
  by_cases own : name = "auto-sync"
  · subst own
    rw [ofName?_autoSync]
    unfold change
    rw [choice?_of_not_mem (refused.2 rfl)]
    exact ⟨_, rfl⟩
  · rw [ofName?_of_ne ⟨refused.1, own⟩]
    exact ⟨_, rfl⟩

theorem get_settled (errands : List SettingsErrand) (name : String) :
    (settled errands).get name = match shown errands name with
      | some text => .ok text
      | none => .error (.unknownKey name) := by
  unfold get shown
  by_cases root : name = "root"
  · subst root
    rw [ofName?_root, if_pos rfl]
    unfold settled text
    cases lastGiven "root" errands with
    | none => rfl
    | some value => by_cases empty : value = "" <;> simp [empty, Option.filter_some]
  · rw [if_neg root]
    by_cases autoSync : name = "auto-sync"
    · subst autoSync
      rw [ofName?_autoSync, if_pos rfl]
      rfl
    · rw [if_neg autoSync, ofName?_of_ne ⟨root, autoSync⟩]

/-! ## What is stored -/

/-- The file says what the errands settled; it is still missing if they settled nothing. -/
inductive Persisted (directory : Path) (start : FileSystem) (errands : List SettingsErrand) :
    FileSystem → Prop
  | untouched (idle : ∀ errand ∈ errands, ¬Changes errand) :
      Persisted directory start errands start
  | kept {files : FileSystem} (busy : ∃ errand ∈ errands, Changes errand)
      (kept : Kept (settled errands) directory files) : Persisted directory start errands files

/-! ## One errand -/

theorem demand_ok {α : Type} (value : α) (store : Store) :
    Command.demand (.ok value) store = .ok value store := rfl

section Errands

variable {places : Places} {start : FileSystem} {errands : List SettingsErrand} {now : Store}

theorem load_of_persisted (absent : start.isPresent (utf8 (pathIn places.configuration)) = false)
    (persisted : Persisted places.configuration start errands now.files) :
    load places.configuration now = .ok (settled errands) now := by
  cases persisted with
  | untouched idle =>
    unfold load
    simp only [absent, Bool.false_eq_true, if_false, settled_of_idle idle]
  | kept busy kept => exact load_of_kept kept

/-- Where the settings were stored they can be stored again. -/
theorem Persisted.writable (persisted : Persisted places.configuration start errands now.files)
    (first : Writable places.configuration start) : Writable places.configuration now.files := by
  cases persisted with
  | untouched idle => exact first
  | kept busy kept => exact kept.writable

variable (loaded : load places.configuration now = .ok (settled errands) now)

include loaded

theorem run_showAll : Command.runSettings places .showAll now =
    .ok { settings := some (settled errands) } now := by
  unfold Command.runSettings
  rw [Work.bind_apply, loaded]
  rfl

theorem run_showKey (name : String) : Command.runSettings places (.showKey name) now =
    match shown errands name with
    | some text => .ok {
        settings := some (settled errands), notes := [⟨.info, name ++ " = " ++ text⟩] } now
    | none => .error (.strategy (.unknownKey name)) now := by
  unfold Command.runSettings
  rw [Work.bind_apply, loaded]
  dsimp only
  rw [Work.bind_apply, get_settled]
  cases shown errands name <;> rfl

theorem run_set_refused {name value : String} (refused : ¬Acceptable name value) :
    ∃ cause, Command.runSettings places (.set name value) now = .error (.strategy cause) now := by
  obtain ⟨cause, failed⟩ := set_of_not_acceptable refused (settled errands)
  unfold Command.runSettings
  rw [Work.bind_apply, loaded]
  dsimp only
  rw [Work.bind_apply, failed]
  exact ⟨cause, rfl⟩

theorem run_set {name value : String} (accepted : Acceptable name value)
    (writable : Writable places.configuration now.files) :
    ∃ report after, Command.runSettings places (.set name value) now = .ok report after ∧
      Kept (settled (errands ++ [.set name value])) places.configuration after.files := by
  have known : ∃ text, shown (errands ++ [.set name value]) name = some text := by
    unfold shown
    rcases accepted with rfl | ⟨rfl, -⟩
    · exact ⟨_, if_pos rfl⟩
    · exact ⟨_, rfl⟩
  obtain ⟨text, known⟩ := known
  obtain ⟨after, saved, kept⟩ := save_of_writable (settled (errands ++ [.set name value])) writable
  have asked := get_settled (errands ++ [.set name value]) name
  rw [known] at asked
  unfold Command.runSettings
  rw [Work.bind_apply, loaded]
  dsimp only
  rw [Work.bind_apply, set_settled accepted, demand_ok]
  dsimp only
  rw [Work.bind_apply, saved]
  dsimp only
  rw [Work.bind_apply, asked, demand_ok]
  exact ⟨_, _, rfl, kept⟩

/-- An errand that gives no value, be it that it is refused, leaves everything as it was. -/
theorem leftBy_idle {next : SettingsErrand} (idle : ¬Changes next) :
    leftBy (Command.runSettings places next now) = now := by
  cases next with
  | showAll => rw [run_showAll loaded, leftBy_ok]
  | showKey name =>
    rw [run_showKey loaded]
    cases shown errands name <;> rfl
  | set name value =>
    obtain ⟨cause, failed⟩ := run_set_refused loaded idle
    rw [failed, leftBy_error]

omit loaded

/-- After one more errand the file still says what the errands settled. -/
theorem persisted_errand {next : SettingsErrand}
    (absent : start.isPresent (utf8 (pathIn places.configuration)) = false)
    (writable : Changes next → Writable places.configuration start)
    (persisted : Persisted places.configuration start errands now.files) :
    Persisted places.configuration start (errands ++ [next])
      (leftBy (Command.runSettings places next now)).files := by
  have loaded := load_of_persisted absent persisted
  -- only a value that is accepted is stored; otherwise neither the file nor what is settled changes
  by_cases changes : Changes next
  · cases next with
    | showAll => exact changes.elim
    | showKey name => exact changes.elim
    | set name value =>
      obtain ⟨report, after, done, kept⟩ :=
        run_set loaded changes (persisted.writable (writable changes))
      rw [done]
      exact .kept ⟨_, List.mem_append_right _ List.mem_cons_self, changes⟩ kept
  · rw [leftBy_idle loaded changes]
    cases persisted with
    | untouched idle =>
      refine .untouched ?_
      intro errand member
      rcases List.mem_append.1 member with earlier | last
      · exact idle errand earlier
      · rw [List.mem_singleton.1 last]
        exact changes
    | kept busy kept =>
      obtain ⟨errand, member, changed⟩ := busy
      refine .kept ⟨errand, List.mem_append_left _ member, changed⟩ ?_
      rw [settled_concat changes]
      exact kept

end Errands

/-! ## Any number of errands -/

section Runs

variable {places : Places} {start : Store} {errands : List SettingsErrand}

/-- The store after errands that are given one after the other, whether they succeed or fail. -/
def runErrands (places : Places) (errands : List SettingsErrand) (store : Store) : Store :=
  errands.foldl (fun store errand => leftBy (Command.runSettings places errand store)) store

theorem runErrands_concat (front : List SettingsErrand) (last : SettingsErrand) (store : Store) :
    runErrands places (front ++ [last]) store =
      leftBy (Command.runSettings places last (runErrands places front store)) := by
  unfold runErrands
  rw [List.foldl_append]
  rfl

/-- The file says what the errands settled. -/
theorem persisted_run
    (absent : start.files.isPresent (utf8 (pathIn places.configuration)) = false)
    (writable : (∃ errand ∈ errands, Changes errand) → Writable places.configuration start.files) :
    Persisted places.configuration start.files errands (runErrands places errands start).files := by
  -- the last errand comes after all others
  induction errands using List.reverseRecOn with
  | nil => exact .untouched nofun
  | append_singleton front last ih =>
    rw [runErrands_concat]
    refine persisted_errand absent ?_ (ih ?_)
    · exact fun changes => writable ⟨last, List.mem_append_right _ List.mem_cons_self, changes⟩
    · rintro ⟨errand, member, changes⟩
      exact writable ⟨errand, List.mem_append_left _ member, changes⟩

/-- What comes of an errand that is given after others, and what it leaves. -/
structure Answered (places : Places) (before : List SettingsErrand) (now : Store)
    (next : SettingsErrand) : Prop where
  /-- A setting can be given the values that it accepts, and no others. -/
  set_iff : ∀ name value, next = .set name value →
    ((∃ report after, Command.runSettings places next now = .ok report after) ↔
      Acceptable name value)
  /-- To give one setting a value does not change the other. -/
  apart : ∀ name value, next = .set name value →
    let after := leftBy (Command.runSettings places next now)
    ∃ settings changed, load places.configuration now = .ok settings now ∧
      load places.configuration after = .ok changed after ∧
      (name ≠ "root" → changed.root = settings.root) ∧
      (name ≠ "auto-sync" → changed.autoSync = settings.autoSync)
  /-- Who only looks, or is refused, changes nothing. -/
  unchanged : ((∀ name value, next ≠ .set name value) ∨
      ∃ failure after, Command.runSettings places next now = .error failure after) →
    (leftBy (Command.runSettings places next now)).files = now.files
  /-- What is shown is what was settled. -/
  shown : ∀ name, next = .showKey name → Command.runSettings places next now =
    match shown before name with
    | some text => .ok {
        settings := some (settled before), notes := [⟨.info, name ++ " = " ++ text⟩] } now
    | none => .error (.strategy (.unknownKey name)) now
  shownAll : next = .showAll →
    Command.runSettings places next now = .ok { settings := some (settled before) } now

theorem settled_apart {name : String} (value : String) (errands : List SettingsErrand) :
    (name ≠ "root" → (settled (errands ++ [.set name value])).root = (settled errands).root) ∧
      (name ≠ "auto-sync" →
        (settled (errands ++ [.set name value])).autoSync = (settled errands).autoSync) := by
  unfold settled
  simp only [lastGiven_concat]
  constructor
  · intro other
    rw [given_other other, Option.none_or]
  · intro other
    rw [given_other other, Option.none_or]

theorem answered {next : SettingsErrand} {now : Store}
    (absent : start.files.isPresent (utf8 (pathIn places.configuration)) = false)
    (writable : Changes next → Writable places.configuration start.files)
    (persisted : Persisted places.configuration start.files errands now.files) :
    Answered places errands now next := by
  have loaded := load_of_persisted absent persisted
  constructor
  case set_iff =>
    rintro name value rfl
    constructor
    · rintro ⟨report, after, done⟩
      by_contra refused
      obtain ⟨cause, failed⟩ := run_set_refused loaded refused
      rw [failed] at done
      cases done
    · intro accepted
      obtain ⟨report, after, done, -⟩ :=
        run_set loaded accepted (persisted.writable (writable accepted))
      exact ⟨report, after, done⟩
  case apart =>
    rintro name value rfl after
    have stored := load_of_persisted absent (persisted_errand absent writable persisted)
    obtain ⟨root, autoSync⟩ := @settled_apart name value errands
    exact ⟨_, _, loaded, stored, root, autoSync⟩
  case unchanged =>
    intro still
    have idle : ¬Changes next := by
      intro changes
      cases next with
      | showAll => exact changes
      | showKey name => exact changes
      | set name value =>
        rcases still with other | ⟨failure, after, failed⟩
        · exact other name value rfl
        · obtain ⟨report, later, done, -⟩ :=
            run_set loaded changes (persisted.writable (writable changes))
          rw [failed] at done
          cases done
    rw [leftBy_idle loaded idle]
  case shown =>
    rintro name rfl
    exact run_showKey loaded name
  case shownAll =>
    rintro rfl
    exact run_showAll loaded

/-- Starting without stored settings, and where they can be stored if they have to be, any errands leave
for each setting the last value it was given, and every errand is answered as those before it settled. -/
theorem errands_settle (places : Places) (errands : List SettingsErrand) (start : Store)
    (absent : start.files.isPresent (utf8 (pathIn places.configuration)) = false)
    (writable : (∃ errand ∈ errands, Changes errand) → Writable places.configuration start.files) :
    (∀ before next later, errands = before ++ next :: later →
      Answered places before (runErrands places before start) next) ∧
    Persisted places.configuration start.files errands (runErrands places errands start).files ∧
    load places.configuration (runErrands places errands start) =
      .ok (settled errands) (runErrands places errands start) := by
  have persisted := persisted_run absent writable
  refine ⟨?_, persisted, load_of_persisted absent persisted⟩
  rintro before next later rfl
  refine answered absent ?_ (persisted_run absent ?_)
  · exact fun changes => writable ⟨next, List.mem_append_right _ List.mem_cons_self, changes⟩
  · rintro ⟨errand, member, changes⟩
    exact writable ⟨errand, List.mem_append_left _ member, changes⟩

/-- Of six errands two set the root, the last one to nothing, one switches syncing on, two are refused,
and one looks. -/
theorem errands_settle_six :
    let places : Places := ⟨".", "k"⟩
    let start : Store := { files := {} }
    let before : List SettingsErrand := [.set "auto-sync" "YES", .set "root" "/r",
      .set "colour" "x", .set "auto-sync" "maybe"]
    let errands := before ++ [.showKey "auto-sync", .set "root" ""]
    start.files.isPresent (utf8 (pathIn places.configuration)) = false ∧
      Writable places.configuration start.files ∧
      Command.runSettings places (.showKey "auto-sync") (runErrands places before start) =
        .ok { settings := some ⟨some "/r", true⟩, notes := [⟨.info, "auto-sync = true"⟩] }
          (runErrands places before start) ∧
      load places.configuration (runErrands places errands start) =
        .ok ⟨none, true⟩ (runErrands places errands start) := by
  intro places start before errands
  have absent : start.files.isPresent (utf8 (pathIn places.configuration)) = false := by
    decide +kernel
  have facts : Work.passes (fun _ _ => true) (save {} places.configuration start) = true := by
    decide +kernel
  obtain ⟨⟨⟩, after, saved, -⟩ := Work.exists_of_passes facts
  have writable := writable_of_save saved
  obtain ⟨answers, -, last⟩ := errands_settle places errands start absent fun _ => writable
  have looked := (answers before (.showKey "auto-sync") [.set "root" ""] rfl).shown _ rfl
  have between : settled before = ⟨some "/r", true⟩ := by decide +kernel
  have text : shown before "auto-sync" = some "true" := by decide +kernel
  have whole : settled errands = ⟨none, true⟩ := by decide +kernel
  rw [text, between] at looked
  rw [whole] at last
  exact ⟨absent, writable, looked, last⟩

end Runs

end Settings

end SheetCabinet
