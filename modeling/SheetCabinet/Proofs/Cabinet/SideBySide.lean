import SheetCabinet.Proofs.Cabinet.Bystanders
import SheetCabinet.Proofs.Cabinet.Session
import SheetCabinet.Proofs.Sheet.Answers
import SheetCabinet.Proofs.Sheet.Leftover

/-!
# Sheets side by side

Any number of sheets are open, in one cabinet or in several, and are written in any order, each with
the trouble that its own file is in; and in between there are made more of them, or are tried to be.
None of them can tell that it is not alone.

Results:
* an order leaves the open sheets as they are and adds at most one (`ordered_cases`), and a step
  changes at most its own sheet (`stepped_cases`);
* the open sheets have files of their own with something in them, and no step and no order takes that
  away (`apart_acts`);
* so a sheet is answered what it would be if only its own steps were done, and comes to the same
  (`sheets_side_by_side`).
-/

namespace SheetCabinet

open FileSystem

/-! ## Work side by side -/

/-- A sheet is ordered of a cabinet that is open, or made in a directory without being counted. -/
inductive Order
  | ofCabinet (chance : Chance) (holder : Nat) (name description : String)
  | inFolder (torn : Option Nat) (name description : String) (parent : Path)

namespace Order

def description : Order → String
  | ofCabinet _ _ _ description | inFolder _ _ description _ => description

/-- Without a cabinet a sheet can also be made under the name of a control file. -/
def Clear : Order → Prop
  | ofCabinet .. => True
  | inFolder _ name _ _ => name ≠ controlName

/-- No draft is in the way of the order. -/
def Unused (session : Session) : Order → Prop
  | ofCabinet chance holder name description => ∀ cabinet, session.cabinets[holder]? = some cabinet →
    chance.Unused cabinet name description session.store
  | inFolder .. => True

instance (session : Session) (order : Order) : Decidable (order.Unused session) :=
  match order with
  | ofCabinet chance holder name description =>
    inferInstanceAs (Decidable (∀ cabinet, session.cabinets[holder]? = some cabinet →
      chance.Unused cabinet name description session.store))
  | inFolder .. => .isTrue trivial

end Order

/-- What is done by those who work side by side. The open sheets are told apart by their number. -/
inductive Act
  | order (order : Order)
  | step (index : Nat) (step : Step)

/-- The step of a sheet, if the act is one. -/
def Act.stepsOf (index : Nat) : Act → List Step
  | .order _ => []
  | .step other taken => if other = index then [taken] else []

theorem Act.stepsOf_own (index : Nat) (step : Step) : (Act.step index step).stepsOf index = [step] :=
  if_pos rfl

theorem Act.stepsOf_other {index other : Nat} (ne : other ≠ index) (step : Step) :
    (Act.step other step).stepsOf index = [] := if_neg ne

def ownSteps (index : Nat) (acts : List Act) : List Step := acts.flatMap (Act.stepsOf index)

namespace Session

/-- The session after a sheet was ordered. A sheet that is made is the last of those that are open. -/
def ordered (session : Session) : Order → Session
  | .ofCabinet chance holder name description =>
    session.after (.newSheet chance holder name description)
  | .inFolder torn name description parent =>
    match Sheet.create torn name description parent session.store with
    | .ok sheet after => { session with store := after, sheets := session.sheets ++ [sheet] }
    | .error _ after => { session with store := after }

def acted (session : Session) : Act → Session
  | .order order => session.ordered order
  | .step index step => session.after (.write index step)

def acts (session : Session) (acts : List Act) : Session := acts.foldl acted session

/-- No draft is in the way of any of the acts when its turn comes. -/
def Unused (session : Session) : List Act → Prop
  | [] => True
  | .order order :: later => order.Unused session ∧ (session.ordered order).Unused later
  | .step index step :: later => (session.after (.write index step)).Unused later

instance decidableUnused (session : Session) : (acts : List Act) → Decidable (session.Unused acts)
  | [] => .isTrue trivial
  | .order order :: later =>
    have := decidableUnused (session.ordered order) later
    inferInstanceAs (Decidable (order.Unused session ∧ _))
  | .step index step :: later => decidableUnused (session.after (.write index step)) later

theorem unused_cons {session : Session} {act : Act} {later : List Act} :
    session.Unused (act :: later) ↔ session.Unused [act] ∧ (session.acted act).Unused later := by
  cases act with
  | order order =>
    exact ⟨fun ⟨free, rest⟩ => ⟨⟨free, trivial⟩, rest⟩, fun ⟨free, rest⟩ => ⟨free.1, rest⟩⟩
  | step index step => exact ⟨fun rest => ⟨trivial, rest⟩, And.right⟩

theorem unused_append {session : Session} {before later : List Act} :
    session.Unused (before ++ later) ↔
      session.Unused before ∧ (session.acts before).Unused later := by
  induction before generalizing session with
  | nil => exact ⟨fun rest => ⟨trivial, rest⟩, And.right⟩
  | cons act rest ih =>
    rw [List.cons_append, unused_cons, ih, @unused_cons session act rest, and_assoc]
    rfl

/-- What a sheet is answered when it takes its part in an act. -/
def answersTo (index : Nat) (session : Session) (act : Act) : List (Except Failure Unit) :=
  match session.sheets[index]? with
  | none => []
  | some sheet =>
    (act.stepsOf index).map fun step => saidBy (step.outcome ⟨sheet, session.store⟩)

def answers (index : Nat) (session : Session) : List Act → List (Except Failure Unit)
  | [] => []
  | act :: later => session.answersTo index act ++ (session.acted act).answers index later

end Session

/-! ## Sheets of their own -/

/-- The file of an open sheet starts with its description and is not cut back into that. -/
def Backed (store : Store) (sheet : Sheet) : Prop :=
  ∃ description, Beyond (utf8 (descriptionLine description)) 0 (Desk.mk sheet store).ledger

/-- The open sheets have files of their own, in which something was written. -/
structure Apart (session : Session) : Prop where
  backed : ∀ (index : Nat) (sheet : Sheet), session.sheets[index]? = some sheet →
    Backed session.store sheet
  distinct : ∀ (first second : Nat) (one two : Sheet), session.sheets[first]? = some one →
    session.sheets[second]? = some two → one.handle.file = two.handle.file → first = second

theorem utf8_descriptionLine_ne_nil (description : String) :
    utf8 (descriptionLine description) ≠ [] := by
  rw [← fileText_nil, ← utf8_empty, ne_eq, utf8_inj]
  exact fileText_ne_empty description []

/-- The file of a sheet was written. -/
theorem Backed.held {store : Store} {sheet : Sheet} (backed : Backed store sheet) :
    ∃ body, store.files.bodies.get? sheet.handle.file = some body := by
  obtain ⟨description, beyond⟩ := backed
  obtain ⟨later, bytes, -⟩ := beyond.trail
  cases held : store.files.bodies.get? sheet.handle.file with
  | some body => exact ⟨body, rfl⟩
  | none =>
    have empty : (Desk.mk sheet store).ledger.bytes = [] := by
      show (store.files.body sheet.handle.file).bytes = []
      unfold FileSystem.body
      rw [held]
      rfl
    rw [empty] at bytes
    exact absurd (List.append_eq_nil_iff.1 bytes.symm).1 (utf8_descriptionLine_ne_nil description)

theorem ledger_of_body {store after : Store} {sheet : Sheet}
    (same : after.files.body sheet.handle.file = store.files.body sheet.handle.file) :
    (Desk.mk sheet after).ledger = (Desk.mk sheet store).ledger := by
  unfold Desk.ledger Desk.bytes
  rw [same]

/-- Whoever is respected has the same ledger as before. -/
theorem Backed.ledger_eq {store after : Store} {sheet : Sheet} (backed : Backed store sheet)
    (respects : Respects store.files after.files) :
    (Desk.mk sheet after).ledger = (Desk.mk sheet store).ledger := by
  obtain ⟨body, held⟩ := backed.held
  refine ledger_of_body ?_
  unfold FileSystem.body
  rw [held, respects.written _ _ held]

theorem Backed.of_ledger {store after : Store} {sheet now : Sheet} (backed : Backed store sheet)
    (same : (Desk.mk now after).ledger = (Desk.mk sheet store).ledger) : Backed after now := by
  obtain ⟨description, beyond⟩ := backed
  exact ⟨description, by rwa [same]⟩

theorem Backed.step {sheet : Sheet} {store : Store} (backed : Backed store sheet) (step : Step) :
    Backed (step.after ⟨sheet, store⟩).store (step.after ⟨sheet, store⟩).sheet := by
  obtain ⟨description, beyond⟩ := backed
  refine ⟨description, ?_⟩
  show Beyond _ 0 (step.after ⟨sheet, store⟩).ledger
  rw [ledger_after]
  exact beyond_step beyond step

/-- A sheet that was just made: with a file that was not there before, and alike to all others that
were made with this description. -/
structure Newborn (files : FileSystem) (description : String) (sheet : Sheet) (store : Store) :
    Prop where
  file : sheet.handle.file = files.freshId
  ledger : (Desk.mk sheet store).ledger =
    { bytes := utf8 (descriptionLine description)
      committed := (utf8 (descriptionLine description)).length
      number := 1
      exhausted := false
      staged := "" }
  autoSync : sheet.autoSync = false

namespace Newborn

variable {files : FileSystem} {description : String} {sheet : Sheet} {store : Store}

theorem backed (newborn : Newborn files description sheet store) : Backed store sheet := by
  refine ⟨description, ?_⟩
  rw [newborn.ledger]
  exact ⟨⟨[], (List.append_nil _).symm, .nil⟩, Nat.le_refl _, Nat.le_refl _, fun _ => Nat.one_pos⟩

theorem later (newborn : Newborn files description sheet store) {after : Store}
    (respects : Respects store.files after.files) : Newborn files description sheet after where
  file := newborn.file
  ledger := (newborn.backed.ledger_eq respects).trans newborn.ledger
  autoSync := newborn.autoSync

/-- Wherever they were made. -/
theorem alike (newborn : Newborn files description sheet store) {other : FileSystem}
    {single : Sheet} {alone : Store} (same : Newborn other description single alone) :
    Alike ⟨sheet, store⟩ ⟨single, alone⟩ where
  ledger := newborn.ledger.trans same.ledger.symm
  autoSync := newborn.autoSync.trans same.autoSync.symm

end Newborn

theorem newborn_of_create {torn : Option Nat} {name description : String} {parent : Path}
    {store made : Store} {sheet : Sheet}
    (done : Sheet.create torn name description parent store = .ok sheet made) :
    Newborn store.files description sheet made := by
  obtain ⟨place, created⟩ := Sheet.created_of_create done
  exact ⟨Sheet.fresh_of_create done, ledger_of_created created, by rw [created.sheet_eq]⟩

/-! ## Where the sheets are -/

/-- The path of this name leads to the file and is that of no control file. -/
structure Seated (files : FileSystem) (id : FileId) (parent : Path) (name : String)
    (place : Location) : Prop where
  ordinary : utf8 name ≠ utf8 controlName
  short : (utf8 name).length ≤ longestName
  within : files.Within parent name place
  only : files.OnlyAt id (place ++ [utf8 name])

namespace Seated

variable {files after : FileSystem} {id : FileId} {parent : Path} {name : String} {place : Location}

theorem respected (seated : Seated files id parent name place) (respects : Respects files after) :
    Seated after id parent name place where
  ordinary := seated.ordinary
  short := seated.short
  within :=
    { component := seated.within.component
      askable := seated.within.askable
      folder := respects.folder _ _ seated.within.folder }
  only := (respects.stands id place _ _ seated.ordinary ⟨seated.only, rfl⟩).toOnlyAt

/-- Whatever is written, the names are as they were. -/
theorem framed {desk later : Desk} (seated : Seated desk.store.files id parent name place)
    (frame : Frame desk later) : Seated later.store.files id parent name place where
  ordinary := seated.ordinary
  short := seated.short
  within := seated.within.of_tree frame.tree frame.home
  only :=
    { held := by rw [frame.tree, seated.only.held]
      only := by
        rw [frame.tree]
        exact seated.only.only }

theorem read (seated : Seated files id parent name place) :
    files.read (utf8 (Path.join parent name)) = .ok (files.body id).bytes :=
  read_within seated.within seated.short seated.only.held

end Seated

theorem seated_of_created {files : FileSystem} {made : Store} {parent : Path}
    {name description : String} {sheet : Sheet} {place : Location}
    (created : Sheet.Created files made.files parent name description sheet place)
    (ordinary : utf8 name ≠ utf8 controlName) :
    Seated made.files sheet.handle.file parent name place :=
  ⟨ordinary, created.short, created.withinAfter, created.stands.toOnlyAt⟩

/-! ## Orders -/

/-- A new sheet, and its path if it is not that of a control file. -/
structure Delivered (files : FileSystem) (order : Order) (sheet : Sheet) (store : Store) : Prop
    extends Newborn files order.description sheet store where
  seated : order.Clear → ∃ parent name place, sheet.path = Path.join parent name ∧
    Seated store.files sheet.handle.file parent name place

theorem delivered_of_create {torn : Option Nat} {name description : String} {parent : Path}
    {store made : Store} {sheet : Sheet}
    (done : Sheet.create torn name description parent store = .ok sheet made) :
    Delivered store.files (.inFolder torn name description parent) sheet made := by
  obtain ⟨place, created⟩ := Sheet.created_of_create done
  refine ⟨newborn_of_create done, fun clear => ⟨parent, name, place, created.path_eq, ?_⟩⟩
  exact seated_of_created created fun same => clear (utf8_inj.1 same)

section NewSheets

variable {cabinet : Cabinet} {chance : Chance} {name description : String} {store : Store}
  {office : Office} {sheet : Sheet}

/-- A new sheet of a cabinet was made and then counted, which is in nobody's way. -/
theorem made_of_newSheet (unused : chance.Unused cabinet name description store)
    (done : Cabinet.newSheet chance name description ⟨cabinet, store⟩ = .ok sheet office) :
    checkSheetName name = .ok () ∧ ∃ made,
      Sheet.create chance.torn name description cabinet.directory store = .ok sheet made ∧
        Respects made.files office.store.files := by
  obtain ⟨accepted, made, counted, up, new, counts, -, files⟩ := Cabinet.newSheet_eq_ok done
  have counting := Cabinet.respects_recordNext (unused sheet made new)
  rw [counts, leftBy_ok, ← files] at counting
  exact ⟨accepted, made, new, counting⟩

theorem seated_of_newSheet (unused : chance.Unused cabinet name description store)
    (done : Cabinet.newSheet chance name description ⟨cabinet, store⟩ = .ok sheet office) :
    ∃ place, sheet.path = Path.join cabinet.directory name ∧
      Seated office.store.files sheet.handle.file cabinet.directory name place := by
  obtain ⟨accepted, made, new, counting⟩ := made_of_newSheet unused done
  obtain ⟨place, created⟩ := Sheet.created_of_create new
  refine ⟨place, created.path_eq, (seated_of_created created fun same => ?_).respected counting⟩
  exact Cabinet.ne_of_sheetName accepted Cabinet.isReserved_controlName place (by rw [same])

/-- What a new sheet of a cabinet is, and where. -/
theorem delivered_of_newSheet (unused : chance.Unused cabinet name description store)
    (done : Cabinet.newSheet chance name description ⟨cabinet, store⟩ = .ok sheet office)
    (holder : Nat) :
    Delivered store.files (.ofCabinet chance holder name description) sheet office.store := by
  obtain ⟨-, made, new, counting⟩ := made_of_newSheet unused done
  obtain ⟨place, path, seated⟩ := seated_of_newSheet unused done
  exact ⟨(newborn_of_create new).later counting,
    fun _ => ⟨cabinet.directory, name, place, path, seated⟩⟩

end NewSheets

/-- Whatever comes of an order, whoever works beside it is respected. -/
theorem ordered_cases {session : Session} {order : Order} (unused : order.Unused session) :
    Respects session.store.files (session.ordered order).store.files ∧
      ((session.ordered order).sheets = session.sheets ∨
        ∃ sheet, (session.ordered order).sheets = session.sheets ++ [sheet] ∧
          Delivered session.store.files order sheet (session.ordered order).store) := by
  cases order with
  | ofCabinet chance holder name description =>
    unfold Session.ordered Session.after
    dsimp only
    split
    · exact ⟨.refl _, .inl rfl⟩
    · rename_i cabinet opened
      have free := unused cabinet opened
      have respects := Cabinet.respects_newSheet free
      cases done : Cabinet.newSheet chance name description ⟨cabinet, session.store⟩ with
      | error failure office =>
        rw [done] at respects
        exact ⟨respects, .inl rfl⟩
      | ok sheet office =>
        rw [done] at respects
        exact ⟨respects, .inr ⟨sheet, rfl, delivered_of_newSheet free done holder⟩⟩
  | inFolder torn name description parent =>
    have respects := Sheet.respects_create torn name description parent session.store
    unfold Session.ordered
    dsimp only
    cases done : Sheet.create torn name description parent session.store with
    | error failure after =>
      rw [done] at respects
      exact ⟨respects, .inl rfl⟩
    | ok sheet made =>
      rw [done] at respects
      exact ⟨respects, .inr ⟨sheet, rfl, delivered_of_create done⟩⟩

/-- Whoever ordered a sheet and has one more knows what it is. -/
theorem delivered_of_more {session : Session} {order : Order} {sheet : Sheet}
    (unused : order.Unused session)
    (more : (session.ordered order).sheets = session.sheets ++ [sheet]) :
    Delivered session.store.files order sheet (session.ordered order).store := by
  obtain ⟨-, same | ⟨other, pushed, delivered⟩⟩ := ordered_cases unused
  · simp [same] at more
  · rw [more] at pushed
    obtain rfl := List.singleton_inj.1 (List.append_cancel_left pushed)
    exact delivered

/-! ## The open sheets -/

/-- With one sheet changed, each is that one or as it was. -/
theorem getElem?_set_cases {sheets : List Sheet} {new found : Sheet} {index number : Nat}
    (held : (sheets.set index new)[number]? = some found) :
    number = index ∧ found = new ∨ number ≠ index ∧ sheets[number]? = some found := by
  rw [List.getElem?_set] at held
  split at held
  · rename_i same
    split at held
    · exact .inl ⟨same.symm, (Option.some.inj held).symm⟩
    · cases held
  · rename_i other
    exact .inr ⟨Ne.symm other, held⟩

theorem apart_ordered {session : Session} (apart : Apart session) {order : Order}
    (unused : order.Unused session) : Apart (session.ordered order) := by
  obtain ⟨respects, same | ⟨sheet, more, delivered⟩⟩ := ordered_cases unused
  · refine ⟨fun index sheet held => ?_, ?_⟩
    · rw [same] at held
      have backed := apart.backed index sheet held
      exact backed.of_ledger (backed.ledger_eq respects)
    · rw [same]
      exact apart.distinct
  · -- the file of the new sheet was not there when the others were written
    have fresh (index : Nat) (other : Sheet) (held : session.sheets[index]? = some other) :
        other.handle.file ≠ sheet.handle.file := by
      obtain ⟨body, written⟩ := (apart.backed index other held).held
      rw [delivered.file]
      exact ne_freshId written
    refine ⟨fun index other held => ?_, fun first second one two here there file => ?_⟩
    · rw [more] at held
      rcases getElem?_push held with old | ⟨-, rfl⟩
      · have backed := apart.backed index other old
        exact backed.of_ledger (backed.ledger_eq respects)
      · exact delivered.backed
    · rw [more] at here there
      rcases getElem?_push here with old | ⟨last, rfl⟩ <;>
        rcases getElem?_push there with old' | ⟨last', rfl⟩
      · exact apart.distinct first second one two old old' file
      · exact absurd file (fresh first one old)
      · exact absurd file.symm (fresh second two old')
      · rw [last, last']

/-- A step of one sheet is none of another. -/
theorem ledger_of_frame {desk later : Desk} (frame : Frame desk later) {sheet : Sheet}
    (other : sheet.handle.file ≠ desk.sheet.handle.file) :
    (Desk.mk sheet later.store).ledger = (Desk.mk sheet desk.store).ledger :=
  ledger_of_body (frame.body _ other)

/-- A step is that of no sheet, or it is done by one and not by the others. -/
theorem stepped_cases (session : Session) (index : Nat) (step : Step) :
    session.sheets[index]? = none ∧ session.after (.write index step) = session ∨
    ∃ sheet, session.sheets[index]? = some sheet ∧
      (session.after (.write index step)).store = (step.after ⟨sheet, session.store⟩).store ∧
      (session.after (.write index step)).sheets =
        session.sheets.set index (step.after ⟨sheet, session.store⟩).sheet := by
  unfold Session.after
  dsimp only
  split
  · rename_i missing
    exact .inl ⟨missing, rfl⟩
  · rename_i sheet held
    exact .inr ⟨sheet, held, rfl, rfl⟩

theorem apart_stepped {session : Session} (apart : Apart session) (index : Nat) (step : Step) :
    Apart (session.after (.write index step)) := by
  rcases stepped_cases session index step with ⟨-, same⟩ | ⟨sheet, held, store, sheets⟩
  · rw [same]
    exact apart
  · have frame := frame_after step ⟨sheet, session.store⟩
    refine ⟨fun number found there => ?_, fun first second one two here there file => ?_⟩
    · rw [sheets] at there
      rw [store]
      rcases getElem?_set_cases there with ⟨-, rfl⟩ | ⟨other, old⟩
      · exact (apart.backed index sheet held).step step
      · have backed := apart.backed number found old
        refine backed.of_ledger (ledger_of_frame frame fun file => other ?_)
        exact apart.distinct number index found sheet old held file
    · rw [sheets] at here there
      rcases getElem?_set_cases here with ⟨rfl, rfl⟩ | ⟨other, old⟩ <;>
        rcases getElem?_set_cases there with ⟨rfl, rfl⟩ | ⟨other', old'⟩
      · rfl
      · rw [frame.file] at file
        exact apart.distinct _ _ sheet two held old' file
      · rw [frame.file] at file
        exact apart.distinct _ _ one sheet old held file
      · exact apart.distinct _ _ one two old old' file

theorem apart_acts {session : Session} (apart : Apart session) {acts : List Act}
    (unused : session.Unused acts) : Apart (session.acts acts) := by
  induction acts generalizing session with
  | nil => exact apart
  | cons act later ih =>
    cases act with
    | order order => exact ih (apart_ordered apart unused.1) unused.2
    | step index step => exact ih (apart_stepped apart index step) unused

theorem seated_acts {session : Session} {id : FileId} {parent : Path} {name : String}
    {place : Location} (seated : Seated session.store.files id parent name place)
    {acts : List Act} (unused : session.Unused acts) :
    Seated (session.acts acts).store.files id parent name place := by
  induction acts generalizing session with
  | nil => exact seated
  | cons act later ih =>
    cases act with
    | order order => exact ih (seated.respected (ordered_cases unused.1).1) unused.2
    | step index step =>
      refine ih ?_ unused
      show Seated (session.after (.write index step)).store.files id parent name place
      rcases stepped_cases session index step with ⟨-, same⟩ | ⟨sheet, -, store, -⟩
      · rw [same]
        exact seated
      · rw [store]
        exact seated.framed (frame_after step ⟨sheet, session.store⟩)

/-! ## As if alone -/

/-- The sheet of this number still has the path and the file it was made with, and is alike to the
one on the desk. -/
structure Abreast (session : Session) (index : Nat) (made now : Sheet) (desk : Desk) : Prop where
  held : session.sheets[index]? = some now
  path : now.path = made.path
  file : now.handle.file = made.handle.file
  alike : Alike ⟨now, session.store⟩ desk

section Abreast

variable {session : Session} {index : Nat} {made now : Sheet} {desk : Desk}

/-- Orders are none of the sheet's business. -/
theorem abreast_ordered (apart : Apart session) (abreast : Abreast session index made now desk)
    {order : Order} (unused : order.Unused session) :
    Abreast (session.ordered order) index made now desk := by
  obtain ⟨respects, sheets⟩ := ordered_cases unused
  refine ⟨?_, abreast.path, abreast.file, ?_, abreast.alike.autoSync⟩
  · rcases sheets with same | ⟨sheet, more, -⟩
    · rw [same, abreast.held]
    · rw [more, List.getElem?_append_left (List.getElem?_eq_some_iff.1 abreast.held).1, abreast.held]
  · rw [(apart.backed index now abreast.held).ledger_eq respects]
    exact abreast.alike.ledger

/-- Nor are the steps of the others. -/
theorem abreast_other (apart : Apart session) (abreast : Abreast session index made now desk)
    {other : Nat} (ne : other ≠ index) (step : Step) :
    Abreast (session.after (.write other step)) index made now desk := by
  rcases stepped_cases session other step with ⟨-, same⟩ | ⟨sheet, held, store, sheets⟩
  · rw [same]
    exact abreast
  · refine ⟨?_, abreast.path, abreast.file, ?_, abreast.alike.autoSync⟩
    · rw [sheets, List.getElem?_set_ne ne, abreast.held]
    · rw [store, ledger_of_frame (frame_after step ⟨sheet, session.store⟩), abreast.alike.ledger]
      exact fun file => ne (apart.distinct _ _ _ _ abreast.held held file).symm

/-- Its own steps are taken on both sides. -/
theorem abreast_own (abreast : Abreast session index made now desk) (step : Step) :
    ∃ next, Abreast (session.after (.write index step)) index made next (step.after desk) := by
  rcases stepped_cases session index step with ⟨missing, -⟩ | ⟨sheet, held, store, sheets⟩
  · rw [abreast.held] at missing
    cases missing
  · obtain rfl : now = sheet := Option.some.inj (abreast.held.symm.trans held)
    have frame := frame_after step ⟨now, session.store⟩
    have alike := alike_after abreast.alike step
    refine ⟨_, ?_, frame.path.trans abreast.path, frame.file.trans abreast.file, ?_, alike.autoSync⟩
    · rw [sheets, List.getElem?_set_self (List.getElem?_eq_some_iff.1 held).1]
    · rw [store]
      exact alike.ledger

theorem abreast_acted (apart : Apart session) (abreast : Abreast session index made now desk)
    {act : Act} (unused : session.Unused [act]) :
    session.answersTo index act = desk.answers (act.stepsOf index) ∧
      ∃ next, Abreast (session.acted act) index made next (desk.run (act.stepsOf index)) := by
  unfold Session.answersTo
  rw [abreast.held]
  cases act with
  | order order => exact ⟨rfl, now, abreast_ordered apart abreast unused.1⟩
  | step other step =>
    by_cases own : other = index
    · subst own
      rw [Act.stepsOf_own]
      exact ⟨congrArg ([·]) (abreast.alike.answer step), abreast_own abreast step⟩
    · rw [Act.stepsOf_other own]
      exact ⟨rfl, now, abreast_other apart abreast own step⟩

theorem abreast_acts (apart : Apart session) (abreast : Abreast session index made now desk)
    {acts : List Act} (unused : session.Unused acts) :
    session.answers index acts = desk.answers (ownSteps index acts) ∧
      ∃ last, Abreast (session.acts acts) index made last (desk.run (ownSteps index acts)) := by
  induction acts generalizing session now desk with
  | nil => exact ⟨rfl, now, abreast⟩
  | cons act later ih =>
    obtain ⟨first, rest⟩ := Session.unused_cons.1 unused
    obtain ⟨answer, next, after⟩ := abreast_acted apart abreast first
    obtain ⟨answers, last, whole⟩ := ih (apart_acts apart first) after rest
    have steps : ownSteps index (act :: later) = act.stepsOf index ++ ownSteps index later :=
      List.flatMap_cons
    rw [steps, Desk.answers_append, Desk.run_append]
    refine ⟨?_, last, whole⟩
    rw [← answer, ← answers]
    rfl

end Abreast

/-- Any number of sheets are made and written side by side, of any cabinets, in any order, and with
any trouble of their files, and more sheets are ordered in between, with or without success. Each of
them is answered what a sheet with this description is answered, wherever and however that was made,
if only its own steps are done to that one; and both come to the same: the number of the next entry
and whether numbers are used up, what is staged, what counts as committed, and what the file holds.
This is also what is read by the path of the sheet, unless it was made without a cabinet under the
name of a control file. -/
theorem sheets_side_by_side {start : Session} (fresh : start.sheets = []) {before later : List Act}
    {order : Order} {made : Sheet} (unused : start.Unused (before ++ .order order :: later))
    (new : ((start.acts before).ordered order).sheets = (start.acts before).sheets ++ [made])
    {elsewhere : Session} {same : Order} {single : Sheet} (free : same.Unused elsewhere)
    (alone : (elsewhere.ordered same).sheets = elsewhere.sheets ++ [single])
    (like : same.description = order.description) :
    let index := (start.acts before).sheets.length
    let session := (start.acts before).ordered order
    let desk : Desk := ⟨single, (elsewhere.ordered same).store⟩
    let own := ownSteps index later
    session.answers index later = desk.answers own ∧
      ∃ now, (session.acts later).sheets[index]? = some now ∧
        now.path = made.path ∧ now.handle.file = made.handle.file ∧
        Alike ⟨now, (session.acts later).store⟩ (desk.run own) ∧
        (order.Clear →
          (session.acts later).store.files.read (utf8 now.path) = .ok (desk.run own).bytes) := by
  intro index session desk own
  have empty : Apart start := by
    constructor <;> simp [fresh]
  obtain ⟨first, rest⟩ := Session.unused_append.1 unused
  obtain ⟨here, last⟩ := rest
  have whole := delivered_of_more here new
  have likewise := (delivered_of_more free alone).toNewborn
  rw [like] at likewise
  have held : session.sheets[index]? = some made := by
    rw [new, List.getElem?_append_right (Nat.le_refl _), Nat.sub_self]
    rfl
  obtain ⟨answers, now, abreast⟩ := abreast_acts (apart_ordered (apart_acts empty first) here)
    ⟨held, rfl, rfl, whole.alike likewise⟩ last
  refine ⟨answers, now, abreast.held, abreast.path, abreast.file, abreast.alike, fun clear => ?_⟩
  obtain ⟨parent, name, place, path, seated⟩ := whole.seated clear
  rw [abreast.path, path, (seated_acts seated last).read, ← abreast.file]
  exact congrArg (Except.ok ∘ Ledger.bytes) abreast.alike.ledger

/-- Sheets of one name in two cabinets, with a torn line left in the one, and a third ordered twice. -/
theorem sheets_side_by_side_two :
    let before : List Act := [.order (.ofCabinet default 0 "a" "d"), .step 0 ⟨.write "zero", {}⟩]
    let order : Order := .ofCabinet default 1 "a" "x"
    let later : List Act := [.step 0 ⟨.write "one", { torn := some 3, cutFails := true }⟩,
      .step 1 ⟨.stage "p\n", {}⟩, .order (.ofCabinet default 1 "b" ""), .step 2 ⟨.write "q", {}⟩,
      .order (.ofCabinet default 1 "b" ""), .step 1 ⟨.commitStaged, { torn := some 2 }⟩,
      .step 0 ⟨.write "two", {}⟩, .step 1 ⟨.setAutoSync true, {}⟩,
      .step 1 ⟨.commitStaged, { syncFails := true }⟩]
    ∃ (start : Session) (made now : Sheet), start.sheets = [] ∧
      ((start.acts before).ordered order).sheets = (start.acts before).sheets ++ [made] ∧
      ((start.acts before).ordered order).answers 1 later =
          [.ok (), .error (.io .diskFull), .ok (), .error (.io .syncFailed)] ∧
        (((start.acts before).ordered order).acts later).sheets[1]? = some now ∧
        (((start.acts before).ordered order).acts later).store.files.read (utf8 now.path) =
          .ok (utf8 "x\n1 p\n\t\n") := by
  intro before order later
  let cabinets : Work (Cabinet × Cabinet) := do
    let first ← Cabinet.create default "c" "" ""
    let second ← Cabinet.create default "e" "" ""
    pure (first, second)
  let start (both : Cabinet × Cabinet) (store : Store) : Session :=
    { store := store, cabinets := [both.1, both.2] }
  have orders : Work.passes (fun both store =>
      decide ((start both store).Unused (before ++ .order order :: later) ∧
        ((start both store).acts before).sheets.length = 1 ∧
        (((start both store).acts before).ordered order).sheets.length = 2))
      (cabinets { files := {} }) = true := by decide +kernel
  have steps : Work.passes (fun single made =>
      decide ((Desk.mk single made).answers (ownSteps 1 later) =
          [.ok (), .error (.io .diskFull), .ok (), .error (.io .syncFailed)] ∧
        ((Desk.mk single made).run (ownSteps 1 later)).bytes = utf8 "x\n1 p\n\t\n"))
      (Sheet.create none "s" "x" "" { files := {} }) = true := by decide +kernel
  obtain ⟨both, store, -, passed⟩ := Work.exists_of_passes orders
  obtain ⟨unused, one, two⟩ := of_decide_eq_true passed
  obtain ⟨single, alone, created, passed⟩ := Work.exists_of_passes steps
  obtain ⟨answers, bytes⟩ := of_decide_eq_true passed
  obtain ⟨-, same | ⟨made, new, -⟩⟩ := ordered_cases (Session.unused_append.1 unused).2.1
  · rw [same, one] at two
    cases two
  · have elsewhere : Session.ordered { store := { files := {} }, cabinets := [] }
        (.inFolder none "s" "x" "") = { store := alone, cabinets := [], sheets := [single] } := by
      unfold Session.ordered
      simp only [created, List.nil_append]
    have free : Order.Unused { store := { files := {} }, cabinets := [] }
        (.inFolder none "s" "x" "") := trivial
    have single_new : (Session.ordered { store := { files := {} }, cabinets := [] }
        (.inFolder none "s" "x" "")).sheets = [] ++ [single] := by rw [elsewhere, List.nil_append]
    obtain ⟨said, now, held, -, -, -, read⟩ := sheets_side_by_side
      (show (start both store).sheets = [] from rfl) unused new free single_new rfl
    rw [one, elsewhere] at said
    rw [one] at held
    rw [one, elsewhere] at read
    exact ⟨_, made, now, rfl, new, said.trans answers, held, (read trivial).trans (by rw [bytes])⟩

end SheetCabinet
