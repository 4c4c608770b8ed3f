import SheetCabinet.Store

/-!
# Reading and what comes of work

Reading a text changes nothing, and gives the text whose stored form the file holds. Work that only
reads and tells is quiet: whatever comes of it, it leaves the files as they are.

Results:
* what comes of reading a text (`readText_of_read`, `readText_cases`);
* work is quiet if its pieces are (`Quiet.bind`).
-/

namespace SheetCabinet

/-- The state that a piece of work leaves, whether it succeeds or fails. -/
def leftBy {ε σ α : Type} : EStateM.Result ε σ α → σ
  | .ok _ state => state
  | .error _ state => state

@[simp] theorem leftBy_ok {ε σ α : Type} (value : α) (state : σ) :
    leftBy (.ok value state : EStateM.Result ε σ α) = state := rfl

@[simp] theorem leftBy_error {ε σ α : Type} (failure : ε) (state : σ) :
    leftBy (.error failure state : EStateM.Result ε σ α) = state := rfl

/-- What a piece of work answers: its value, or why it failed. -/
def saidBy {ε σ α : Type} : EStateM.Result ε σ α → Except ε α
  | .ok value _ => .ok value
  | .error failure _ => .error failure

theorem saidBy_eq_ok_iff {ε σ α : Type} {result : EStateM.Result ε σ α} {value : α} :
    saidBy result = .ok value ↔ ∃ after, result = .ok value after := by
  cases result <;> simp [saidBy]

namespace Work

/-- Work in two pieces succeeds if both pieces do. -/
theorem bind_eq_ok {ε σ α β : Type} {first : EStateM ε σ α} {next : α → EStateM ε σ β}
    {state after : σ} {value : β} : (first >>= next) state = .ok value after ↔
      ∃ middle between, first state = .ok middle between ∧ next middle between = .ok value after := by
  show EStateM.bind first next state = .ok value after ↔ _
  unfold EStateM.bind
  cases first state with
  | error failure between => simp
  | ok middle between =>
    constructor
    · exact fun done => ⟨middle, between, rfl, done⟩
    · rintro ⟨_, _, same, done⟩
      cases same
      exact done

theorem accept_eq_ok {checked : Except NameFault Unit} {store after : Store} {value : Unit} :
    accept checked store = .ok value after ↔ checked = .ok () ∧ after = store := by
  unfold accept
  cases checked with
  | error fault => simp
  | ok _ => simp [eq_comm]

theorem accept_bind_eq_ok {α : Type} {checked : Except NameFault Unit} {next : Unit → Work α}
    {store after : Store} {value : α} : (accept checked >>= next) store = .ok value after ↔
      checked = .ok () ∧ next () store = .ok value after := by
  rw [bind_eq_ok]
  constructor
  · rintro ⟨_, _, accepted, done⟩
    obtain ⟨passes, rfl⟩ := accept_eq_ok.1 accepted
    exact ⟨passes, done⟩
  · rintro ⟨passes, done⟩
    exact ⟨(), store, accept_eq_ok.2 ⟨passes, rfl⟩, done⟩

/-- Whether a piece of work succeeds, with an outcome that passes a test. -/
def passes {ε σ α : Type} (test : α → σ → Bool) : EStateM.Result ε σ α → Bool
  | .ok value state => test value state
  | .error _ _ => false

theorem exists_of_passes {ε σ α : Type} {test : α → σ → Bool} {result : EStateM.Result ε σ α}
    (passed : passes test result = true) :
    ∃ value state, result = .ok value state ∧ test value state = true := by
  cases result with
  | ok value state => exact ⟨value, state, rfl, passed⟩
  | error failure state => cases passed

/-- Whether a piece of work fails, and how. -/
def fails {ε σ α : Type} [DecidableEq ε] (failure : ε) : EStateM.Result ε σ α → Bool
  | .ok _ _ => false
  | .error other _ => other = failure

theorem exists_of_fails {ε σ α : Type} [DecidableEq ε] {failure : ε} {result : EStateM.Result ε σ α}
    (failed : fails failure result = true) : ∃ state, result = .error failure state := by
  cases result with
  | ok value state => cases failed
  | error other state =>
    rw [← of_decide_eq_true failed]
    exact ⟨state, rfl⟩

theorem readText_of_read {store : Store} {path : Path} {bytes : Bytes}
    (read : store.files.read (utf8 path) = .ok bytes) :
    readText path store = match bytes.text? with
      | some text => .ok text store
      | none => .error (.io .notUtf8) store := by
  unfold readText FileSystem.readText
  rw [read]
  dsimp only
  cases bytes.text? <;> rfl

theorem readText_cases (path : Path) (store : Store) :
    (∃ failure, readText path store = .error failure store) ∨
    ∃ text, readText path store = .ok text store ∧
      store.files.read (utf8 path) = .ok (utf8 text) := by
  cases read : store.files.read (utf8 path) with
  | ok bytes =>
    rw [readText_of_read read]
    cases found : bytes.text? with
    | none => exact .inl ⟨_, rfl⟩
    | some text => exact .inr ⟨text, rfl, by rw [Bytes.text?_eq_some_iff.1 found]⟩
  | error cause =>
    refine .inl ?_
    unfold readText FileSystem.readText
    rw [read]
    cases cause <;> exact ⟨_, rfl⟩

theorem readText_of_passes {path : Path} {store : Store} {expected : String}
    (passed : passes (fun text _ => text == expected) (readText path store) = true) :
    readText path store = .ok expected store := by
  rcases readText_cases path store with ⟨failure, failed⟩ | ⟨text, read, -⟩
  · rw [failed] at passed
    cases passed
  · rw [read] at passed ⊢
    rw [eq_of_beq passed]

/-! ## Work that changes no files -/

/-- Whatever comes of the work, the files are as they were. -/
def Quiet {α : Type} (work : Work α) : Prop := ∀ store, (leftBy (work store)).files = store.files

namespace Quiet

variable {α β : Type}

theorem pure (value : α) : Quiet (pure value : Work α) := fun _ => rfl

theorem throw (failure : Failure) : Quiet (throw failure : Work α) := fun _ => rfl

theorem bind {first : Work α} {next : α → Work β} (one : Quiet first)
    (other : ∀ value, Quiet (next value)) : Quiet (first >>= next) := by
  intro store
  have before := one store
  rw [bind_apply]
  cases done : first store with
  | error failure between =>
    rw [done] at before
    exact before
  | ok value between =>
    rw [done] at before
    exact (other value between).trans before

theorem tell (event : Event) : Quiet (tell event) := fun _ => rfl

theorem accept (checked : Except NameFault Unit) : Quiet (accept checked) := by
  intro store
  unfold Work.accept
  split <;> rfl

theorem query (ask : FileSystem → Except FileError α) : Quiet (query ask) := by
  intro store
  unfold Work.query
  split <;> rfl

theorem readText (path : Path) : Quiet (readText path) := by
  intro store
  unfold Work.readText
  split <;> rfl

/-- What quiet work leaves when it succeeds. -/
theorem files_eq {work : Work α} {value : α} {store after : Store} (quiet : Quiet work)
    (done : work store = .ok value after) : after.files = store.files := by
  have same := quiet store
  rw [done] at same
  exact same

end Quiet

end Work

end SheetCabinet
