import SheetCabinet.Json.Token

/-!
# Values of JSON

A value is read token by token. What surrounds the place that was reached is kept as a stack of
frames, so that values may be nested as deeply as the text says.

Results:
* a text is a value exactly when its tokens lead, step by step, to a value that is part of nothing
  (`parse_eq_some_iff`).
-/

namespace SheetCabinet

inductive Json
  | null
  | bool (value : Bool)
  | number
  /-- A string, with its text if it is one. -/
  | string (text : Option String)
  | array (items : List Json)
  /-- The members of an object in the order they were written in, repeated keys included. -/
  | object (members : List (Option String × Json))

namespace Json

/-- What a value is part of; what was read before it comes last first. -/
inductive Frame
  | item (before : List Json)
  | member (before : List (Option String × Json)) (key : Option String)

inductive Progress
  /-- A value comes next; or the end of the list it would be the first item of. -/
  | atValue (around : List Frame) (maybeNone : Bool)
  /-- A key comes next; or the end of the object it would be the first key of. -/
  | atKey (around : List Frame) (before : List (Option String × Json)) (maybeNone : Bool)
  | atColon (around : List Frame) (before : List (Option String × Json)) (key : Option String)
  /-- A value was read to its end. -/
  | after (around : List Frame) (value : Json)

namespace Progress

def simple? : Token → Option Json
  | .null => some .null
  | .bool value => some (.bool value)
  | .number => some .number
  | .string text => some (.string text)
  | _ => none

/-- One more token where a value comes next. -/
def startValue (around : List Frame) (maybeNone : Bool) (token : Token) : Option Progress :=
  match token with
  | .openArray => some (.atValue (.item [] :: around) true)
  | .openObject => some (.atKey around [] true)
  | .closeArray =>
    match maybeNone, around with
    | true, .item before :: outer => some (.after outer (.array before.reverse))
    | _, _ => none
  | _ => (simple? token).map (.after around)

/-- One more token after a value that is part of something. -/
def leaveValue (frame : Frame) (outer : List Frame) (value : Json) (token : Token) :
    Option Progress :=
  match frame, token with
  | .item before, .comma => some (.atValue (.item (value :: before) :: outer) false)
  | .item before, .closeArray => some (.after outer (.array (value :: before).reverse))
  | .member before key, .comma => some (.atKey outer ((key, value) :: before) false)
  | .member before key, .closeObject =>
    some (.after outer (.object ((key, value) :: before).reverse))
  | _, _ => none

/-- One more token. -/
def step : Progress → Token → Option Progress
  | .atValue around maybeNone, token => startValue around maybeNone token
  | .atKey around before _, .string key => some (.atColon around before key)
  | .atKey around before true, .closeObject => some (.after around (.object before.reverse))
  | .atColon around before key, .colon => some (.atValue (.member before key :: around) false)
  | .after (frame :: outer) value, token => leaveValue frame outer value token
  | _, _ => none

/-- The value, if it is read to its end and is part of nothing. -/
def whole? : Progress → Option Json
  | .after [] value => some value
  | _ => none

end Progress

def parse (text : List Char) : Option Json :=
  ((tokens? text).bind fun tokens => tokens.foldlM Progress.step (.atValue [] false)).bind
    Progress.whole?

theorem parse_eq_some_iff {text : List Char} {value : Json} :
    parse text = some value ↔
      ∃ tokens, tokens? text = some tokens ∧
        tokens.foldlM Progress.step (.atValue [] false) = some (.after [] value) := by
  have whole : ∀ {progress : Progress}, progress.whole? = some value ↔
      progress = .after [] value := by
    intro progress
    unfold Progress.whole?
    split
    · simp
    · rename_i other
      simp only [reduceCtorEq, false_iff]
      exact other value
  simp only [parse, Option.bind_eq_some_iff, whole]
  constructor
  · rintro ⟨_, ⟨tokens, read, folded⟩, rfl⟩
    exact ⟨tokens, read, folded⟩
  · rintro ⟨tokens, read, folded⟩
    exact ⟨_, ⟨tokens, read, folded⟩, rfl⟩

example : (parse "[[], \x7b\"a\": [null, 1]\x7d]".toList).isSome := by decide +kernel
example : (parse "[1,]".toList).isNone ∧ (parse "[] []".toList).isNone := by decide +kernel

end Json

end SheetCabinet
