import SheetCabinet.CommandLine.Calendar

/-!
# Time zones

A time zone is described by a short text: a name for it and how far it is behind universal time,
as in `XYZ-5:30`. If clocks are changed in summer, a name for that time follows, its own distance
unless it is an hour less, and the days on which it begins and ends, as in
`EST5EDT,M3.2.0,M11.1.0`.
-/

namespace SheetCabinet.CommandLine

/-! ## Days on which clocks are changed -/

/-- How the day of the year is told on which clocks are changed. -/
inductive ChangeDay
  /-- The first, second and so on of some weekday in a month, or the last if it is the fifth. The
  week starts with day 0, a Sunday. -/
  | weekday (month week day : Nat)
  /-- A day of the year counted from 1, if leap days are left out. -/
  | leapless (day : Nat)
  /-- A day of the year counted from 0. -/
  | ordinal (day : Nat)
deriving DecidableEq, Repr

/-- The weekday of a day counted from the first of January 1970, a Thursday. -/
def weekdayOf (day : Int) : Int := (day + 4) % 7

/-- The day that a rule tells for a year, counted from the first of January 1970. -/
def ChangeDay.dayIn (year : Int) : ChangeDay → Int
  | .weekday month week day =>
    let first := Date.newYear year + Date.daysBeforeMonth year month
    let told := first + (day - weekdayOf first) % 7 + 7 * (week - 1)
    if first + Date.daysInMonth year month ≤ told then told - 7 else told
  | .leapless day =>
    Date.newYear year + day - if 60 ≤ day ∧ Date.isLeap year then 0 else 1
  | .ordinal day => Date.newYear year + day

/-! ## Zones -/

/-- A change of the clocks: on which day, and at which second of it by the clocks. -/
structure Change where
  day : ChangeDay
  time : Int := 7200
deriving DecidableEq, Repr

/-- When a change is made in a year, in seconds since 1970. -/
def Change.momentIn (change : Change) (offset year : Int) : Int :=
  change.day.dayIn year * 86400 + change.time - offset

structure SummerTime where
  /-- The seconds that clocks are ahead of universal time. -/
  offset : Int
  start : Change
  finish : Change
deriving DecidableEq, Repr

structure TimeZone where
  /-- The seconds that clocks are ahead of universal time. -/
  offset : Int := 0
  summer : Option SummerTime := none
deriving DecidableEq, Repr

namespace TimeZone

/-- Whether summer time is in force in a zone at some moment. The summers that matter are those of
the year, and of the years before and after it; where summer goes across the new year, they are the
winters. -/
def isSummer (zone : TimeZone) (summer : SummerTime) (seconds : Int) : Bool :=
  let year := (Date.ofDay (seconds / 86400)).year
  let start := summer.start.momentIn zone.offset
  let finish := summer.finish.momentIn summer.offset
  let years := [year - 1, year, year + 1]
  if start year ≤ finish year then
    years.any fun year => start year ≤ seconds && seconds < finish year
  else
    !years.any fun year => finish year ≤ seconds && seconds < start year

/-- The seconds that clocks are ahead of universal time at some moment. -/
def offsetAt (zone : TimeZone) (seconds : Int) : Int :=
  match zone.summer with
  | none => zone.offset
  | some summer => if zone.isSummer summer seconds then summer.offset else zone.offset

def localTime (zone : TimeZone) (seconds : Int) : String := showTime (seconds + zone.offsetAt seconds)

/-! ## Reading a description -/

def isZoneName (name : List Char) : Bool :=
  3 ≤ name.length && name.length ≤ 7 && name.all fun c => c.isAlphanum || c = '+' || c = '-'

/-- Reads the name of a time, which stands in angle brackets if there is more in it than letters:
what comes after it. -/
def afterZoneName (text : List Char) : Option (List Char) :=
  match text with
  | '<' :: quoted =>
    match quoted.dropWhile (· ≠ '>') with
    | [] => none
    | _ :: rest => if isZoneName (quoted.takeWhile (· ≠ '>')) then some rest else none
  | _ =>
    if isZoneName (text.takeWhile Char.isAlpha) then some (text.dropWhile Char.isAlpha) else none

/-- Reads a number that is neither below nor above what is said. -/
def readNumber (least most : Nat) (text : List Char) : Option (Nat × List Char) :=
  let digits := text.takeWhile Char.isDigit
  match atMost? most 0 digits with
  | some value =>
    if digits ≠ [] ∧ least ≤ value then some (value, text.dropWhile Char.isDigit) else none
  | none => none

/-- Reads a sign, and a number behind it. -/
def readAfter (sign : Char) (least most : Nat) (text : List Char) : Option (Nat × List Char) :=
  match text with
  | c :: rest => if c = sign then readNumber least most rest else none
  | [] => none

/-- Reads minutes or seconds behind a colon, if there is one. -/
def readSixtieth (text : List Char) : Option (Nat × List Char) :=
  if text.head? = some ':' then readAfter ':' 0 59 text else some (0, text)

/-- Reads hours, and minutes and seconds if they are given: the seconds in all. -/
def readClock (text : List Char) : Option (Int × List Char) := do
  let (hours, rest) ← readNumber 0 24 text
  let (minutes, rest) ← readSixtieth rest
  let (seconds, rest) ← readSixtieth rest
  return (hours * 3600 + minutes * 60 + seconds, rest)

/-- Reads how far clocks are behind universal time: the seconds that they are ahead. -/
def readOffset (text : List Char) : Option (Int × List Char) :=
  match text with
  | '-' :: rest => readClock rest
  | _ => (readClock (unsigned text)).map fun (behind, rest) => (-behind, rest)

/-- Whether clocks can be so many seconds ahead of universal time: by less than a day. -/
def isOffset (seconds : Int) : Bool := seconds.natAbs < 86400

def readDay (text : List Char) : Option (ChangeDay × List Char) :=
  match text with
  | 'M' :: rest => do
    let (month, rest) ← readNumber 1 12 rest
    let (week, rest) ← readAfter '.' 1 5 rest
    let (day, rest) ← readAfter '.' 0 6 rest
    return (.weekday month week day, rest)
  | 'J' :: rest => (readNumber 1 365 rest).map fun (day, rest) => (.leapless day, rest)
  | _ => (readNumber 0 365 text).map fun (day, rest) => (.ordinal day, rest)

def readChange (text : List Char) : Option (Change × List Char) :=
  match text with
  | ',' :: text => do
    let (day, rest) ← readDay text
    match rest with
    | '/' :: rest => do
      let (time, rest) ← readClock rest
      return (⟨day, time⟩, rest)
    | _ => return (⟨day, 7200⟩, rest)
  | _ => none

/-- Reads the description of summer time, for clocks that are otherwise ahead by some seconds. -/
def readSummer (usual : Int) (text : List Char) : Option SummerTime := do
  let rest ← afterZoneName text
  let (offset, rest) ←
    if rest.head? = some ',' then some (usual + 3600, rest) else readOffset rest
  let (start, rest) ← readChange rest
  let (finish, rest) ← readChange rest
  if rest = [] ∧ isOffset offset then some ⟨offset, start, finish⟩ else none

/-- White space that may stand around a description. -/
def isGap (c : Char) : Bool := c = ' ' || c = '\t' || c = '\n' || c = '\x0c' || c = '\r'

/-- The time zone that a text describes. -/
def parse (text : String) : Option TimeZone := do
  let body := ((text.toList.dropWhile isGap).reverse.dropWhile isGap).reverse
  let rest ← afterZoneName body
  let (offset, rest) ← readOffset rest
  guard (isOffset offset)
  if rest = [] then return { offset := offset }
  let summer ← readSummer offset rest
  return { offset := offset, summer := some summer }

/-- The time zone that a text describes, and universal time if there is none. -/
def choose (text : Option String) : TimeZone := (text.bind parse).getD {}

example : parse "XYZ-5:30" = some { offset := 19800 } := by decide +kernel
example : parse "UTC" = none ∧ parse "XY3" = none ∧ parse "XYZ24" = none := by decide +kernel
example : (choose (some "EST5EDT,M3.2.0,M11.1.0")).localTime 1205045999 = "2008-03-09 01:59:59" ∧
    (choose (some "EST5EDT,M3.2.0,M11.1.0")).localTime 1205046000 = "2008-03-09 03:00:00" := by
  decide +kernel

end TimeZone

end SheetCabinet.CommandLine
