import SheetCabinet.Text.Numeral

/-!
# Dates and times

A time is shown by its date in the Gregorian calendar and the time of day. Where the date of a day
is looked for, years are counted from March, so that the leap day is the last day of a year, and
four centuries make one era of always the same length.
-/

namespace SheetCabinet.CommandLine

structure Date where
  year : Int
  month : Nat
  day : Nat
deriving DecidableEq, Repr

namespace Date

def eraLength : Nat := 146097

/-- The number of days from the first of March of the year 0 to the first of January 1970. -/
def epoch : Nat := 719468

/-- The year of an era, counted from 0, in which a day of the era is. -/
def yearOfEra (day : Nat) : Nat := (day - day / 1460 + day / 36524 - day / 146096) / 365

/-- The number of days of an era before a year of it. -/
def daysBefore (year : Nat) : Nat := 365 * year + year / 4 - year / 100

/-- The date of a day counted from the first of January 1970. -/
def ofDay (days : Int) : Date :=
  let shifted := days + epoch
  let era := shifted / eraLength
  let day := (shifted % eraLength).toNat
  let year := yearOfEra day
  let dayOfYear := day - daysBefore year
  let march := (5 * dayOfYear + 2) / 153
  let month := if march < 10 then march + 3 else march - 9
  { year := era * 400 + year + if month ≤ 2 then 1 else 0
    month := month
    day := dayOfYear - (153 * march + 2) / 5 + 1 }

def isLeap (year : Int) : Bool := year % 4 = 0 && (year % 100 ≠ 0 || year % 400 = 0)

/-- The first day of a year, counted from the first of January 1970. -/
def newYear (year : Int) : Int :=
  365 * (year - 1970) + (year - 1) / 4 - (year - 1) / 100 + (year - 1) / 400 - 477

def daysInMonth (year : Int) (month : Nat) : Int :=
  if month = 2 then if isLeap year then 29 else 28
  else if month = 4 ∨ month = 6 ∨ month = 9 ∨ month = 11 then 30
  else 31

def daysBeforeMonth (year : Int) (month : Nat) : Int :=
  (List.range' 1 (month - 1)).foldl (fun days month => days + daysInMonth year month) 0

example : newYear 1970 = 0 ∧ ofDay (newYear 2001) = ⟨2001, 1, 1⟩ := by decide
example : ofDay (newYear 2000 + daysBeforeMonth 2000 3) = ⟨2000, 3, 1⟩ := by decide
example : ofDay 0 = ⟨1970, 1, 1⟩ ∧ ofDay (-1) = ⟨1969, 12, 31⟩ := by decide
example : ofDay 11016 = ⟨2000, 2, 29⟩ ∧ ofDay 11017 = ⟨2000, 3, 1⟩ := by decide

end Date

/-- The digits of a number, with zeros in front of them up to a width. -/
def padded (width n : Nat) : String :=
  let digits := decimal n
  String.ofList (List.replicate (width - digits.length) '0' ++ digits)

/-- The number of a year: four digits, or a sign and at least four digits. -/
def showYear (year : Int) : String :=
  if 0 ≤ year ∧ year ≤ 9999 then padded 4 year.toNat
  else (if year < 0 then "-" else "+") ++ padded 4 year.natAbs

/-- A time, given in seconds since 1970. -/
def showTime (seconds : Int) : String :=
  let date := Date.ofDay (seconds / 86400)
  let second := (seconds % 86400).toNat
  showYear date.year ++ "-" ++ padded 2 date.month ++ "-" ++ padded 2 date.day ++ " " ++
    padded 2 (second / 3600) ++ ":" ++ padded 2 (second / 60 % 60) ++ ":" ++ padded 2 (second % 60)

example : showTime 951782399 = "2000-02-28 23:59:59" := by decide +kernel
example : showTime (-1) = "1969-12-31 23:59:59" := by decide +kernel

end SheetCabinet.CommandLine
