import CypherText.Number.Numeral

/-!
# Dates

Dates of the Gregorian calendar, extended to all years from 1 to 9999. `ordinal` counts days, so
dates can be compared and moved across months and years.
-/

namespace CypherText

/-- A calendar date. -/
structure Date where
  year : Nat
  month : Nat
  day : Nat
  deriving DecidableEq, Repr

namespace Date

/-- Every fourth year is a leap year, except the full centuries that 400 does not divide. -/
def isLeap (year : Nat) : Bool :=
  year % 4 = 0 && (year % 100 != 0 || year % 400 = 0)

/-- The number of days of a month. -/
def monthLength (year month : Nat) : Nat :=
  if month = 2 then (if isLeap year then 29 else 28)
  else if month = 4 ∨ month = 6 ∨ month = 9 ∨ month = 11 then 30
  else 31

/-- Days in the years before `year`, counted from year 1. -/
def daysBeforeYear (year : Nat) : Nat :=
  let past := year - 1
  past * 365 + past / 4 - past / 100 + past / 400

/-- Days in the months of `year` before `month`. -/
def daysBeforeMonth (year month : Nat) : Nat :=
  (List.range (month - 1)).foldl (fun days index => days + monthLength year (index + 1)) 0

/-- The number of the day, where the first of January of year 1 has number 0. -/
def ordinal (d : Date) : Nat :=
  daysBeforeYear d.year + daysBeforeMonth d.year d.month + (d.day - 1)

/-- Splits the days since the start of a period into whole years and the days past them. A
period of 400 years has three leap years less than one in four, which its first three centuries
lack; the fourth century and the fourth year are one day longer than those before them. -/
def splitYears (days : Nat) : Nat × Nat :=
  let century := min 3 (days % 146097 / 36524)
  let past := days % 146097 - century * 36524
  let year := min 3 (past % 1461 / 365)
  (days / 146097 * 400 + century * 100 + past / 1461 * 4 + year, past % 1461 - year * 365)

/-- The month and the day of a day of the year, which is counted from 0; `month` is the first
month that comes into question, of the `left` remaining ones. -/
def splitMonths (year : Nat) : Nat → Nat → Nat → Nat × Nat
  | 0, month, day => (month, day + 1)
  | left + 1, month, day =>
    let length := monthLength year month
    if day < length then (month, day + 1) else splitMonths year left (month + 1) (day - length)

/-- The date whose day has the given number. -/
def ofOrdinal (number : Nat) : Date :=
  let (years, day) := splitYears number
  let (month, day) := splitMonths (years + 1) 11 1 day
  ⟨years + 1, month, day⟩

/-- Whether the month and the day occur in the year. -/
def hasDay (d : Date) : Bool :=
  1 ≤ d.month && d.month ≤ 12 && 1 ≤ d.day && d.day ≤ monthLength d.year d.month

/-- Whether the date is one of the calendar. -/
def isValid (d : Date) : Bool :=
  1 ≤ d.year && d.year ≤ 9999 && d.hasDay

/-- The number of days from year 1 to year 9999. -/
def calendarLength : Nat :=
  daysBeforeYear 10000

/-- The date a whole number of days earlier, if the calendar has it. -/
def earlier? (d : Date) (days : Int) : Option Date :=
  let number := (d.ordinal : Int) - days
  if 0 ≤ number ∧ number < calendarLength then some (ofOrdinal number.toNat) else none

/-- The date as ISO text. -/
def isoText (d : Date) : String :=
  Numeral.pad 4 d.year ++ "-" ++ Numeral.pad 2 d.month ++ "-" ++ Numeral.pad 2 d.day

/-- The arguments of a date that is shown as a constructor call. -/
def inspectArguments (d : Date) : List String :=
  [toString d.year, toString d.month, toString d.day]

/-- The date as it is shown inside a container: as a constructor call. -/
def inspect (d : Date) : String :=
  "datetime.date(" ++ ", ".intercalate d.inspectArguments ++ ")"

end Date

end CypherText
