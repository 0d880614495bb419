import CypherText.Number.Numeral

/-!
# Durations

A duration is a whole number of microseconds. It is written in days, seconds and microseconds of
which only the days may be negative.
-/

namespace CypherText

/-- A span of time in microseconds. -/
structure Duration where
  microseconds : Int
  deriving DecidableEq, Repr

namespace Duration

/-- Microseconds in a second. -/
def second : Int := 1000000

/-- Microseconds in a day. -/
def day : Int := 86400 * second

/-- The duration of a number of days. -/
def ofDays (days : Int) : Duration :=
  ⟨days * day⟩

/-- The whole days, rounded down. -/
def days (d : Duration) : Int :=
  d.microseconds.fdiv day

/-- The seconds past the whole days. -/
def seconds (d : Duration) : Nat :=
  ((d.microseconds.fmod day).fdiv second).toNat

/-- The microseconds past the whole seconds. -/
def fraction (d : Duration) : Nat :=
  (d.microseconds.fmod second).toNat

/-- The greatest number of whole days, in both directions. -/
def maxDays : Int := 999999999

/-- Whether a duration is not too long. -/
def isInRange (d : Duration) : Bool :=
  -maxDays ≤ d.days && d.days ≤ maxDays

/-- The difference of two durations, if it is not too long. -/
def minus? (d e : Duration) : Option Duration :=
  let difference : Duration := ⟨d.microseconds - e.microseconds⟩
  if difference.isInRange then some difference else none

/-- The days with their unit; nothing if there are none. -/
def daysText (count : Int) : String :=
  if count = 0 then ""
  else toString count ++ (if count.natAbs = 1 then " day, " else " days, ")

/-- The duration as it is displayed: days, hours, minutes, seconds, and the microseconds if
there are any. -/
def display (d : Duration) : String :=
  let clock := toString (d.seconds / 3600) ++ ":" ++ Numeral.pad 2 (d.seconds / 60 % 60) ++ ":" ++
    Numeral.pad 2 (d.seconds % 60)
  let fraction := if d.fraction = 0 then "" else "." ++ Numeral.pad 6 d.fraction
  daysText d.days ++ clock ++ fraction

/-- The duration as it is shown inside a container: as a constructor call with the parts that
are not zero. -/
def inspect (d : Duration) : String :=
  let part (label : String) (value : Int) := if value = 0 then [] else [label ++ toString value]
  let parts := part "days=" d.days ++ part "seconds=" d.seconds ++ part "microseconds=" d.fraction
  "datetime.timedelta(" ++ (if parts.isEmpty then "0" else ", ".intercalate parts) ++ ")"

end Duration

end CypherText
