import CypherText.Time.Clock
import CypherText.Time.Date

/-!
# Timestamps

A timestamp is a date with a time of day. One without an offset is taken as local time, and can get
the local offset wherever the calendar leaves room for the conversion.
-/

namespace CypherText

/-- A point in time, as a date and a time of day. -/
structure Timestamp where
  date : Date
  clock : Clock
  deriving DecidableEq, Repr

namespace Timestamp

/-- Microseconds in a day. -/
def dayLength : Nat := 86400000000

/-- Microseconds since the start of year 1, in the timestamp's own zone. -/
def sinceYearOne (t : Timestamp) : Nat :=
  t.date.ordinal * dayLength + t.clock.sinceMidnight

/-- The first moment past the calendar: the start of year 10000. -/
def endOfCalendar : Nat :=
  Date.calendarLength * dayLength

/-- Whether a naive timestamp can be given the local offset (in seconds east of UTC). The offset
must be less than a day. The conversion looks at one side of the timestamp as far as the size of the
offset, and at the other one a whole day, and must not leave the calendar: usually the day lies
before the timestamp, but behind it if the second of two equal local times is meant. -/
def isConvertible (localOffset : Int) (t : Timestamp) : Bool :=
  let size := localOffset.natAbs * 1000000
  let before := if t.clock.isLater then size else dayLength
  let behind := if t.clock.isLater then dayLength else size
  localOffset.natAbs < 86400 && before ≤ t.sinceYearOne && t.sinceYearOne + behind < endOfCalendar

/-- Whether a timestamp is converted to local time: it has no offset, and the conversion is
possible.
-/
def isConverted (localOffset : Int) (t : Timestamp) : Bool :=
  t.clock.zone.offset?.isNone && t.isConvertible localOffset

/-- The timestamp with an offset: its own, or the local one if it is converted. -/
def localized (localOffset : Int) (t : Timestamp) : Timestamp :=
  if t.isConverted localOffset then
    { t with clock := { t.clock with zone := .offset (localOffset * 1000000), isLater := false } }
  else t

/-- The timestamp that lies so many microseconds after the start of year 1, as clocks of the
given zone show it, if the calendar has it. -/
def ofSinceYearOne? (zone : Zone) (microseconds : Int) : Option Timestamp :=
  if 0 ≤ microseconds ∧ microseconds < endOfCalendar then
    let past := microseconds.toNat
    some ⟨.ofOrdinal (past / dayLength), .ofSinceMidnight zone (past % dayLength)⟩
  else
    none

/-- The timestamp as ISO text, with `separator` between date and time. -/
def isoTextWith (separator : String) (t : Timestamp) : String :=
  t.date.isoText ++ separator ++ t.clock.isoText

/-- The timestamp as ISO text. -/
def isoText (t : Timestamp) : String :=
  t.isoTextWith "T"

/-- The timestamp as it is shown inside a container: as a constructor call. -/
def inspect (t : Timestamp) : String :=
  let arguments := t.date.inspectArguments ++ t.clock.inspectArguments ++ t.clock.inspectLater ++
    t.clock.zone.inspectArguments
  "datetime.datetime(" ++ ", ".intercalate arguments ++ ")"

/-- The moment in microseconds of UTC since the start of year 1, if the timestamp has an offset.
-/
def instant? (t : Timestamp) : Option Int :=
  t.clock.zone.offset?.map fun offset => (t.sinceYearOne : Int) - offset

/-- The duration from `u` to `t`: between the moments that they name, or between what naive
clocks show. A naive timestamp has no distance from one with an offset. -/
def minus? (t u : Timestamp) : Option Duration :=
  match t.instant?, u.instant? with
  | some late, some early => some ⟨late - early⟩
  | none, none => some ⟨(t.sinceYearOne : Int) - u.sinceYearOne⟩
  | _, _ => none

/-- The timestamp a duration earlier, in the same zone, if the calendar has it. -/
def earlier? (t : Timestamp) (d : Duration) : Option Timestamp :=
  ofSinceYearOne? t.clock.zone ((t.sinceYearOne : Int) - d.microseconds)

end Timestamp

end CypherText
