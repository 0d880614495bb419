import CypherText.Time.Zone

/-!
# Times of day

Where clocks are set back, local time comes twice. A time of day says which of the two it means;
this matters only where it is converted from local time.
-/

namespace CypherText

/-- A time of day, with what is known about its zone. -/
structure Clock where
  hour : Nat
  minute : Nat
  second : Nat
  microsecond : Nat
  zone : Zone
  /-- Whether the second of two equal local times is meant. -/
  isLater : Bool
  deriving DecidableEq, Repr

namespace Clock

/-- The time as ISO text, without the offset; microseconds only if there are any. -/
def timeText (c : Clock) : String :=
  Numeral.pad 2 c.hour ++ ":" ++ Numeral.pad 2 c.minute ++ ":" ++ Numeral.pad 2 c.second ++
    (if c.microsecond = 0 then "" else "." ++ Numeral.pad 6 c.microsecond)

/-- The time as ISO text. -/
def isoText (c : Clock) : String :=
  c.timeText ++ c.zone.text

/-- Microseconds since midnight. -/
def sinceMidnight (c : Clock) : Nat :=
  ((c.hour * 60 + c.minute) * 60 + c.second) * 1000000 + c.microsecond

/-- The whole seconds past midnight in UTC of a time with the given offset, where a fraction of
a second in the offset is rounded down and that in the time is left out. -/
def secondsInUtc (c : Clock) (offset : Int) : Int :=
  ((c.hour * 60 + c.minute) * 60 + c.second : Nat) - offset.fdiv 1000000

/-- The time of day that lies so many microseconds after midnight. -/
def ofSinceMidnight (zone : Zone) (microseconds : Nat) : Clock :=
  let seconds := microseconds / 1000000
  ⟨seconds / 3600, seconds / 60 % 60, seconds % 60, microseconds % 1000000, zone, false⟩

/-- Whether every part of the time is in its range. -/
def isValid (c : Clock) : Bool :=
  c.hour < 24 && c.minute < 60 && c.second < 60 && c.microsecond < 1000000

/-- The first arguments of a time that is shown as a constructor call: seconds are left out if they
and the microseconds are zero, microseconds if they are. -/
def inspectArguments (c : Clock) : List String :=
  let seconds := if c.second = 0 ∧ c.microsecond = 0 then [] else [toString c.second]
  let microseconds := if c.microsecond = 0 then [] else [toString c.microsecond]
  [toString c.hour, toString c.minute] ++ seconds ++ microseconds

/-- The argument that is only there for the second of two equal local times. -/
def inspectLater (c : Clock) : List String :=
  if c.isLater then ["fold=1"] else []

/-- The time as it is shown inside a container: as a constructor call. -/
def inspect (c : Clock) : String :=
  let arguments := c.inspectArguments ++ c.zone.inspectArguments ++ c.inspectLater
  "datetime.time(" ++ ", ".intercalate arguments ++ ")"

end Clock

end CypherText
