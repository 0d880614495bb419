import CypherText.Time.Duration

/-!
# Time zones

A time of day either has a fixed offset from UTC or is naive. A naive time may still carry a
zone, one that reports no offset; it is written like any other naive time.
-/

namespace CypherText

/-- What is known about the zone of a time. -/
inductive Zone where
  /-- No zone. -/
  | naive
  /-- A zone that reports no offset. -/
  | silent
  /-- A fixed offset east of UTC, in microseconds. -/
  | offset (microseconds : Int)
  deriving DecidableEq, Repr

namespace Zone

/-- The offset, if there is one. -/
def offset? : Zone → Option Int
  | offset microseconds => some microseconds
  | _ => none

/-- An offset as text: sign, hours and minutes, then seconds and microseconds as far as they are
needed. -/
def offsetText (microseconds : Int) : String :=
  let size := microseconds.natAbs
  let seconds := size / 1000000
  let fraction := size % 1000000
  let tail :=
    if fraction ≠ 0 then ":" ++ Numeral.pad 2 (seconds % 60) ++ "." ++ Numeral.pad 6 fraction
    else if seconds % 60 ≠ 0 then ":" ++ Numeral.pad 2 (seconds % 60)
    else ""
  (if microseconds < 0 then "-" else "+") ++ Numeral.pad 2 (seconds / 3600) ++ ":" ++
    Numeral.pad 2 (seconds / 60 % 60) ++ tail

/-- The offset as text; a naive time has none. -/
def text (zone : Zone) : String :=
  match zone.offset? with
  | some microseconds => offsetText microseconds
  | none => ""

/-- The last argument of a time that is shown as a constructor call. -/
def inspectArguments (zone : Zone) : List String :=
  match zone.offset? with
  | none => []
  | some microseconds =>
    if microseconds = 0 then ["tzinfo=datetime.timezone.utc"]
    else ["tzinfo=datetime.timezone(" ++ (Duration.mk microseconds).inspect ++ ")"]

/-- How many texts are made inside one another to show the zone. -/
def levels (zone : Zone) : Nat :=
  match zone.offset? with
  | none => 0
  | some microseconds => if microseconds = 0 then 1 else 2

end Zone

end CypherText
