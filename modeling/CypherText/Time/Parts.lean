import CypherText.Number.Double.Arithmetic
import CypherText.Time.Timestamp

/-!
# Times from their parts

Dates, times of day, timestamps, durations and zones are made from numbers. Too many or too few
numbers, and anything else in place of a number, make nothing; and neither do numbers that the
calendar, the clock or the zones do not have. Only a duration may have parts with a fraction.
-/

namespace CypherText

/-- What stands where a number of a time is expected. -/
inductive TimePart where
  | whole (value : Int)
  | double (value : Double)
  /-- Anything that is no number. -/
  | other
  deriving DecidableEq, Repr

namespace TimePart

/-- The whole number, which has to fit into 32 bits. -/
def number : TimePart → Except Failure Int
  | whole n => if -(Nat.pow 2 31) ≤ n ∧ n < Nat.pow 2 31 then .ok n else .error .outOfRange
  | _ => .error .meaningless

/-- The numbers among the parts, of which there have to be at least `least`. They are looked at
one after the other, and only the first `most` parts may be numbers; further ones are refused,
and more than `places` at once. -/
def numbers (least most places : Nat) (parts : List TimePart) : Except Failure (List Int) := do
  if places < parts.length then throw .meaningless
  let numbers ← (parts.take most).mapM number
  if most < parts.length ∨ numbers.length < least then throw .meaningless
  return numbers

end TimePart

namespace Date

/-- The date of a year, a month and a day. -/
def ofNumbers (numbers : List Int) : Except Failure Date :=
  let number (index : Nat) := (numbers.getD index 0).toNat
  let date : Date := ⟨number 0, number 1, number 2⟩
  if date.isValid then .ok date else .error .noSuchTime

/-- The date that is made from parts. -/
def ofParts (parts : List TimePart) : Except Failure Date := do
  ofNumbers (← TimePart.numbers 3 3 3 parts)

end Date

namespace Clock

/-- The time of day of an hour, a minute, a second and microseconds. Missing ones are zero. -/
def ofNumbers (zone : Zone) (numbers : List Int) : Except Failure Clock :=
  let number (index : Nat) := (numbers.getD index 0).toNat
  let clock : Clock := ⟨number 0, number 1, number 2, number 3, zone, false⟩
  if numbers.all (0 ≤ ·) && clock.isValid then .ok clock else .error .noSuchTime

/-- The time of day that is made from parts. -/
def ofParts (zone : Zone) (parts : List TimePart) : Except Failure Clock := do
  ofNumbers zone (← TimePart.numbers 0 4 5 parts)

end Clock

namespace Timestamp

/-- The timestamp that is made from parts: those of its date and then those of its time of day.
A zone comes behind the numbers, where no further number may stand. -/
def ofParts (zone : Zone) (parts : List TimePart) : Except Failure Timestamp := do
  let numbers ← TimePart.numbers 3 7 8 parts
  let date ← Date.ofNumbers (numbers.take 3)
  let clock ← Clock.ofNumbers zone (numbers.drop 3)
  return ⟨date, clock⟩

end Timestamp

namespace Duration

/-- A number of microseconds while it is computed: whole ones, and a double that is still to be
added. -/
structure Count where
  whole : Int
  fraction : Double
  deriving DecidableEq, Repr

namespace Count

/-- No microseconds. -/
def zero : Count :=
  ⟨0, .signed false 0⟩

/-- The count with so many units of the given size, of which those behind the point are turned
into microseconds as a double. -/
def addDouble (count : Count) (size : Nat) (d : Double) : Except Failure Count :=
  match d.classify, d.splitPoint? with
  | _, some (whole, past) =>
    let more := past.scaled size 1
    match more.splitPoint? with
    | some (extra, rest) =>
      .ok ⟨count.whole + whole * size + extra, count.fraction.add rest⟩
    | none => .error .outOfRange
  | .infinite _, none => .error .outOfRange
  | _, none => .error .noNumber

/-- The count with so many units of the given size. -/
def addPart (count : Count) (size : Nat) : TimePart → Except Failure Count
  | .whole n => .ok { count with whole := count.whole + n * size }
  | .double d => count.addDouble size d
  | .other => .error .meaningless

/-- The whole microseconds, of two equally near numbers the even one. -/
def total (count : Count) : Int :=
  let units := count.whole * Double.unitsOfOne + (count.fraction.unitCount?).getD 0
  let size := Rounding.halfEven units.natAbs Double.unitsOfOne
  if units < 0 then -(size : Int) else size

end Count

/-- The microseconds in each unit, with the place that the unit has among the parts of a
duration: the parts are days, seconds, microseconds, milliseconds, minutes, hours and weeks, and
they are added from the smallest unit to the largest one. -/
def unitSizes : List (Nat × Nat) :=
  [(2, 1), (3, 1000), (1, 1000000), (4, 60000000), (5, 3600000000), (0, 86400000000),
    (6, 604800000000)]

/-- The duration, if it is not too long. -/
def checked (d : Duration) : Except Failure Duration :=
  if d.isInRange then .ok d else .error .outOfRange

/-- The duration that is made from parts, each of any sign and size. -/
def ofParts (parts : List TimePart) : Except Failure Duration := do
  if unitSizes.length < parts.length then throw .meaningless
  let count ← unitSizes.foldlM
    (fun count (place, size) => count.addPart size (parts.getD place (.whole 0))) Count.zero
  checked ⟨count.total⟩

end Duration

namespace Zone

/-- The zone that lies so many microseconds east of UTC, which have to be less than a day. -/
def ofMicroseconds (part : TimePart) : Except Failure Zone := do
  let offset ← Duration.ofParts [.whole 0, .whole 0, part]
  if offset.microseconds.natAbs < Duration.day then return .offset offset.microseconds
  else throw .noSuchTime

end Zone

end CypherText
