import CypherText.Flaw
import CypherText.Number.Double.Reader
import CypherText.Time.Timestamp

/-!
# Reading timestamps

Timestamps are read from ISO text: a date, the letter `T` or a space, a time of day with
optional seconds and microseconds, and an optional offset, which is `Z` or a sign with hours and
minutes. A number, also one that is written in a text, counts the seconds since the start of
1970 in UTC, or the milliseconds if it is large. Years are counted from 0 here, although the
calendar starts with year 1, so that times of year 0 can be told from what is no time at all.
-/

namespace CypherText.Timestamp

/-! ## ISO text -/

/-- Reads exactly `width` digits. -/
def readDigits (width : Nat) (chars : List Char) : Option (Nat × List Char) :=
  let digits := chars.take width
  if digits.length = width ∧ digits.all Char.isDigit then
    some (Numeral.value digits, chars.drop width)
  else
    none

/-- Reads `mark` and then exactly `width` digits. -/
def readMarked (mark : Char) (width : Nat) : List Char → Option (Nat × List Char)
  | c :: rest => if c = mark then readDigits width rest else none
  | [] => none

/-- Reads the fraction of a second, in microseconds, if there is one. Digits past the sixth are
dropped. -/
def readFraction (chars : List Char) : Option (Nat × List Char) :=
  match chars with
  | c :: rest =>
    if c = '.' ∨ c = ',' then
      let digits := (rest.takeWhile Char.isDigit).take 6
      if digits.isEmpty then none
      else
        some (Numeral.value digits * Nat.pow 10 (6 - digits.length), rest.dropWhile Char.isDigit)
    else some (0, chars)
  | [] => some (0, chars)

/-- Reads the seconds with their fraction, if there are any. -/
def readSeconds (chars : List Char) : Option (Nat × Nat × List Char) :=
  if chars.head? = some ':' then do
    let (second, rest) ← readMarked ':' 2 chars
    let (microsecond, rest) ← readFraction rest
    return (second, microsecond, rest)
  else
    some (0, 0, chars)

/-- Reads the hours and minutes of an offset, which is less than a day; the colon between them
may be left out. -/
def readOffsetSize (chars : List Char) : Option Int := do
  let (hours, rest) ← readDigits 2 chars
  let minutes := if rest.head? = some ':' then rest.drop 1 else rest
  let (count, rest) ← readDigits 2 minutes
  if rest.isEmpty ∧ hours < 24 ∧ count < 60 then some ((hours * 60 + count) * 60000000) else none

/-- The minus sign of typography, which may stand for the hyphen. -/
def minusSign : Char := '\u2212'

/-- Reads an optional offset, which has to end the text. -/
def readZone : List Char → Option Zone
  | [] => some .naive
  | c :: rest =>
    if c = 'Z' ∨ c = 'z' then
      if rest.isEmpty then some (.offset 0) else none
    else if c = '+' then
      (readOffsetSize rest).map .offset
    else if c = '-' ∨ c = minusSign then
      (readOffsetSize rest).map fun size => .offset (-size)
    else
      none

/-- Reads a time of day with its zone. -/
def readClock (chars : List Char) : Option Clock := do
  let (hour, rest) ← readDigits 2 chars
  let (minute, rest) ← readMarked ':' 2 rest
  let (second, microsecond, rest) ← readSeconds rest
  let clock : Clock := ⟨hour, minute, second, microsecond, ← readZone rest, false⟩
  if clock.isValid then some clock else none

/-- The characters that may stand between the date and the time. -/
def isSeparator (c : Char) : Bool :=
  c = 'T' || c = 't' || c = ' ' || c = '_'

/-- Why no timestamp can be read. -/
inductive Unreadable where
  /-- What is given denotes no time. -/
  | noTime
  /-- It denotes a time of year 0, with which the calendar does not start yet. -/
  | beforeCalendar
  deriving DecidableEq, Repr

/-- The timestamp that an ISO text denotes, where the year may also be 0. -/
def ofIso? (text : String) : Option Timestamp := do
  let (year, rest) ← readDigits 4 text.toList
  let (month, rest) ← readMarked '-' 2 rest
  let (day, rest) ← readMarked '-' 2 rest
  let date : Date := ⟨year, month, day⟩
  if date.hasDay then
    match rest with
    | [] => some ⟨date, ⟨0, 0, 0, 0, .naive, false⟩⟩
    | c :: rest => if isSeparator c then (readClock rest).map (⟨date, ·⟩) else none
  else
    none

/-! ## Numbers -/

/-- The start of 1970, in microseconds since the start of year 1. -/
def epoch : Int := Date.daysBeforeYear 1970 * dayLength

/-- The largest number that counts seconds. -/
def secondsLimit : Int := 20000000000

/-- The first second of year 0, counted from the start of 1970. -/
def firstSecond : Int := -62167219200

/-- The last second of year 9999, counted from the start of 1970. -/
def lastSecond : Int := 253402300799

/-- The timestamp so many seconds and microseconds after the start of 1970. -/
def ofEpoch (seconds : Int) (microseconds : Nat) : Except Unreadable Timestamp :=
  let second := seconds + microseconds / 1000000
  if second < firstSecond ∨ lastSecond < second then .error .noTime
  else
    match ofSinceYearOne? (.offset 0) (epoch + seconds * 1000000 + microseconds) with
    | some time => .ok time
    | none => .error .beforeCalendar

/-- The timestamp that a whole number denotes, with additional microseconds. -/
def ofInteger (n : Int) (microseconds : Nat) : Except Unreadable Timestamp :=
  if n.natAbs ≤ secondsLimit then ofEpoch n microseconds
  else ofEpoch (n.fdiv 1000) ((n.fmod 1000).toNat * 1000 + microseconds)

/-- The timestamp that a double denotes: the microseconds are those of the part behind the
point, to which they are rounded as doubles. -/
def ofDouble (d : Double) : Except Unreadable Timestamp :=
  match d.splitFloor? with
  | some (whole, past) => ofInteger whole (past.scaled 1000000 1).roundUp
  | none => .error .noTime

/-- The greatest size of a whole number that a text can denote, where `negative` tells its sign.
-/
def largestInteger (negative : Bool) : Nat :=
  if negative then Nat.pow 2 63 else Nat.pow 2 63 - 1

/-- The timestamp that a text of digits denotes. -/
def ofDigits (negative : Bool) (digits : List Char) : Except Unreadable Timestamp :=
  let size := Numeral.value digits
  if largestInteger negative < size then .error .noTime
  else ofInteger (if negative then -(size : Int) else size) 0

/-- The timestamp that a text with a point denotes. A double that counts milliseconds is turned
into one that counts seconds. -/
def ofDecimalNotation (text : String) : Except Unreadable Timestamp :=
  match Double.ofNotation? text with
  | some d =>
    let size := d.unitCount?.map Int.natAbs
    let isSeconds := size.all (· ≤ secondsLimit.toNat * Double.unitsOfOne)
    ofDouble (if isSeconds then d else d.scaled 1 1000)
  | none => .error .noTime

/-- The timestamp that a number in a text denotes: digits after an optional sign, or decimal
notation with a point. -/
def ofNumber (text : String) : Except Unreadable Timestamp :=
  let (negative, chars) := Double.splitSign text.toList
  let digits := chars.takeWhile Char.isDigit
  match chars.dropWhile Char.isDigit with
  | [] => if digits.isEmpty then .error .noTime else ofDigits negative digits
  | c :: _ =>
    if c = '.' ∧ Numeral.value digits ≤ largestInteger false then ofDecimalNotation text
    else .error .noTime

/-- The timestamp that a text denotes. -/
def ofText (text : String) : Except Unreadable Timestamp :=
  match ofIso? text with
  | some time => if time.date.isValid then .ok time else .error .beforeCalendar
  | none => ofNumber text

/-! ## Plain data -/

/-- The flaw of a text that denotes no time, or one that the calendar does not have. -/
def Unreadable.flaw : Unreadable → Flaw
  | .noTime => .noTime
  | .beforeCalendar => .timeOutOfRange

/-- The timestamp that an integer denotes. One that does not fit into 64 bits denotes none, and one
that is too large for a double is not even considered. -/
def ofInt (n : Int) : Except Flaw Timestamp :=
  if (Double.ofInt? n).isSome then (ofInteger n 0).mapError fun _ => .timeOutOfRange
  else .error .notTimeKind

/-- The timestamp that a piece of data denotes. -/
def ofDatum : Datum → Except Flaw Timestamp
  | .text value => (ofText value).mapError Unreadable.flaw
  | .integer n => ofInt n
  | .double d => (ofDouble d).mapError fun _ => .timeOutOfRange
  | _ => .error .notTimeKind

end CypherText.Timestamp
