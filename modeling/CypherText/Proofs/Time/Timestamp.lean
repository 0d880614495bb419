import CypherText.Proofs.Number.Reading
import CypherText.Time.Timestamp.Reader
import Mathlib.Algebra.Ring.Nat

/-!
# Timestamps are read back

The text of a timestamp consists of fields of fixed width, of which the microseconds, the offset and
the seconds of the offset may be missing. What is missing is told by the character at which the next
field would start, so the text is read from left to right without looking any further. What is read
is the timestamp that was written, except that a zone without an offset cannot be seen, nor which of
two equal local times was meant.
-/

namespace CypherText

open Numeric

namespace Numeral

theorem length_padded {width n : Nat} (positive : 0 < width) (fits : n < 10 ^ width) :
    (padded width n).length = width := by
  have short : (digits n).length ≤ width := (length_digits_le_iff n width positive).mpr fits
  rw [padded, List.length_append, List.length_replicate]
  omega

theorem isDigits_padded (width n : Nat) : IsDigits (padded width n) :=
  (isDigits_digits n).prepend isDigit_of_mem_zeros

@[simp]
theorem value_padded (width n : Nat) : value (padded width n) = n := by
  rw [padded, value_replicate_append, value_digits]

@[simp]
theorem toList_pad (width n : Nat) : (pad width n).toList = padded width n :=
  String.toList_ofList

end Numeral

namespace Zone

/-- What can be seen of a zone in a text: its offset, if it has one. -/
def visible : Zone → Zone
  | offset microseconds => offset microseconds
  | _ => naive

@[simp]
theorem offset?_visible (zone : Zone) : zone.visible.offset? = zone.offset? := by
  cases zone <;> rfl

end Zone

namespace Timestamp

/-! ## The reader -/

/-- Reads the size of an offset, in microseconds, up to the end of the text: hours and minutes, and
seconds with their fraction if there are any. -/
def readPreciseSize (chars : List Char) : Option Nat := do
  let (hours, rest) ← readDigits 2 chars
  let (minutes, rest) ← readMarked ':' 2 rest
  let (seconds, microseconds, rest) ← readSeconds rest
  if rest.isEmpty ∧ minutes < 60 ∧ seconds < 60 then
    some (((hours * 60 + minutes) * 60 + seconds) * 1000000 + microseconds)
  else none

/-- Reads an optional offset, which has to end the text, down to the microsecond. -/
def readPreciseZone : List Char → Option Zone
  | [] => some .naive
  | sign :: rest =>
    if sign = '+' then (readPreciseSize rest).map fun size => .offset size
    else if sign = '-' then (readPreciseSize rest).map fun size => .offset (-size)
    else none

/-- Whether the timestamp is one of the calendar, with all parts of the time in their ranges and an
offset of less than a day. -/
def isValid (t : Timestamp) : Bool :=
  t.date.isValid && t.clock.isValid &&
    t.clock.zone.offset?.all fun microseconds => microseconds.natAbs < dayLength

/-- The timestamp that an ISO text denotes, with an offset that may have seconds and microseconds.
-/
def ofPreciseIso? (text : String) : Option Timestamp := do
  let (year, rest) ← readDigits 4 text.toList
  let (month, rest) ← readMarked '-' 2 rest
  let (day, rest) ← readMarked '-' 2 rest
  let (hour, rest) ← readMarked 'T' 2 rest
  let (minute, rest) ← readMarked ':' 2 rest
  let (second, microsecond, rest) ← readSeconds rest
  let zone ← readPreciseZone rest
  let time : Timestamp := ⟨⟨year, month, day⟩, ⟨hour, minute, second, microsecond, zone, false⟩⟩
  if time.isValid then some time else none

/-! ## Fields of fixed width -/

theorem readDigits_padded {width n : Nat} (positive : 0 < width) (fits : n < 10 ^ width)
    (rest : List Char) : readDigits width (Numeral.padded width n ++ rest) = some (n, rest) := by
  have length := Numeral.length_padded positive fits
  have all : (Numeral.padded width n).all Char.isDigit = true :=
    List.all_eq_true.mpr (Numeral.isDigits_padded width n).2
  simp [readDigits, List.take_left' length, List.drop_left' length, length, all]

theorem readMarked_padded (mark : Char) {width n : Nat} (positive : 0 < width)
    (fits : n < 10 ^ width) (rest : List Char) :
    readMarked mark width (mark :: (Numeral.padded width n ++ rest)) = some (n, rest) := by
  rw [readMarked, if_pos rfl, readDigits_padded positive fits]

/-! ## Seconds with a fraction -/

/-- The fraction of a second as it is written: microseconds, if there are any. -/
def fractionChars (microsecond : Nat) : List Char :=
  if microsecond = 0 then [] else '.' :: Numeral.padded 6 microsecond

/-- Whether a text goes on neither with a digit nor with what may stand before a fraction. -/
def StopsFraction (rest : List Char) : Prop :=
  ∀ c ∈ rest.head?, c.isDigit = false ∧ c ≠ '.' ∧ c ≠ ','

theorem stopsFraction_nil : StopsFraction [] := by
  rintro _ ⟨⟩

theorem StopsFraction.stopsDigits {rest : List Char} (stops : StopsFraction rest) :
    StopsDigits rest :=
  fun c isHead => (stops c isHead).1

theorem readFraction_fractionChars {microsecond : Nat} (fits : microsecond < 10 ^ 6)
    {rest : List Char} (stops : StopsFraction rest) :
    readFraction (fractionChars microsecond ++ rest) = some (microsecond, rest) := by
  by_cases isZero : microsecond = 0
  · rw [fractionChars, if_pos isZero, List.nil_append, isZero]
    cases rest with
    | nil => rfl
    | cons c rest =>
        obtain ⟨_, notPoint, notComma⟩ := stops c rfl
        simp [readFraction, notPoint, notComma]
  · have isDigits := Numeral.isDigits_padded 6 microsecond
    have length := Numeral.length_padded (by decide) fits
    have isTaken := isDigits.takeWhile_append stops.stopsDigits
    have isLeft := isDigits.dropWhile_append stops.stopsDigits
    rw [fractionChars, if_neg isZero, List.cons_append]
    simp [readFraction, isTaken, isLeft, List.take_of_length_le (Nat.le_of_eq length), length,
      isDigits.1]

theorem readSeconds_padded {second microsecond : Nat} (fits : second < 60)
    (fractionFits : microsecond < 10 ^ 6) {rest : List Char} (stops : StopsFraction rest) :
    readSeconds (':' :: (Numeral.padded 2 second ++ (fractionChars microsecond ++ rest))) =
      some (second, microsecond, rest) := by
  have readWhole := readMarked_padded ':' (by decide) (by omega : second < 10 ^ 2)
    (fractionChars microsecond ++ rest)
  simp [readSeconds, readWhole, readFraction_fractionChars fractionFits stops]

/-! ## Offsets -/

/-- The seconds of an offset as they are written: only if they or their fraction are not zero. -/
def offsetSecondsChars (second microsecond : Nat) : List Char :=
  if second = 0 ∧ microsecond = 0 then []
  else ':' :: (Numeral.padded 2 second ++ fractionChars microsecond)

/-- The characters of an offset. -/
theorem toList_offsetText (microseconds : Int) :
    (Zone.offsetText microseconds).toList =
      (if microseconds < 0 then '-' else '+') ::
        (Numeral.padded 2 (microseconds.natAbs / 1000000 / 3600) ++
          ':' :: (Numeral.padded 2 (microseconds.natAbs / 1000000 / 60 % 60) ++
            offsetSecondsChars (microseconds.natAbs / 1000000 % 60)
              (microseconds.natAbs % 1000000))) := by
  have sign : (if microseconds < 0 then "-" else "+" : String).toList =
      [if microseconds < 0 then '-' else '+'] := by
    split <;> rfl
  have tail : (
      if microseconds.natAbs % 1000000 ≠ 0 then
        ":" ++ Numeral.pad 2 (microseconds.natAbs / 1000000 % 60) ++ "." ++
          Numeral.pad 6 (microseconds.natAbs % 1000000)
      else if microseconds.natAbs / 1000000 % 60 ≠ 0 then
        ":" ++ Numeral.pad 2 (microseconds.natAbs / 1000000 % 60)
      else "" : String).toList =
        offsetSecondsChars (microseconds.natAbs / 1000000 % 60)
          (microseconds.natAbs % 1000000) := by
    generalize microseconds.natAbs / 1000000 % 60 = second
    generalize microseconds.natAbs % 1000000 = microsecond
    by_cases noFraction : microsecond = 0
    · by_cases noSecond : second = 0
      · simp [offsetSecondsChars, noFraction, noSecond]
      · simp [offsetSecondsChars, fractionChars, noFraction, noSecond]
    · simp [offsetSecondsChars, fractionChars, noFraction]
  simp only [Zone.offsetText, String.toList_append, sign, tail, Numeral.toList_pad]
  simp

theorem readSeconds_offsetSecondsChars {second microsecond : Nat} (fits : second < 60)
    (fractionFits : microsecond < 10 ^ 6) :
    readSeconds (offsetSecondsChars second microsecond) = some (second, microsecond, []) := by
  by_cases noSeconds : second = 0 ∧ microsecond = 0
  · rw [offsetSecondsChars, if_pos noSeconds, noSeconds.1, noSeconds.2]
    rfl
  · have read := readSeconds_padded fits fractionFits stopsFraction_nil
    rw [List.append_nil] at read
    rw [offsetSecondsChars, if_neg noSeconds, read]

/-- The size of an offset is read back from its hours, minutes, seconds and microseconds. -/
theorem readPreciseSize_of_lt {size : Nat} (lessThanDay : size < dayLength) :
    readPreciseSize (Numeral.padded 2 (size / 1000000 / 3600) ++
      ':' :: (Numeral.padded 2 (size / 1000000 / 60 % 60) ++
        offsetSecondsChars (size / 1000000 % 60) (size % 1000000))) = some size := by
  unfold dayLength at lessThanDay
  have hoursFit : size / 1000000 / 3600 < 10 ^ 2 := by omega
  have minutesFit : size / 1000000 / 60 % 60 < 60 := Nat.mod_lt _ (by decide)
  have secondsFit : size / 1000000 % 60 < 60 := Nat.mod_lt _ (by decide)
  have isSize : ((size / 1000000 / 3600 * 60 + size / 1000000 / 60 % 60) * 60 +
      size / 1000000 % 60) * 1000000 + size % 1000000 = size := by omega
  have readHours := readDigits_padded (by decide) hoursFit
    (':' :: (Numeral.padded 2 (size / 1000000 / 60 % 60) ++
      offsetSecondsChars (size / 1000000 % 60) (size % 1000000)))
  have readMinutes := readMarked_padded ':' (by decide)
    (by omega : size / 1000000 / 60 % 60 < 10 ^ 2)
    (offsetSecondsChars (size / 1000000 % 60) (size % 1000000))
  have readRest := readSeconds_offsetSecondsChars secondsFit
    (Nat.mod_lt _ (by decide) : size % 1000000 < 10 ^ 6)
  simp [readPreciseSize, readHours, readMinutes, readRest, minutesFit, secondsFit, isSize]

/-- What can be seen of a zone is read back. -/
theorem readPreciseZone_text {zone : Zone}
    (lessThanDay : ∀ microseconds ∈ zone.offset?, microseconds.natAbs < dayLength) :
    readPreciseZone zone.text.toList = some zone.visible := by
  cases zone with
  | naive => rfl
  | silent => rfl
  | offset microseconds =>
      have read := readPreciseSize_of_lt (lessThanDay microseconds rfl)
      have text : (Zone.offset microseconds).text = Zone.offsetText microseconds := rfl
      rw [text, toList_offsetText, readPreciseZone.eq_2, read]
      by_cases negative : microseconds < 0
      · have isSize : -(microseconds.natAbs : Int) = microseconds := by omega
        rw [if_pos negative]
        exact congrArg (fun size => some (Zone.offset size)) isSize
      · have isSize : (microseconds.natAbs : Int) = microseconds := by omega
        rw [if_neg negative]
        exact congrArg (fun size => some (Zone.offset size)) isSize

/-- A zone starts with a sign, if there is anything to be seen of it. -/
theorem stopsFraction_text (zone : Zone) : StopsFraction zone.text.toList := by
  cases zone with
  | naive => exact stopsFraction_nil
  | silent => exact stopsFraction_nil
  | offset microseconds =>
      have text : (Zone.offset microseconds).text = Zone.offsetText microseconds := rfl
      rw [text, toList_offsetText]
      rintro _ ⟨⟩
      split <;> decide

/-! ## Texts -/

/-- The characters of a timestamp. -/
theorem toList_isoText (t : Timestamp) :
    t.isoText.toList =
      Numeral.padded 4 t.date.year ++ '-' :: (Numeral.padded 2 t.date.month ++
        '-' :: (Numeral.padded 2 t.date.day ++ 'T' :: (Numeral.padded 2 t.clock.hour ++
          ':' :: (Numeral.padded 2 t.clock.minute ++ ':' :: (Numeral.padded 2 t.clock.second ++
            (fractionChars t.clock.microsecond ++ t.clock.zone.text.toList)))))) := by
  have fraction : (if t.clock.microsecond = 0 then "" else
      "." ++ Numeral.pad 6 t.clock.microsecond : String).toList =
        fractionChars t.clock.microsecond := by
    by_cases noFraction : t.clock.microsecond = 0
    · simp [fractionChars, noFraction]
    · simp [fractionChars, noFraction]
  simp only [isoText, isoTextWith, Date.isoText, Clock.isoText, Clock.timeText,
    String.toList_append, Numeral.toList_pad, fraction]
  simp

theorem isValid_iff (t : Timestamp) :
    t.isValid = true ↔ t.date.isValid = true ∧ t.clock.isValid = true ∧
      ∀ microseconds ∈ t.clock.zone.offset?, microseconds.natAbs < dayLength := by
  cases offset : t.clock.zone.offset? <;> simp [isValid, offset, and_assoc]

/-- The timestamp as it can be seen in a text. -/
def visible (t : Timestamp) : Timestamp :=
  { t with clock := { t.clock with zone := t.clock.zone.visible, isLater := false } }

theorem isValid_visible (t : Timestamp) : t.visible.isValid = t.isValid := by
  have sameOffset : t.visible.clock.zone.offset? = t.clock.zone.offset? :=
    Zone.offset?_visible t.clock.zone
  rw [isValid, sameOffset]
  rfl

/-- A timestamp is read back from its text, as far as it can be seen there. -/
theorem ofPreciseIso?_isoText {t : Timestamp} (valid : t.isValid = true) :
    ofPreciseIso? t.isoText = some t.visible := by
  obtain ⟨dateValid, clockValid, lessThanDay⟩ := (isValid_iff t).mp valid
  simp only [Date.isValid, Date.hasDay, Bool.and_eq_true, decide_eq_true_eq] at dateValid
  simp only [Clock.isValid, Bool.and_eq_true, decide_eq_true_eq] at clockValid
  obtain ⟨⟨_, yearFits⟩, ⟨⟨_, monthFits⟩, _⟩, dayFits⟩ := dateValid
  obtain ⟨⟨⟨hourFits, minuteFits⟩, secondFits⟩, microsecondFits⟩ := clockValid
  have monthLength : Date.monthLength t.date.year t.date.month ≤ 31 := by
    unfold Date.monthLength
    split
    · split <;> omega
    · split <;> omega
  have yearWidth : t.date.year < 10 ^ 4 := by omega
  have monthWidth : t.date.month < 10 ^ 2 := by omega
  have dayWidth : t.date.day < 10 ^ 2 := by omega
  have hourWidth : t.clock.hour < 10 ^ 2 := by omega
  have minuteWidth : t.clock.minute < 10 ^ 2 := by omega
  rw [ofPreciseIso?, toList_isoText]
  simp only [readDigits_padded (by decide : 0 < 4) yearWidth,
    readMarked_padded '-' (by decide : 0 < 2) monthWidth,
    readMarked_padded '-' (by decide : 0 < 2) dayWidth,
    readMarked_padded 'T' (by decide : 0 < 2) hourWidth,
    readMarked_padded ':' (by decide : 0 < 2) minuteWidth,
    readSeconds_padded secondFits microsecondFits (stopsFraction_text t.clock.zone),
    readPreciseZone_text lessThanDay, Option.bind_eq_bind, Option.bind_some]
  exact if_pos ((isValid_visible t).trans valid)

/-- Whether a character can occur in the text of a timestamp. -/
def isTimeChar (c : Char) : Bool :=
  isNumberChar c || c == ':'

theorem all_isTimeChar_padded (width n : Nat) :
    (Numeral.padded width n).all isTimeChar = true := by
  apply List.all_eq_true.mpr
  intro c among
  rw [isTimeChar, isNumberChar_of_isDigit ((Numeral.isDigits_padded width n).2 c among)]
  rfl

theorem all_isTimeChar_fractionChars (microsecond : Nat) :
    (fractionChars microsecond).all isTimeChar = true := by
  unfold fractionChars
  split
  · rfl
  · rw [List.all_cons, all_isTimeChar_padded]
    rfl

theorem all_isTimeChar_text (zone : Zone) : zone.text.toList.all isTimeChar = true := by
  cases zone with
  | naive => rfl
  | silent => rfl
  | offset microseconds =>
      have text : (Zone.offset microseconds).text = Zone.offsetText microseconds := rfl
      have sign : isTimeChar (if microseconds < 0 then '-' else '+') = true := by
        split <;> decide
      have seconds (second microsecond : Nat) :
          (offsetSecondsChars second microsecond).all isTimeChar = true := by
        unfold offsetSecondsChars
        split
        · rfl
        · rw [List.all_cons, List.all_append, all_isTimeChar_padded, all_isTimeChar_fractionChars]
          rfl
      rw [text, toList_offsetText, List.all_cons, sign, List.all_append, all_isTimeChar_padded,
        List.all_cons, List.all_append, all_isTimeChar_padded, seconds]
      rfl

theorem all_isTimeChar_isoText (t : Timestamp) : t.isoText.toList.all isTimeChar = true := by
  rw [toList_isoText]
  simp only [List.all_append, List.all_cons, all_isTimeChar_padded, all_isTimeChar_fractionChars,
    all_isTimeChar_text]
  decide

/-- The text of a timestamp can stand between quotes as it is. -/
theorem quote_isoText (t : Timestamp) : Quoted.quote t.isoText = "\"" ++ t.isoText ++ "\"" := by
  apply Quoted.quote_of_forall_not_special
  intro c among
  have isChar : isTimeChar c = true := List.all_eq_true.mp (all_isTimeChar_isoText t) c among
  rcases Bool.or_eq_true_iff.mp isChar with ofNumber | isColon
  · exact Value.not_mem_specialChars_of_isNumberChar ofNumber
  · rw [eq_of_beq isColon]
    decide

/-! ## The local offset -/

/-- The midnight with which a day starts. -/
def midnight (year month day : Nat) : Timestamp :=
  ⟨⟨year, month, day⟩, ⟨0, 0, 0, 0, .naive, false⟩⟩

/-- The offset that a timestamp is written with: its own, or the local one if it has none and can be
converted to local time. -/
def writtenOffset? (localOffset : Int) (t : Timestamp) : Option Int :=
  match t.clock.zone.offset? with
  | some own => some own
  | none => if t.isConvertible localOffset then some (localOffset * 1000000) else none

/-- A timestamp cannot be converted to a local offset that a zone can have on the first day of the
calendar, and where the size of the offset leads past its last day. -/
theorem not_isConvertible_iff_of_first {localOffset : Int} {t : Timestamp}
    (isZone : localOffset.natAbs < 86400) (isFirst : t.clock.isLater = false) :
    t.isConvertible localOffset = false ↔
      t.sinceYearOne < (midnight 1 1 2).sinceYearOne ∨
        (midnight 10000 1 1).sinceYearOne ≤ t.sinceYearOne + localOffset.natAbs * 1000000 := by
  have secondDay : dayLength = (midnight 1 1 2).sinceYearOne := by decide
  have last : endOfCalendar = (midnight 10000 1 1).sinceYearOne := by decide
  simp [isConvertible, isFirst, isZone, secondDay, last, imp_iff_not_or]

/-- Where the second of two equal local times is meant, it cannot be converted on the last day of
the calendar, and where the size of the offset leads back behind its first day. -/
theorem not_isConvertible_iff_of_later {localOffset : Int} {t : Timestamp}
    (isZone : localOffset.natAbs < 86400) (isLater : t.clock.isLater = true) :
    t.isConvertible localOffset = false ↔
      t.sinceYearOne < (midnight 1 1 1).sinceYearOne + localOffset.natAbs * 1000000 ∨
        (midnight 9999 12 31).sinceYearOne ≤ t.sinceYearOne := by
  have first : (midnight 1 1 1).sinceYearOne = 0 := by decide
  have last : endOfCalendar = (midnight 9999 12 31).sinceYearOne + dayLength := by decide
  simp [isConvertible, isLater, isZone, first, last, imp_iff_not_or]

theorem isConvertible_eq_false_of_le {localOffset : Int} (noZone : 86400 ≤ localOffset.natAbs)
    (t : Timestamp) : t.isConvertible localOffset = false := by
  simp [isConvertible, Nat.not_lt_of_le noZone]

/-- Only the zone of a timestamp depends on the local offset, and which of two equal local times is
meant. -/
theorem localized_eq (localOffset : Int) (t : Timestamp) :
    ∃ zone isLater, t.localized localOffset =
        { t with clock := { t.clock with zone := zone, isLater := isLater } } ∧
      zone.offset? = t.writtenOffset? localOffset := by
  unfold localized isConverted writtenOffset?
  cases own : t.clock.zone.offset? with
  | some microseconds => exact ⟨t.clock.zone, t.clock.isLater, rfl, own⟩
  | none =>
      rw [Option.isNone_none, Bool.true_and]
      dsimp only
      split
      · exact ⟨_, _, rfl, rfl⟩
      · exact ⟨t.clock.zone, t.clock.isLater, rfl, own⟩

theorem writtenOffset?_lt_day {localOffset : Int} {t : Timestamp} (valid : t.isValid = true) :
    ∀ microseconds ∈ t.writtenOffset? localOffset, microseconds.natAbs < dayLength := by
  obtain ⟨_, _, lessThanDay⟩ := (isValid_iff t).mp valid
  unfold writtenOffset?
  cases own : t.clock.zone.offset? with
  | some microseconds =>
      rintro _ ⟨⟩
      exact lessThanDay microseconds own
  | none =>
      dsimp only
      split
      · rename_i convertible
        simp only [isConvertible, Bool.and_eq_true, decide_eq_true_eq] at convertible
        rintro _ ⟨⟩
        unfold dayLength
        omega
      · rintro _ ⟨⟩

theorem isValid_localized (localOffset : Int) {t : Timestamp} (valid : t.isValid = true) :
    (t.localized localOffset).isValid = true := by
  obtain ⟨dateValid, clockValid, _⟩ := (isValid_iff t).mp valid
  obtain ⟨zone, isLater, equal, offset⟩ := localized_eq localOffset t
  rw [equal]
  refine (isValid_iff _).mpr ⟨dateValid, clockValid, ?_⟩
  rw [offset]
  exact writtenOffset?_lt_day valid

end Timestamp

namespace Value

variable {platform : Platform} {v w : Value} {t u : Timestamp}

/-- The literal of a timestamp is its quoted text, with the local offset if it has none, unless its
class refuses the converted one. -/
theorem literal_eq_of_content_eq_timestamp (platform : Platform) (isTime : v.content = .timestamp t)
    (isMade : v.remaking = .made) :
    v.literal platform = .ok ("\"" ++ (t.localized platform.localOffset).isoText ++ "\"") := by
  rw [literal, isTime, isMade, ← Timestamp.quote_isoText]
  rfl

/-- The literal of a timestamp holds its text, from which the fields of the timestamp and the offset
that it is written with are read back. -/
theorem exists_literal_of_content_eq_timestamp (platform : Platform)
    (isTime : v.content = .timestamp t) (isMade : v.remaking = .made) (valid : t.isValid = true) :
    ∃ content r, v.literal platform = .ok ("\"" ++ content ++ "\"") ∧
      Timestamp.ofPreciseIso? content = some r ∧ r.date = t.date ∧ r.clock.hour = t.clock.hour ∧
      r.clock.minute = t.clock.minute ∧ r.clock.second = t.clock.second ∧
      r.clock.microsecond = t.clock.microsecond ∧
      r.clock.zone.offset? = t.writtenOffset? platform.localOffset := by
  obtain ⟨zone, isLater, equal, offset⟩ := Timestamp.localized_eq platform.localOffset t
  have read := Timestamp.ofPreciseIso?_isoText
    (Timestamp.isValid_localized platform.localOffset valid)
  refine ⟨_, _, literal_eq_of_content_eq_timestamp platform isTime isMade, read, ?_⟩
  rw [equal]
  exact ⟨rfl, rfl, rfl, rfl, rfl, (Zone.offset?_visible zone).trans offset⟩

/-- Two timestamps have the same literal exactly if all fields agree and so do the offsets that they
are written with. -/
theorem literal_eq_literal_iff_of_content_eq_timestamp (platform : Platform)
    (isTime : v.content = .timestamp t) (isMade : v.remaking = .made) (valid : t.isValid = true)
    (isAlso : w.content = .timestamp u) (isAlsoMade : w.remaking = .made)
    (alsoValid : u.isValid = true) :
    v.literal platform = w.literal platform ↔
      t.date = u.date ∧ t.clock.hour = u.clock.hour ∧ t.clock.minute = u.clock.minute ∧
        t.clock.second = u.clock.second ∧ t.clock.microsecond = u.clock.microsecond ∧
        t.writtenOffset? platform.localOffset = u.writtenOffset? platform.localOffset := by
  constructor
  · intro same
    obtain ⟨tContent, r, tWritten, tRead, tDate, tHour, tMinute, tSecond, tMicrosecond, tOffset⟩ :=
      exists_literal_of_content_eq_timestamp platform isTime isMade valid
    obtain ⟨uContent, s, uWritten, uRead, uDate, uHour, uMinute, uSecond, uMicrosecond, uOffset⟩ :=
      exists_literal_of_content_eq_timestamp platform isAlso isAlsoMade alsoValid
    have sameContent : tContent = uContent := by
      have sameText := Except.ok.inj (tWritten.symm.trans (same.trans uWritten))
      simpa using sameText
    rw [sameContent, uRead] at tRead
    obtain rfl := Option.some.inj tRead
    exact ⟨tDate.symm.trans uDate, tHour.symm.trans uHour, tMinute.symm.trans uMinute,
      tSecond.symm.trans uSecond, tMicrosecond.symm.trans uMicrosecond, tOffset.symm.trans uOffset⟩
  · rintro ⟨date, hour, minute, second, microsecond, offset⟩
    -- The two may still differ in what their texts do not show.
    obtain ⟨tZone, tLater, tEqual, tOffset⟩ := Timestamp.localized_eq platform.localOffset t
    obtain ⟨uZone, uLater, uEqual, uOffset⟩ := Timestamp.localized_eq platform.localOffset u
    have sameZone : tZone.text = uZone.text := by
      rw [Zone.text, Zone.text, tOffset, uOffset, offset]
    have sameText : (t.localized platform.localOffset).isoText =
        (u.localized platform.localOffset).isoText := by
      apply String.toList_injective
      rw [tEqual, uEqual, Timestamp.toList_isoText, Timestamp.toList_isoText]
      simp only [date, hour, minute, second, microsecond, sameZone]
    rw [literal_eq_of_content_eq_timestamp platform isTime isMade,
      literal_eq_of_content_eq_timestamp platform isAlso isAlsoMade, sameText]

/-- Timestamps are read back exactly, if their class makes the converted ones. Whatever the local
offset is, the literal of a timestamp is a quoted text that denotes the same date and the same time
of day down to the microsecond. It has the offset of the timestamp, if there is one. Otherwise it
has the local offset, except on the first day of the calendar and where the size of the local offset
leads past its last day, or, if the second of two equal local times is meant, on the last day of the
calendar and where the size of the local offset leads back behind its first day; an offset of a day
or more is none that a zone can have, and is never written. So two timestamps have the same literal
exactly if all their fields agree and they are written with the same offset. -/
theorem literal_timestamps_read_back (platform : Platform) :
    (∀ (v : Value) (t : Timestamp), v.content = .timestamp t → v.remaking = .made →
      t.isValid = true → ∃ content r,
        v.literal platform = .ok ("\"" ++ content ++ "\"") ∧
        Timestamp.ofPreciseIso? content = some r ∧ r.date = t.date ∧ r.clock.hour = t.clock.hour ∧
        r.clock.minute = t.clock.minute ∧ r.clock.second = t.clock.second ∧
        r.clock.microsecond = t.clock.microsecond ∧
        (∀ own, t.clock.zone.offset? = some own → r.clock.zone.offset? = some own) ∧
        (t.clock.zone.offset? = none → platform.localOffset.natAbs < 86400 →
          (t.clock.isLater = false →
            (r.clock.zone.offset? = none ↔
              t.sinceYearOne < (Timestamp.midnight 1 1 2).sinceYearOne ∨
                (Timestamp.midnight 10000 1 1).sinceYearOne ≤
                  t.sinceYearOne + platform.localOffset.natAbs * 1000000)) ∧
          (t.clock.isLater = true →
            (r.clock.zone.offset? = none ↔
              t.sinceYearOne < (Timestamp.midnight 1 1 1).sinceYearOne +
                  platform.localOffset.natAbs * 1000000 ∨
                (Timestamp.midnight 9999 12 31).sinceYearOne ≤ t.sinceYearOne)) ∧
          (r.clock.zone.offset? ≠ none →
            r.clock.zone.offset? = some (platform.localOffset * 1000000))) ∧
        (t.clock.zone.offset? = none → 86400 ≤ platform.localOffset.natAbs →
          r.clock.zone.offset? = none)) ∧
    ∀ (v w : Value) (t u : Timestamp), v.content = .timestamp t → v.remaking = .made →
      t.isValid = true → w.content = .timestamp u → w.remaking = .made → u.isValid = true →
        (v.literal platform = w.literal platform ↔
          t.date = u.date ∧ t.clock.hour = u.clock.hour ∧ t.clock.minute = u.clock.minute ∧
            t.clock.second = u.clock.second ∧ t.clock.microsecond = u.clock.microsecond ∧
            t.writtenOffset? platform.localOffset = u.writtenOffset? platform.localOffset) := by
  constructor
  · intro v t isTime isMade valid
    obtain ⟨content, r, written, read, date, hour, minute, second, microsecond, offset⟩ :=
      exists_literal_of_content_eq_timestamp platform isTime isMade valid
    refine ⟨content, r, written, read, date, hour, minute, second, microsecond, ?_, ?_, ?_⟩
    · intro own isOwn
      rw [offset, Timestamp.writtenOffset?, isOwn]
    · intro noOffset isZone
      have isAbsent : r.clock.zone.offset? = none ↔
          t.isConvertible platform.localOffset = false := by
        rw [offset, Timestamp.writtenOffset?, noOffset]
        cases t.isConvertible platform.localOffset <;> simp
      refine ⟨?_, ?_, ?_⟩
      · intro isFirst
        exact isAbsent.trans (Timestamp.not_isConvertible_iff_of_first isZone isFirst)
      · intro isLater
        exact isAbsent.trans (Timestamp.not_isConvertible_iff_of_later isZone isLater)
      · rw [offset, Timestamp.writtenOffset?, noOffset]
        cases t.isConvertible platform.localOffset <;> simp
    · intro noOffset noZone
      rw [offset, Timestamp.writtenOffset?, noOffset,
        Timestamp.isConvertible_eq_false_of_le noZone t]
      rfl
  · intro v w t u isTime isMade valid isAlso isAlsoMade alsoValid
    exact literal_eq_literal_iff_of_content_eq_timestamp platform isTime isMade valid isAlso
      isAlsoMade alsoValid

/-- A negative offset with a fraction of a second is read back. West of Greenwich as well as east of
it, the last hour of the calendar has no local offset, so that it is written there as in a zone that
reports none. Where the second of two equal local times is meant, already the first hour of the last
day has none. -/
theorem literal_timestamps_read_back_at_borders :
    let west : Platform := ⟨-3600, 900⟩
    let precise : Timestamp := ⟨⟨2024, 2, 29⟩, ⟨23, 59, 58, 7, .offset (-3600000001), false⟩⟩
    let lastHour : Timestamp := ⟨⟨9999, 12, 31⟩, ⟨23, 0, 0, 0, .naive, false⟩⟩
    let unreported : Timestamp := ⟨⟨9999, 12, 31⟩, ⟨23, 0, 0, 0, .silent, true⟩⟩
    let lastDay : Timestamp := ⟨⟨9999, 12, 31⟩, ⟨0, 0, 0, 0, .naive, true⟩⟩
    (∃ content r, (timestamp precise).literal ⟨7200, 900⟩ = .ok ("\"" ++ content ++ "\"") ∧
      Timestamp.ofPreciseIso? content = some r ∧ r.clock.microsecond = 7 ∧
      r.clock.zone.offset? = some (-3600000001)) ∧
    (∃ content r, (timestamp lastHour).literal west = .ok ("\"" ++ content ++ "\"") ∧
      Timestamp.ofPreciseIso? content = some r ∧ r.date = ⟨9999, 12, 31⟩ ∧
      r.clock.zone.offset? = none) ∧
    (∃ content r, (timestamp lastDay).literal west = .ok ("\"" ++ content ++ "\"") ∧
      Timestamp.ofPreciseIso? content = some r ∧ r.clock.zone.offset? = none) ∧
    (timestamp lastHour).literal west = (timestamp unreported).literal west := by
  intro west precise lastHour unreported lastDay
  refine ⟨?_, ?_, ?_, ?_⟩
  · obtain ⟨content, r, written, read, _, _, _, _, microsecond, own, _⟩ :=
      (literal_timestamps_read_back ⟨7200, 900⟩).1 (timestamp precise) precise rfl rfl (by decide)
    exact ⟨content, r, written, read, microsecond, own _ rfl⟩
  · obtain ⟨content, r, written, read, date, _, _, _, _, _, atBorder, _⟩ :=
      (literal_timestamps_read_back west).1 (timestamp lastHour) lastHour rfl rfl (by decide)
    have isAbsent := (atBorder rfl (by decide)).1 rfl
    exact ⟨content, r, written, read, date, isAbsent.mpr (.inr (by decide))⟩
  · obtain ⟨content, r, written, read, _, _, _, _, _, _, atBorder, _⟩ :=
      (literal_timestamps_read_back west).1 (timestamp lastDay) lastDay rfl rfl (by decide)
    have isAbsent := (atBorder rfl (by decide)).2.1 rfl
    exact ⟨content, r, written, read, isAbsent.mpr (.inr (by decide))⟩
  · exact ((literal_timestamps_read_back west).2 (timestamp lastHour) (timestamp unreported)
      lastHour unreported rfl rfl (by decide) rfl rfl (by decide)).mpr
        ⟨rfl, rfl, rfl, rfl, rfl, by decide⟩

/-- A timestamp on neither border of the calendar can lack the local offset: where this is a whole
day, and, where the second of two equal local times is meant, at noon of the last day. At noon of
the first day it then has one. A member of an enumeration of timestamps has no literal at all. -/
theorem exists_timestamp_without_local_offset :
    let earliest := (Timestamp.midnight 1 1 2).sinceYearOne
    let last := (Timestamp.midnight 10000 1 1).sinceYearOne
    let noon (date : Date) : Timestamp := ⟨date, ⟨12, 0, 0, 0, .naive, true⟩⟩
    let moment := member .named ⟨"Moment", "app.models.Moment"⟩ "START"
      (timestamp (Timestamp.midnight 2024 1 1))
    (earliest ≤ (Timestamp.midnight 2024 1 2).sinceYearOne ∧
      (Timestamp.midnight 2024 1 2).sinceYearOne + 86400 * 1000000 < last ∧
      (timestamp (Timestamp.midnight 2024 1 2)).literal ⟨86400, 900⟩ =
        .ok "\"2024-01-02T00:00:00\"") ∧
    (earliest ≤ (noon ⟨9999, 12, 31⟩).sinceYearOne ∧ (noon ⟨9999, 12, 31⟩).sinceYearOne < last ∧
      (timestamp (noon ⟨9999, 12, 31⟩)).literal ⟨0, 900⟩ = .ok "\"9999-12-31T12:00:00\"") ∧
    ((noon ⟨1, 1, 1⟩).sinceYearOne < earliest ∧
      (timestamp (noon ⟨1, 1, 1⟩)).literal ⟨0, 900⟩ = .ok "\"0001-01-01T12:00:00+00:00\"") ∧
    ∀ text, moment.literal ⟨0, 900⟩ ≠ .ok text := by
  intro earliest last noon moment
  have failed : moment.literal ⟨0, 900⟩ = .error .meaningless := by decide
  refine ⟨by decide, by decide, by decide, ?_⟩
  intro text
  rw [failed]
  exact nofun

end Value

end CypherText
