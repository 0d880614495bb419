import CypherText.Failure

/-!
# Numerals

Integers in base ten, with the limit on their length: an integer of more than 4300 decimal
digits has no numeral. Fields of fixed width (years, minutes, microseconds) are padded with
zeros on the left.
-/

namespace CypherText.Numeral

/-- The digits of a natural number in base ten, without leading zeros. -/
def digits (n : Nat) : List Char :=
  Nat.toDigits 10 n

/-- The number that digits in base ten denote. -/
def value (digits : List Char) : Nat :=
  digits.foldl (fun n c => n * 10 + (c.toNat - '0'.toNat)) 0

/-- The numeral of an integer: its digits after a minus sign if it is negative. -/
def chars (n : Int) : List Char :=
  if n < 0 then '-' :: digits n.natAbs else digits n.natAbs

/-- The largest number of digits that an integer may have to be written. -/
def digitLimit : Nat := 4300

/-- Whether an integer is short enough to be written. -/
def isWritable (n : Int) : Bool :=
  n.natAbs < Nat.pow 10 digitLimit

/-- The numeral of an integer that is short enough. -/
def ofInt (n : Int) : Except Failure String :=
  if isWritable n then .ok (String.ofList (chars n)) else .error .numeralTooLong

/-- The digits of `n`, padded with zeros on the left to at least `width`. -/
def padded (width n : Nat) : List Char :=
  List.replicate (width - (digits n).length) '0' ++ digits n

/-- `padded` as a text. -/
def pad (width n : Nat) : String :=
  String.ofList (padded width n)

/-- Lower-case hexadecimal digits of `n`, padded with zeros on the left to at least `width`. -/
def hexPadded (width n : Nat) : List Char :=
  let ds := Nat.toDigits 16 n
  List.replicate (width - ds.length) '0' ++ ds

end CypherText.Numeral
