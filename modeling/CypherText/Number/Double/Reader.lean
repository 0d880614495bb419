import CypherText.Number.Double.Arithmetic
import CypherText.Number.Numeral

/-!
# Reading double-precision numbers

Decimal notation is an optional sign, digits, an optional point with more digits, and an
optional exponent. It denotes a decimal fraction, of which the nearest double is taken.
-/

namespace CypherText.Double

/-- Splits a sign off; `true` stands for a minus. -/
def splitSign : List Char → Bool × List Char
  | '-' :: rest => (true, rest)
  | '+' :: rest => (false, rest)
  | chars => (false, chars)

/-- Splits the digits after a point off. -/
def splitFraction : List Char → List Char × List Char
  | '.' :: rest => (rest.takeWhile Char.isDigit, rest.dropWhile Char.isDigit)
  | chars => ([], chars)

/-- Reads a signed exponent that ends the text. -/
def readExponent (chars : List Char) : Option Int :=
  let (negative, digits) := splitSign chars
  if digits.isEmpty || !digits.all Char.isDigit then none
  else if negative then some (-(Numeral.value digits : Int))
  else some (Numeral.value digits)

/-- Reads the exponent, which may be missing. -/
def readTail : List Char → Option Int
  | [] => some 0
  | c :: rest => if c = 'e' ∨ c = 'E' then readExponent rest else none

/-- No double other than zero and infinity has its first digit farther from the point than this.
-/
def maxPlaces : Int := 400

/-- The double nearest to `±coefficient · 10^exponent`. -/
def ofScientific (negative : Bool) (coefficient : Nat) (exponent : Int) : Double :=
  let place := exponent + (Numeral.digits coefficient).length
  if coefficient = 0 ∨ place < -maxPlaces then signed negative 0
  else if maxPlaces < place then infinity negative
  else ofRatio negative (coefficient * Nat.pow 10 exponent.toNat) (Nat.pow 10 (-exponent).toNat)

/-- The double nearest to what decimal notation denotes. At least one digit has to stand before
or after the point. -/
def ofNotation? (text : String) : Option Double := do
  let (negative, chars) := splitSign text.toList
  let whole := chars.takeWhile Char.isDigit
  let (fraction, tail) := splitFraction (chars.dropWhile Char.isDigit)
  let exponent ← readTail tail
  if whole.isEmpty && fraction.isEmpty then none
  else some (ofScientific negative (Numeral.value (whole ++ fraction)) (exponent - fraction.length))

end CypherText.Double
