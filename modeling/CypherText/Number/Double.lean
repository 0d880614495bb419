import CypherText.Number.Layout
import CypherText.Number.Shortest

/-!
# Double-precision numbers

A double is given by its 64 bits: a sign, an eleven-bit exponent field and a 52-bit fraction. It
is written with the shortest digits that read back as the same double.
-/

namespace CypherText

/-- A double-precision number, by its bits. -/
structure Double where
  bits : UInt64
  deriving DecidableEq, Repr

namespace Double

/-- What the bits of a double say. -/
inductive Class where
  | notANumber
  | infinite (negative : Bool)
  /-- The number `mantissa · 2^exponent`, with its sign. -/
  | finite (negative : Bool) (mantissa : Nat) (exponent : Int)
  deriving DecidableEq, Repr

/-- The double of eight bytes, the highest one first. -/
def ofBytes (bytes : List UInt8) : Except Failure Double :=
  if bytes.length = 8 then
    .ok ⟨UInt64.ofNat (bytes.foldl (fun n byte => n * 256 + byte.toNat) 0)⟩
  else
    .error .wrongSize

/-- The exponent field. -/
def exponentField (d : Double) : Nat :=
  d.bits.toNat / Nat.pow 2 52 % Nat.pow 2 11

/-- The fraction field. -/
def fraction (d : Double) : Nat :=
  d.bits.toNat % Nat.pow 2 52

/-- The sign bit. -/
def negative (d : Double) : Bool :=
  d.bits.toNat / Nat.pow 2 63 = 1

/-- The number that the bits encode. -/
def classify (d : Double) : Class :=
  if d.exponentField = 2047 then
    if d.fraction = 0 then .infinite d.negative else .notANumber
  else if d.exponentField = 0 then
    .finite d.negative d.fraction (-1074)
  else
    .finite d.negative (Nat.pow 2 52 + d.fraction) (d.exponentField - 1075)

/-- Whether the double is a number. -/
def isFinite (d : Double) : Bool :=
  d.exponentField != 2047

/-- Exponents of doubles have the mark `e`, a sign, and at least two digits. -/
def exponentStyle : Layout.ExponentStyle := ⟨'e', 2⟩

/-- The digits of a positive double, laid out positionally while the exponent of the first digit
lies between -4 and 15, always with a digit after the point. -/
def layout (digits : List Char) (point : Int) : List Char :=
  if -4 < point ∧ point ≤ 16 then
    let text := Layout.positional digits point
    if digits.length ≤ point.toNat then text ++ ['.', '0'] else text
  else
    Layout.scientific exponentStyle digits (point - 1)

/-- The magnitude `mantissa · 2^exponent` as text. -/
def magnitudeChars (mantissa : Nat) (exponent : Int) : List Char :=
  if mantissa = 0 then
    ['0', '.', '0']
  else
    let narrow := mantissa == Nat.pow 2 52 && exponent != -1074
    let (digits, point) := Shortest.digits ⟨mantissa, exponent, narrow⟩
    layout digits point

/-- The double as text. A not-a-number has no sign. -/
def chars (d : Double) : List Char :=
  match d.classify with
  | .notANumber => ['n', 'a', 'n']
  | .infinite false => ['i', 'n', 'f']
  | .infinite true => ['-', 'i', 'n', 'f']
  | .finite false mantissa exponent => magnitudeChars mantissa exponent
  | .finite true mantissa exponent => '-' :: magnitudeChars mantissa exponent

/-- The double as text. -/
def display (d : Double) : String :=
  String.ofList d.chars

end Double

end CypherText
