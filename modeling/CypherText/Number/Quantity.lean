import CypherText.Number.Decimal
import CypherText.Number.Double

/-!
# Exact quantities

Integers, doubles and decimals can be compared without rounding, since each finite one is a
whole number times a power of ten. A quantity is that product with as few digits as possible, so
two numbers are equal exactly when their quantities are.
-/

namespace CypherText

/-- The exact value of a number. -/
inductive Quantity where
  /-- `coefficient · 10^exponent`, where the coefficient does not end in a zero; zero is `0 ·
  10^0`. -/
  | finite (coefficient : Int) (exponent : Int)
  | infinite (negative : Bool)
  deriving DecidableEq, Repr

namespace Quantity

/-- The number of zeros at the end of the numeral of `n`. -/
def trailingZeros (n : Nat) : Nat :=
  ((Numeral.digits n).reverse.takeWhile (· == '0')).length

/-- The quantity `±magnitude · 10^exponent`. -/
def ofScaled (negative : Bool) (magnitude : Nat) (exponent : Int) : Quantity :=
  if magnitude = 0 then
    finite 0 0
  else
    let zeros := trailingZeros magnitude
    let coefficient : Int := magnitude / Nat.pow 10 zeros
    finite (if negative then -coefficient else coefficient) (exponent + zeros)

/-- The quantity of an integer. -/
def ofInt (n : Int) : Quantity :=
  ofScaled (n < 0) n.natAbs 0

/-- The quantity of a double; a not-a-number has none. Half is five tenths, so a negative power
of two is a power of five over a power of ten. -/
def ofDouble? (d : Double) : Option Quantity :=
  match d.classify with
  | .notANumber => none
  | .infinite negative => some (infinite negative)
  | .finite negative mantissa exponent =>
    let magnitude := mantissa * Nat.pow 2 exponent.toNat * Nat.pow 5 (-exponent).toNat
    some (ofScaled negative magnitude (min exponent 0))

/-- The quantity of a decimal; a not-a-number has none. -/
def ofDecimal? (d : Decimal) : Option Quantity :=
  match d.magnitude with
  | .finite coefficient exponent => some (ofScaled d.negative coefficient exponent)
  | .infinite => some (infinite d.negative)
  | .quietNaN _ => none
  | .signalingNaN _ => none

end Quantity

end CypherText
