import CypherText.Number.Decimal
import CypherText.Number.Rounding

/-!
# Arithmetic of decimal numbers

The difference of two decimals is exact up to 28 digits and is rounded to so many where it has
more, to the even one of two equally near decimals. A difference that is too large is a failure,
and so is one that has no meaning.
-/

namespace CypherText.Decimal

/-- The number of digits that the result of an operation may have. -/
def workingDigits : Nat := 28

/-- The greatest exponent that the first digit of a result may have. -/
def maxExponent : Int := 999999

/-- The least exponent that the last digit of a result may have. -/
def minLastExponent : Int := -999999 - (workingDigits - 1)

/-- The integer as a decimal. -/
def ofInt (n : Int) : Decimal :=
  ⟨n < 0, .finite n.natAbs 0⟩

/-- The number of digits of a coefficient. -/
def width (coefficient : Int) : Int :=
  (Numeral.digits coefficient.natAbs).length

/-- A coefficient without its last `surplus` digits, rounded. -/
def dropDigits (coefficient : Int) (surplus : Int) : Nat :=
  if surplus ≤ 0 then coefficient.natAbs
  else if width coefficient < surplus then 0
  else Rounding.halfEven coefficient.natAbs (Nat.pow 10 surplus.toNat)

/-- The decimal that results from the exact number `coefficient · 10^exponent`. -/
def rounded (coefficient : Int) (exponent : Int) : Except Failure Decimal :=
  let surplus := max (width coefficient - workingDigits) (minLastExponent - exponent)
  let kept := dropDigits coefficient surplus
  let last := exponent + max surplus 0
  if kept ≠ 0 ∧ maxExponent < last + width kept - 1 then .error .decimalTooLarge
  else .ok ⟨coefficient < 0, .finite kept last⟩

/-- The exact sum of two numbers, of which the second has the smaller exponent. A second number
whose digits all lie far behind those that the sum may keep only tells on which side of the
first one the sum lies, so the least number that tells the same takes its place. -/
def alignedSum (first : Int) (exponent : Int) (second : Int) (lower : Int) : Int × Int :=
  let threshold := exponent + min (-1) (width first - workingDigits - 2)
  if lower + width second - 1 < threshold then
    (first * Nat.pow 10 (exponent - threshold).toNat + second.sign, threshold)
  else
    (first * Nat.pow 10 (exponent - lower).toNat + second, lower)

/-- The exact sum of `first · 10^exponent` and `second · 10^other`, up to digits that rounding
does not notice. -/
def sum (first : Int) (exponent : Int) (second : Int) (other : Int) : Int × Int :=
  if second = 0 then (first, exponent)
  else if first = 0 then (second, other)
  else if other ≤ exponent then alignedSum first exponent second other
  else alignedSum second other first exponent

/-- A coefficient with its sign. -/
def signedCoefficient (negative : Bool) (coefficient : Nat) : Int :=
  if negative then -(coefficient : Int) else coefficient

/-- The difference of two decimals. -/
def subtract (a b : Decimal) : Except Failure Decimal :=
  match a.magnitude, b.magnitude with
  | .signalingNaN _, _ => .error .decimalUndefined
  | _, .signalingNaN _ => .error .decimalUndefined
  | .quietNaN _, _ => .ok a
  | _, .quietNaN _ => .ok b
  | .infinite, .infinite => if a.negative = b.negative then .error .decimalUndefined else .ok a
  | .infinite, .finite _ _ => .ok a
  | .finite _ _, .infinite => .ok ⟨!b.negative, .infinite⟩
  | .finite m e, .finite n f =>
    let (coefficient, exponent) :=
      sum (signedCoefficient a.negative m) e (-signedCoefficient b.negative n) f
    rounded coefficient exponent

end CypherText.Decimal
