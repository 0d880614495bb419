import CypherText.Number.Double
import CypherText.Number.Rounding

/-!
# Arithmetic of double-precision numbers

Ratios, integers and differences are computed exactly and rounded once, to the nearest double,
and to the one with the even mantissa where two are equally near. What is too large for a double
becomes an infinity.
-/

namespace CypherText.Double

/-- The bits of an infinity without its sign. The doubles of one sign are ordered by their bits,
and an infinity comes after all numbers. -/
def infinityBits : Nat := 2047 * Nat.pow 2 52

/-- The double with the given sign and remaining bits. -/
def signed (negative : Bool) (bits : Nat) : Double :=
  ⟨UInt64.ofNat (if negative then Nat.pow 2 63 + bits else bits)⟩

/-- An infinity. -/
def infinity (negative : Bool) : Double :=
  signed negative infinityBits

/-- The not-a-number that operations without a result give. -/
def notANumber : Double :=
  signed false (infinityBits + Nat.pow 2 51)

/-- The exponent of the leading binary digit of a positive ratio. -/
def leadingExponent (numerator denominator : Nat) : Int :=
  let upper : Int := (numerator.log2 : Int) - denominator.log2
  if numerator * Nat.pow 2 (-upper).toNat < denominator * Nat.pow 2 upper.toNat then upper - 1
  else upper

/-- The exponent of the last binary digit that a double near a positive ratio has: the 53rd
digit, unless that is too small to be kept. -/
def lastExponent (numerator denominator : Nat) : Int :=
  max (leadingExponent numerator denominator - 52) (-1074)

/-- The double nearest to a ratio. A rounded mantissa of 2^53 carries into the exponent field,
which gives the next power of two. -/
def ofRatio (negative : Bool) (numerator denominator : Nat) : Double :=
  if numerator = 0 then
    signed negative 0
  else
    let last := lastExponent numerator denominator
    let mantissa := Rounding.halfEven (numerator * Nat.pow 2 (-last).toNat)
      (denominator * Nat.pow 2 last.toNat)
    signed negative (min (mantissa + (last + 1074).toNat * Nat.pow 2 52) infinityBits)

/-- The double nearest to an integer, unless the integer is too large. -/
def ofInt? (n : Int) : Option Double :=
  let nearest := ofRatio (n < 0) n.natAbs 1
  if nearest.isFinite then some nearest else none

/-- The least positive double is `2^-1074`, of which all numbers are multiples: how often it
goes into `±mantissa · 2^exponent`. -/
def units (negative : Bool) (mantissa : Nat) (exponent : Int) : Int :=
  let size : Int := mantissa * Nat.pow 2 (exponent + 1074).toNat
  if negative then -size else size

/-- The number of units in one. -/
def unitsOfOne : Nat := Nat.pow 2 1074

/-- The difference of two doubles. That of equal numbers is the positive zero, but that of the
negative and the positive zero is the negative one. -/
def subtract (a b : Double) : Double :=
  match a.classify, b.classify with
  | .notANumber, _ => notANumber
  | _, .notANumber => notANumber
  | .infinite left, .infinite right => if left = right then notANumber else infinity left
  | .infinite left, .finite _ _ _ => infinity left
  | .finite _ _ _, .infinite right => infinity !right
  | .finite left m e, .finite right n f =>
    let difference := units left m e - units right n f
    let negative := difference < 0 || (m == 0 && n == 0 && left && !right)
    ofRatio negative difference.natAbs unitsOfOne

/-- How often the least positive double goes into a double, which may be negative; only numbers
have such a count. -/
def unitCount? (d : Double) : Option Int :=
  match d.classify with
  | .finite negative mantissa exponent => some (units negative mantissa exponent)
  | _ => none

/-- The double nearest to a ratio with a sign. -/
def nearest (numerator : Int) (denominator : Nat) : Double :=
  ofRatio (numerator < 0) numerator.natAbs denominator

/-- A double multiplied with a ratio, rounded once. -/
def scaled (d : Double) (numerator denominator : Nat) : Double :=
  match d.unitCount? with
  | some count => nearest (count * numerator) (denominator * unitsOfOne)
  | none => d

/-- The whole number below a double and what is left above it, which is rounded to a double
again. -/
def splitFloor? (d : Double) : Option (Int × Double) :=
  d.unitCount?.map fun count =>
    let floor := count.fdiv unitsOfOne
    (floor, nearest (count - floor * unitsOfOne) unitsOfOne)

/-- The whole number that is left of a double when the digits behind its point are dropped, and
what was behind the point. -/
def splitPoint? (d : Double) : Option (Int × Double) :=
  d.unitCount?.map fun count =>
    let whole := count.tdiv unitsOfOne
    (whole, nearest (count - whole * unitsOfOne) unitsOfOne)

/-- The sum of two numbers; where one is no number, the other one. -/
def add (a b : Double) : Double :=
  match a.unitCount?, b.unitCount? with
  | some m, some n => nearest (m + n) unitsOfOne
  | some _, none => a
  | none, _ => b

/-- The natural number nearest to a double that is not negative; of two equally near ones the
greater one. -/
def roundUp (d : Double) : Nat :=
  match d.classify with
  | .finite _ mantissa exponent =>
    Rounding.halfUp (mantissa * Nat.pow 2 exponent.toNat) (Nat.pow 2 (-exponent).toNat)
  | _ => 0

/-- The whole number that is left of a double when the digits after its point are dropped; only
numbers have one. -/
def truncate? (d : Double) : Option Int :=
  match d.classify with
  | .finite negative mantissa exponent =>
    let size : Int := mantissa * Nat.pow 2 exponent.toNat / Nat.pow 2 (-exponent).toNat
    some (if negative then -size else size)
  | _ => none

/-- Whether a double is a whole number. -/
def isWhole (d : Double) : Bool :=
  match d.classify with
  | .finite _ mantissa exponent => mantissa % Nat.pow 2 (-exponent).toNat = 0
  | _ => false

end CypherText.Double
