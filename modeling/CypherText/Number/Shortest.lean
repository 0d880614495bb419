import CypherText.Number.Numeral

/-!
# Shortest decimal digits of a binary number

A positive number `m · 2^q` stands for all reals that are nearer to it than to its neighbours.
Its shortest digits are the fewest decimal digits that name one of those reals; among several of
that length the nearest to the number is taken, and of two equally near ones the even one.
Everything is computed exactly in natural numbers.
-/

namespace CypherText.Shortest

/-- A positive binary number. `narrow` says that the neighbour below is only half as far away as
the one above, which is the case at a power of two. -/
structure Binary where
  mantissa : Nat
  exponent : Int
  narrow : Bool
  deriving Repr

namespace Binary

/-- Four times the number, as a fraction with the denominator `scale`. -/
def value (b : Binary) : Nat :=
  4 * b.mantissa * Nat.pow 2 b.exponent.toNat

/-- The least real that rounds to the number, in the unit of `value`. -/
def low (b : Binary) : Nat :=
  (4 * b.mantissa - if b.narrow then 1 else 2) * Nat.pow 2 b.exponent.toNat

/-- The greatest real that rounds to the number, in the unit of `value`. -/
def high (b : Binary) : Nat :=
  (4 * b.mantissa + 2) * Nat.pow 2 b.exponent.toNat

/-- The denominator of `value`, `low` and `high`. -/
def scale (b : Binary) : Nat :=
  4 * Nat.pow 2 (-b.exponent).toNat

/-- Whether `candidate · 10^place` rounds to the number: it lies between `low` and `high`, and
on one of these only if the mantissa is even. -/
def accepts (b : Binary) (place : Int) (candidate : Nat) : Bool :=
  let point := candidate * Nat.pow 10 place.toNat * b.scale
  let shift := Nat.pow 10 (-place).toNat
  if b.mantissa % 2 = 0 then
    b.low * shift ≤ point && point ≤ b.high * shift
  else
    b.low * shift < point && point < b.high * shift

/-- The number of digits before the decimal point; zero or negative for a number below one,
where it counts the zeros after the point. -/
def point (b : Binary) : Int :=
  if b.scale ≤ b.value then
    (Numeral.digits (b.value / b.scale)).length
  else
    1 - (Numeral.digits ((b.scale - 1) / b.value)).length

/-- Of the two multiples of `10^place` around the number, the one that rounds to it; the nearer
one if both do, and the even one if both are equally near. -/
def atPlace? (b : Binary) (place : Int) : Option Nat :=
  let numerator := b.value * Nat.pow 10 (-place).toNat
  let denominator := b.scale * Nat.pow 10 place.toNat
  let below := numerator / denominator
  let above := below + 1
  let twice := 2 * (numerator % denominator)
  match b.accepts place below, b.accepts place above with
  | false, false => none
  | true, false => some below
  | false, true => some above
  | true, true =>
    if twice < denominator then some below
    else if denominator < twice then some above
    else if below % 2 = 0 then some below else some above

end Binary

/-- The largest number of digits that a double needs. -/
def maxDigits : Nat := 17

/-- The digits without trailing zeros. -/
def stripZeros (digits : List Char) : List Char :=
  (digits.reverse.dropWhile (· == '0')).reverse

/-- The shortest digits of a positive number, and the place of the decimal point among them: the
number is `0.d₁d₂…dₙ · 10^point`. -/
def digits (b : Binary) : List Char × Int :=
  let found := (List.range maxDigits).findSome? fun (count : Nat) =>
    let place := b.point - (count + 1)
    (b.atPlace? place).map fun candidate => (Numeral.digits candidate, place)
  match found with
  | some (ds, place) => (stripZeros ds, place + ds.length)
  | none => (['0'], 1)

end CypherText.Shortest
