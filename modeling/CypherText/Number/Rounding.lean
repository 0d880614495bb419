/-!
# Rounding of quotients

A quotient of natural numbers is rounded to the nearest whole number. Where two are equally
near, `halfEven` takes the even one and `halfUp` the greater one.
-/

namespace CypherText.Rounding

/-- The whole number nearest to the quotient; of two equally near ones the even one. -/
def halfEven (numerator denominator : Nat) : Nat :=
  let below := numerator / denominator
  let twice := 2 * (numerator % denominator)
  if twice < denominator then below
  else if denominator < twice then below + 1
  else below + below % 2

/-- The whole number nearest to the quotient; of two equally near ones the greater one. -/
def halfUp (numerator denominator : Nat) : Nat :=
  let below := numerator / denominator
  if 2 * (numerator % denominator) < denominator then below else below + 1

end CypherText.Rounding
