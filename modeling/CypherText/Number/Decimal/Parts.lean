import CypherText.Number.Decimal
import CypherText.Number.Digit

/-!
# Decimals from their parts

A decimal is made from a sign, which is zero or one, from digits, and from an exponent or the
name of what it is instead of a number.
-/

namespace CypherText.Decimal

/-- What the digits of a decimal mean. -/
inductive Scale where
  /-- A number with the given exponent. -/
  | exponent (value : Int)
  /-- Nothing, because the decimal is an infinity. -/
  | infinite
  /-- The payload of a quiet not-a-number. -/
  | quiet
  /-- The payload of a signalling not-a-number. -/
  | signaling
  deriving DecidableEq, Repr

namespace Scale

/-- The scale that a letter stands for. -/
def ofLetter? (letter : String) : Option Scale :=
  [("F", infinite), ("n", quiet), ("N", signaling)].lookup letter

end Scale

/-- The natural number that digits of any script denote. -/
def coefficient? (digits : String) : Option Nat :=
  (digits.toList.mapM Digit.value?).map fun values =>
    values.foldl (fun n digit => n * 10 + digit) 0

/-- The decimal that is made from parts. The sign and the scale are missing where something else
stands in their place. -/
def ofParts (sign : Option Int) (digits : String) (scale : Option Scale) :
    Except Failure Decimal :=
  match sign, coefficient? digits, scale with
  | some sign, some coefficient, some scale =>
    if sign ≠ 0 ∧ sign ≠ 1 then .error .malformed
    else
      match scale with
      | .exponent value => ofScaled (sign = 1) coefficient value
      | .infinite => .ok ⟨sign = 1, .infinite⟩
      | .quiet => .ok ⟨sign = 1, .quietNaN coefficient⟩
      | .signaling => .ok ⟨sign = 1, .signalingNaN coefficient⟩
  | _, _, _ => .error .malformed

end CypherText.Decimal
