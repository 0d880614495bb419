import CypherText.Number.Layout
import CypherText.Number.Numeral

/-!
# Decimal numbers

A decimal keeps its sign, its coefficient and its exponent apart, so that `1.10` and `1.1`
differ. A decimal that is not finite is an infinity or a payload-carrying not-a-number, quiet or
signalling. The exponents of a decimal have limits, which are far away.
-/

namespace CypherText

/-- The magnitude of a decimal. -/
inductive Decimal.Magnitude where
  | finite (coefficient : Nat) (exponent : Int)
  | infinite
  | quietNaN (payload : Nat)
  | signalingNaN (payload : Nat)
  deriving DecidableEq, Repr

/-- A decimal number with its sign. -/
structure Decimal where
  negative : Bool
  magnitude : Decimal.Magnitude
  deriving DecidableEq, Repr

namespace Decimal

/-! ## Range -/

/-- The greatest exponent that the first digit of a decimal may have. -/
def greatestExponent : Int := Nat.pow 10 18 - 1

/-- The least exponent that the last digit of a decimal may have. -/
def leastExponent : Int := -(2 * Nat.pow 10 18 - 3)

/-- Whether there is a decimal with the given coefficient and exponent. -/
def hasRoom (coefficient : Nat) (exponent : Int) : Bool :=
  leastExponent ≤ exponent &&
    exponent + ((Numeral.digits coefficient).length - 1) ≤ greatestExponent

/-- The decimal `±coefficient · 10^exponent`, where the exponent has to fit into 64 bits. -/
def ofScaled (negative : Bool) (coefficient : Nat) (exponent : Int) : Except Failure Decimal :=
  if exponent < -(Nat.pow 2 63) ∨ Nat.pow 2 63 ≤ exponent then .error .outOfRange
  else if hasRoom coefficient exponent then .ok ⟨negative, .finite coefficient exponent⟩
  else .error .decimalUndefined

/-! ## Texts -/

/-- Decimal exponents have the mark `E`, a sign, and no leading zeros. -/
def exponentStyle : Layout.ExponentStyle := ⟨'E', 1⟩

/-- The payload of a not-a-number; a zero payload is not written. -/
def payload (n : Nat) : List Char :=
  if n = 0 then [] else Numeral.digits n

/-- A finite magnitude: positional as long as the exponent is not positive and the first digit
stands at most six places after the point, and scientific otherwise. -/
def finiteChars (coefficient : Nat) (exponent : Int) : List Char :=
  let digits := Numeral.digits coefficient
  let point := exponent + digits.length
  if exponent ≤ 0 ∧ -6 < point then
    Layout.positional digits point
  else
    Layout.scientific exponentStyle digits (point - 1)

/-- The magnitude as text. -/
def Magnitude.chars : Magnitude → List Char
  | finite coefficient exponent => finiteChars coefficient exponent
  | infinite => "Infinity".toList
  | quietNaN n => "NaN".toList ++ payload n
  | signalingNaN n => "sNaN".toList ++ payload n

/-- The decimal as text. -/
def chars (d : Decimal) : List Char :=
  if d.negative then '-' :: d.magnitude.chars else d.magnitude.chars

/-- The decimal as text. -/
def display (d : Decimal) : String :=
  String.ofList d.chars

/-- Whether the decimal is a number. -/
def isFinite (d : Decimal) : Bool :=
  match d.magnitude with
  | .finite _ _ => true
  | _ => false

end Decimal

end CypherText
