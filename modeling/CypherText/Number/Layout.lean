/-!
# Layout of decimal digits

A number with the digits `d₁ d₂ … dₙ` is laid out positionally, with the point after a given
number of digits and zeros where digits are missing, or scientifically, with one digit before
the point and an exponent.
-/

namespace CypherText.Layout

/-- The digits with the point after the first `point` of them; zeros fill the places without a
digit. No point is written where no digit follows it. -/
def positional (digits : List Char) (point : Int) : List Char :=
  if point ≤ 0 then
    '0' :: '.' :: List.replicate (-point).toNat '0' ++ digits
  else if digits.length ≤ point.toNat then
    digits ++ List.replicate (point.toNat - digits.length) '0'
  else
    digits.take point.toNat ++ '.' :: digits.drop point.toNat

/-- How an exponent is written: its mark and the least number of its digits. The sign is always
written. -/
structure ExponentStyle where
  mark : Char
  width : Nat
  deriving Repr

/-- The exponent with its mark and sign. -/
def exponent (style : ExponentStyle) (value : Int) : List Char :=
  let digits := Nat.toDigits 10 value.natAbs
  style.mark :: (if value < 0 then '-' else '+') ::
    (List.replicate (style.width - digits.length) '0' ++ digits)

/-- One digit before the point, the others after it, and the exponent. -/
def scientific (style : ExponentStyle) (digits : List Char) (value : Int) : List Char :=
  positional digits 1 ++ exponent style value

end CypherText.Layout
