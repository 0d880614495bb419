import CypherText.Blank

/-!
# Decimal digits of all scripts

Unicode 14 has decimal digits in many scripts. The ten digits of a script follow one another,
from zero to nine, so each set is given by its zero.
-/

namespace CypherText.Digit

/-- The code points of all zeros. -/
def zeros : List Nat :=
  [0x0030, 0x0660, 0x06F0, 0x07C0, 0x0966, 0x09E6, 0x0A66, 0x0AE6, 0x0B66, 0x0BE6, 0x0C66, 0x0CE6,
    0x0D66, 0x0DE6, 0x0E50, 0x0ED0, 0x0F20, 0x1040, 0x1090, 0x17E0, 0x1810, 0x1946, 0x19D0, 0x1A80,
    0x1A90, 0x1B50, 0x1BB0, 0x1C40, 0x1C50, 0xA620, 0xA8D0, 0xA900, 0xA9D0, 0xA9F0, 0xAA50, 0xABF0,
    0xFF10, 0x104A0, 0x10D30, 0x11066, 0x110F0, 0x11136, 0x111D0, 0x112F0, 0x11450, 0x114D0,
    0x11650, 0x116C0, 0x11730, 0x118E0, 0x11950, 0x11C50, 0x11D50, 0x11DA0, 0x16A60, 0x16AC0,
    0x16B50, 0x1D7CE, 0x1D7D8, 0x1D7E2, 0x1D7EC, 0x1D7F6, 0x1E140, 0x1E2F0, 0x1E950, 0x1FBF0]

/-- The value of a decimal digit of any script. -/
def value? (c : Char) : Option Nat :=
  (zeros.find? fun first => first ≤ c.toNat && c.toNat < first + 10).map (c.toNat - ·)

/-- A decimal digit has a value below ten. -/
theorem value?_lt_ten {c : Char} {n : Nat} (digit : value? c = some n) : n < 10 := by
  simp only [value?, Option.map_eq_some_iff] at digit
  obtain ⟨first, found, rfl⟩ := digit
  have inside := List.find?_some found
  simp only [Bool.and_eq_true, decide_eq_true_eq] at inside
  omega

/-- The value of a letter or an ASCII digit as a digit of base 36. -/
def valueInBase36? (c : Char) : Option Nat :=
  if c.isDigit then some (c.toNat - 48)
  else if c.isLower then some (c.toNat - 87)
  else if c.isUpper then some (c.toNat - 55)
  else none

/-- The value of an ASCII character as a digit of a base up to 36. -/
def valueIn? (base : Nat) (c : Char) : Option Nat :=
  (valueInBase36? c).filter (· < base)

/-- A character in the form in which numbers are read: ASCII characters are kept, other blanks
and digits are replaced by the space and the ASCII digits, and there is no form for all else. -/
def plain? (c : Char) : Option Char :=
  if c.toNat < 127 then some c
  else if Blank.isBlank c then some ' '
  else (value? c).map fun n => Char.ofNat (48 + n)

end CypherText.Digit
