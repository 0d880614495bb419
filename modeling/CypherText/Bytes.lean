import CypherText.Number.Notation

/-!
# Byte strings

Bytes are given in hexadecimal and reach a query in base64. Inside a container they are shown as
a quoted byte string, in which bytes without a printable ASCII character are written in
hexadecimal.
-/

namespace CypherText.Bytes

/-- The bytes that pairs of hexadecimal digits denote. Blanks may stand between the pairs. -/
def ofHex : List Char → Except Failure (List UInt8)
  | [] => .ok []
  | [c] => if Notation.isGap c then .ok [] else .error .malformed
  | c :: d :: rest =>
    if Notation.isGap c then ofHex (d :: rest)
    else
      match Digit.valueIn? 16 c, Digit.valueIn? 16 d with
      | some high, some low => (ofHex rest).map (UInt8.ofNat (high * 16 + low) :: ·)
      | _, _ => .error .malformed

/-- The base64 digit of a number below 64. -/
def base64Digit (n : Nat) : Char :=
  if n < 26 then Char.ofNat (65 + n)
  else if n < 52 then Char.ofNat (97 + (n - 26))
  else if n < 62 then Char.ofNat (48 + (n - 52))
  else if n = 62 then '+'
  else '/'

/-- Base64 with the standard digits: three bytes become four digits, and a last group of one or
two bytes is filled up with `=`. -/
def base64 : List UInt8 → List Char
  | [] => []
  | [a] => [base64Digit (a.toNat / 4), base64Digit (a.toNat % 4 * 16), '=', '=']
  | [a, b] =>
    [base64Digit (a.toNat / 4), base64Digit (a.toNat % 4 * 16 + b.toNat / 16),
      base64Digit (b.toNat % 16 * 4), '=']
  | a :: b :: c :: rest =>
    base64Digit (a.toNat / 4) :: base64Digit (a.toNat % 4 * 16 + b.toNat / 16) ::
      base64Digit (b.toNat % 16 * 4 + c.toNat / 64) :: base64Digit (c.toNat % 64) :: base64 rest

/-- The quote around a byte string: the single one, unless the bytes hold it and not the double
one. -/
def quoteFor (data : List UInt8) : Char :=
  if data.contains 39 && !data.contains 34 then '"' else '\x27'

/-- One byte inside the quotes, where `escaped` is the quote that needs a backslash. -/
def inspectByte (escaped : Char) (byte : UInt8) : List Char :=
  let c := Char.ofNat byte.toNat
  if c = escaped ∨ c = '\\' then ['\\', c]
  else if c = '\t' then ['\\', 't']
  else if c = '\n' then ['\\', 'n']
  else if c = '\r' then ['\\', 'r']
  else if 32 ≤ byte.toNat ∧ byte.toNat < 127 then [c]
  else '\\' :: 'x' :: Numeral.hexPadded 2 byte.toNat

/-- The bytes between quotes. -/
def quoted (escaped : Char) (data : List UInt8) : String :=
  let quote := quoteFor data
  String.ofList ('b' :: quote :: data.flatMap (inspectByte escaped) ++ [quote])

/-- The bytes as a quoted byte string. -/
def inspect (data : List UInt8) : String :=
  quoted (quoteFor data) data

/-- The bytes of a mutable byte string between quotes. Single quotes are escaped there even
where the surrounding quotes are double ones. -/
def inspectMutable (data : List UInt8) : String :=
  quoted '\x27' data

end CypherText.Bytes
