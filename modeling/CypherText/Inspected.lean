import CypherText.Number.Numeral
import CypherText.Printable

/-!
# Texts inside containers

A text that is part of a list, a tuple or a mapping is shown between quotes, with escapes for
the backslash, the chosen quote, tab and line breaks, and with the code of every other character
that does not print.
-/

namespace CypherText.Inspected

/-- The code of a character: two, four or eight hexadecimal digits, as many as it needs. -/
def codeEscape (c : Char) : List Char :=
  if c.toNat < 0x100 then '\\' :: 'x' :: Numeral.hexPadded 2 c.toNat
  else if c.toNat < 0x10000 then '\\' :: 'u' :: Numeral.hexPadded 4 c.toNat
  else '\\' :: 'U' :: Numeral.hexPadded 8 c.toNat

/-- One character inside the quotes. -/
def charForm (quote c : Char) : List Char :=
  if c = quote ∨ c = '\\' then ['\\', c]
  else if c = '\t' then ['\\', 't']
  else if c = '\n' then ['\\', 'n']
  else if c = '\r' then ['\\', 'r']
  else if Printable.isPrintable c then [c]
  else codeEscape c

/-- The quote around a text: the single one, unless the text holds it and not the double one. -/
def quoteFor (chars : List Char) : Char :=
  if chars.contains '\x27' && !chars.contains '"' then '"' else '\x27'

/-- The text as it is shown inside a container. -/
def text (s : String) : String :=
  let quote := quoteFor s.toList
  String.ofList (quote :: s.toList.flatMap (charForm quote) ++ [quote])

end CypherText.Inspected
