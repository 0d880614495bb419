import CypherText.CodeRanges

/-!
# Blanks

The characters that are blanks: the separators of Unicode and the controls that move to another
place on the page or separate pieces of information.
-/

namespace CypherText.Blank

/-- The blanks. -/
def ranges : CodeRanges :=
  [(0x09, 0x0D), (0x1C, 0x20), (0x85, 0x85), (0xA0, 0xA0), (0x1680, 0x1680), (0x2000, 0x200A),
    (0x2028, 0x2029), (0x202F, 0x202F), (0x205F, 0x205F), (0x3000, 0x3000)]

/-- Whether a character is a blank. -/
def isBlank (c : Char) : Bool :=
  ranges.holds c.toNat

/-- The characters without the blanks at their start. -/
def trimStart (chars : List Char) : List Char :=
  chars.dropWhile isBlank

/-- The characters without the blanks at their end. -/
def trimEnd (chars : List Char) : List Char :=
  (trimStart chars.reverse).reverse

end CypherText.Blank
