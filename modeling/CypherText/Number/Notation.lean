import CypherText.Number.Digit
import CypherText.Number.Double.Reader

/-!
# Numbers in texts

Numbers are read from texts with some freedom. Blanks may stand around a number, the digits may
be those of any script, and a low line may stand between two digits. Integers are read in any
base up to 36; a numeral may say that its base is 2, 8 or 16.
-/

namespace CypherText.Notation

/-- Whether a character is one of the blanks that may stand around a number. -/
def isGap (c : Char) : Bool :=
  c = ' ' || (9 ≤ c.toNat && c.toNat ≤ 13)

/-- The characters without the blanks around them. -/
def withoutGaps (chars : List Char) : List Char :=
  ((chars.dropWhile isGap).reverse.dropWhile isGap).reverse

/-- The characters of a text in the form in which numbers are read. -/
def plain? (text : String) : Option (List Char) :=
  text.toList.mapM Digit.plain?

/-! ## Integers -/

/-- The base that a letter behind a zero announces. -/
def announced? (mark : Char) : Option Nat :=
  if mark = 'x' ∨ mark = 'X' then some 16
  else if mark = 'o' ∨ mark = 'O' then some 8
  else if mark = 'b' ∨ mark = 'B' then some 2
  else none

/-- The characters without a low line at their start. -/
def withoutBar : List Char → List Char
  | '_' :: rest => rest
  | chars => chars

/-- The base of a numeral and its digits. In base 0 the numeral announces its base, or else is a
decimal one; in all other bases it may only announce the base that it has. -/
def splitBase (base : Nat) (chars : List Char) : Nat × List Char :=
  let unmarked := (if base = 0 then 10 else base, chars)
  match chars with
  | '0' :: mark :: rest =>
    match announced? mark with
    | some other => if base = 0 ∨ base = other then (other, withoutBar rest) else unmarked
    | none => unmarked
  | _ => unmarked

/-- The values of the digits, of which there has to be at least one. -/
def digitValues (base : Nat) : List Char → Option (List Nat)
  | [] => none
  | [c] => (Digit.valueIn? base c).map ([·])
  | c :: '_' :: rest => do
    let first ← Digit.valueIn? base c
    return first :: (← digitValues base rest)
  | c :: rest => do
    let first ← Digit.valueIn? base c
    return first :: (← digitValues base rest)

/-- Whether a numeral may have so many digits. There is no limit where the base is a power of
two. -/
def isReadable (base digits : Nat) : Bool :=
  [2, 4, 8, 16, 32].contains base || digits ≤ Numeral.digitLimit

/-- The integer that a numeral denotes. Base 0 stands for the base that the numeral announces; a
decimal numeral must not start with a zero there, unless it denotes zero. -/
def integer? (base : Nat) (chars : List Char) : Option Int := do
  let (negative, rest) := Double.splitSign (withoutGaps chars)
  let (actual, numeral) := splitBase base rest
  let digits ← digitValues actual numeral
  let size := digits.foldl (fun n digit => n * actual + digit) 0
  let isAmbiguous := base = 0 && actual = 10 && numeral.head? = some '0' && size != 0
  if isAmbiguous || !isReadable actual digits.length then none
  else some (if negative then -(size : Int) else size)

/-! ## Doubles -/

/-- The characters without the low lines, each of which has to stand between two digits. -/
def withoutBars : List Char → Option (List Char)
  | [] => some []
  | [c] => if c = '_' then none else some [c]
  | c :: d :: rest =>
    if c = '_' then none
    else if c.isDigit ∧ d = '_' then
      if rest.head?.any Char.isDigit then (withoutBars rest).map (c :: ·) else none
    else (withoutBars (d :: rest)).map (c :: ·)

/-- The double that a numeral denotes: decimal notation, or the name of an infinity or of a
not-a-number. -/
def double? (chars : List Char) : Option Double :=
  let trimmed := withoutGaps chars
  let (negative, rest) := Double.splitSign trimmed
  let word := String.ofList (rest.map Char.toLower)
  if word = "inf" ∨ word = "infinity" then some (.infinity negative)
  else if word = "nan" then some .notANumber
  else (withoutBars trimmed).bind fun chars => Double.ofNotation? (String.ofList chars)

end CypherText.Notation
