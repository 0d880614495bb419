import CypherText.Number.Notation

/-!
# Universally unique identifiers

An identifier of 128 bits is written with 32 hexadecimal digits in five groups. In a text from
which it is read, hyphens, braces around it and the marks of a resource name do not count.
-/

namespace CypherText

/-- A 128-bit identifier. -/
structure Uuid where
  value : Nat
  deriving DecidableEq, Repr

namespace Uuid

/-- The 32 lower-case hexadecimal digits in groups of 8, 4, 4, 4 and 12. -/
def display (u : Uuid) : String :=
  let digits := Numeral.hexPadded 32 u.value
  let group (start count : Nat) := String.ofList ((digits.drop start).take count)
  "-".intercalate [group 0 8, group 8 4, group 12 4, group 16 4, group 20 12]

/-- The characters without the places where a word stands, of which `left` characters are still
to be left out. -/
def withoutWord (word : List Char) (left : Nat) : List Char → List Char
  | [] => []
  | c :: rest =>
    match left with
    | left + 1 => withoutWord word left rest
    | 0 =>
      if word.isPrefixOf (c :: rest) then withoutWord word (word.length - 1) rest
      else c :: withoutWord word 0 rest

/-- Whether a character is a brace. -/
def isBrace (c : Char) : Bool :=
  c = '\x7b' || c = '\x7d'

/-- The characters that are left of an identifier: without marks, without braces at the ends,
and without hyphens. -/
def essence (text : String) : List Char :=
  let unmarked := withoutWord "uuid:".toList 0 (withoutWord "urn:".toList 0 text.toList)
  let inner := ((unmarked.dropWhile isBrace).reverse.dropWhile isBrace).reverse
  inner.filter (· != '-')

/-- The identifier that a text denotes. -/
def ofText (text : String) : Except Failure Uuid :=
  let chars := essence text
  match (chars.mapM Digit.plain?).bind (Notation.integer? 16) with
  | some n =>
    if chars.length = 32 ∧ 0 ≤ n then .ok ⟨n.toNat⟩ else .error .malformed
  | none => .error .malformed

end Uuid

end CypherText
