import CypherText.Entity
import CypherText.Proofs.Token.Identifier
import CypherText.Proofs.Token.Literal
import CypherText.Proofs.Token.Separated

/-!
# Reading property blocks

A block is written from the names of the properties and the literals of their values, and from
nothing else. Where the literals are tokens the block is read back with both, in front of every
text that does not start with a space: a name ends at the colon, a literal at the comma or the
space behind it, and no block stands for no properties.
-/

namespace CypherText

namespace Properties

/-- One property with the literal of its value. -/
def pairText (property : String × String) : String :=
  Identifier.tokenOf property.1 ++ ": " ++ property.2

/-- The block of properties whose values are given by their literals. -/
def blockText : Entries String → String
  | [] => ""
  | first :: more =>
    " \x7b " ++ ", ".intercalate ((first :: more).map pairText) ++ " \x7d"

/-- Reads one property. -/
def readPair (chars : List Char) : Option ((String × String) × List Char) := do
  let (name, rest) ← Identifier.read chars
  let rest ← Word.read ": " rest
  let (literal, rest) ← Literal.read rest
  return ((name, literal), rest)

/-- Reads a block, which may be absent. -/
def readBlock (chars : List Char) : Option (Entries String × List Char) :=
  match Word.read " \x7b " chars with
  | none => some ([], chars)
  | some rest => do
    let (written, rest) ← Separated.read readPair ", " rest
    let rest ← Word.read " \x7d" rest
    return (written, rest)

/-- A property is read back in front of a text that does not prolong its literal. -/
theorem readPair_append {property : String × String} {rest : List Char}
    (isToken : Literal.IsToken property.2.toList) (boundary : Literal.IsBoundary rest) :
    readPair ((pairText property).toList ++ rest) = some (property, rest) := by
  have colon : Identifier.IsBoundary ((": " : String).toList ++ (property.2.toList ++ rest)) := by
    simp [Identifier.isRest]
  rw [pairText, String.toList_append, String.toList_append, List.append_assoc, List.append_assoc,
    readPair, Identifier.read_tokenOf_append property.1 colon]
  simp only [Option.bind_eq_bind, Option.bind_some, Word.read_append]
  rw [Literal.read_append isToken boundary]
  simp

/-- A block of literal tokens is read back in front of a text that does not start with a space.
-/
theorem readBlock_append {written : Entries String} {c : Char} {rest : List Char}
    (areTokens : ∀ property ∈ written, Literal.IsToken property.2.toList) (notSpace : c ≠ ' ') :
    readBlock ((blockText written).toList ++ c :: rest) = some (written, c :: rest) := by
  cases written with
  | nil =>
      have absent : Word.read " \x7b " (c :: rest) = none := by
        simp [Word.read, List.dropPrefix?, notSpace]
      simp [blockText, readBlock, absent]
  | cons property written =>
      have notEmpty (pair : String × String) : pairText pair ≠ "" := by
        simp [pairText]
      have ends : Literal.IsBoundary ((" \x7d" : String).toList ++ c :: rest) := by
        simp [Literal.IsBoundary, Numeric.isNumberChar]
      have stops : Word.read ", " ((" \x7d" : String).toList ++ c :: rest) = none := by
        simp [Word.read, List.dropPrefix?]
      have parts (tail : List Char) : Literal.IsBoundary ((", " : String).toList ++ tail) := by
        simp [Literal.IsBoundary, Numeric.isNumberChar]
      have pairs := Separated.read_append notEmpty parts
        (fun pair among _ boundary => readPair_append (areTokens pair among) boundary) ends
        (.inr stops)
      rw [blockText, String.toList_append, String.toList_append, List.append_assoc,
        List.append_assoc, readBlock, Word.read_append]
      simp only [pairs, Option.bind_eq_bind, Option.bind_some, Word.read_append]
      rfl

end Properties

namespace Extracted

theorem literals_cons (platform : Platform) (typeName : Name) (property : String × Value)
    (properties : Properties) :
    literals platform ⟨typeName, property :: properties⟩ = do
      let literal ← property.2.literal platform
      let written ← literals platform ⟨typeName, properties⟩
      return (property.1, literal) :: written := by
  simp [literals, List.mapM_cons]

theorem mapM_pair (platform : Platform) (typeName : Name) (properties : Properties) :
    properties.mapM (Properties.pair platform) =
      List.map Properties.pairText <$> literals platform ⟨typeName, properties⟩ := by
  induction properties with
  | nil => rfl
  | cons property properties ih =>
      rw [List.mapM_cons, ih, literals_cons, Properties.pair]
      cases property.2.literal platform with
      | error failure => rfl
      | ok literal =>
          cases literals platform ⟨typeName, properties⟩ with
          | error failure => rfl
          | ok written => rfl

/-- A block can be written exactly if all literals can, and it is made from these. -/
theorem block_eq (platform : Platform) (e : Extracted) :
    e.block platform = Properties.blockText <$> e.literals platform := by
  obtain ⟨typeName, properties⟩ := e
  cases properties with
  | nil => rfl
  | cons property properties =>
      simp only [block, Properties.block, mapM_pair platform typeName]
      rw [literals_cons]
      cases property.2.literal platform with
      | error failure => rfl
      | ok literal =>
          cases literals platform ⟨typeName, properties⟩ with
          | error failure => rfl
          | ok written => rfl

end Extracted

end CypherText
