import CypherText.Proofs.Property
import CypherText.Relationship

/-!
# Reading created nodes and relationships

A call that creates a node or a relationship writes one clause. Which names, which form and which
properties it has can be read off the text of the clause: each piece ends where the next one
starts, the keyword tells whether a relationship is unique, and the first character behind the
first name tells a node from a relationship. A clause ends at its last parenthesis, so it is read
back in front of every text.
-/

namespace CypherText

/-- The type name and the properties of an entity as they stand in a query: the values are given
by their literals. -/
structure Written where
  typeName : String
  properties : Entries String
  deriving DecidableEq, Repr

/-- What a call creates: a named node, or a relationship between two named nodes. -/
inductive Creation (ν ε : Type) where
  | node (name : ν) (entity : ε)
  | relationship (form : RelateForm) (direction : Direction) (left right : ν) (entity : ε)
  deriving DecidableEq, Repr

namespace Written

/-- Whether all literals are tokens. -/
def HasTokens (e : Written) : Prop :=
  ∀ property ∈ e.properties, Literal.IsToken property.2.toList

/-- The token of the type name with the block behind it. -/
def text (e : Written) : String :=
  Identifier.tokenOf e.typeName ++ Properties.blockText e.properties

/-- Reads a type name with the block behind it. -/
def read (chars : List Char) : Option (Written × List Char) := do
  let (typeName, rest) ← Identifier.read chars
  let (properties, rest) ← Properties.readBlock rest
  return (⟨typeName, properties⟩, rest)

/-- Behind a type name there is no character that could prolong it. -/
theorem isBoundary_block (written : Entries String) {c : Char} (rest : List Char)
    (closes : c = ')' ∨ c = ']') :
    Identifier.IsBoundary ((Properties.blockText written).toList ++ c :: rest) := by
  cases written with
  | nil => rcases closes with rfl | rfl <;> simp [Properties.blockText, Identifier.isRest]
  | cons property written => simp [Properties.blockText, Identifier.isRest]

/-- A type name with a block is read back in front of a closing parenthesis or bracket. -/
theorem read_append {e : Written} {c : Char} (tokens : e.HasTokens) (rest : List Char)
    (closes : c = ')' ∨ c = ']') : read (e.text.toList ++ c :: rest) = some (e, c :: rest) := by
  have notSpace : c ≠ ' ' := by
    rcases closes with rfl | rfl <;> decide
  have boundary := isBoundary_block e.properties rest closes
  rw [text, String.toList_append, List.append_assoc, read,
    Identifier.read_tokenOf_append e.typeName boundary]
  simp [Properties.readBlock_append tokens notSpace]

end Written

namespace Creation

/-- The text of a form up to the first name. -/
def opening (form : RelateForm) : String :=
  form.kind.keyword ++ " ("

/-- The text between the left name and the type of a relationship. -/
def arrowStart : Direction → String
  | .left => ")<-[:"
  | .right => ")-[:"

/-- The text between the properties of a relationship and the right name. -/
def arrowEnd : Direction → String
  | .left => "]-("
  | .right => "]->("

/-- The clause of what is created. -/
def clause : Creation String Written → Clause
  | node name entity =>
    ⟨.create, opening .every ++ Identifier.tokenOf name ++ ":" ++ entity.text ++ ")"⟩
  | relationship form direction left right entity =>
    ⟨form.kind, opening form ++ Identifier.tokenOf left ++ arrowStart direction ++ entity.text ++
      arrowEnd direction ++ Identifier.tokenOf right ++ ")"⟩

/-- Reads what stands behind the name of a node. -/
def readNode (name : String) (chars : List Char) :
    Option (Creation String Written × List Char) := do
  let (entity, rest) ← Written.read chars
  let rest ← Word.read ")" rest
  return (node name entity, rest)

/-- Reads what stands behind the left name of a relationship. -/
def readRelationship (form : RelateForm) (left : String) (chars : List Char) :
    Option (Creation String Written × List Char) := do
  let (direction, rest) ← Word.readOne arrowStart [.left, .right] chars
  let (entity, rest) ← Written.read rest
  let rest ← Word.read (arrowEnd direction) rest
  let (right, rest) ← Identifier.read rest
  let rest ← Word.read ")" rest
  return (relationship form direction left right entity, rest)

/-- Reads a clause. A colon behind the first name makes it a node, which has no unique form. -/
def read (chars : List Char) : Option (Creation String Written × List Char) := do
  let (form, rest) ← Word.readOne opening [.every, .unique] chars
  let (name, rest) ← Identifier.read rest
  match form, Word.read ":" rest with
  | .every, some rest => readNode name rest
  | _, _ => readRelationship form name rest

/-- The entity of what is created. -/
def entity {ν ε : Type} : Creation ν ε → ε
  | node _ entity => entity
  | relationship _ _ _ _ entity => entity

theorem readOne_opening_append (form : RelateForm) (rest : List Char) :
    Word.readOne opening [.every, .unique] ((opening form).toList ++ rest) =
      some (form, rest) := by
  cases form <;>
    simp [Word.readOne, Word.read, opening, RelateForm.kind, ClauseKind.keyword,
      List.dropPrefix?]

theorem readOne_arrowStart_append (direction : Direction) (rest : List Char) :
    Word.readOne arrowStart [.left, .right] ((arrowStart direction).toList ++ rest) =
      some (direction, rest) := by
  cases direction <;> simp [Word.readOne, Word.read, arrowStart, List.dropPrefix?]

theorem readNode_append (name : String) {entity : Written} (tokens : entity.HasTokens)
    (rest : List Char) :
    readNode name (entity.text.toList ++ ')' :: rest) = some (node name entity, rest) := by
  rw [readNode, Written.read_append tokens rest (.inl rfl)]
  simp [Word.read, List.dropPrefix?]

theorem readRelationship_append (form : RelateForm) (direction : Direction) (left right : String)
    {entity : Written} (tokens : entity.HasTokens) (rest : List Char) :
    readRelationship form left ((arrowStart direction).toList ++ (entity.text.toList ++
      ((arrowEnd direction).toList ++ ((Identifier.tokenOf right).toList ++ ')' :: rest)))) =
      some (relationship form direction left right entity, rest) := by
  have closing : Identifier.IsBoundary (')' :: rest) := by
    simp [Identifier.isRest]
  have bracket : ∃ more, (arrowEnd direction).toList ++
      ((Identifier.tokenOf right).toList ++ ')' :: rest) = ']' :: more := by
    cases direction <;> exact ⟨_, rfl⟩
  obtain ⟨more, equal⟩ := bracket
  have inner := Written.read_append tokens more (.inr rfl)
  rw [← equal] at inner
  simp only [readRelationship, readOne_arrowStart_append, inner, Option.bind_eq_bind,
    Option.bind_some, Word.read_append, Identifier.read_tokenOf_append right closing]
  simp [Word.read, List.dropPrefix?]

/-- A clause is read back in front of every text. -/
theorem read_append {creation : Creation String Written} (tokens : creation.entity.HasTokens)
    (rest : List Char) : read (creation.clause.text.toList ++ rest) = some (creation, rest) := by
  cases creation with
  | node name entity =>
      have shape : (clause (node name entity)).text.toList ++ rest =
          (opening .every).toList ++ ((Identifier.tokenOf name).toList ++
            ((":" : String).toList ++ (entity.text.toList ++ ')' :: rest))) := by
        simp [clause]
      have boundary : Identifier.IsBoundary
          ((":" : String).toList ++ (entity.text.toList ++ ')' :: rest)) := by
        simp [Identifier.isRest]
      rw [shape, read, readOne_opening_append]
      simp only [Option.bind_eq_bind, Option.bind_some,
        Identifier.read_tokenOf_append name boundary, Word.read_append]
      exact readNode_append name tokens rest
  | relationship form direction left right entity =>
      change entity.HasTokens at tokens
      have found := readRelationship_append form direction left right tokens rest
      generalize behind : (arrowStart direction).toList ++ (entity.text.toList ++
        ((arrowEnd direction).toList ++ ((Identifier.tokenOf right).toList ++ ')' :: rest))) =
          tail at found
      have shape : (clause (relationship form direction left right entity)).text.toList ++ rest =
          (opening form).toList ++ ((Identifier.tokenOf left).toList ++ tail) := by
        simp [clause, ← behind]
      -- The parenthesis behind the first name rules out the colon of a node.
      have parenthesis : ∃ more, tail = ')' :: more := by
        cases direction <;> exact ⟨_, behind.symm⟩
      obtain ⟨more, rfl⟩ := parenthesis
      have boundary : Identifier.IsBoundary (')' :: more) := by
        simp [Identifier.isRest]
      have notNode : Word.read ":" (')' :: more) = none := by
        simp [Word.read, List.dropPrefix?]
      rw [shape, read, readOne_opening_append]
      simp only [Option.bind_eq_bind, Option.bind_some,
        Identifier.read_tokenOf_append left boundary, notNode]
      exact found

end Creation

end CypherText
