import CypherText.Extractor
import CypherText.Value.Arithmetic

/-!
# Relationships

A relationship between two named nodes is declared with operators in two steps. `a - rel >> b`
declares one to the right, and `a << rel - b` one to the left. The first step gives a half of a
declaration that only the operator of its own direction completes. Between plain values the same
operators are those of arithmetic. No other combination has a meaning.
-/

namespace CypherText

/-- Where the arrow of a relationship points. -/
inductive Direction where
  | left
  | right
  deriving DecidableEq, Repr

namespace Direction

/-- The name of a direction. -/
def name : Direction → String
  | left => "left"
  | right => "right"

end Direction

/-- A relationship between two named nodes. -/
structure Declaration where
  direction : Direction
  left : Name
  right : Name
  payload : Entity
  deriving Repr

namespace Declaration

/-- A relationship that points from `left` to `right`. -/
def rightward (left : Name) (payload : Entity) (right : Name) : Declaration :=
  ⟨.right, left, right, payload⟩

/-- A relationship that points from `right` to `left`. -/
def leftward (left : Name) (payload : Entity) (right : Name) : Declaration :=
  ⟨.left, left, right, payload⟩

/-- The pattern of a relationship whose type token and property block are given. -/
def pattern (d : Declaration) (typeToken block : String) : String :=
  let left := "(" ++ Identifier.token d.left ++ ")"
  let right := "(" ++ Identifier.token d.right ++ ")"
  let body := "[:" ++ typeToken ++ block ++ "]"
  match d.direction with
  | .left => left ++ "<-" ++ body ++ "-" ++ right
  | .right => left ++ "-" ++ body ++ "->" ++ right

/-- The relationship as a pattern, with what `extractor` reads off its payload. -/
def text (platform : Platform) (extractor : Extractor) (d : Declaration) : Logged String := do
  let extracted ← extractor d.payload
  let block ← Logged.ofExcept (extracted.block platform)
  return d.pattern (Identifier.token extracted.typeName) block

end Declaration

/-- What the operators of the notation apply to, and what they give. -/
inductive Operand where
  /-- A value; one that counts as text is a name. -/
  | value (value : Value)
  | rel (payload : Entity)
  /-- A name with a payload on its right, which waits for `>>` and a name. -/
  | rightPartial (left : Name) (payload : Entity)
  /-- A payload with a name on its right, which waits for a name and `<<`. -/
  | leftPartial (right : Name) (payload : Entity)
  | declaration (declaration : Declaration)
  /-- One of the classes of the notation itself. -/
  | classItself (name : String)
  deriving Repr

/-- The operators of the notation. -/
inductive Operator where
  | minus
  | shiftRight
  | shiftLeft
  deriving DecidableEq, Repr

namespace Operator

/-- What an operator means between values that make no relationship. -/
def ofValues : Operator → Value → Value → Except Failure Value
  | minus => Value.minus
  | shiftRight => Value.shiftWith Value.shiftRight
  | shiftLeft => Value.shiftWith Value.shiftLeft

end Operator

namespace Operand

/-- The name that an operand is, if it is one. -/
def name? : Operand → Option Name
  | value v => v.name?
  | _ => none

/-- The name of the type of an operand, as messages give it. -/
def typeName : Operand → String
  | value v => v.typeRef.name
  | rel _ => "Rel"
  | rightPartial _ _ => "RightPartial"
  | leftPartial _ _ => "LeftPartial"
  | declaration _ => "RelationshipDeclaration"
  | classItself _ => TypeRef.ofClasses.name

/-- The result of an operator. -/
def combine (op : Operator) (left right : Operand) : Except Failure Operand :=
  match op, left, left.name?, right, right.name? with
  | .minus, _, some left, rel payload, _ => .ok (rightPartial left payload)
  | .minus, rel payload, _, _, some right => .ok (leftPartial right payload)
  | .shiftRight, rightPartial left payload, _, _, some right =>
    .ok (declaration (.rightward left payload right))
  | .shiftLeft, _, some left, leftPartial right payload, _ =>
    .ok (declaration (.leftward left payload right))
  | op, value a, _, value b, _ => value <$> op.ofValues a b
  | _, _, _, _, _ => .error .meaningless

/-- Whether two operands are of the same class and have equal fields. Payloads are only compared
where the names are equal. -/
def equals : Operand → Operand → Except Failure Bool
  | value a, value b => a.equals b
  | rel a, rel b => a.equals b
  | rightPartial a p, rightPartial b q => if a.text = b.text then p.equals q else .ok false
  | leftPartial a p, leftPartial b q => if a.text = b.text then p.equals q else .ok false
  | declaration d, declaration e =>
    if d.direction = e.direction ∧ d.left.text = e.left.text ∧ d.right.text = e.right.text then
      d.payload.equals e.payload
    else
      .ok false
  | classItself a, classItself b => .ok (a == b)
  | _, _ => .ok false

end Operand

/-- An expression of the notation. -/
inductive Term where
  | operand (operand : Operand)
  /-- A payload that is made from an entity. -/
  | rel (payload : EntitySource)
  /-- A finished declaration, made without operators. -/
  | declare (direction : Direction) (left : Name) (payload : EntitySource) (right : Name)
  | apply (op : Operator) (left right : Term)
  /-- An expression that cannot be made. -/
  | refused (failure : Failure)
  deriving Repr

namespace Term

/-- The value of an expression. Operands are evaluated from left to right. -/
def eval : Term → Except Failure Operand
  | operand value => .ok value
  | rel payload => .rel <$> payload.make
  | declare direction left payload right => do
    let entity ← payload.make
    return .declaration ⟨direction, left, right, entity⟩
  | apply op left right => do
    let a ← left.eval
    let b ← right.eval
    Operand.combine op a b
  | refused failure => .error failure

end Term

end CypherText
