import CypherText.Expr
import CypherText.Relationship

/-!
# Builders

A builder is an expression with an extractor. It never changes: every operation gives a new
builder whose expression is longer. An operation first makes the text of its clause, then logs
that a clause is appended, and only then extends the expression; where the text cannot be made
nothing is appended.
-/

namespace CypherText

/-- What operations take from their surroundings. -/
structure Env where
  /-- The text between clauses where none is given. -/
  lineSeparator : String
  /-- The text of a condition that is only given as a predicate. -/
  wherePlaceholder : String
  platform : Platform
  deriving Repr

/-- An expression with the extractor for the clauses that are still to come. -/
structure Builder (π β : Type) where
  expr : Expr π β
  extractor : Extractor

/-- What may stand where an expression is expected. -/
inductive Part (π β : Type) where
  | expr (expr : Expr π β)
  | builder (builder : Builder π β)
  /-- An object that holds another one as its expression. -/
  | holder (inner : Part π β)
  /-- Anything else, of the named type. -/
  | foreign (typeName : String)

namespace Part

variable {π β : Type}

/-- The name of the type of a part, as messages give it. -/
def typeName : Part π β → String
  | expr _ => "CypherExpr"
  | builder _ => "CypherBuilder"
  | holder _ => "SimpleNamespace"
  | foreign typeName => typeName

/-- The expression that a part stands for: itself, that of a builder, or the expression that a
holder holds. -/
def expr? : Part π β → Option (Expr π β)
  | expr e => some e
  | builder b => some b.expr
  | holder (expr e) => some e
  | _ => none

/-- The expression that a part stands for; any other part is a fault. -/
def toExpr (part : Part π β) : Logged (Expr π β) :=
  match part.expr? with
  | some e => .ofExcept (.ok e)
  | none => .raise (.notAnExpression part.typeName)

end Part

/-- The predicate of a where clause. -/
inductive Predicate where
  /-- A function of the given name. -/
  | function (name : String)
  /-- A value. -/
  | value (value : Value)
  deriving Repr

namespace Predicate

/-- How a predicate is described in the log. -/
def describe (room : Nat) : Predicate → Except Failure String
  | function name => .ok name
  | value v => v.inspect room

end Predicate

namespace Builder

variable {π β : Type}

/-- The builder that has nothing yet, with the standard extractor. -/
def empty : Builder π β :=
  ⟨.empty, .standard⟩

/-- The builder with another extractor for later clauses. -/
def withExtractor (extractor : Extractor) (b : Builder π β) : Builder π β :=
  { b with extractor := extractor }

/-- The builder with an expression after its own. -/
def extend (more : Expr π β) (b : Builder π β) : Builder π β :=
  { b with expr := b.expr ++ more }

/-- Logs and appends a clause. -/
def append (kind : ClauseKind) (text : String) (b : Builder π β) : Logged (Builder π β) := do
  Logged.log (.appending kind)
  return b.extend (.clause kind text)

/-- Appending always succeeds and logs one record. -/
theorem append_eq (kind : ClauseKind) (text : String) (b : Builder π β) :
    b.append kind text = ⟨[.appending kind], .ok (b.extend (.clause kind text))⟩ :=
  rfl

@[simp]
theorem steps_extend (more : Expr π β) (b : Builder π β) :
    (b.extend more).expr.steps = b.expr.steps ++ more.steps :=
  rfl

@[simp]
theorem extractor_extend (more : Expr π β) (b : Builder π β) :
    (b.extend more).extractor = b.extractor :=
  rfl

/-! ## Clauses with given texts -/

/-- A statement as it is given. -/
def raw (statement : String) (b : Builder π β) : Logged (Builder π β) :=
  b.append .raw statement

/-- A clause that matches a pattern. -/
def matching (pattern : String) (b : Builder π β) : Logged (Builder π β) :=
  b.append .matching ("MATCH " ++ pattern)

/-- A clause that matches a pattern if it can. -/
def optionalMatch (pattern : String) (b : Builder π β) : Logged (Builder π β) :=
  b.append .optionalMatch ("OPTIONAL MATCH " ++ pattern)

/-- A condition as it is given. -/
def whereText (condition : String) (b : Builder π β) : Logged (Builder π β) :=
  b.append .filter ("WHERE " ++ condition)

/-- A condition that is given as a predicate. Predicates cannot be written, so the placeholder
stands for all of them, and a warning is logged. -/
def wherePredicate (env : Env) (predicate : Predicate) (b : Builder π β) :
    Logged (Builder π β) := do
  let description ← Logged.ofExcept (predicate.describe env.platform.room)
  Logged.log (.placeholder description)
  b.append .filter ("WHERE " ++ env.wherePlaceholder)

/-- The items to return, of which there has to be at least one. -/
def returning (items : List String) (b : Builder π β) : Logged (Builder π β) :=
  match items with
  | [] => .raise .emptyResult
  | items => b.append .result ("RETURN " ++ ", ".intercalate items)

/-- A unique creation as it is given. -/
def createUniqueText (statement : String) (b : Builder π β) : Logged (Builder π β) :=
  b.append .createUnique ("CREATE UNIQUE " ++ statement)

/-! ## Nodes -/

/-- The pattern of a node. -/
def nodePattern (name label : Name) (block : String) : String :=
  "(" ++ Identifier.token name ++ ":" ++ Identifier.token label ++ block ++ ")"

/-- A clause that creates a node. -/
def createNode (env : Env) (name label : Name) (properties : Properties) (b : Builder π β) :
    Logged (Builder π β) := do
  let block ← Logged.ofExcept (properties.block env.platform)
  b.append .create ("CREATE " ++ nodePattern name label block)

/-- Creates a node without properties. -/
def createEmpty (env : Env) (name label : Name) (b : Builder π β) : Logged (Builder π β) :=
  b.createNode env name label []

/-- Creates a node with the given label and the properties of an entity. -/
def createTyped (env : Env) (name label : Name) (entity : Entity) (b : Builder π β) :
    Logged (Builder π β) := do
  let extracted ← b.extractor entity
  b.createNode env name label extracted.properties

/-- Creates a node with the type name and the properties of an entity. -/
def create (env : Env) (name : Name) (entity : Entity) (b : Builder π β) :
    Logged (Builder π β) := do
  let extracted ← b.extractor entity
  b.createNode env name extracted.typeName extracted.properties

/-! ## Relationships -/

/-- Creates a relationship. Anything but a finished declaration is a fault. -/
def relate (env : Env) (form : RelateForm) (declaration : Operand) (b : Builder π β) :
    Logged (Builder π β) :=
  match declaration with
  | .declaration d => do
    let pattern ← d.text env.platform b.extractor
    b.append form.kind (form.kind.keyword ++ " " ++ pattern)
  | .rightPartial _ _ => .raise (.incompleteDeclaration form declaration.typeName)
  | .leftPartial _ _ => .raise (.incompleteDeclaration form declaration.typeName)
  | _ => .raise (.notADeclaration form declaration.typeName)

/-! ## Composition -/

/-- Appends what each of the bodies gives when the query is rendered. -/
def forEach (bodies : List β) (b : Builder π β) : Builder π β :=
  b.extend (.forEach bodies)

/-- Appends `body` for as long as the condition holds when the query is rendered. -/
def whileLoop (condition : π) (body : Part π β) (b : Builder π β) : Logged (Builder π β) := do
  let e ← body.toExpr
  return b.extend (.whileLoop condition e)

/-- Appends another builder or expression. -/
def andThen (other : Part π β) (b : Builder π β) : Logged (Builder π β) := do
  let e ← other.toExpr
  return b.extend e

/-- How a builder shows itself. -/
def inspect (b : Builder π β) : String :=
  "CypherBuilder(steps=" ++ toString b.expr.size ++ ")"

end Builder

end CypherText
