import CypherText.Clause

/-!
# Expressions

An expression is a list of steps that write clauses when it is run. Besides single clauses there
are two kinds of loops. What the items of a loop contribute is only known when it is run, so a
step keeps the code that will be evaluated then: `β` is the type of code for loop bodies, and
`π` that of code for loop conditions. Composition joins the lists of steps, and the empty
expression is its identity.
-/

namespace CypherText

/-- One step of an expression. -/
inductive Step (π β : Type) where
  /-- Writes a clause. -/
  | clause (clause : Clause)
  /-- Evaluates the bodies one after another and runs what each gives. -/
  | forEach (bodies : List β)
  /-- Runs the body for as long as the condition holds. -/
  | whileLoop (condition : π) (body : List (Step π β))
  deriving Repr

/-- An expression: its steps in order. -/
structure Expr (π β : Type) where
  steps : List (Step π β)
  deriving Repr

namespace Expr

variable {π β : Type}

/-- The expression that writes nothing. -/
def empty : Expr π β :=
  ⟨[]⟩

/-- The expression that writes one clause. -/
def clause (kind : ClauseKind) (text : String) : Expr π β :=
  ⟨[.clause ⟨kind, text⟩]⟩

/-- The expression that runs what each of the bodies gives. -/
def forEach (bodies : List β) : Expr π β :=
  ⟨[.forEach bodies]⟩

/-- The expression that runs `body` for as long as the condition holds. -/
def whileLoop (condition : π) (body : Expr π β) : Expr π β :=
  ⟨[.whileLoop condition body.steps]⟩

/-- Whether the expression has no steps. -/
def isEmpty (e : Expr π β) : Bool :=
  e.steps.isEmpty

/-- The number of steps. -/
def size (e : Expr π β) : Nat :=
  e.steps.length

/-- One expression after the other. -/
def andThen (first second : Expr π β) : Expr π β :=
  ⟨first.steps ++ second.steps⟩

/-- Several expressions, one after the other. -/
def sequence (exprs : List (Expr π β)) : Expr π β :=
  exprs.foldl andThen empty

instance : Append (Expr π β) :=
  ⟨andThen⟩

@[simp]
theorem steps_append (first second : Expr π β) :
    (first ++ second).steps = first.steps ++ second.steps :=
  rfl

@[simp]
theorem steps_empty : (empty : Expr π β).steps = [] :=
  rfl

end Expr

end CypherText
