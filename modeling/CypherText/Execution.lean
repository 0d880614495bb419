import CypherText.Buffer
import CypherText.Builder

/-!
# Running expressions

Loop bodies and conditions are foreign code. A `Host` says what that code does: a condition gives an
answer and a body gives a part of the query; both may log and change the state of the world, and
both may fail. An expression is run by a machine with a list of pending steps. A loop is unfolded
one turn at a time, in front of what is pending. The machine stops when its fuel is used up, since a
loop need not end.
-/

namespace CypherText

/-- The world that foreign code sees and changes, with what has been logged. -/
structure World (σ : Type) where
  log : List Event
  state : σ

namespace World

variable {σ : Type}

/-- The world with more records in its log. -/
def record (w : World σ) (events : List Event) : World σ :=
  { w with log := w.log ++ events }

@[simp]
theorem log_record (w : World σ) (events : List Event) :
    (w.record events).log = w.log ++ events :=
  rfl

@[simp]
theorem state_record (w : World σ) (events : List Event) : (w.record events).state = w.state :=
  rfl

end World

/-- Why a run has no result. -/
inductive Halt where
  | failed (failure : Failure)
  /-- The fuel was used up. -/
  | exhausted
  deriving DecidableEq, Repr

/-- What the code of conditions and bodies does. -/
structure Host (π β σ : Type) where
  /-- What a condition answers, and the world after it. -/
  ask : π → World σ → Except Halt Bool × World σ
  /-- What a body gives, and the world after it. -/
  eval : β → World σ → Except Halt (Part π β) × World σ

/-- How a run ended, what it wrote, and the world that it left. -/
structure Execution (σ : Type) where
  outcome : Except Halt Unit
  buffer : Buffer
  world : World σ

namespace Host

variable {π β σ : Type}

/-- The expression that a body gives; a body that gives no part of a query is a fault. -/
def evalExpr (host : Host π β σ) (body : β) (w : World σ) : Except Halt (Expr π β) × World σ :=
  match host.eval body w with
  | (.error halt, w) => (.error halt, w)
  | (.ok part, w) =>
    let converted := part.toExpr
    (converted.result.mapError .failed, w.record converted.events)

/-- Runs pending steps. -/
def run (host : Host π β σ) : Nat → List (Step π β) → Buffer → World σ → Execution σ
  | _, [], buffer, w => ⟨.ok (), buffer, w⟩
  | 0, _ :: _, buffer, w => ⟨.error .exhausted, buffer, w⟩
  | fuel + 1, .clause clause :: rest, buffer, w => run host fuel rest (buffer.write clause) w
  | fuel + 1, .forEach [] :: rest, buffer, w => run host fuel rest buffer w
  | fuel + 1, .forEach (body :: bodies) :: rest, buffer, w =>
    match host.evalExpr body w with
    | (.error halt, w) => ⟨.error halt, buffer, w⟩
    | (.ok e, w) => run host fuel (e.steps ++ .forEach bodies :: rest) buffer w
  | fuel + 1, .whileLoop condition body :: rest, buffer, w =>
    match host.ask condition w with
    | (.error halt, w) => ⟨.error halt, buffer, w⟩
    | (.ok true, w) => run host fuel (body ++ .whileLoop condition body :: rest) buffer w
    | (.ok false, w) => run host fuel rest buffer w

@[simp]
theorem run_nil (host : Host π β σ) (fuel : Nat) (buffer : Buffer) (w : World σ) :
    host.run fuel [] buffer w = ⟨.ok (), buffer, w⟩ := by
  cases fuel <;> rfl

@[simp]
theorem run_clause (host : Host π β σ) (fuel : Nat) (clause : Clause) (rest : List (Step π β))
    (buffer : Buffer) (w : World σ) :
    host.run (fuel + 1) (.clause clause :: rest) buffer w =
      host.run fuel rest (buffer.write clause) w :=
  rfl

@[simp]
theorem run_forEach_nil (host : Host π β σ) (fuel : Nat) (rest : List (Step π β))
    (buffer : Buffer) (w : World σ) :
    host.run (fuel + 1) (.forEach [] :: rest) buffer w = host.run fuel rest buffer w :=
  rfl

variable {host : Host π β σ} {condition : π} {w asked : World σ}

/-- A loop whose condition holds runs its body once and then again starts with the condition. -/
theorem run_whileLoop_of_true (holds : host.ask condition w = (.ok true, asked)) (fuel : Nat)
    (body rest : List (Step π β)) (buffer : Buffer) :
    host.run (fuel + 1) (.whileLoop condition body :: rest) buffer w =
      host.run fuel (body ++ .whileLoop condition body :: rest) buffer asked := by
  simp [run, holds]

/-- A loop whose condition does not hold only changes the world as the condition does. -/
theorem run_whileLoop_of_false (fails : host.ask condition w = (.ok false, asked)) (fuel : Nat)
    (body rest : List (Step π β)) (buffer : Buffer) :
    host.run (fuel + 1) (.whileLoop condition body :: rest) buffer w =
      host.run fuel rest buffer asked := by
  simp [run, fails]

/-- Where a condition gives no answer, the run ends. -/
theorem run_whileLoop_of_error {halt : Halt} (refuses : host.ask condition w = (.error halt, asked))
    (fuel : Nat) (body rest : List (Step π β)) (buffer : Buffer) :
    host.run (fuel + 1) (.whileLoop condition body :: rest) buffer w =
      ⟨.error halt, buffer, asked⟩ := by
  simp [run, refuses]

/-- The text of an expression, run once into a fresh buffer. Only a finished text is logged. -/
def render (host : Host π β σ) (fuel : Nat) (separator : String) (e : Expr π β) (w : World σ) :
    Except Halt String × World σ :=
  let execution := host.run fuel e.steps (.empty separator) w
  let buffer := execution.buffer
  match execution.outcome with
  | .ok () =>
    (.ok buffer.text, execution.world.record [.rendered buffer.kinds.toList buffer.text])
  | .error halt => (.error halt, execution.world)

end Host

end CypherText
