import CypherText.Execution
import CypherText.Script.Basic

/-!
# The state of a script

Operations on the registers, counters and lists of a script. A statement may fail; what it
changed before it failed stays.
-/

namespace CypherText.Script

variable {ι : Type}

namespace Store

/-- The state before the first statement. -/
def initial : Store ι where
  frames := #[[("b", Thing.firstBuilder)]]
  counters := []
  lists := []
  answers := #[]
  nextId := 2

/-- The answer of a condition, and the state after it. -/
def ask (condition : Condition) (s : Store ι) : Bool × Store ι :=
  match condition with
  | .counter name =>
    let count := (s.counters.get? name).getD 0
    if 0 < count then (true, { s with counters := s.counters.put name (count - 1) }) else (false, s)
  | .answers index =>
    match s.answers[index]? with
    | some (answer :: rest) => (answer, { s with answers := s.answers.setIfInBounds index rest })
    | _ => (false, s)

end Store

/-- What statements are made of: they may fail, and they change the world. -/
abbrev Effect (ι α : Type) := ExceptT Halt (StateM (World (Store ι))) α

namespace Effect

/-- Fails. -/
def fail (failure : Failure) : Effect ι α :=
  throw (.failed failure)

/-- The result of a computation that may fail. -/
def ofExcept (result : Except Failure α) : Effect ι α :=
  match result with
  | .ok a => pure a
  | .error failure => fail failure

/-- The result of an operation that logs. -/
def perform (operation : Logged α) : Effect ι α := do
  modify fun w => w.record operation.events
  ofExcept operation.result

/-- Changes the state. -/
def change (f : Store ι → Store ι) : Effect ι Unit :=
  modify fun w => { w with state := f w.state }

/-- Reads the state. -/
def look (f : Store ι → α) : Effect ι α := do
  return f (← get).state

/-- A number for a new object. -/
def freshId : Effect ι Nat := do
  let id ← look (·.nextId)
  change fun s => { s with nextId := id + 1 }
  return id

/-- The object in a register. -/
def register (frame : Nat) (name : String) : Effect ι (Thing ι) := do
  let registers ← look fun s => s.frames.getD frame []
  match registers.get? name with
  | some thing => return thing
  | none => fail (.unknownName name)

/-- Puts an object into a register. -/
def setRegister (frame : Nat) (name : String) (thing : Thing ι) : Effect ι Unit :=
  change fun s =>
    { s with frames := s.frames.modify frame (·.put name thing) }

/-- A new frame with the registers of `frame`, but with a builder that has nothing yet. -/
def nestedFrame (frame : Nat) : Effect ι Nat := do
  let registers ← look fun s => s.frames.getD frame []
  let number ← look fun s => s.frames.size
  change fun s => { s with frames := s.frames.push (registers.put "b" Thing.firstBuilder) }
  return number

/-- The items of a loop, as they are now. -/
def itemsOf : Items ι → Effect ι (List ι)
  | .given items => pure items
  | .shared name => look fun s => (s.lists.get? name).getD []

/-- A condition that is ready to be asked. -/
def conditionOf : ConditionSource → Effect ι Condition
  | .counter name => pure (.counter name)
  | .answers answers => do
    let index ← look fun s => s.answers.size
    change fun s => { s with answers := s.answers.push answers }
    return .answers index

/-- A new builder. -/
def makeBuilder (exprId : Nat) (b : Builder Condition (Body ι)) : Effect ι (Thing ι) := do
  return .builder (← freshId) exprId b

/-- A new expression. -/
def makeExpr (e : Expr Condition (Body ι)) : Effect ι (Thing ι) := do
  return .expr (← freshId) e

/-- The number of the expression that joins two: that of one if the other is empty, and
otherwise a new one. -/
def joinId (firstId : Nat) (first : Expr Condition (Body ι)) (secondId : Nat)
    (second : Expr Condition (Body ι)) : Effect ι Nat :=
  if second.isEmpty then pure firstId
  else if first.isEmpty then pure secondId
  else freshId

end Effect

end CypherText.Script
