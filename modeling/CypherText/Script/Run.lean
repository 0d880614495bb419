import CypherText.Script.Store

/-!
# Running scripts

Statements are executed one after the other. The statements of a nested script, and those in the
body of a loop, see a copy of the registers of the script around them. In a nested script the
first failure ends it and is a failure of the statement around it; in the outermost script the
next statement goes on. Running is bounded by fuel, because loops need not end.
-/

namespace CypherText.Script

variable {ι : Type}

open Effect

/-- The result of joining an object to an expression. -/
def joinToExpr (id : Nat) (e : Expr Condition (Body ι)) (other : Thing ι) : Effect ι (Thing ι) :=
  match other with
  | .expr otherId more => do return .expr (← joinId id e otherId more) (e ++ more)
  | _ => fail .unsupported

/-- The result of joining an object to a builder. -/
def joinToBuilder (exprId : Nat) (b : Builder Condition (Body ι)) (other : Thing ι) :
    Effect ι (Thing ι) := do
  let more ← perform other.part.toExpr
  makeBuilder (← joinId exprId b.expr other.exprId more) (b.extend more)

/-- The result of joining two objects. -/
def join (thing other : Thing ι) : Effect ι (Thing ι) :=
  match thing with
  | .expr id e => joinToExpr id e other
  | .builder _ exprId b => joinToBuilder exprId b other
  | _ => fail .unsupported

/-- The result of adding two objects. To an expression only an expression can be added, and to a
builder an expression or a builder. -/
def add (thing other : Thing ι) : Effect ι (Thing ι) :=
  match thing, other with
  | .expr id e, .expr _ _ => joinToExpr id e other
  | .builder _ exprId b, .expr _ _ => joinToBuilder exprId b other
  | .builder _ exprId b, .builder _ _ _ => joinToBuilder exprId b other
  | _, _ => fail .meaningless

/-- One expression from several objects. -/
def sequence (things : List (Thing ι)) : Effect ι (Thing ι) :=
  things.foldlM
    (fun done thing => do
      let more ← perform thing.part.toExpr
      match done with
      | .expr id e => return .expr (← joinId id e thing.exprId more) (e ++ more)
      | _ => fail .unsupported)
    (.expr Thing.emptyExprId .empty)

/-- The result of a call. -/
def performCall (env : Env) (call : Call) (thing : Thing ι) : Effect ι (Thing ι) :=
  match thing with
  | .builder _ exprId b => do
    let made ← perform (call.apply env b)
    if made.expr.size = b.expr.size then makeBuilder exprId made
    else makeBuilder (← freshId) made
  | _ => fail call.failureElsewhere

/-- The expression of a builder or expression. -/
def exprOf (thing : Thing ι) : Effect ι (Expr Condition (Body ι)) :=
  match thing with
  | .expr _ e => pure e
  | .builder _ _ b => pure b.expr
  | _ => fail .unsupported

/-- The builder that an object is. -/
def builderOf (thing : Thing ι) : Effect ι (Builder Condition (Body ι)) :=
  match thing with
  | .builder _ _ b => pure b
  | _ => fail .unsupported

/-- The type name and the literals that an extractor gives. -/
def describe (env : Env) (extractor : Extractor) (entity : EntitySource) : Effect ι Answer := do
  let entity ← ofExcept entity.make
  let extracted ← perform (extractor entity)
  let literals ← ofExcept (extracted.literals env.platform)
  return .extracted extracted.typeName.text literals

/-- Renders an expression. -/
def renderWith (host : Host Condition (Body ι) (Store ι)) (fuel : Nat) (separator : String)
    (e : Expr Condition (Body ι)) : Effect ι Answer := do
  let (result, w) := host.render fuel separator e (← get)
  set w
  match result with
  | .ok text => return .text text
  | .error halt => throw halt

/-- Runs an expression several times into one buffer. -/
def runTimes (host : Host Condition (Body ι) (Store ι)) (fuel : Nat) (e : Expr Condition (Body ι)) :
    Nat → Buffer → World (Store ι) → Execution (Store ι)
  | 0, buffer, w => ⟨.ok (), buffer, w⟩
  | times + 1, buffer, w =>
    let execution := host.run fuel e.steps buffer w
    match execution.outcome with
    | .ok () => runTimes host fuel e times execution.buffer execution.world
    | .error _ => execution

/-- Runs an expression several times and tells what was written, also if a run failed. -/
def runWith (host : Host Condition (Body ι) (Store ι)) (fuel : Nat) (separator : String)
    (times : Nat) (e : Expr Condition (Body ι)) : Effect ι Answer := do
  let execution := runTimes host fuel e times (.empty separator) (← get)
  set execution.world
  let buffer := execution.buffer
  match execution.outcome with
  | .ok () => return .run buffer.text buffer.kinds.toList none
  | .error (.failed failure) => return .run buffer.text buffer.kinds.toList (some failure)
  | .error .exhausted => throw .exhausted

/-- What the condition of a loop answers. It logs nothing, and does not fail. -/
def askIn (condition : Condition) (w : World (Store ι)) : Except Halt Bool × World (Store ι) :=
  let (answer, state) := w.state.ask condition
  (.ok answer, { w with state := state })

/-- Puts an object into the register for the result and tells what it is. -/
def keep (frame : Nat) (out : String) (thing : Thing ι) : Effect ι Answer := do
  setRegister frame out thing
  return thing.answer

mutual

/-- The object that a reference means. -/
def evalRef (env : Env) : Nat → Nat → Ref ι → Effect ι (Thing ι)
  | 0, _, _ => throw .exhausted
  | _ + 1, frame, .register name => register frame name
  | _ + 1, _, .value v => pure (.foreign v.typeRef.name)
  | fuel + 1, frame, .holder inner => do return .holder (← evalRef env fuel frame inner)
  | fuel + 1, frame, .script statements result => do
    let inner ← nestedFrame frame
    execAll env fuel inner statements
    evalRef env fuel inner result
  | _ + 1, _, .refused failure => fail failure
termination_by structural fuel => fuel

/-- The objects that several references mean. -/
def evalAll (env : Env) : Nat → Nat → List (Ref ι) → Effect ι (List (Thing ι))
  | 0, _, _ => throw .exhausted
  | _ + 1, _, [] => pure []
  | fuel + 1, frame, ref :: rest => do
    let thing ← evalRef env fuel frame ref
    let things ← evalAll env fuel frame rest
    return thing :: things

/-- Executes statements until one fails. -/
def execAll (env : Env) : Nat → Nat → List (Statement ι) → Effect ι Unit
  | 0, _, _ => throw .exhausted
  | _ + 1, _, [] => pure ()
  | fuel + 1, frame, statement :: rest => do
    let _ ← exec env fuel frame statement
    execAll env fuel frame rest

/-- What conditions and loop bodies do. -/
def host (env : Env) : Nat → Host Condition (Body ι) (Store ι)
  | 0 => ⟨askIn, fun _ w => (.error .exhausted, w)⟩
  | fuel + 1 =>
    ⟨askIn, fun body w =>
      let (result, w) := (evalRef env fuel body.frame body.ref).run.run w
      (result.map Thing.part, w)⟩

/-- Executes a statement. -/
def exec (env : Env) : Nat → Nat → Statement ι → Effect ι Answer
  | 0, _, _ => throw .exhausted
  | fuel + 1, frame, .on source out action =>
    match action with
    | .fresh extractor => do
      keep frame out (← makeBuilder Thing.emptyExprId ⟨.empty, extractor⟩)
    | .call call => do
      keep frame out (← performCall env call (← register frame source))
    | .forEach items body => do
      let b ← builderOf (← register frame source)
      let bodies := (← itemsOf items).map fun item => ⟨frame, body item⟩
      keep frame out (← makeBuilder (← freshId) (b.forEach bodies))
    | .forEachExpr items body => do
      let bodies := (← itemsOf items).map fun item => ⟨frame, body item⟩
      keep frame out (← makeExpr (.forEach bodies))
    | .whileLoop condition body => do
      let condition ← conditionOf condition
      let thing ← evalRef env fuel frame body
      let b ← builderOf (← register frame source)
      let made ← perform (b.whileLoop condition thing.part)
      keep frame out (← makeBuilder (← freshId) made)
    | .whileExpr condition body => do
      let condition ← conditionOf condition
      let thing ← evalRef env fuel frame body
      let e ← perform thing.part.toExpr
      keep frame out (← makeExpr (.whileLoop condition e))
    | .andThen other => do
      let thing ← register frame source
      keep frame out (← join thing (← evalRef env fuel frame other))
    | .plus other => do
      let thing ← register frame source
      keep frame out (← add thing (← evalRef env fuel frame other))
    | .clause kind text => do
      keep frame out (← makeExpr (.clause kind text))
    | .empty => keep frame out (.expr Thing.emptyExprId .empty)
    | .sequence parts => do
      keep frame out (← sequence (← evalAll env fuel frame parts))
    | .expr => do
      let thing ← register frame source
      let b ← builderOf thing
      keep frame out (.expr thing.exprId b.expr)
    | .wrap extractor => do
      match ← register frame source with
      | .expr id e => keep frame out (← makeBuilder id ⟨e, extractor⟩)
      | _ => fail .unsupported
    | .build separator => do
      let e ← exprOf (← register frame source)
      renderWith (host env fuel) fuel (separator.getD env.lineSeparator) e
    | .buildPart part separator => do
      let thing ← evalRef env fuel frame part
      let e ← perform thing.part.toExpr
      renderWith (host env fuel) fuel (separator.getD env.lineSeparator) e
    | .run separator times => do
      let e ← exprOf (← register frame source)
      runWith (host env fuel) fuel separator times e
    | .inspect => do
      let b ← builderOf (← register frame source)
      return .shown b.inspect
    | .same other => do
      let thing ← register frame source
      return .same (thing.isSame (← evalRef env fuel frame other))
    | .truth => do
      return .truth (← register frame source).truth
    | .extract entity => do
      let b ← builderOf (← register frame source)
      describe env b.extractor entity
    | .setCounter name value => do
      change fun s => { s with counters := s.counters.put name value }
      return .counter value
    | .getCounter name => do
      return .counter (← look fun s => (s.counters.get? name).getD 0)
    | .setList name items => do
      change fun s => { s with lists := s.lists.put name items }
      return .length items.length
    | .appendList name item => do
      let items ← look fun s => (s.lists.get? name).getD [] ++ [item]
      change fun s => { s with lists := s.lists.put name items }
      return .length items.length
    | .refuse failure => fail failure

end

/-- The outcome of a statement of the outermost script, with the records that it logged. -/
structure Outcome where
  result : Except Halt Answer
  log : List Event
  deriving Repr

/-- Executes the statements of the outermost script, each one whatever became of those before
it. -/
def runFrom (env : Env) (fuel : Nat) (w : World (Store ι)) : List (Statement ι) → List Outcome
  | [] => []
  | statement :: rest =>
    let (result, after) := (exec env fuel 0 statement).run.run { w with log := [] }
    ⟨result, after.log⟩ :: runFrom env fuel after rest

/-- The outcomes of all statements of a script. -/
def run (env : Env) (fuel : Nat) (statements : List (Statement ι)) : List Outcome :=
  runFrom env fuel ⟨[], .initial⟩ statements

end CypherText.Script
