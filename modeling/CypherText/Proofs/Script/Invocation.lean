import CypherText.Proofs.Script.Lawful

/-!
# Invocations

A statement that calls an operation first evaluates what it refers to. An invocation is what is
then left to do: the operation with its receiver and its arguments. A call of a clause or of a
composition that fails has no effect besides the report of its failure.
-/

namespace CypherText.Script

variable {ι : Type}

open Effect

/-- An operation that is ready to take place: its receiver and its arguments are evaluated. -/
inductive Invocation (ι : Type) where
  | call (call : Call) (thing : Thing ι)
  | forEach (thing : Thing ι) (bodies : List (Body ι))
  | forEachExpr (bodies : List (Body ι))
  | whileLoop (condition : Condition) (body thing : Thing ι)
  | whileExpr (condition : Condition) (body : Thing ι)
  | andThen (thing other : Thing ι)
  | plus (thing other : Thing ι)
  | build (thing : Thing ι) (separator : Option String)
  | buildPart (part : Thing ι) (separator : Option String)

namespace Invocation

/-- Whether an operation renders a query. -/
def IsBuild : Invocation ι → Prop
  | build _ _ => True
  | buildPart _ _ => True
  | _ => False

/-- Performs an operation and puts what it makes into the register `out`. -/
def perform (env : Env) (fuel frame : Nat) (out : String) : Invocation ι → Effect ι Answer
  | call made thing => do keep frame out (← performCall env made thing)
  | forEach thing bodies => do
    let b ← builderOf thing
    keep frame out (← makeBuilder (← freshId) (b.forEach bodies))
  | forEachExpr bodies => do keep frame out (← makeExpr (.forEach bodies))
  | whileLoop condition body thing => do
    let b ← builderOf thing
    let made ← Effect.perform (b.whileLoop condition body.part)
    keep frame out (← makeBuilder (← freshId) made)
  | whileExpr condition body => do
    let e ← Effect.perform body.part.toExpr
    keep frame out (← makeExpr (.whileLoop condition e))
  | andThen thing other => do keep frame out (← join thing other)
  | plus thing other => do keep frame out (← add thing other)
  | build thing separator => do
    let e ← exprOf thing
    renderWith (host env fuel) fuel (separator.getD env.lineSeparator) e
  | buildPart part separator => do
    let e ← Effect.perform part.part.toExpr
    renderWith (host env fuel) fuel (separator.getD env.lineSeparator) e

end Invocation

/-- Evaluates what a statement refers to, if it calls an operation. -/
def Action.receive (env : Env) (fuel frame : Nat) (source : String) :
    Action ι → Option (Effect ι (Invocation ι))
  | call made => some do return .call made (← register frame source)
  | forEach items body => some do
    let thing ← register frame source
    let items ← itemsOf items
    return .forEach thing (items.map fun item => ⟨frame, body item⟩)
  | forEachExpr items body => some do
    let items ← itemsOf items
    return .forEachExpr (items.map fun item => ⟨frame, body item⟩)
  | whileLoop condition body => some do
    let condition ← conditionOf condition
    let thing ← evalRef env fuel frame body
    return .whileLoop condition thing (← register frame source)
  | whileExpr condition body => some do
    let condition ← conditionOf condition
    return .whileExpr condition (← evalRef env fuel frame body)
  | andThen other => some do
    let thing ← register frame source
    return .andThen thing (← evalRef env fuel frame other)
  | plus other => some do
    let thing ← register frame source
    return .plus thing (← evalRef env fuel frame other)
  | build separator => some do return .build (← register frame source) separator
  | buildPart part separator => some do return .buildPart (← evalRef env fuel frame part) separator
  | _ => none

/-- Whether an object is a builder can be asked before or after the items of a loop are read. -/
theorem bind_builderOf_comm (thing : Thing ι) (items : Items ι)
    (next : Builder Condition (Body ι) → List ι → Effect ι Answer) :
    (do let b ← builderOf thing; let items ← itemsOf items; next b items) =
      (do let items ← itemsOf items; let b ← builderOf thing; next b items) := by
  cases items with
  | given items => simp [itemsOf]
  | shared name =>
      cases thing with
      | builder id exprId b => simp [builderOf]
      | _ => rfl

/-- A statement that calls an operation evaluates what it refers to and then performs it. -/
theorem exec_eq_receive {env : Env} {fuel frame : Nat} {source out : String} {action : Action ι}
    {received : Effect ι (Invocation ι)}
    (receives : action.receive env fuel frame source = some received) :
    exec env (fuel + 1) frame (.on source out action) =
      (do let invocation ← received; invocation.perform env fuel frame out) := by
  cases action with
  | forEach items body =>
      cases receives
      rw [exec]
      simp only [bind_assoc, pure_bind, Invocation.perform, bind_builderOf_comm]
  | call _ | forEachExpr _ _ | whileLoop _ _ | whileExpr _ _ | andThen _ | plus _ | build _
  | buildPart _ _ =>
      cases receives
      rw [exec]
      simp only [bind_assoc, pure_bind, Invocation.perform]
  | _ => contradiction

/-! ## Failures of operations -/

namespace Effect

variable {α β : Type}

/-- Whether an effect that fails has done nothing but write the report of its failure. -/
def FailsCleanly (x : Effect ι α) : Prop :=
  ∀ (w after : World (Store ι)) (failure : Failure),
    x.run.run w = (.error (.failed failure), after) → after = w.record failure.records

/-- Whether an effect always has a result. -/
def IsTotal (x : Effect ι α) : Prop :=
  ∀ w, ∃ a after, x.run.run w = (.ok a, after)

theorem isTotal_pure (a : α) : IsTotal (pure a : Effect ι α) := by
  intro w
  exact ⟨a, w, rfl⟩

theorem Makes.isTotal {good : α → Prop} {x : Effect ι α} (makes : Makes good x) : IsTotal x := by
  intro w
  obtain ⟨a, next, ran, _⟩ := makes w
  exact ⟨a, withNextId w next, ran⟩

theorem IsTotal.bind {x : Effect ι α} {next : α → Effect ι β} (starts : IsTotal x)
    (goesOn : ∀ a, IsTotal (next a)) : IsTotal (x >>= next) := by
  intro w
  obtain ⟨a, middle, ran⟩ := starts w
  obtain ⟨b, after, ranNext⟩ := goesOn a middle
  exact ⟨b, after, (run_bind_of_ok ran next).trans ranNext⟩

theorem isTotal_makeBuilder (exprId : Nat) (b : Builder Condition (Body ι)) :
    IsTotal (makeBuilder exprId b) :=
  IsTotal.bind makes_freshId.isTotal fun _ => isTotal_pure _

theorem isTotal_makeExpr (e : Expr Condition (Body ι)) : IsTotal (makeExpr e) :=
  IsTotal.bind makes_freshId.isTotal fun _ => isTotal_pure _

theorem isTotal_keep (frame : Nat) (out : String) (thing : Thing ι) :
    IsTotal (keep frame out thing) := by
  intro w
  exact ⟨thing.answer, _, rfl⟩

/-- What makes an object and keeps it. -/
theorem IsTotal.kept {x : Effect ι (Thing ι)} (isTotal : IsTotal x) (frame : Nat) (out : String) :
    IsTotal (do keep frame out (← x)) :=
  isTotal.bind fun _ => isTotal_keep frame out _

theorem IsTotal.failsCleanly {x : Effect ι α} (isTotal : IsTotal x) : FailsCleanly x := by
  intro w after failure failed
  obtain ⟨a, other, ran⟩ := isTotal w
  cases ran.symm.trans failed

theorem failsCleanly_fail {failure : Failure} (isSilent : failure.IsSilent) :
    FailsCleanly (fail failure : Effect ι α) := by
  intro w after reason failed
  cases failed
  rw [isSilent.records_eq, World.record, List.append_nil]

theorem failsCleanly_perform {operation : Logged α} (isOrderly : operation.IsOrderly) :
    FailsCleanly (perform operation : Effect ι α) := by
  intro w after failure failed
  rw [run_perform] at failed
  cases outcome : operation.result with
  | ok a =>
      rw [outcome] at failed
      cases failed
  | error reason =>
      rw [outcome] at failed
      cases failed
      rw [isOrderly.events_eq outcome]

/-- What goes on behind an effect may do anything, as long as it cannot fail. -/
theorem FailsCleanly.bind {x : Effect ι α} {next : α → Effect ι β} (starts : FailsCleanly x)
    (goesOn : ∀ a, IsTotal (next a)) : FailsCleanly (x >>= next) := by
  intro w after failure failed
  rcases ran : x.run.run w with ⟨result, middle⟩
  cases result with
  | error reason =>
      rw [run_bind_of_error ran] at failed
      cases failed
      exact starts w after failure ran
  | ok a =>
      obtain ⟨b, other, ranNext⟩ := goesOn a middle
      rw [run_bind_of_ok ran, ranNext] at failed
      cases failed

theorem FailsCleanly.kept {x : Effect ι (Thing ι)} (failsCleanly : FailsCleanly x) (frame : Nat)
    (out : String) : FailsCleanly (do keep frame out (← x)) :=
  failsCleanly.bind fun _ => isTotal_keep frame out _

end Effect

variable {p : Permission}

theorem failsCleanly_joinToBuilder (exprId : Nat) (b : Builder Condition (Body ι))
    (other : Thing ι) : FailsCleanly (joinToBuilder exprId b other) :=
  (failsCleanly_perform other.part.onlyReports_toExpr.isOrderly).bind fun _ =>
    (makes_joinId _ _ _ _).isTotal.bind fun _ => isTotal_makeBuilder _ _

theorem failsCleanly_joinToExpr (id : Nat) (e : Expr Condition (Body ι)) (other : Thing ι) :
    FailsCleanly (joinToExpr id e other) := by
  cases other with
  | expr otherId more =>
      exact ((makes_joinId _ _ _ _).isTotal.bind fun _ => isTotal_pure _).failsCleanly
  | builder _ _ _ | holder _ | foreign _ => exact failsCleanly_fail Failure.isSilent_unsupported

theorem failsCleanly_join (thing other : Thing ι) : FailsCleanly (join thing other) := by
  cases thing with
  | expr id e => exact failsCleanly_joinToExpr id e other
  | builder id exprId b => exact failsCleanly_joinToBuilder exprId b other
  | holder _ | foreign _ => exact failsCleanly_fail Failure.isSilent_unsupported

theorem failsCleanly_add (thing other : Thing ι) : FailsCleanly (add thing other) := by
  unfold add
  split
  · exact failsCleanly_joinToExpr _ _ _
  · exact failsCleanly_joinToBuilder _ _ _
  · exact failsCleanly_joinToBuilder _ _ _
  · exact failsCleanly_fail Failure.isSilent_meaningless

theorem failsCleanly_performCall (env : Env) {call : Call} (isSilent : call.IsSilent)
    {thing : Thing ι} (obeys : thing.Obeys p) : FailsCleanly (performCall env call thing) := by
  cases thing with
  | builder id exprId b =>
      refine (failsCleanly_perform (call.isOrderly_apply env isSilent obeys.2)).bind ?_
      intro made
      split
      · exact isTotal_makeBuilder _ _
      · exact makes_freshId.isTotal.bind fun _ => isTotal_makeBuilder _ _
  | expr _ _ | holder _ | foreign _ => exact failsCleanly_fail isSilent.failureElsewhere

namespace Invocation

/-- Whether nothing that an operation is given is refused by a fault, and all its objects obey. -/
def Obeys (p : Permission) : Invocation ι → Prop
  | call made thing => made.IsSilent ∧ thing.Obeys p
  | forEach thing bodies => thing.Obeys p ∧ ∀ body ∈ bodies, body.Obeys p
  | forEachExpr bodies => ∀ body ∈ bodies, body.Obeys p
  | whileLoop _ body thing => body.Obeys p ∧ thing.Obeys p
  | whileExpr _ body => body.Obeys p
  | andThen thing other => thing.Obeys p ∧ other.Obeys p
  | plus thing other => thing.Obeys p ∧ other.Obeys p
  | build thing _ => thing.Obeys p
  | buildPart part _ => part.Obeys p

/-- A call of a clause or of a composition that fails changes nothing, and it writes the report of
its failure and nothing else. -/
theorem failsCleanly_perform (env : Env) (fuel frame : Nat) (out : String)
    {invocation : Invocation ι} (obeys : invocation.Obeys p) (noBuild : ¬ invocation.IsBuild) :
    FailsCleanly (invocation.perform env fuel frame out) := by
  cases invocation with
  | call made thing => exact (failsCleanly_performCall env obeys.1 obeys.2).kept frame out
  | forEach thing bodies =>
      cases thing with
      | builder id exprId b =>
          refine IsTotal.failsCleanly ((isTotal_pure b).bind fun _ => ?_)
          refine makes_freshId.isTotal.bind fun exprId => ?_
          exact (isTotal_makeBuilder exprId _).kept frame out
      | expr _ _ | holder _ | foreign _ => exact failsCleanly_fail Failure.isSilent_unsupported
  | forEachExpr bodies => exact ((isTotal_makeExpr _).kept frame out).failsCleanly
  | whileLoop condition body thing =>
      cases thing with
      | builder id exprId b =>
          refine (Effect.failsCleanly_perform
            (b.onlyReports_whileLoop condition body.part).isOrderly).bind fun _ => ?_
          refine makes_freshId.isTotal.bind fun exprId => ?_
          exact (isTotal_makeBuilder exprId _).kept frame out
      | expr _ _ | holder _ | foreign _ => exact failsCleanly_fail Failure.isSilent_unsupported
  | whileExpr condition body =>
      refine (Effect.failsCleanly_perform body.part.onlyReports_toExpr.isOrderly).bind fun _ => ?_
      exact (isTotal_makeExpr _).kept frame out
  | andThen thing other => exact (failsCleanly_join thing other).kept frame out
  | plus thing other => exact (failsCleanly_add thing other).kept frame out
  | build _ _ | buildPart _ _ => exact absurd trivial noBuild

end Invocation

end CypherText.Script
