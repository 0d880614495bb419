import CypherText.Proofs.Execution
import CypherText.Proofs.Reporting

/-!
# Traces

What code does in a world does not depend on what has been logged before. A trace says what it does:
its result, the state that it leaves and the records that it writes, of which the last ones are the
report of its failure if it fails. Where every loop body has traces with allowed records that keep
an invariant, every run of an expression has too, so it reports its failure once and at the end.
-/

namespace CypherText

/-- The records of what ends a run early: those of its failure; the end of the fuel is not
reported. -/
def Halt.records : Halt → List Event
  | failed failure => failure.records
  | exhausted => []

/-- The report of the failure in a result, if it is one. -/
def Halt.recordsOf {α : Type} : Except Halt α → List Event
  | .ok _ => []
  | .error halt => halt.records

/-- Only what was a success is one when its failure counts as the end of a run. -/
theorem Halt.eq_ok_of_mapError {α : Type} {result : Except Failure α} {a : α}
    (given : result.mapError Halt.failed = .ok a) : result = .ok a := by
  cases result with
  | error failure => contradiction
  | ok b =>
      cases given
      rfl

/-- What code does when it is run: its result, the records that it writes before the report of its
failure, and the state that it leaves. -/
structure Trace (σ α : Type) where
  result : Except Halt α
  before : List Event
  state : σ

namespace Trace

variable {σ α β : Type}

/-- The world that is left where `log` was written before. -/
def world (t : Trace σ α) (log : List Event) : World σ :=
  ⟨log ++ (t.before ++ Halt.recordsOf t.result), t.state⟩

/-- Whether only allowed records are written before the report of a failure, the invariant is kept,
and the result, if there is one, is good. -/
structure IsSound (allowed : Event → Prop) (invariant : σ → Prop) (good : α → Prop)
    (t : Trace σ α) : Prop where
  isAllowed : ∀ e ∈ t.before, allowed e
  keeps : invariant t.state
  isGood : ∀ a, t.result = .ok a → good a

/-- The trace of success without records. -/
def success (a : α) (s : σ) : Trace σ α :=
  ⟨.ok a, [], s⟩

/-- The trace of an end without records, other than the report of a failure. -/
def halt (reason : Halt) (s : σ) : Trace σ α :=
  ⟨.error reason, [], s⟩

theorem isSound_success {allowed : Event → Prop} {invariant : σ → Prop} {good : α → Prop} {a : α}
    {s : σ} (kept : invariant s) (isGood : good a) :
    (success a s).IsSound allowed invariant good where
  isAllowed _ among := absurd among List.not_mem_nil
  keeps := kept
  isGood _ equal := Except.ok.inj equal ▸ isGood

theorem isSound_halt {allowed : Event → Prop} {invariant : σ → Prop} {good : α → Prop} {s : σ}
    (reason : Halt) (kept : invariant s) :
    (halt reason s : Trace σ α).IsSound allowed invariant good where
  isAllowed _ among := absurd among List.not_mem_nil
  keeps := kept
  isGood _ equal := nomatch equal

theorem world_success (a : α) (s : σ) (log : List Event) : (success a s).world log = ⟨log, s⟩ := by
  simp [world, success, Halt.recordsOf]

/-- The trace of what goes on behind another one. -/
def after (first : Trace σ α) (second : Trace σ β) : Trace σ β :=
  ⟨second.result, first.before ++ second.before, second.state⟩

/-- Where the first trace is a success its world is the one in which the second one starts. -/
theorem world_after {first : Trace σ α} {a : α} (ok : first.result = .ok a) (second : Trace σ β)
    (log : List Event) :
    (first.after second).world log = second.world (first.world log).log := by
  simp [world, after, ok, Halt.recordsOf]

theorem IsSound.after {allowed : Event → Prop} {invariant : σ → Prop} {good : α → Prop}
    {fine : β → Prop} {first : Trace σ α} {second : Trace σ β}
    (firstSound : first.IsSound allowed invariant good)
    (secondSound : second.IsSound allowed invariant fine) :
    (first.after second).IsSound allowed invariant fine where
  isAllowed e among := (List.mem_append.mp among).elim (firstSound.isAllowed e)
    (secondSound.isAllowed e)
  keeps := secondSound.keeps
  isGood := secondSound.isGood

/-- The trace that halts as another one does. -/
def halting (t : Trace σ α) (halt : Halt) : Trace σ β :=
  ⟨.error halt, t.before, t.state⟩

theorem world_halting {t : Trace σ α} {halt : Halt} (halted : t.result = .error halt)
    (log : List Event) : (t.halting halt : Trace σ β).world log = t.world log := by
  rw [world, world, halted]
  rfl

theorem IsSound.halting {allowed : Event → Prop} {invariant : σ → Prop} {good : α → Prop}
    {fine : β → Prop} {t : Trace σ α} (sound : t.IsSound allowed invariant good) (halt : Halt) :
    (t.halting halt : Trace σ β).IsSound allowed invariant fine :=
  ⟨sound.isAllowed, sound.keeps, fun _ equal => nomatch equal⟩

/-- The trace with another form of its result. -/
def map (f : α → β) (t : Trace σ α) : Trace σ β :=
  ⟨t.result.map f, t.before, t.state⟩

theorem world_map (f : α → β) (t : Trace σ α) (log : List Event) :
    (t.map f).world log = t.world log := by
  obtain ⟨result, before, s⟩ := t
  cases result with
  | ok a => rfl
  | error reason => rfl

theorem IsSound.map {allowed : Event → Prop} {invariant : σ → Prop} {good : α → Prop}
    {fine : β → Prop} {t : Trace σ α} (sound : t.IsSound allowed invariant good) {f : α → β}
    (isFine : ∀ a, good a → fine (f a)) : (t.map f).IsSound allowed invariant fine where
  isAllowed := sound.isAllowed
  keeps := sound.keeps
  isGood b given := by
    cases outcome : t.result with
    | ok a =>
        rw [Trace.map, outcome] at given
        cases given
        exact isFine a (sound.isGood a outcome)
    | error reason =>
        rw [Trace.map, outcome] at given
        contradiction

end Trace

/-- An orderly operation has a trace with routine records, which leaves the state alone. -/
theorem Logged.IsOrderly.exists_trace {σ α : Type} {operation : Logged α}
    (isOrderly : operation.IsOrderly) (s : σ) :
    ∃ t : Trace σ α, t.result = operation.result.mapError .failed ∧ t.state = s ∧
      (∀ e ∈ t.before, e.IsRoutine) ∧
      ∀ log, World.record ⟨log, s⟩ operation.events = t.world log := by
  cases outcome : operation.result with
  | ok a =>
      refine ⟨⟨.ok a, operation.events, s⟩, rfl, rfl, isOrderly.isRoutine outcome, ?_⟩
      intro log
      simp [World.record, Trace.world, Halt.recordsOf]
  | error failure =>
      refine ⟨⟨.error (.failed failure), [], s⟩, rfl, rfl, List.forall_mem_nil _, ?_⟩
      intro log
      simp [World.record, Trace.world, Halt.recordsOf, Halt.records, isOrderly.events_eq outcome]

/-- Whether code has a sound trace from every state with the invariant. -/
def IsTraced {σ α : Type} (allowed : Event → Prop) (invariant : σ → Prop) (good : α → Prop)
    (code : World σ → Except Halt α × World σ) : Prop :=
  ∀ s, invariant s → ∃ t : Trace σ α, t.IsSound allowed invariant good ∧
    ∀ log, code ⟨log, s⟩ = (t.result, t.world log)

/-! ## Bodies of expressions -/

/-- Whether the bodies of all loops of a step are good. -/
inductive Step.Each {π β : Type} (good : β → Prop) : Step π β → Prop
  | clause (clause : Clause) : Each good (.clause clause)
  | forEach {bodies : List β} (all : ∀ body ∈ bodies, good body) : Each good (.forEach bodies)
  | whileLoop {condition : π} {body : List (Step π β)} (all : ∀ step ∈ body, Each good step) :
      Each good (.whileLoop condition body)

namespace Expr

variable {π β : Type}

/-- Whether the bodies of all loops of an expression are good. -/
def Each (good : β → Prop) (e : Expr π β) : Prop :=
  ∀ step ∈ e.steps, step.Each good

variable {good : β → Prop} {e more : Expr π β}

theorem each_empty : (empty : Expr π β).Each good :=
  nofun

theorem each_clause (kind : ClauseKind) (text : String) : (clause kind text : Expr π β).Each good :=
  List.forall_mem_singleton.mpr (.clause ⟨kind, text⟩)

theorem each_forEach {bodies : List β} (all : ∀ body ∈ bodies, good body) :
    (forEach bodies : Expr π β).Each good :=
  List.forall_mem_singleton.mpr (.forEach all)

theorem Each.whileLoop (each : e.Each good) (condition : π) : (whileLoop condition e).Each good :=
  List.forall_mem_singleton.mpr (.whileLoop each)

theorem Each.append (each : e.Each good) (eachMore : more.Each good) : (e ++ more).Each good :=
  List.forall_mem_append.mpr ⟨each, eachMore⟩

end Expr

/-- Whether a part is good: the bodies of its loops are, and if it is a builder its extractor only
reports. -/
def Part.IsGood {π β : Type} (good : β → Prop) : Part π β → Prop
  | expr e => e.Each good
  | builder b => b.expr.Each good ∧ b.extractor.OnlyReports
  | holder inner => inner.IsGood good
  | foreign _ => True

theorem Part.IsGood.each {π β : Type} {good : β → Prop} {part : Part π β} {e : Expr π β}
    (isGood : part.IsGood good) (converted : part.toExpr.result = .ok e) : e.Each good := by
  cases part with
  | expr e =>
      cases converted
      exact isGood
  | builder b =>
      cases converted
      exact isGood.1
  | holder inner =>
      cases inner with
      | expr e =>
          cases converted
          exact isGood
      | builder _ | holder _ | foreign _ => contradiction
  | foreign typeName => contradiction

/-! ## Runs -/

namespace Host

variable {π β σ : Type} {host : Host π β σ} {allowed : Event → Prop} {invariant : σ → Prop}
  {good : β → Prop}

/-- Whether conditions have sound traces, and good bodies have too and give good parts. -/
structure IsSound (host : Host π β σ) (allowed : Event → Prop) (invariant : σ → Prop)
    (good : β → Prop) : Prop where
  ask : ∀ condition, IsTraced allowed invariant (fun _ => True) (host.ask condition)
  eval : ∀ body, good body → IsTraced allowed invariant (Part.IsGood good) (host.eval body)

/-- What a body gives as an expression is traced too. -/
theorem IsSound.evalExpr (sound : host.IsSound allowed invariant good)
    (routine : ∀ e : Event, e.IsRoutine → allowed e) {body : β} (isGood : good body) :
    IsTraced allowed invariant (Expr.Each good) (host.evalExpr body) := by
  intro s kept
  obtain ⟨t, traceSound, runs⟩ := sound.eval body isGood s kept
  cases outcome : t.result with
  | error halt =>
      refine ⟨t.halting halt, traceSound.halting halt, ?_⟩
      intro log
      rw [Host.evalExpr, runs, Trace.world_halting outcome, outcome]
      rfl
  | ok part =>
      obtain ⟨last, result, state, routineOnly, records⟩ :=
        part.onlyReports_toExpr.isOrderly.exists_trace t.state
      refine ⟨t.after last, traceSound.after ⟨?_, ?_, ?_⟩, ?_⟩
      · intro e among
        exact routine e (routineOnly e among)
      · rw [state]
        exact traceSound.keeps
      · intro e given
        rw [result] at given
        exact (traceSound.isGood part outcome).each (Halt.eq_ok_of_mapError given)
      · intro log
        rw [Host.evalExpr, runs, outcome, Trace.world_after outcome, ← records]
        exact congrArg₂ Prod.mk result.symm rfl

/-- Whether the run of some steps has a sound trace from every state with the invariant, on every
buffer. -/
def IsTracedRun (host : Host π β σ) (allowed : Event → Prop) (invariant : σ → Prop) (fuel : Nat)
    (steps : List (Step π β)) : Prop :=
  ∀ (buffer : Buffer) (s : σ), invariant s →
    ∃ (t : Trace σ Unit) (filled : Buffer), t.IsSound allowed invariant (fun _ => True) ∧
      ∀ log, host.run fuel steps buffer ⟨log, s⟩ = ⟨t.result, filled, t.world log⟩

theorem isTracedRun_nil (fuel : Nat) : IsTracedRun host allowed invariant fuel [] := by
  intro buffer s kept
  refine ⟨.success () s, buffer, Trace.isSound_success kept trivial, ?_⟩
  intro log
  rw [run_nil, Trace.world_success]
  rfl

theorem isTracedRun_zero (step : Step π β) (rest : List (Step π β)) :
    IsTracedRun host allowed invariant 0 (step :: rest) := by
  intro buffer s kept
  refine ⟨.halt .exhausted s, buffer, Trace.isSound_halt .exhausted kept, ?_⟩
  intro log
  simp [Host.run, Trace.halt, Trace.world, Halt.recordsOf, Halt.records]

namespace IsTracedRun

variable {fuel : Nat} {rest : List (Step π β)}

theorem clause (clause : Clause) (goesOn : IsTracedRun host allowed invariant fuel rest) :
    IsTracedRun host allowed invariant (fuel + 1) (.clause clause :: rest) :=
  fun buffer s kept => goesOn (buffer.write clause) s kept

theorem forEach_nil (goesOn : IsTracedRun host allowed invariant fuel rest) :
    IsTracedRun host allowed invariant (fuel + 1) (.forEach [] :: rest) :=
  goesOn

/-- A body that fails ends the run. What it gives otherwise stands in front of the bodies left. -/
theorem forEach_cons {body : β} {bodies : List β}
    (gives : IsTraced allowed invariant (Expr.Each good) (host.evalExpr body))
    (goesOn : ∀ e : Expr π β, e.Each good →
      IsTracedRun host allowed invariant fuel (e.steps ++ .forEach bodies :: rest)) :
    IsTracedRun host allowed invariant (fuel + 1) (.forEach (body :: bodies) :: rest) := by
  intro buffer s kept
  obtain ⟨t, traceSound, evaluates⟩ := gives s kept
  cases outcome : t.result with
  | error halt =>
      refine ⟨t.halting halt, buffer, traceSound.halting halt, ?_⟩
      intro log
      rw [Trace.world_halting outcome]
      simp [Host.run, evaluates, outcome, Trace.halting]
  | ok e =>
      obtain ⟨last, filled, lastSound, runs⟩ :=
        goesOn e (traceSound.isGood e outcome) buffer t.state traceSound.keeps
      refine ⟨t.after last, filled, traceSound.after lastSound, ?_⟩
      intro log
      rw [run_forEach_cons ((evaluates log).trans (by rw [outcome])), Trace.world_after outcome]
      exact runs _

/-- A condition that fails ends the run. After an answer the run goes on from the state that it
left. -/
theorem whileLoop {condition : π} {body : List (Step π β)}
    (asks : IsTraced allowed invariant (fun _ => True) (host.ask condition))
    (again : IsTracedRun host allowed invariant fuel (body ++ .whileLoop condition body :: rest))
    (leaves : IsTracedRun host allowed invariant fuel rest) :
    IsTracedRun host allowed invariant (fuel + 1) (.whileLoop condition body :: rest) := by
  intro buffer s kept
  obtain ⟨t, traceSound, answers⟩ := asks s kept
  cases outcome : t.result with
  | error halt =>
      refine ⟨t.halting halt, buffer, traceSound.halting halt, ?_⟩
      intro log
      rw [run_whileLoop_of_error ((answers log).trans (by rw [outcome])),
        Trace.world_halting outcome]
      rfl
  | ok answer =>
      have goesOn : IsTracedRun host allowed invariant fuel
          (bif answer then body ++ .whileLoop condition body :: rest else rest) := by
        cases answer with
        | true => exact again
        | false => exact leaves
      obtain ⟨last, filled, lastSound, runs⟩ := goesOn buffer t.state traceSound.keeps
      refine ⟨t.after last, filled, traceSound.after lastSound, ?_⟩
      intro log
      rw [Trace.world_after outcome]
      have answered := (answers log).trans (by rw [outcome])
      cases answer with
      | true => exact (run_whileLoop_of_true answered ..).trans (runs _)
      | false => exact (run_whileLoop_of_false answered ..).trans (runs _)

end IsTracedRun

/-- A run is traced: it writes records as its bodies do, and then the report of its failure. -/
theorem IsSound.run (sound : host.IsSound allowed invariant good)
    (routine : ∀ e : Event, e.IsRoutine → allowed e) (fuel : Nat) {steps : List (Step π β)}
    (each : ∀ step ∈ steps, step.Each good) : IsTracedRun host allowed invariant fuel steps := by
  induction fuel generalizing steps with
  | zero =>
      cases steps with
      | nil => exact isTracedRun_nil 0
      | cons step rest => exact isTracedRun_zero step rest
  | succ fuel ih =>
      cases steps with
      | nil => exact isTracedRun_nil (fuel + 1)
      | cons step rest =>
          obtain ⟨first, others⟩ := List.forall_mem_cons.mp each
          cases first with
          | clause clause => exact (ih others).clause clause
          | @forEach bodies all =>
              cases bodies with
              | nil => exact (ih others).forEach_nil
              | cons body bodies =>
                  obtain ⟨isGood, all⟩ := List.forall_mem_cons.mp all
                  refine .forEach_cons (sound.evalExpr routine isGood) ?_
                  intro e given
                  have pending : ∀ step ∈ .forEach bodies :: rest, step.Each good :=
                    List.forall_mem_cons.mpr ⟨.forEach all, others⟩
                  exact ih (List.forall_mem_append.mpr ⟨given, pending⟩)
          | @whileLoop condition body all =>
              have pending : ∀ step ∈ body ++ .whileLoop condition body :: rest, step.Each good :=
                List.forall_mem_append.mpr ⟨all, each⟩
              exact .whileLoop (sound.ask condition) (ih pending) (ih others)

/-- Rendering is traced. Besides what the bodies write it only writes the finished text. -/
theorem IsSound.render (sound : host.IsSound allowed invariant good)
    (routine : ∀ e : Event, e.IsRoutine → allowed e) (fuel : Nat) (separator : String)
    {e : Expr π β} (each : e.Each good) {s : σ} (kept : invariant s) :
    ∃ t : Trace σ String, invariant t.state ∧
      (∀ record ∈ t.before,
        allowed record ∨ ∃ kinds text, record = .rendered kinds text ∧ t.result = .ok text) ∧
      ∀ log, host.render fuel separator e ⟨log, s⟩ = (t.result, t.world log) := by
  obtain ⟨t, filled, traceSound, runs⟩ := sound.run routine fuel each (.empty separator) s kept
  cases outcome : t.result with
  | error reason =>
      refine ⟨t.halting reason, traceSound.keeps, ?_, ?_⟩
      · intro record among
        exact .inl (traceSound.isAllowed record among)
      · intro log
        rw [Trace.world_halting outcome]
        simp [Host.render, runs, outcome, Trace.halting]
  | ok done =>
      refine ⟨t.after ⟨.ok filled.text, [.rendered filled.kinds.toList filled.text], t.state⟩,
        traceSound.keeps, ?_, ?_⟩
      · intro record among
        rcases List.mem_append.mp among with among | among
        · exact .inl (traceSound.isAllowed record among)
        · exact .inr ⟨_, _, List.mem_singleton.mp among, rfl⟩
      · intro log
        rw [Trace.world_after outcome]
        simp [Host.render, runs, outcome, Trace.after, Trace.world, Halt.recordsOf, World.record]

end Host

end CypherText
