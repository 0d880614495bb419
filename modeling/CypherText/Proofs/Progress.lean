import CypherText.Proofs.Ending
import CypherText.Proofs.Rendering

/-!
# What has been executed so far

`Executes` says which clauses steps have executed at some time of their run, which may come to an
end, fail or go on for ever after it. Whatever the fuel is, the machine has written the clauses of
such a time when it stops, and it stops at each such time with some fuel. Where steps write only
clauses of some kind, in their loops and through the bodies of their loops too, every clause that is
ever executed is one of them.
-/

namespace CypherText

namespace Host

variable {π β σ : Type}

/-- `host.Executes steps w clauses`: at some time of the run of the steps from the world `w`, just
these clauses have been executed, in this order. -/
inductive Executes (host : Host π β σ) : List (Step π β) → World σ → List Clause → Prop
  | start {steps : List (Step π β)} {w : World σ} : Executes host steps w []
  | clause {clause : Clause} {rest : List (Step π β)} {w : World σ} {clauses : List Clause}
      (goesOn : Executes host rest w clauses) :
      Executes host (.clause clause :: rest) w (clause :: clauses)
  | forEachNil {rest : List (Step π β)} {w : World σ} {clauses : List Clause}
      (goesOn : Executes host rest w clauses) :
      Executes host (.forEach [] :: rest) w clauses
  | forEachCons {body : β} {bodies : List β} {rest : List (Step π β)} {e : Expr π β}
      {w evaluated : World σ} {clauses : List Clause}
      (gives : host.evalExpr body w = (.ok e, evaluated))
      (goesOn : Executes host (e.steps ++ .forEach bodies :: rest) evaluated clauses) :
      Executes host (.forEach (body :: bodies) :: rest) w clauses
  | whileTrue {condition : π} {body rest : List (Step π β)} {w asked : World σ}
      {clauses : List Clause} (holds : host.ask condition w = (.ok true, asked))
      (goesOn : Executes host (body ++ .whileLoop condition body :: rest) asked clauses) :
      Executes host (.whileLoop condition body :: rest) w clauses
  | whileFalse {condition : π} {body rest : List (Step π β)} {w asked : World σ}
      {clauses : List Clause} (fails : host.ask condition w = (.ok false, asked))
      (goesOn : Executes host rest asked clauses) :
      Executes host (.whileLoop condition body :: rest) w clauses

variable {host : Host π β σ} {steps : List (Step π β)} {w left : World σ} {clauses : List Clause}

/-- What the machine has written when it stops has been executed by then. -/
theorem exists_executes_of_run (host : Host π β σ) (fuel : Nat) (steps : List (Step π β))
    (buffer : Buffer) (w : World σ) :
    ∃ clauses, host.Executes steps w clauses ∧
      (host.run fuel steps buffer w).buffer = buffer.writeAll clauses := by
  induction fuel generalizing steps buffer w with
  | zero =>
      cases steps with
      | nil => exact ⟨[], .start, rfl⟩
      | cons step rest => exact ⟨[], .start, rfl⟩
  | succ fuel ih =>
      cases steps with
      | nil => exact ⟨[], .start, rfl⟩
      | cons step rest =>
          cases step with
          | clause clause =>
              rcases ih rest (buffer.write clause) w with ⟨clauses, goesOn, wrote⟩
              exact ⟨clause :: clauses, .clause goesOn, wrote⟩
          | forEach bodies =>
              cases bodies with
              | nil =>
                  rcases ih rest buffer w with ⟨clauses, goesOn, wrote⟩
                  exact ⟨clauses, .forEachNil goesOn, wrote⟩
              | cons body bodies =>
                  rcases given : host.evalExpr body w with ⟨result, evaluated⟩
                  cases result with
                  | error halt => exact ⟨[], .start, by rw [run_forEach_cons_of_error given]; rfl⟩
                  | ok e =>
                      rcases ih (e.steps ++ .forEach bodies :: rest) buffer evaluated with
                        ⟨clauses, goesOn, wrote⟩
                      rw [run_forEach_cons given]
                      exact ⟨clauses, .forEachCons given goesOn, wrote⟩
          | whileLoop condition body =>
              rcases answered : host.ask condition w with ⟨_ | answer, asked⟩
              · exact ⟨[], .start, by rw [run_whileLoop_of_error answered]; rfl⟩
              cases answer with
              | true =>
                  rcases ih (body ++ .whileLoop condition body :: rest) buffer asked with
                    ⟨clauses, goesOn, wrote⟩
                  rw [run_whileLoop_of_true answered]
                  exact ⟨clauses, .whileTrue answered goesOn, wrote⟩
              | false =>
                  rcases ih rest buffer asked with ⟨clauses, goesOn, wrote⟩
                  rw [run_whileLoop_of_false answered]
                  exact ⟨clauses, .whileFalse answered goesOn, wrote⟩

/-- With the right amount of fuel the machine stops when just these clauses have been executed. -/
theorem Executes.exists_run (executed : host.Executes steps w clauses) (buffer : Buffer) :
    ∃ fuel, (host.run fuel steps buffer w).buffer = buffer.writeAll clauses := by
  induction executed generalizing buffer with
  | @start steps w =>
      refine ⟨0, ?_⟩
      cases steps with
      | nil => rfl
      | cons step rest => rfl
  | @clause clause _ _ _ _ ih =>
      rcases ih (buffer.write clause) with ⟨fuel, stops⟩
      exact ⟨fuel + 1, stops⟩
  | forEachNil _ ih =>
      rcases ih buffer with ⟨fuel, stops⟩
      exact ⟨fuel + 1, stops⟩
  | forEachCons gives _ ih =>
      rcases ih buffer with ⟨fuel, stops⟩
      exact ⟨fuel + 1, by rw [run_forEach_cons gives, stops]⟩
  | whileTrue holds _ ih =>
      rcases ih buffer with ⟨fuel, stops⟩
      exact ⟨fuel + 1, by rw [run_whileLoop_of_true holds, stops]⟩
  | whileFalse fails _ ih =>
      rcases ih buffer with ⟨fuel, stops⟩
      exact ⟨fuel + 1, by rw [run_whileLoop_of_false fails, stops]⟩

/-- Behind steps that have come to their end, the run goes on with what is pending. -/
theorem Completes.executes_append {pending : List (Step π β)} {more : List Clause}
    (done : host.Completes steps w clauses left) (goesOn : host.Executes pending left more) :
    host.Executes (steps ++ pending) w (clauses ++ more) := by
  induction done generalizing pending more with
  | nil => exact goesOn
  | clause _ ih => exact .clause (ih goesOn)
  | forEachNil _ ih => exact .forEachNil (ih goesOn)
  -- A turn goes on with the rest of its loop, and that with what is pending.
  | forEachCons gives _ _ turn tail =>
      rw [List.append_assoc]
      exact .forEachCons gives (turn (tail goesOn))
  | whileTrue holds _ _ turn tail =>
      rw [List.append_assoc]
      exact .whileTrue holds (turn (tail goesOn))
  | whileFalse fails _ ih => exact .whileFalse fails (ih goesOn)

/-- All clauses of a run that comes to its end have been executed then. -/
theorem Completes.executes (done : host.Completes steps w clauses left) :
    host.Executes steps w clauses := by
  have executed : host.Executes (steps ++ []) w (clauses ++ []) := done.executes_append .start
  rwa [List.append_nil, List.append_nil] at executed

/-- A run has executed some clauses when it stops, which are all if it has come to its end. The
buffer has their texts and kinds. -/
theorem exists_executed_of_run (host : Host π β σ) (fuel : Nat) (separator : String)
    (steps : List (Step π β)) (w : World σ) :
    ∃ clauses, host.Executes steps w clauses ∧
      ((host.run fuel steps (.empty separator) w).outcome = .ok () →
        ∃ left, host.Completes steps w clauses left) ∧
      (host.run fuel steps (.empty separator) w).buffer =
        ⟨separator, Clause.joined separator clauses, (clauses.map Clause.kind).toArray⟩ := by
  cases ended : (host.run fuel steps (.empty separator) w).outcome with
  | ok =>
      rcases exists_completes_of_run ended with ⟨clauses, done, wrote⟩
      refine ⟨clauses, done.executes, ?_, wrote.trans (Buffer.writeAll_empty separator clauses)⟩
      intro _
      exact ⟨_, done⟩
  | error halt =>
      rcases host.exists_executes_of_run fuel steps (.empty separator) w with
        ⟨clauses, executed, wrote⟩
      exact ⟨clauses, executed, nofun, wrote.trans (Buffer.writeAll_empty separator clauses)⟩

end Host

/-! ## Clauses that may be executed -/

/-- Whether a step writes fine clauses only, and the bodies of its loops are good. -/
inductive Step.WritesOnly {π β : Type} (fine : Clause → Prop) (good : β → Prop) : Step π β → Prop
  | clause {clause : Clause} (isFine : fine clause) : WritesOnly fine good (.clause clause)
  | forEach {bodies : List β} (all : ∀ body ∈ bodies, good body) :
      WritesOnly fine good (.forEach bodies)
  | whileLoop {condition : π} {body : List (Step π β)}
      (all : ∀ step ∈ body, WritesOnly fine good step) :
      WritesOnly fine good (.whileLoop condition body)

/-- Whether an expression writes fine clauses only, and the bodies of its loops are good. -/
def Expr.WritesOnly {π β : Type} (fine : Clause → Prop) (good : β → Prop) (e : Expr π β) : Prop :=
  ∀ step ∈ e.steps, step.WritesOnly fine good

namespace Expr

variable {π β : Type} {fine : Clause → Prop} {good : β → Prop} {e more : Expr π β}

theorem writesOnly_empty : (empty : Expr π β).WritesOnly fine good :=
  nofun

theorem writesOnly_clauses {clauses : List Clause} (areFine : ∀ clause ∈ clauses, fine clause) :
    (⟨clauses.map .clause⟩ : Expr π β).WritesOnly fine good := by
  intro step among
  rcases List.mem_map.mp among with ⟨clause, amongClauses, rfl⟩
  exact .clause (areFine clause amongClauses)

theorem writesOnly_forEach {bodies : List β} (all : ∀ body ∈ bodies, good body) :
    (forEach bodies : Expr π β).WritesOnly fine good :=
  List.forall_mem_singleton.mpr (.forEach all)

theorem WritesOnly.whileLoop (writesOnly : e.WritesOnly fine good) (condition : π) :
    (whileLoop condition e).WritesOnly fine good :=
  List.forall_mem_singleton.mpr (.whileLoop writesOnly)

theorem WritesOnly.append (writesOnly : e.WritesOnly fine good)
    (others : more.WritesOnly fine good) : (e ++ more).WritesOnly fine good :=
  List.forall_mem_append.mpr ⟨writesOnly, others⟩

end Expr

/-- Where good bodies give expressions that write fine clauses only and have good bodies again, such
an expression executes fine clauses only, at all times. -/
theorem Host.Executes.forall_mem {π β σ : Type} {host : Host π β σ} {fine : Clause → Prop}
    {good : β → Prop}
    (gives : ∀ body, good body → ∀ w e evaluated, host.evalExpr body w = (.ok e, evaluated) →
      e.WritesOnly fine good)
    {steps : List (Step π β)} {w : World σ} {clauses : List Clause}
    (executed : host.Executes steps w clauses)
    (writesOnly : ∀ step ∈ steps, step.WritesOnly fine good) :
    ∀ clause ∈ clauses, fine clause := by
  induction executed with
  | start => exact List.forall_mem_nil fine
  | clause _ ih =>
      rw [List.forall_mem_cons] at writesOnly ⊢
      rcases writesOnly with ⟨first, others⟩
      cases first with
      | clause isFine => exact ⟨isFine, ih others⟩
  | forEachNil _ ih => exact ih (List.forall_mem_cons.mp writesOnly).2
  | forEachCons given _ ih =>
      rw [List.forall_mem_cons] at writesOnly
      rcases writesOnly with ⟨first, others⟩
      cases first with
      | forEach all =>
          rw [List.forall_mem_cons] at all
          rcases all with ⟨isGood, areGood⟩
          apply ih
          rw [List.forall_mem_append, List.forall_mem_cons]
          exact ⟨gives _ isGood _ _ _ given, .forEach areGood, others⟩
  | whileTrue _ _ ih =>
      rw [List.forall_mem_cons] at writesOnly
      rcases writesOnly with ⟨first, others⟩
      apply ih
      rw [List.forall_mem_append, List.forall_mem_cons]
      cases first with
      | whileLoop all => exact ⟨all, .whileLoop all, others⟩
  | whileFalse _ _ ih => exact ih (List.forall_mem_cons.mp writesOnly).2

end CypherText
