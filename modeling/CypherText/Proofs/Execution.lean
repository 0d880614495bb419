import CypherText.Execution

/-!
# What an expression executes

`Completes` says which clauses steps execute, one after the other, and which world they leave,
without a buffer and without fuel: every loop unfolds into what its bodies give, or into as many
turns as its condition holds. There is such an execution exactly if no body and no condition fails
and every loop comes to its end. The machine finds it: with enough fuel it writes just these
clauses, and whatever it finishes is such an execution.
-/

namespace CypherText

namespace Buffer

/-- Writes several clauses, one after the other. -/
def writeAll (b : Buffer) (clauses : List Clause) : Buffer :=
  clauses.foldl write b

@[simp]
theorem writeAll_nil (b : Buffer) : b.writeAll [] = b :=
  rfl

@[simp]
theorem writeAll_cons (b : Buffer) (clause : Clause) (clauses : List Clause) :
    b.writeAll (clause :: clauses) = (b.write clause).writeAll clauses :=
  rfl

@[simp]
theorem writeAll_append (b : Buffer) (first second : List Clause) :
    b.writeAll (first ++ second) = (b.writeAll first).writeAll second := by
  simp [writeAll]

end Buffer

namespace Host

variable {π β σ : Type}

/-- `host.Completes steps w clauses left`: from the world `w` the steps execute the clauses in
this order and come to an end in the world `left`. -/
inductive Completes (host : Host π β σ) :
    List (Step π β) → World σ → List Clause → World σ → Prop
  | nil {w : World σ} : Completes host [] w [] w
  | clause {clause : Clause} {rest : List (Step π β)} {w left : World σ} {clauses : List Clause}
      (tail : Completes host rest w clauses left) :
      Completes host (.clause clause :: rest) w (clause :: clauses) left
  | forEachNil {rest : List (Step π β)} {w left : World σ} {clauses : List Clause}
      (tail : Completes host rest w clauses left) :
      Completes host (.forEach [] :: rest) w clauses left
  | forEachCons {body : β} {bodies : List β} {rest : List (Step π β)} {e : Expr π β}
      {w evaluated middle left : World σ} {first second : List Clause}
      (gives : host.evalExpr body w = (.ok e, evaluated))
      (turn : Completes host e.steps evaluated first middle)
      (tail : Completes host (.forEach bodies :: rest) middle second left) :
      Completes host (.forEach (body :: bodies) :: rest) w (first ++ second) left
  | whileTrue {condition : π} {body rest : List (Step π β)} {w asked middle left : World σ}
      {first second : List Clause} (holds : host.ask condition w = (.ok true, asked))
      (turn : Completes host body asked first middle)
      (tail : Completes host (.whileLoop condition body :: rest) middle second left) :
      Completes host (.whileLoop condition body :: rest) w (first ++ second) left
  | whileFalse {condition : π} {body rest : List (Step π β)} {w asked left : World σ}
      {clauses : List Clause} (fails : host.ask condition w = (.ok false, asked))
      (tail : Completes host rest asked clauses left) :
      Completes host (.whileLoop condition body :: rest) w clauses left

/-- An execution of steps in a row splits where the steps do. -/
theorem Completes.split {host : Host π β σ} {before after : List (Step π β)} {w left : World σ}
    {clauses : List Clause} (done : host.Completes (before ++ after) w clauses left) :
    ∃ first middle second, host.Completes before w first middle ∧
      host.Completes after middle second left ∧ clauses = first ++ second := by
  -- Either the steps in front are used up, or the execution starts with the first of them. A loop
  -- that goes on is again the first step.
  generalize joined : before ++ after = steps at done
  induction done generalizing before with
  | nil =>
      obtain ⟨rfl, rfl⟩ := List.append_eq_nil_iff.mp joined
      exact ⟨[], _, [], .nil, .nil, rfl⟩
  | clause tail ih =>
      cases before with
      | nil =>
          cases joined
          exact ⟨[], _, _, .nil, .clause tail, rfl⟩
      | cons _ before =>
          cases joined
          obtain ⟨first, middle, second, head, rest, rfl⟩ := ih rfl
          exact ⟨_, _, _, .clause head, rest, rfl⟩
  | forEachNil tail ih =>
      cases before with
      | nil =>
          cases joined
          exact ⟨[], _, _, .nil, .forEachNil tail, rfl⟩
      | cons _ before =>
          cases joined
          obtain ⟨first, middle, second, head, rest, rfl⟩ := ih rfl
          exact ⟨_, _, _, .forEachNil head, rest, rfl⟩
  | @forEachCons _ bodies _ _ _ _ _ _ opening _ gives turn tail _ ih =>
      cases before with
      | nil =>
          cases joined
          exact ⟨[], _, _, .nil, .forEachCons gives turn tail, rfl⟩
      | cons _ before =>
          cases joined
          obtain ⟨first, middle, second, head, rest, rfl⟩ :=
            @ih (.forEach bodies :: before) rfl
          exact ⟨opening ++ first, middle, second, .forEachCons gives turn head, rest,
            (List.append_assoc ..).symm⟩
  | @whileTrue condition body _ _ _ _ _ opening _ holds turn tail _ ih =>
      cases before with
      | nil =>
          cases joined
          exact ⟨[], _, _, .nil, .whileTrue holds turn tail, rfl⟩
      | cons _ before =>
          cases joined
          obtain ⟨first, middle, second, head, rest, rfl⟩ :=
            @ih (.whileLoop condition body :: before) rfl
          exact ⟨opening ++ first, middle, second, .whileTrue holds turn head, rest,
            (List.append_assoc ..).symm⟩
  | whileFalse fails tail ih =>
      cases before with
      | nil =>
          cases joined
          exact ⟨[], _, _, .nil, .whileFalse fails tail, rfl⟩
      | cons _ before =>
          cases joined
          obtain ⟨first, middle, second, head, rest, rfl⟩ := ih rfl
          exact ⟨_, _, _, .whileFalse fails head, rest, rfl⟩

/-- From a world there is one execution of the steps at most. -/
theorem Completes.unique {host : Host π β σ} {steps : List (Step π β)} {w left other : World σ}
    {clauses others : List Clause} (done : host.Completes steps w clauses left)
    (also : host.Completes steps w others other) : clauses = others ∧ left = other := by
  induction done generalizing others other with
  | nil =>
      cases also
      exact ⟨rfl, rfl⟩
  | clause _ ih =>
      cases also with
      | clause tail =>
          obtain ⟨rfl, rfl⟩ := ih tail
          exact ⟨rfl, rfl⟩
  | forEachNil _ ih =>
      cases also with
      | forEachNil tail => exact ih tail
  | forEachCons gives _ _ turnUnique tailUnique =>
      cases also with
      | forEachCons givesAlso turn tail =>
          cases gives.symm.trans givesAlso
          obtain ⟨rfl, rfl⟩ := turnUnique turn
          obtain ⟨rfl, rfl⟩ := tailUnique tail
          exact ⟨rfl, rfl⟩
  | whileTrue holds _ _ turnUnique tailUnique =>
      cases also with
      | whileTrue holdsAlso turn tail =>
          cases holds.symm.trans holdsAlso
          obtain ⟨rfl, rfl⟩ := turnUnique turn
          obtain ⟨rfl, rfl⟩ := tailUnique tail
          exact ⟨rfl, rfl⟩
      | whileFalse fails => cases holds.symm.trans fails
  | whileFalse fails _ ih =>
      cases also with
      | whileTrue holds => cases fails.symm.trans holds
      | whileFalse failsAlso tail =>
          cases fails.symm.trans failsAlso
          exact ih tail

/-! ## The machine and the executions -/

/-- A loop over bodies evaluates the first one and runs what it gives before it goes on. -/
theorem run_forEach_cons {host : Host π β σ} {body : β} {e : Expr π β} {w evaluated : World σ}
    (gives : host.evalExpr body w = (.ok e, evaluated)) (fuel : Nat) (bodies : List β)
    (rest : List (Step π β)) (buffer : Buffer) :
    host.run (fuel + 1) (.forEach (body :: bodies) :: rest) buffer w =
      host.run fuel (e.steps ++ .forEach bodies :: rest) buffer evaluated := by
  simp [run, gives]

/-- With enough fuel the machine writes the clauses of an execution, in front of whatever is
pending behind it. -/
theorem Completes.exists_cost {host : Host π β σ} {steps : List (Step π β)} {w left : World σ}
    {clauses : List Clause} (done : host.Completes steps w clauses left) :
    ∃ cost, ∀ fuel pending buffer,
      host.run (cost + fuel) (steps ++ pending) buffer w =
        host.run fuel pending (buffer.writeAll clauses) left := by
  induction done with
  | nil => exact ⟨0, by simp⟩
  | clause _ ih =>
      obtain ⟨cost, runs⟩ := ih
      refine ⟨cost + 1, ?_⟩
      intro fuel pending buffer
      rw [Nat.add_right_comm, List.cons_append, run_clause, runs, Buffer.writeAll_cons]
  | forEachNil _ ih =>
      obtain ⟨cost, runs⟩ := ih
      refine ⟨cost + 1, ?_⟩
      intro fuel pending buffer
      rw [Nat.add_right_comm, List.cons_append, run_forEach_nil, runs]
  -- The turn runs with the rest of the loop pending, and the loop then with the given steps.
  | forEachCons gives _ _ turnRuns tailRuns =>
      obtain ⟨turnCost, turnRuns⟩ := turnRuns
      obtain ⟨tailCost, tailRuns⟩ := tailRuns
      refine ⟨turnCost + tailCost + 1, ?_⟩
      intro fuel pending buffer
      rw [Nat.add_right_comm, List.cons_append, run_forEach_cons gives, Nat.add_assoc, turnRuns,
        ← List.cons_append, tailRuns, Buffer.writeAll_append]
  | whileTrue holds _ _ turnRuns tailRuns =>
      obtain ⟨turnCost, turnRuns⟩ := turnRuns
      obtain ⟨tailCost, tailRuns⟩ := tailRuns
      refine ⟨turnCost + tailCost + 1, ?_⟩
      intro fuel pending buffer
      rw [Nat.add_right_comm, List.cons_append, run_whileLoop_of_true holds, Nat.add_assoc,
        turnRuns, ← List.cons_append, tailRuns, Buffer.writeAll_append]
  | whileFalse fails _ ih =>
      obtain ⟨cost, runs⟩ := ih
      refine ⟨cost + 1, ?_⟩
      intro fuel pending buffer
      rw [Nat.add_right_comm, List.cons_append, run_whileLoop_of_false fails, runs]

/-- With enough fuel the machine finishes, and has written the clauses of the execution. -/
theorem Completes.exists_run {host : Host π β σ} {steps : List (Step π β)} {w left : World σ}
    {clauses : List Clause} (done : host.Completes steps w clauses left) (buffer : Buffer) :
    ∃ cost, ∀ fuel,
      host.run (cost + fuel) steps buffer w = ⟨.ok (), buffer.writeAll clauses, left⟩ := by
  obtain ⟨cost, runs⟩ := done.exists_cost
  refine ⟨cost, ?_⟩
  intro fuel
  have finished := runs fuel [] buffer
  rwa [List.append_nil, run_nil] at finished

/-- What the machine finishes is an execution. -/
theorem exists_completes_of_run {host : Host π β σ} {fuel : Nat} {steps : List (Step π β)}
    {buffer : Buffer} {w : World σ} (finished : (host.run fuel steps buffer w).outcome = .ok ()) :
    ∃ clauses, host.Completes steps w clauses (host.run fuel steps buffer w).world ∧
      (host.run fuel steps buffer w).buffer = buffer.writeAll clauses := by
  induction fuel generalizing steps buffer w with
  | zero =>
      cases steps with
      | nil => exact ⟨[], .nil, rfl⟩
      | cons step rest => simp [run] at finished
  | succ fuel ih =>
      cases steps with
      | nil => exact ⟨[], .nil, rfl⟩
      | cons step rest =>
          cases step with
          | clause clause =>
              rw [run_clause] at finished ⊢
              obtain ⟨clauses, done, wrote⟩ := ih finished
              exact ⟨clause :: clauses, .clause done, wrote⟩
          | forEach bodies =>
              cases bodies with
              | nil =>
                  rw [run_forEach_nil] at finished ⊢
                  obtain ⟨clauses, done, wrote⟩ := ih finished
                  exact ⟨clauses, .forEachNil done, wrote⟩
              | cons body bodies =>
                  rcases given : host.evalExpr body w with ⟨result, evaluated⟩
                  cases result with
                  | error halt => simp [run, given] at finished
                  | ok e =>
                      rw [run_forEach_cons given] at finished ⊢
                      -- The machine does not mark the end of a turn; the execution splits there.
                      obtain ⟨clauses, done, wrote⟩ := ih finished
                      obtain ⟨first, middle, second, turn, tail, rfl⟩ := done.split
                      exact ⟨first ++ second, .forEachCons given turn tail, wrote⟩
          | whileLoop condition body =>
              rcases answered : host.ask condition w with ⟨_ | answer, asked⟩
              · simp [run, answered] at finished
              cases answer with
              | true =>
                  rw [run_whileLoop_of_true answered] at finished ⊢
                  obtain ⟨clauses, done, wrote⟩ := ih finished
                  obtain ⟨first, middle, second, turn, tail, rfl⟩ := done.split
                  exact ⟨first ++ second, .whileTrue answered turn tail, wrote⟩
              | false =>
                  rw [run_whileLoop_of_false answered] at finished ⊢
                  obtain ⟨clauses, done, wrote⟩ := ih finished
                  exact ⟨clauses, .whileFalse answered done, wrote⟩

/-- There is an execution exactly if the machine finishes with some fuel. -/
theorem exists_completes_iff {host : Host π β σ} {steps : List (Step π β)} {w : World σ}
    (buffer : Buffer) :
    (∃ clauses left, host.Completes steps w clauses left) ↔
      ∃ fuel, (host.run fuel steps buffer w).outcome = .ok () := by
  constructor
  · rintro ⟨clauses, left, done⟩
    obtain ⟨cost, finishes⟩ := done.exists_run buffer
    exact ⟨cost + 0, by rw [finishes 0]⟩
  · rintro ⟨fuel, finished⟩
    obtain ⟨clauses, done, _⟩ := exists_completes_of_run finished
    exact ⟨clauses, _, done⟩

end Host

end CypherText
