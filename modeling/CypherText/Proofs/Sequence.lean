import CypherText.Proofs.Execution

/-!
# Running expressions one after the other

The machine runs steps in a row as it runs the first of them, and then the others with the fuel
that is left, from where the first ones ended; if these do not come to their end, nothing follows.
So a long expression ends exactly as its parts do that run one after the other into the same
buffer, whether they finish or one of them fails.
-/

namespace CypherText

namespace Execution

variable {σ : Type}

/-- Goes on from where a finished run ended. Any other run is the end. -/
def andThen (x : Execution σ) (next : Buffer → World σ → Execution σ) : Execution σ :=
  match x.outcome with
  | .ok () => next x.buffer x.world
  | .error _ => x

theorem andThen_of_ok {x : Execution σ} (finished : x.outcome = .ok ())
    (next : Buffer → World σ → Execution σ) : x.andThen next = next x.buffer x.world := by
  simp [andThen, finished]

theorem andThen_of_error {x : Execution σ} {halt : Halt} (halted : x.outcome = .error halt)
    (next : Buffer → World σ → Execution σ) : x.andThen next = x := by
  simp [andThen, halted]

end Execution

namespace Host

variable {π β σ : Type} {host : Host π β σ}

/-- Runs expressions one after the other into one buffer, until one does not come to its end. -/
def runEach (host : Host π β σ) (fuel : Nat) :
    List (Expr π β) → Buffer → World σ → Execution σ
  | [], buffer, w => ⟨.ok (), buffer, w⟩
  | e :: rest, buffer, w => (host.run fuel e.steps buffer w).andThen (runEach host fuel rest)

/-- The first of some pending steps ends the run by a failure, or unfolds into other steps that are
pending instead. What is pending behind these steps plays no part in it. -/
theorem run_step_cases (host : Host π β σ) (step : Step π β) (rest : List (Step π β))
    (buffer : Buffer) (w : World σ) :
    (∃ halt world, ∀ fuel more,
      host.run (fuel + 1) (step :: rest ++ more) buffer w = ⟨.error halt, buffer, world⟩) ∨
    ∃ steps filled world, ∀ fuel more,
      host.run (fuel + 1) (step :: rest ++ more) buffer w =
        host.run fuel (steps ++ more) filled world := by
  cases step with
  | clause clause => exact .inr ⟨rest, buffer.write clause, w, fun fuel more => rfl⟩
  | forEach bodies =>
      cases bodies with
      | nil => exact .inr ⟨rest, buffer, w, fun fuel more => rfl⟩
      | cons body bodies =>
          rcases given : host.evalExpr body w with ⟨result, evaluated⟩
          cases result with
          | error halt =>
              refine .inl ⟨halt, evaluated, ?_⟩
              intro fuel more
              simp [run, given]
          | ok e =>
              refine .inr ⟨e.steps ++ .forEach bodies :: rest, buffer, evaluated, ?_⟩
              intro fuel more
              rw [List.cons_append, run_forEach_cons given, List.append_assoc, List.cons_append]
  | whileLoop condition body =>
      rcases answered : host.ask condition w with ⟨halt | answer, asked⟩
      · refine .inl ⟨halt, asked, ?_⟩
        intro fuel more
        rw [List.cons_append, run_whileLoop_of_error answered]
      cases answer with
      | true =>
          refine .inr ⟨body ++ .whileLoop condition body :: rest, buffer, asked, ?_⟩
          intro fuel more
          rw [List.cons_append, run_whileLoop_of_true answered, List.append_assoc,
            List.cons_append]
      | false =>
          refine .inr ⟨rest, buffer, asked, ?_⟩
          intro fuel more
          rw [List.cons_append, run_whileLoop_of_false answered]

/-- Steps in a row run as the first of them do, and then the others with the fuel that is left. -/
theorem run_append (host : Host π β σ) (fuel : Nat) (first second : List (Step π β))
    (buffer : Buffer) (w : World σ) :
    ∃ left ≤ fuel, host.run fuel (first ++ second) buffer w =
      (host.run fuel first buffer w).andThen (host.run left second) := by
  induction fuel generalizing first buffer w with
  | zero =>
      refine ⟨0, Nat.le_refl 0, ?_⟩
      cases first with
      | nil => simp [Execution.andThen]
      | cons step rest => rfl
  | succ fuel ih =>
      cases first with
      | nil => exact ⟨fuel + 1, Nat.le_refl _, by simp [Execution.andThen]⟩
      | cons step rest =>
          rcases host.run_step_cases step rest buffer w with
            ⟨halt, world, ends⟩ | ⟨steps, filled, world, unfolds⟩
          · have alone := ends fuel []
            rw [List.append_nil] at alone
            refine ⟨0, Nat.zero_le _, ?_⟩
            rw [ends, alone, Execution.andThen_of_error rfl]
          · have alone := unfolds fuel []
            rw [List.append_nil, List.append_nil] at alone
            obtain ⟨left, atMost, runs⟩ := ih steps filled world
            exact ⟨left, Nat.le_succ_of_le atMost, by rw [unfolds, alone, runs]⟩

/-- More fuel changes nothing about a run that has ended. -/
theorem run_add {fuel : Nat} {steps : List (Step π β)} {buffer : Buffer} {w : World σ}
    (ended : (host.run fuel steps buffer w).outcome ≠ .error .exhausted) (more : Nat) :
    host.run (fuel + more) steps buffer w = host.run fuel steps buffer w := by
  induction fuel generalizing steps buffer w with
  | zero =>
      cases steps with
      | nil => simp
      | cons step rest => exact absurd rfl ended
  | succ fuel ih =>
      cases steps with
      | nil => simp
      | cons step rest =>
          rw [Nat.add_right_comm]
          rcases host.run_step_cases step rest buffer w with
            ⟨halt, world, ends⟩ | ⟨steps, filled, world, unfolds⟩
          · have alone (n : Nat) := ends n []
            simp only [List.append_nil] at alone
            rw [alone, alone]
          · have alone (n : Nat) := unfolds n []
            simp only [List.append_nil] at alone
            rw [alone] at ended ⊢
            rw [alone, ih ended]

theorem runEach_add {fuel : Nat} {exprs : List (Expr π β)} {buffer : Buffer} {w : World σ}
    (ended : (host.runEach fuel exprs buffer w).outcome ≠ .error .exhausted) (more : Nat) :
    host.runEach (fuel + more) exprs buffer w = host.runEach fuel exprs buffer w := by
  induction exprs generalizing buffer w with
  | nil => rfl
  | cons e rest ih =>
      rw [runEach] at ended ⊢
      cases outcome : (host.run fuel e.steps buffer w).outcome with
      | ok =>
          have first : host.run (fuel + more) e.steps buffer w = host.run fuel e.steps buffer w :=
            run_add (by simp [outcome]) more
          rw [Execution.andThen_of_ok outcome] at ended
          rw [runEach, first, Execution.andThen_of_ok outcome, Execution.andThen_of_ok outcome,
            ih ended]
      | error halt =>
          rw [Execution.andThen_of_error outcome] at ended
          rw [runEach, run_add ended more, Execution.andThen_of_error outcome,
            Execution.andThen_of_error outcome]

/-- The steps of some expressions in a row end, with enough fuel, exactly as the expressions do that
run one after the other: by success or failure, with the same buffer and the same world. -/
theorem exists_run_flatMap_iff {exprs : List (Expr π β)} {buffer : Buffer} {w : World σ}
    {x : Execution σ} (ended : x.outcome ≠ .error .exhausted) :
    (∃ fuel, host.run fuel (exprs.flatMap Expr.steps) buffer w = x) ↔
      ∃ fuel, host.runEach fuel exprs buffer w = x := by
  induction exprs generalizing buffer w x with
  | nil => simp [runEach]
  | cons e rest ih =>
      rw [List.flatMap_cons]
      constructor
      · rintro ⟨fuel, rfl⟩
        obtain ⟨left, _, runs⟩ := host.run_append fuel e.steps (rest.flatMap Expr.steps) buffer w
        rw [runs] at ended ⊢
        cases outcome : (host.run fuel e.steps buffer w).outcome with
        | error halt =>
            refine ⟨fuel, ?_⟩
            rw [runEach, Execution.andThen_of_error outcome, Execution.andThen_of_error outcome]
        | ok =>
            rw [Execution.andThen_of_ok outcome] at ended ⊢
            obtain ⟨enough, others⟩ := (ih ended).mp ⟨left, rfl⟩
            have first : host.run (fuel + enough) e.steps buffer w =
                host.run fuel e.steps buffer w :=
              run_add (by simp [outcome]) enough
            -- The others may need more fuel than the first one, and the first one more than they.
            refine ⟨fuel + enough, ?_⟩
            rw [runEach, first, Execution.andThen_of_ok outcome, Nat.add_comm,
              runEach_add (by rwa [others]) fuel, others]
      · rintro ⟨fuel, rfl⟩
        rw [runEach] at ended ⊢
        cases outcome : (host.run fuel e.steps buffer w).outcome with
        | error halt =>
            obtain ⟨left, _, runs⟩ :=
              host.run_append fuel e.steps (rest.flatMap Expr.steps) buffer w
            refine ⟨fuel, ?_⟩
            rw [runs, Execution.andThen_of_error outcome, Execution.andThen_of_error outcome]
        | ok =>
            rw [Execution.andThen_of_ok outcome] at ended ⊢
            obtain ⟨enough, others⟩ := (ih ended).mpr ⟨fuel, rfl⟩
            obtain ⟨clauses, done, wrote⟩ := exists_completes_of_run outcome
            obtain ⟨cost, runs⟩ := done.exists_cost
            exact ⟨cost + enough, by rw [runs, ← wrote, others]⟩

end Host

end CypherText
