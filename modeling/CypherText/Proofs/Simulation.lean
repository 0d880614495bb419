import CypherText.Proofs.Ending

/-!
# Two hosts side by side

Two hosts can run the same steps, in worlds that need not be of one type. Where the bodies and the
conditions of these steps do the same in both, from related worlds to related worlds, so do the
runs: they end in the same way with the same buffer, and leave related worlds.
-/

namespace CypherText

/-- Whether two runs ended in the same way, with the same buffer and in related worlds. -/
structure Execution.IsLike {σ τ : Type} (R : World σ → World τ → Prop) (x : Execution σ)
    (y : Execution τ) : Prop where
  outcome : x.outcome = y.outcome
  buffer : x.buffer = y.buffer
  worlds : R x.world y.world

namespace Host

variable {π β σ τ : Type}

/-- Whether two hosts do the same for the bodies and conditions of all steps that are in use, and
keep worlds related. Whatever a step unfolds into is in use as well. -/
structure Simulates (host : Host π β σ) (other : Host π β τ) (R : World σ → World τ → Prop)
    (inUse : Step π β → Prop) : Prop where
  evaluates : ∀ body bodies, inUse (.forEach (body :: bodies)) → ∀ w v, R w v →
    (host.evalExpr body w).1 = (other.evalExpr body v).1 ∧
      R (host.evalExpr body w).2 (other.evalExpr body v).2
  gives : ∀ body bodies, inUse (.forEach (body :: bodies)) → inUse (.forEach bodies) ∧
    ∀ w e, (host.evalExpr body w).1 = .ok e → ∀ step ∈ e.steps, inUse step
  asks : ∀ condition body, inUse (.whileLoop condition body) → ∀ w v, R w v →
    (host.ask condition w).1 = (other.ask condition v).1 ∧
      R (host.asked condition w) (other.asked condition v)
  turns : ∀ condition body, inUse (.whileLoop condition body) → ∀ step ∈ body, inUse step

variable {host : Host π β σ} {other : Host π β τ} {R : World σ → World τ → Prop}
  {inUse : Step π β → Prop} {steps : List (Step π β)} {buffer : Buffer} {w : World σ} {v : World τ}

/-- Hosts that do the same for the steps in use run such steps alike, from related worlds. -/
theorem Simulates.run (simulates : host.Simulates other R inUse) (fuel : Nat)
    (within : ∀ step ∈ steps, inUse step) (buffer : Buffer) (related : R w v) :
    (host.run fuel steps buffer w).IsLike R (other.run fuel steps buffer v) := by
  induction fuel generalizing steps buffer w v with
  | zero =>
      cases steps with
      | nil => exact ⟨rfl, rfl, related⟩
      | cons step rest => exact ⟨rfl, rfl, related⟩
  | succ fuel ih =>
      cases steps with
      | nil => exact ⟨rfl, rfl, related⟩
      | cons step rest =>
          rw [List.forall_mem_cons] at within
          rcases within with ⟨first, behind⟩
          cases step with
          | clause clause => exact ih behind (buffer.write clause) related
          | forEach bodies =>
              cases bodies with
              | nil => exact ih behind buffer related
              | cons body bodies =>
                  rcases simulates.evaluates body bodies first w v related with
                    ⟨sameResult, stillRelated⟩
                  rcases simulates.gives body bodies first with ⟨tail, made⟩
                  cases result : (host.evalExpr body w).1 with
                  | error halt =>
                      rw [run_forEach_cons_of_error (Prod.ext result rfl),
                        run_forEach_cons_of_error (Prod.ext (sameResult.symm.trans result) rfl)]
                      exact ⟨rfl, rfl, stillRelated⟩
                  | ok e =>
                      rw [run_forEach_cons (Prod.ext result rfl),
                        run_forEach_cons (Prod.ext (sameResult.symm.trans result) rfl)]
                      apply ih _ buffer stillRelated
                      rw [List.forall_mem_append, List.forall_mem_cons]
                      exact ⟨made w e result, tail, behind⟩
          | whileLoop condition body =>
              rcases simulates.asks condition body first w v related with ⟨sameAnswer, stillRelated⟩
              rcases answered : (host.ask condition w).1 with halt | answer
              · rw [run_whileLoop_of_error (Prod.ext answered rfl),
                  run_whileLoop_of_error (Prod.ext (sameAnswer.symm.trans answered) rfl)]
                exact ⟨rfl, rfl, stillRelated⟩
              cases answer with
              | true =>
                  rw [run_whileLoop_of_true (Prod.ext answered rfl),
                    run_whileLoop_of_true (Prod.ext (sameAnswer.symm.trans answered) rfl)]
                  apply ih _ buffer stillRelated
                  rw [List.forall_mem_append, List.forall_mem_cons]
                  exact ⟨simulates.turns condition body first, first, behind⟩
              | false =>
                  rw [run_whileLoop_of_false (Prod.ext answered rfl),
                    run_whileLoop_of_false (Prod.ext (sameAnswer.symm.trans answered) rfl)]
                  exact ih behind buffer stillRelated

/-- What ends for one host ends alike for the other. -/
theorem Simulates.exists_ends (simulates : host.Simulates other R inUse)
    (within : ∀ step ∈ steps, inUse step) (related : R w v) {x : Execution σ}
    (ends : host.Ends steps buffer w x) : ∃ y, other.Ends steps buffer v y ∧ x.IsLike R y := by
  rcases ends with ⟨ended, fuel, rfl⟩
  have like := simulates.run fuel within buffer related
  exact ⟨_, ⟨like.outcome ▸ ended, fuel, rfl⟩, like⟩

end Host

end CypherText
