import CypherText.Proofs.Ending

/-!
# Steps that stand for each other

Two lists of steps that come to the same ends, from every buffer and every world, can stand for each
other: whatever stands around them, it ends with one of them as it does with the other.
-/

namespace CypherText

variable {π β σ : Type}

/-- Steps with a gap, among these steps or in the body of one of their loops, at any depth. -/
inductive Surrounding (π β : Type) where
  | beside (before after : List (Step π β))
  | inside (before : List (Step π β)) (condition : π) (inner : Surrounding π β)
      (after : List (Step π β))

/-- The steps with other steps in their gap. -/
def Surrounding.fill : Surrounding π β → List (Step π β) → List (Step π β)
  | beside before after, steps => before ++ (steps ++ after)
  | inside before condition inner after, steps =>
    before ++ ([.whileLoop condition (inner.fill steps)] ++ after)

namespace Host

/-- Whether two lists of steps come to the same ends, from everywhere. -/
def SameEnds (host : Host π β σ) (steps other : List (Step π β)) : Prop :=
  ∀ buffer w x, host.Ends steps buffer w x ↔ host.Ends other buffer w x

variable {host : Host π β σ} {steps other first second : List (Step π β)} {buffer : Buffer}
  {w : World σ} {x : Execution σ}

theorem sameEnds_refl (steps : List (Step π β)) : host.SameEnds steps steps :=
  fun _ _ _ => Iff.rfl

theorem SameEnds.append (same : host.SameEnds first steps) (sameThen : host.SameEnds second other) :
    host.SameEnds (first ++ second) (steps ++ other) := by
  intro buffer w x
  rw [ends_append_iff, ends_append_iff]
  apply exists_congr
  intro y
  rw [same buffer w y]
  apply and_congr_right
  intro _
  cases outcome : y.outcome with
  | error halt => rw [Execution.goesOn_of_error outcome, Execution.goesOn_of_error outcome]
  | ok =>
      rw [Execution.goesOn_of_ok outcome, Execution.goesOn_of_ok outcome]
      exact sameThen y.buffer y.world x

/-- A loop ends as one whose body comes to the ends of its own body. -/
theorem ends_whileLoop_of_ends
    (goes : ∀ buffer w x, host.Ends steps buffer w x → host.Ends other buffer w x) {condition : π}
    (ends : host.Ends [.whileLoop condition steps] buffer w x) :
    host.Ends [.whileLoop condition other] buffer w x := by
  rcases ends with ⟨ended, fuel, runs⟩
  -- A turn of the loop uses up some fuel.
  induction fuel using Nat.strongRecOn generalizing buffer w with
  | _ fuel ih =>
      cases fuel with
      | zero =>
          rw [← runs] at ended
          exact absurd rfl ended
      | succ fuel =>
          rcases answered : (host.ask condition w).1 with halt | answer
          · rw [run_whileLoop_of_error (Prod.ext answered rfl)] at runs
            have halts := run_whileLoop_of_error (Prod.ext answered rfl) 0 other [] buffer
            exact ⟨ended, 1, halts.trans runs⟩
          cases answer with
          | false =>
              rw [run_whileLoop_of_false (Prod.ext answered rfl), run_nil] at runs
              exact (ends_whileLoop_of_false answered).mpr runs.symm
          | true =>
              rw [run_whileLoop_of_true (Prod.ext answered rfl)] at runs
              rcases host.run_append fuel steps [.whileLoop condition steps] buffer
                (host.asked condition w) with ⟨left, atMost, splits⟩
              have turn := splits.symm.trans runs
              rw [ends_whileLoop_of_true answered]
              cases outcome : (host.run fuel steps buffer (host.asked condition w)).outcome with
              | error halt =>
                  rw [Execution.andThen_of_error outcome] at turn
                  rw [turn] at outcome
                  exact ⟨x, goes _ _ _ ⟨ended, fuel, turn⟩,
                    (Execution.goesOn_of_error outcome).mpr rfl⟩
              | ok =>
                  rw [Execution.andThen_of_ok outcome] at turn
                  have turnEnds := goes _ _ _ (ends_run_of_ok outcome)
                  exact ⟨_, turnEnds, (Execution.goesOn_of_ok outcome).mpr
                    (ih left (Nat.lt_succ_of_le atMost) turn)⟩

theorem SameEnds.whileLoop (same : host.SameEnds steps other) (condition : π) :
    host.SameEnds [.whileLoop condition steps] [.whileLoop condition other] := by
  intro buffer w x
  constructor
  · exact ends_whileLoop_of_ends fun buffer w x => (same buffer w x).mp
  · exact ends_whileLoop_of_ends fun buffer w x => (same buffer w x).mpr

/-- Steps that come to the same ends can stand for each other in any surroundings. -/
theorem SameEnds.fill (same : host.SameEnds steps other) (around : Surrounding π β) :
    host.SameEnds (around.fill steps) (around.fill other) := by
  induction around with
  | beside before after => exact (sameEnds_refl before).append (same.append (sameEnds_refl after))
  | inside before condition inner after ih =>
      exact (sameEnds_refl before).append ((ih.whileLoop condition).append (sameEnds_refl after))

end Host

end CypherText
