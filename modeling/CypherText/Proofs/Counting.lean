import CypherText.Proofs.Simulation

/-!
# How often a run asks a condition

A host can also count how often one of its conditions is asked. It runs everything as before; the
count stands beside the state. `host.EndsAsking condition steps buffer w n x` says that the steps
come to the end `x` and ask the condition `n` times on their way.
-/

namespace CypherText

variable {π β σ : Type}

namespace World

/-- The world with a count beside its state. -/
def counted (w : World σ) (n : Nat) : World (Nat × σ) :=
  ⟨w.log, (n, w.state)⟩

/-- The world without the count. -/
def uncounted (w : World (Nat × σ)) : World σ :=
  ⟨w.log, w.state.2⟩

end World

/-- The end of a run with a count beside the state. -/
def Execution.counted (x : Execution σ) (n : Nat) : Execution (Nat × σ) :=
  ⟨x.outcome, x.buffer, x.world.counted n⟩

theorem Execution.outcome_counted (x : Execution σ) (n : Nat) :
    (x.counted n).outcome = x.outcome :=
  rfl

namespace Host

variable [DecidableEq π]

/-- The same host, which also counts how often the condition is asked. -/
def counting (host : Host π β σ) (condition : π) : Host π β (Nat × σ) where
  ask asked w := ((host.ask asked w.uncounted).1, (host.ask asked w.uncounted).2.counted
    (if asked = condition then w.state.1 + 1 else w.state.1))
  eval body w := ((host.eval body w.uncounted).1, (host.eval body w.uncounted).2.counted w.state.1)

variable {host : Host π β σ} {condition : π} {steps body first second : List (Step π β)}
  {buffer : Buffer} {w : World σ} {x y : Execution σ} {n m : Nat}

theorem evalExpr_counting (host : Host π β σ) (condition : π) (body : β) (w : World (Nat × σ)) :
    (host.counting condition).evalExpr body w =
      ((host.evalExpr body w.uncounted).1,
        (host.evalExpr body w.uncounted).2.counted w.state.1) := by
  rcases evaluated : host.eval body w.uncounted with ⟨result, left⟩
  cases result with
  | error halt => simp [evalExpr, counting, evaluated]
  | ok part => simp [evalExpr, counting, evaluated, World.counted, World.record]

theorem asked_counting_self (w : World σ) (n : Nat) :
    (host.counting condition).asked condition (w.counted n) =
      (host.asked condition w).counted (n + 1) := by
  simp [asked, counting, World.counted, World.uncounted]

theorem asked_counting_of_ne {other : π} (differs : other ≠ condition) (w : World σ) (n : Nat) :
    (host.counting condition).asked other (w.counted n) = (host.asked other w).counted n := by
  simp [asked, counting, World.counted, World.uncounted, differs]

/-- The steps come to the end `x`, and ask the condition `n` times until then. -/
def EndsAsking (host : Host π β σ) (condition : π) (steps : List (Step π β)) (buffer : Buffer)
    (w : World σ) (n : Nat) (x : Execution σ) : Prop :=
  ∀ start, (host.counting condition).Ends steps buffer (w.counted start) (x.counted (start + n))

/-- Counting changes nothing about the end. -/
theorem EndsAsking.ends (ends : host.EndsAsking condition steps buffer w n x) :
    host.Ends steps buffer w x := by
  have simulates : (host.counting condition).Simulates host (fun w v => w.uncounted = v)
      (fun _ => True) := by
    constructor
    · rintro body bodies _ w _ rfl
      rw [evalExpr_counting]
      exact ⟨rfl, rfl⟩
    · intro body bodies _
      exact ⟨trivial, fun _ _ _ _ _ => trivial⟩
    · rintro asked body _ w _ rfl
      exact ⟨rfl, rfl⟩
    · intro asked body _ step _
      trivial
  rcases simulates.exists_ends (fun _ _ => trivial) rfl (ends 0) with ⟨y, alsoEnds, like⟩
  rcases y with ⟨outcome, filled, left⟩
  rcases like with ⟨rfl, rfl, rfl⟩
  exact alsoEnds

theorem ask_counting_self (w : World σ) (n : Nat) :
    ((host.counting condition).ask condition (w.counted n)).1 = (host.ask condition w).1 :=
  rfl

/-- A loop whose condition does not hold asks it once. -/
theorem endsAsking_whileLoop_of_false (fails : (host.ask condition w).1 = .ok false) :
    host.EndsAsking condition [.whileLoop condition body] buffer w 1
      ⟨.ok (), buffer, host.asked condition w⟩ := by
  intro start
  rw [ends_whileLoop_of_false ((ask_counting_self w start).trans fails), asked_counting_self]
  rfl

/-- A loop whose condition holds asks it once more than its body and the loop behind it. -/
theorem endsAsking_whileLoop_of_true (holds : (host.ask condition w).1 = .ok true)
    (goesOn : host.EndsAsking condition (body ++ [.whileLoop condition body]) buffer
      (host.asked condition w) n x) :
    host.EndsAsking condition [.whileLoop condition body] buffer w (n + 1) x := by
  intro start
  rw [ends_whileLoop_of_true ((ask_counting_self w start).trans holds), asked_counting_self,
    ← ends_append_iff, Nat.add_comm n, ← Nat.add_assoc]
  exact goesOn (start + 1)

namespace EndsAsking

/-- Behind a failure nothing is asked. -/
theorem append_of_error (ends : host.EndsAsking condition first buffer w n x) {halt : Halt}
    (halted : x.outcome = .error halt) (second : List (Step π β)) :
    host.EndsAsking condition (first ++ second) buffer w n x := by
  intro start
  have haltedCounted := (x.outcome_counted (start + n)).trans halted
  rw [ends_append_iff]
  exact ⟨_, ends start, (Execution.goesOn_of_error haltedCounted).mpr rfl⟩

/-- Steps in a row ask as often as all of them do. -/
theorem append_of_ok (ends : host.EndsAsking condition first buffer w n x)
    (finished : x.outcome = .ok ())
    (others : host.EndsAsking condition second x.buffer x.world m y) :
    host.EndsAsking condition (first ++ second) buffer w (n + m) y := by
  intro start
  have finishedCounted := (x.outcome_counted (start + n)).trans finished
  rw [ends_append_iff, ← Nat.add_assoc]
  exact ⟨_, ends start, (Execution.goesOn_of_ok finishedCounted).mpr (others (start + n))⟩

end EndsAsking

end Host

end CypherText
