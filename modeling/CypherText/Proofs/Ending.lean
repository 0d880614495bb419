import CypherText.Proofs.Sequence

/-!
# Runs that end

`host.Ends steps buffer w x` says that the steps, run into the buffer from the world `w`, come to
the end `x`, by success or by a failure, with some amount of fuel and then with every larger one.
There is one end at most. What the steps do is told without fuel: steps in a row end as the first of
them do and then the others, and each loop ends as what it unfolds into.
-/

namespace CypherText

namespace Execution

variable {σ : Type}

/-- `x.GoesOn next y`: where `x` has finished, `y` is how `next` ends from there, and where `x` has
failed, `y` is this failure. -/
def GoesOn (x : Execution σ) (next : Buffer → World σ → Execution σ → Prop)
    (y : Execution σ) : Prop :=
  match x.outcome with
  | .ok () => next x.buffer x.world y
  | .error _ => y = x

theorem goesOn_of_ok {x y : Execution σ} {next : Buffer → World σ → Execution σ → Prop}
    (finished : x.outcome = .ok ()) : x.GoesOn next y ↔ next x.buffer x.world y := by
  simp [GoesOn, finished]

theorem goesOn_of_error {x y : Execution σ} {next : Buffer → World σ → Execution σ → Prop}
    {halt : Halt} (halted : x.outcome = .error halt) : x.GoesOn next y ↔ y = x := by
  simp [GoesOn, halted]

/-- A run that came to its end has finished or failed. -/
theorem finished_or_failed {x : Execution σ} (ended : x.outcome ≠ .error .exhausted) :
    x.outcome = .ok () ∨ ∃ failure, x.outcome = .error (.failed failure) := by
  cases outcome : x.outcome with
  | ok => exact .inl rfl
  | error halt =>
      cases halt with
      | failed failure => exact .inr ⟨failure, rfl⟩
      | exhausted => exact absurd outcome ended

/-- What rendering makes of a run: the text that it wrote, which is logged, or its failure. -/
def rendered (x : Execution σ) : Except Halt String × World σ :=
  match x.outcome with
  | .ok () => (.ok x.buffer.text,
      x.world.record [.rendered x.buffer.kinds.toList x.buffer.text])
  | .error halt => (.error halt, x.world)

theorem rendered_of_ok {x : Execution σ} (finished : x.outcome = .ok ()) :
    x.rendered = (.ok x.buffer.text,
      x.world.record [.rendered x.buffer.kinds.toList x.buffer.text]) := by
  simp [rendered, finished]

end Execution

namespace Host

variable {π β σ : Type} {host : Host π β σ} {steps rest first second : List (Step π β)}
  {buffer : Buffer} {w : World σ} {x y : Execution σ}

/-- The steps come to the end `x`. -/
def Ends (host : Host π β σ) (steps : List (Step π β)) (buffer : Buffer) (w : World σ)
    (x : Execution σ) : Prop :=
  x.outcome ≠ .error .exhausted ∧ ∃ fuel, host.run fuel steps buffer w = x

/-- A run that has finished is an end. -/
theorem ends_run_of_ok {fuel : Nat} (finished : (host.run fuel steps buffer w).outcome = .ok ()) :
    host.Ends steps buffer w (host.run fuel steps buffer w) := by
  constructor
  · simp [finished]
  · exact ⟨fuel, rfl⟩

/-- An end is reached with all fuel from some amount on. -/
theorem Ends.exists_cost (ends : host.Ends steps buffer w x) :
    ∃ cost, ∀ fuel, host.run (cost + fuel) steps buffer w = x := by
  rcases ends with ⟨ended, cost, rfl⟩
  exact ⟨cost, run_add ended⟩

/-- Rendering gives what it makes of the end, with all fuel from some amount on. -/
theorem Ends.exists_render {e : Expr π β} {separator : String}
    (ends : host.Ends e.steps (.empty separator) w x) :
    ∃ cost, ∀ fuel, host.render (cost + fuel) separator e w = x.rendered := by
  rcases ends.exists_cost with ⟨cost, runs⟩
  refine ⟨cost, ?_⟩
  intro fuel
  rw [← runs fuel]
  rfl

theorem Ends.unique (ends : host.Ends steps buffer w x) (also : host.Ends steps buffer w y) :
    x = y := by
  rcases ends.exists_cost with ⟨cost, runs⟩
  rcases also.exists_cost with ⟨other, runsAlso⟩
  calc
    x = host.run (cost + other) steps buffer w := (runs other).symm
    _ = host.run (other + cost) steps buffer w := by rw [Nat.add_comm]
    _ = y := runsAlso cost

@[simp]
theorem ends_nil_iff : host.Ends [] buffer w x ↔ x = ⟨.ok (), buffer, w⟩ := by
  constructor
  · rintro ⟨_, fuel, rfl⟩
    exact run_nil host fuel buffer w
  · rintro rfl
    exact ⟨by simp, 0, run_nil host 0 buffer w⟩

/-- Steps end as what the first of them unfolds into. -/
theorem ends_iff_of_step {step : Step π β} {filled : Buffer} {world : World σ}
    (unfolds : ∀ fuel, host.run (fuel + 1) (step :: rest) buffer w =
      host.run fuel steps filled world) :
    host.Ends (step :: rest) buffer w x ↔ host.Ends steps filled world x := by
  constructor
  · rintro ⟨ended, fuel, rfl⟩
    cases fuel with
    | zero => exact absurd rfl ended
    | succ fuel => exact ⟨ended, fuel, (unfolds fuel).symm⟩
  · rintro ⟨ended, fuel, rfl⟩
    exact ⟨ended, fuel + 1, unfolds fuel⟩

@[simp]
theorem ends_clause_iff {clause : Clause} :
    host.Ends [.clause clause] buffer w x ↔ x = ⟨.ok (), buffer.write clause, w⟩ := by
  rw [ends_iff_of_step (run_clause host · clause [] buffer w), ends_nil_iff]

/-- Steps in a row end as the first of them do, and then the others from there. -/
theorem ends_append_iff :
    host.Ends (first ++ second) buffer w x ↔
      ∃ y, host.Ends first buffer w y ∧ y.GoesOn (host.Ends second) x := by
  constructor
  · rintro ⟨ended, fuel, rfl⟩
    rcases host.run_append fuel first second buffer w with ⟨left, _, runs⟩
    rw [runs] at ended ⊢
    cases outcome : (host.run fuel first buffer w).outcome with
    | error halt =>
        rw [Execution.andThen_of_error outcome] at ended ⊢
        exact ⟨_, ⟨ended, fuel, rfl⟩, (Execution.goesOn_of_error outcome).mpr rfl⟩
    | ok =>
        rw [Execution.andThen_of_ok outcome] at ended ⊢
        exact ⟨_, ends_run_of_ok outcome, (Execution.goesOn_of_ok outcome).mpr ⟨ended, left, rfl⟩⟩
  · rintro ⟨y, ⟨ended, fuel, rfl⟩, goesOn⟩
    cases outcome : (host.run fuel first buffer w).outcome with
    | error halt =>
        obtain rfl := (Execution.goesOn_of_error outcome).mp goesOn
        rcases host.run_append fuel first second buffer w with ⟨left, _, runs⟩
        exact ⟨ended, fuel, runs.trans (Execution.andThen_of_error outcome _)⟩
    | ok =>
        rcases (Execution.goesOn_of_ok outcome).mp goesOn with ⟨endedThen, more, rfl⟩
        rcases exists_completes_of_run outcome with ⟨clauses, done, wrote⟩
        rcases done.exists_cost with ⟨cost, runs⟩
        exact ⟨endedThen, cost + more, by rw [runs, ← wrote]⟩

/-- Steps in a row come to an end where the first of them do, and the others if these finish. -/
theorem exists_ends_append (ends : host.Ends first buffer w y)
    (goesOn : y.outcome = .ok () → ∃ x, host.Ends second y.buffer y.world x) :
    ∃ x, host.Ends (first ++ second) buffer w x := by
  simp only [ends_append_iff]
  cases outcome : y.outcome with
  | error halt => exact ⟨y, y, ends, (Execution.goesOn_of_error outcome).mpr rfl⟩
  | ok =>
      rcases goesOn outcome with ⟨x, endsThen⟩
      exact ⟨x, y, ends, (Execution.goesOn_of_ok outcome).mpr endsThen⟩

/-- Steps come to an end if each of them does, from everywhere. -/
theorem exists_ends_of_forall_mem
    (all : ∀ step ∈ steps, ∀ buffer w, ∃ x, host.Ends [step] buffer w x) (buffer : Buffer)
    (w : World σ) : ∃ x, host.Ends steps buffer w x := by
  induction steps generalizing buffer w with
  | nil => exact ⟨_, ends_nil_iff.mpr rfl⟩
  | cons step rest ih =>
      rw [List.forall_mem_cons] at all
      rcases all.1 buffer w with ⟨x, ends⟩
      exact exists_ends_append ends fun _ => ih all.2 x.buffer x.world

/-! ## Loops -/

@[simp]
theorem ends_forEach_nil_iff :
    host.Ends [.forEach []] buffer w x ↔ x = ⟨.ok (), buffer, w⟩ := by
  rw [ends_iff_of_step (run_forEach_nil host · [] buffer w), ends_nil_iff]

/-- A loop over bodies goes on with what the first of them gives. -/
theorem ends_forEach_cons_of_ok {body : β} {bodies : List β} {e : Expr π β} {evaluated : World σ}
    (gives : host.evalExpr body w = (.ok e, evaluated)) :
    host.Ends [.forEach (body :: bodies)] buffer w x ↔
      ∃ y, host.Ends e.steps buffer evaluated y ∧
        y.GoesOn (host.Ends [.forEach bodies]) x := by
  rw [ends_iff_of_step (run_forEach_cons gives · bodies [] buffer), ends_append_iff]

/-- Where a body gives nothing, the run ends. -/
theorem run_forEach_cons_of_error {body : β} {halt : Halt} {evaluated : World σ}
    (refuses : host.evalExpr body w = (.error halt, evaluated)) (fuel : Nat) (bodies : List β)
    (rest : List (Step π β)) (buffer : Buffer) :
    host.run (fuel + 1) (.forEach (body :: bodies) :: rest) buffer w =
      ⟨.error halt, buffer, evaluated⟩ := by
  simp [run, refuses]

/-- A loop over bodies ends where the first of them gives nothing. -/
theorem ends_forEach_cons_of_error {body : β} {bodies : List β} {halt : Halt} {evaluated : World σ}
    (refuses : host.evalExpr body w = (.error halt, evaluated)) :
    host.Ends [.forEach (body :: bodies)] buffer w x ↔
      halt ≠ .exhausted ∧ x = ⟨.error halt, buffer, evaluated⟩ := by
  have runs (fuel : Nat) := run_forEach_cons_of_error refuses fuel bodies [] buffer
  constructor
  · rintro ⟨ended, fuel, rfl⟩
    cases fuel with
    | zero => exact absurd rfl ended
    | succ fuel =>
        rw [runs] at ended ⊢
        exact ⟨fun exhausted => ended (congrArg Except.error exhausted), rfl⟩
  · rintro ⟨notExhausted, rfl⟩
    exact ⟨by simpa using notExhausted, 1, runs 0⟩

/-- The world after a condition was asked. -/
def asked (host : Host π β σ) (condition : π) (w : World σ) : World σ :=
  (host.ask condition w).2

/-- A loop whose condition holds goes on with its body, and then again with itself. -/
theorem ends_whileLoop_of_true {condition : π} {body : List (Step π β)}
    (holds : (host.ask condition w).1 = .ok true) :
    host.Ends [.whileLoop condition body] buffer w x ↔
      ∃ y, host.Ends body buffer (host.asked condition w) y ∧
        y.GoesOn (host.Ends [.whileLoop condition body]) x := by
  rw [ends_iff_of_step (run_whileLoop_of_true (Prod.ext holds rfl) · body [] buffer),
    ends_append_iff]
  rfl

/-- A loop whose condition does not hold writes nothing. -/
theorem ends_whileLoop_of_false {condition : π} {body : List (Step π β)}
    (fails : (host.ask condition w).1 = .ok false) :
    host.Ends [.whileLoop condition body] buffer w x ↔
      x = ⟨.ok (), buffer, host.asked condition w⟩ := by
  rw [ends_iff_of_step (run_whileLoop_of_false (Prod.ext fails rfl) · body [] buffer),
    ends_nil_iff]
  rfl

end Host

end CypherText
