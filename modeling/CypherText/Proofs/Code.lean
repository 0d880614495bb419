import Mathlib.Logic.Function.Iterate
import CypherText.Proofs.Simulation

/-!
# Code in which only conditions have state

In a `Code` what a body gives and logs is a function of the body alone, and every condition has a
state of its own that changes only when the condition is asked. `Contains` says which conditions the
loops of an expression have, at any depth. A run depends on the states of these conditions and on
nothing else in the world, and it leaves all other states as they are: the state of a condition
moves on exactly as often as the run asks the condition.
-/

namespace CypherText

/-- Code in which only conditions have state, `κ` for each of them. -/
structure Code (π β κ : Type) where
  /-- The answer of a condition in its state, and its state after the answer. -/
  answer : π → κ → Except Failure Bool × κ
  /-- What a body gives and logs. -/
  give : β → Logged (Part π β)

namespace Code

variable {π β κ ν : Type}

/-- The state of a condition after it was asked. -/
def next (code : Code π β κ) (condition : π) (state : κ) : κ :=
  (code.answer condition state).2

/-- The expression that a body gives, with what is logged until it is there. -/
def exprOf (code : Code π β κ) (body : β) : Logged (Expr π β) := do
  let part ← code.give body
  part.toExpr

/-- The host of some code: its state is the state of each condition. -/
def host [DecidableEq π] (code : Code π β κ) : Host π β (π → κ) where
  ask condition w :=
    ((code.answer condition (w.state condition)).1.mapError .failed,
      { w with
        state := Function.update w.state condition (code.next condition (w.state condition)) })
  eval body w :=
    ((code.give body).result.mapError .failed, w.record (code.give body).events)

/-- What a body gives depends on no state, and changes none. -/
theorem evalExpr_host [DecidableEq π] (code : Code π β κ) (body : β) (w : World (π → κ)) :
    code.host.evalExpr body w =
      ((code.exprOf body).result.mapError .failed, w.record (code.exprOf body).events) := by
  cases outcome : (code.give body).result with
  | error failure =>
      rw [exprOf, Logged.bind_of_error outcome]
      simp only [Host.evalExpr, host, outcome]
      rfl
  | ok part =>
      rw [exprOf, Logged.bind_of_ok outcome]
      simp only [Host.evalExpr, host, outcome]
      change (_, (w.record _).record _) = _
      simp [World.record]

/-! ## The conditions of an expression -/

/-- `code.Contains step condition`: a loop with this condition is the step itself, or it is among
the steps of its body or of what its bodies give. -/
inductive Contains (code : Code π β κ) : Step π β → π → Prop
  | condition {condition : π} {body : List (Step π β)} :
      Contains code (.whileLoop condition body) condition
  | inside {outer condition : π} {body : List (Step π β)} {step : Step π β} (among : step ∈ body)
      (within : Contains code step condition) : Contains code (.whileLoop outer body) condition
  | given {bodies : List β} {body : β} {e : Expr π β} {step : Step π β} {condition : π}
      (among : body ∈ bodies) (gives : (code.exprOf body).result = .ok e) (made : step ∈ e.steps)
      (within : Contains code step condition) : Contains code (.forEach bodies) condition

/-- Whether a loop with the condition is among some steps, at any depth. -/
def Has (code : Code π β κ) (steps : List (Step π β)) (condition : π) : Prop :=
  ∃ step ∈ steps, code.Contains step condition

section Has

variable {code : Code π β κ} {steps rest : List (Step π β)} {condition : π}

@[simp]
theorem not_contains_clause (clause : Clause) : ¬ code.Contains (.clause clause) condition := by
  rintro ⟨⟩

@[simp]
theorem contains_forEach_iff {bodies : List β} :
    code.Contains (.forEach bodies) condition ↔
      ∃ body ∈ bodies, ∃ e, (code.exprOf body).result = .ok e ∧ code.Has e.steps condition := by
  constructor
  · rintro (_ | _ | ⟨among, gives, made, within⟩)
    exact ⟨_, among, _, gives, _, made, within⟩
  · rintro ⟨body, among, e, gives, step, made, within⟩
    exact .given among gives made within

@[simp]
theorem contains_whileLoop_iff {outer : π} {body : List (Step π β)} :
    code.Contains (.whileLoop outer body) condition ↔
      condition = outer ∨ code.Has body condition := by
  constructor
  · rintro (_ | ⟨among, within⟩)
    · exact .inl rfl
    · exact .inr ⟨_, among, within⟩
  · rintro (rfl | ⟨step, among, within⟩)
    · exact .condition
    · exact .inside among within

@[simp]
theorem not_has_nil : ¬ code.Has [] condition := by
  simp [Has]

@[simp]
theorem has_cons_iff {step : Step π β} :
    code.Has (step :: rest) condition ↔ code.Contains step condition ∨ code.Has rest condition := by
  simp [Has]

@[simp]
theorem has_append_iff :
    code.Has (steps ++ rest) condition ↔ code.Has steps condition ∨ code.Has rest condition := by
  simp only [Has, List.mem_append, or_and_right, exists_or]

end Has

/-! ## Two runs side by side -/

section Runs

variable [DecidableEq π]

/-- Whether two runs ended in the same way, wrote the same, and left related states. -/
structure Matches {σ τ : Type} (R : σ → τ → Prop) (x : Execution σ) (y : Execution τ) : Prop where
  outcome : x.outcome = y.outcome
  buffer : x.buffer = y.buffer
  states : R x.world.state y.world.state

/-- A host does the same as some code for all steps that have none but some conditions, if it does
so for all bodies and for these conditions. -/
theorem simulates (code : Code π β κ) {σ : Type} {other : Host π β σ}
    {R : World (π → κ) → World σ → Prop} {used : π → Prop}
    (evaluates : ∀ body w v, R w v →
      (code.host.evalExpr body w).1 = (other.evalExpr body v).1 ∧
        R (code.host.evalExpr body w).2 (other.evalExpr body v).2)
    (asks : ∀ condition, used condition → ∀ w v, R w v →
      (code.host.ask condition w).1 = (other.ask condition v).1 ∧
        R (code.host.asked condition w) (other.asked condition v)) :
    code.host.Simulates other R fun step =>
      ∀ condition, code.Contains step condition → used condition := by
  constructor
  · intro body bodies _
    exact evaluates body
  · intro body bodies within
    constructor
    · intro condition contains
      rcases contains_forEach_iff.mp contains with ⟨later, among, has⟩
      exact within condition (contains_forEach_iff.mpr
        ⟨later, List.mem_cons_of_mem _ among, has⟩)
    · intro w e gives step made condition contains
      rw [code.evalExpr_host] at gives
      cases outcome : (code.exprOf body).result with
      | error failure =>
          rw [outcome] at gives
          contradiction
      | ok given =>
          rw [outcome] at gives
          cases gives
          exact within condition (.given List.mem_cons_self outcome made contains)
  · intro condition body within
    exact asks condition (within condition .condition)
  · intro outer body within step among condition contains
    exact within condition (.inside among contains)

/-- Two codes with the same bodies run alike from related states, if the conditions that the steps
have answer alike in related states and leave related states. -/
theorem run_matches (code : Code π β κ) (other : Code π β ν) (same : other.give = code.give)
    {R : (π → κ) → (π → ν) → Prop} {used : π → Prop}
    (ask : ∀ condition, used condition → ∀ w v, R w.state v.state →
      (code.host.ask condition w).1 = (other.host.ask condition v).1 ∧
        R (code.host.asked condition w).state (other.host.asked condition v).state)
    (fuel : Nat) {steps : List (Step π β)} (within : ∀ condition, code.Has steps condition →
      used condition) (buffer : Buffer) {w : World (π → κ)} {v : World (π → ν)}
    (related : R w.state v.state) :
    Matches R (code.host.run fuel steps buffer w) (other.host.run fuel steps buffer v) := by
  have sameExpr : other.exprOf = code.exprOf := by
    funext body
    rw [exprOf, exprOf, same]
  have simulates : code.host.Simulates other.host (fun w v => R w.state v.state) fun step =>
      ∀ condition, code.Contains step condition → used condition := by
    apply code.simulates
    · intro body w v related
      rw [code.evalExpr_host, other.evalExpr_host, sameExpr]
      exact ⟨rfl, related⟩
    · intro condition isUsed w v related
      exact ask condition isUsed w v related
  have like := simulates.run fuel (fun step among condition contains =>
    within condition ⟨step, among, contains⟩) buffer related
  exact ⟨like.outcome, like.buffer, like.worlds⟩

/-- Where the states of some conditions agree, asking one of them gives the same, and they still
agree. -/
theorem ask_agree (code : Code π β κ) {used : π → Prop} {w v : World (π → κ)}
    (agree : ∀ condition, used condition → w.state condition = v.state condition) {asked : π}
    (isUsed : used asked) :
    (code.host.ask asked w).1 = (code.host.ask asked v).1 ∧ ∀ condition, used condition →
      (code.host.asked asked w).state condition = (code.host.asked asked v).state condition := by
  have sameState := agree asked isUsed
  constructor
  · simp [host, sameState]
  · intro condition conditionUsed
    by_cases isAsked : condition = asked
    · subst condition
      simp [Host.asked, host, sameState]
    · simp [Host.asked, host, isAsked, agree condition conditionUsed]

/-- A run depends on no states but those of the conditions that its steps have. -/
theorem run_matches_of_agree (code : Code π β κ) (fuel : Nat) {steps : List (Step π β)}
    {used : π → Prop} (within : ∀ condition, code.Has steps condition → used condition)
    (buffer : Buffer) {w v : World (π → κ)}
    (agree : ∀ condition, used condition → w.state condition = v.state condition) :
    Matches (fun s t => ∀ condition, used condition → s condition = t condition)
      (code.host.run fuel steps buffer w) (code.host.run fuel steps buffer v) := by
  apply run_matches code code rfl _ fuel within buffer agree
  intro asked isUsed w v agree
  exact code.ask_agree agree isUsed

/-! ## How often conditions are asked -/

/-- The same code, in which every condition also counts how often it is asked. -/
def counting (code : Code π β κ) : Code π β (κ × Nat) where
  answer condition state :=
    ((code.answer condition state.1).1, (code.next condition state.1, state.2 + 1))
  give := code.give

/-- The world with all counts at zero. -/
def uncounted (w : World (π → κ)) : World (π → κ × Nat) :=
  ⟨w.log, fun condition => (w.state condition, 0)⟩

/-- How often a run of some steps asks a condition. -/
def timesAsked (code : Code π β κ) (fuel : Nat) (steps : List (Step π β)) (buffer : Buffer)
    (w : World (π → κ)) (condition : π) : Nat :=
  ((code.counting.host.run fuel steps buffer (uncounted w)).world.state condition).2

/-- A run moves the state of every condition on as often as it asks the condition, and it only asks
conditions that its steps have. -/
theorem state_run (code : Code π β κ) (fuel : Nat) (steps : List (Step π β)) (buffer : Buffer)
    (w : World (π → κ)) (condition : π) :
    (code.host.run fuel steps buffer w).world.state condition =
        (code.next condition)^[code.timesAsked fuel steps buffer w condition]
          (w.state condition) ∧
      (code.timesAsked fuel steps buffer w condition ≠ 0 → code.Has steps condition) := by
  have counted : Matches
      (fun s (t : π → κ × Nat) => ∀ condition, (t condition).1 = s condition ∧
        s condition = (code.next condition)^[(t condition).2] (w.state condition) ∧
        ((t condition).2 ≠ 0 → code.Has steps condition))
      (code.host.run fuel steps buffer w)
      (code.counting.host.run fuel steps buffer (uncounted w)) := by
    refine run_matches code code.counting rfl ?_ fuel (fun _ has => has) buffer ?_
    · intro asked isUsed w v related
      constructor
      · simp [host, counting, (related asked).1]
      · intro condition
        by_cases isAsked : condition = asked
        · subst condition
          obtain ⟨sameState, moved, _⟩ := related asked
          refine ⟨?_, ?_, fun _ => isUsed⟩
          · simp [Host.asked, host, next, counting, sameState]
          · simp only [Host.asked, host, Function.update_self, next, counting]
            rw [Function.iterate_succ_apply', ← moved]
            rfl
        · simpa [Host.asked, host, isAsked] using related condition
    · intro condition
      exact ⟨rfl, rfl, fun asked => absurd rfl asked⟩
  exact (counted.states condition).2

/-- A run leaves the state of a condition alone that its steps do not have. -/
theorem state_run_of_not_has (code : Code π β κ) (fuel : Nat) {steps : List (Step π β)}
    (buffer : Buffer) (w : World (π → κ)) {condition : π} (hasNot : ¬ code.Has steps condition) :
    (code.host.run fuel steps buffer w).world.state condition = w.state condition := by
  obtain ⟨moved, onlyHad⟩ := code.state_run fuel steps buffer w condition
  have never : code.timesAsked fuel steps buffer w condition = 0 := by
    by_contra asked
    exact hasNot (onlyHad asked)
  rw [moved, never]
  rfl

/-! ## Runs that come to an end -/

/-- Whether loops over bodies are nested up to some depth only, in a step and in what its bodies
give. -/
inductive IsFinite (code : Code π β κ) : Step π β → Prop
  | clause (clause : Clause) : IsFinite code (.clause clause)
  | forEach {bodies : List β} (all : ∀ body ∈ bodies, ∀ e, (code.exprOf body).result = .ok e →
      ∀ step ∈ e.steps, IsFinite code step) : IsFinite code (.forEach bodies)
  | whileLoop {condition : π} {body : List (Step π β)} (all : ∀ step ∈ body, IsFinite code step) :
      IsFinite code (.whileLoop condition body)

/-- Whether some steps, for a cost that is always the same, fail or let the run go on with what is
pending behind them. -/
def Passes (code : Code π β κ) (steps : List (Step π β)) : Prop :=
  ∃ cost, ∀ fuel pending buffer w,
    (∃ failure filled left, code.host.run (cost + fuel) (steps ++ pending) buffer w =
      ⟨.error (.failed failure), filled, left⟩) ∨
    ∃ filled left, code.host.run (cost + fuel) (steps ++ pending) buffer w =
      code.host.run fuel pending filled left

namespace Passes

variable {code : Code π β κ} {steps rest : List (Step π β)}

theorem nil : code.Passes [] := by
  refine ⟨0, ?_⟩
  intro fuel pending buffer w
  right
  exact ⟨buffer, w, by rw [Nat.zero_add, List.nil_append]⟩

theorem clause (clause : Clause) : code.Passes [.clause clause] := by
  refine ⟨1, ?_⟩
  intro fuel pending buffer w
  right
  exact ⟨buffer.write clause, w, by rw [Nat.add_comm]; rfl⟩

theorem append (first : code.Passes steps) (second : code.Passes rest) :
    code.Passes (steps ++ rest) := by
  obtain ⟨cost, passes⟩ := first
  obtain ⟨others, passesRest⟩ := second
  refine ⟨cost + others, ?_⟩
  intro fuel pending buffer w
  rw [Nat.add_assoc, List.append_assoc]
  rcases passes (others + fuel) (rest ++ pending) buffer w with failed | ⟨filled, left, runs⟩
  · exact .inl failed
  · rw [runs]
    exact passesRest fuel pending filled left

theorem of_forall_mem (all : ∀ step ∈ steps, code.Passes [step]) : code.Passes steps := by
  induction steps with
  | nil => exact nil
  | cons step steps ih =>
      have first := all step List.mem_cons_self
      exact first.append (ih fun later among => all later (List.mem_cons_of_mem _ among))

/-- A loop over bodies passes if what each of them gives does. -/
theorem forEach {bodies : List β} (all : ∀ body ∈ bodies, ∀ e,
    (code.exprOf body).result = .ok e → code.Passes e.steps) : code.Passes [.forEach bodies] := by
  induction bodies with
  | nil =>
      refine ⟨1, ?_⟩
      intro fuel pending buffer w
      right
      exact ⟨buffer, w, by rw [Nat.add_comm]; rfl⟩
  | cons body bodies ih =>
      have others := ih fun later among => all later (List.mem_cons_of_mem _ among)
      cases outcome : (code.exprOf body).result with
      | error failure =>
          refine ⟨1, ?_⟩
          intro fuel pending buffer w
          have evaluates := code.evalExpr_host body w
          rw [outcome] at evaluates
          left
          rw [Nat.add_comm]
          simp only [List.singleton_append, Host.run, evaluates]
          exact ⟨failure, buffer, _, rfl⟩
      | ok e =>
          obtain ⟨cost, passes⟩ := (all body List.mem_cons_self e outcome).append others
          refine ⟨cost + 1, ?_⟩
          intro fuel pending buffer w
          have evaluates := code.evalExpr_host body w
          rw [outcome] at evaluates
          have turn := passes fuel pending buffer (w.record (code.exprOf body).events)
          rw [List.append_assoc, List.singleton_append] at turn
          rwa [Nat.add_right_comm, List.singleton_append, Host.run_forEach_cons evaluates]

end Passes

/-- A step without conditions passes, if its loops are nested up to some depth only. -/
theorem IsFinite.passes {code : Code π β κ} {step : Step π β} (finite : code.IsFinite step)
    (noLoop : ∀ condition, ¬ code.Contains step condition) : code.Passes [step] := by
  induction finite with
  | clause clause => exact .clause clause
  | forEach _ ih =>
      refine .forEach fun body among e gives => .of_forall_mem fun step made => ?_
      exact ih body among e gives step made fun condition within =>
        noLoop condition (.given among gives made within)
  | whileLoop => exact absurd .condition (noLoop _)

/-- With enough fuel, which does not depend on the world, steps without conditions come to their
end. -/
theorem exists_cost_of_isFinite {code : Code π β κ} {steps : List (Step π β)}
    (finite : ∀ step ∈ steps, code.IsFinite step)
    (noLoop : ∀ condition, ¬ code.Has steps condition) :
    ∃ cost, ∀ buffer w, (code.host.run cost steps buffer w).outcome ≠ .error .exhausted := by
  have passes : code.Passes steps := by
    refine .of_forall_mem fun step among => (finite step among).passes ?_
    intro condition within
    exact noLoop condition ⟨step, among, within⟩
  obtain ⟨cost, ends⟩ := passes
  refine ⟨cost, ?_⟩
  intro buffer w
  have ended := ends 0 [] buffer w
  rw [List.append_nil, Nat.add_zero] at ended
  rcases ended with ⟨failure, filled, left, runs⟩ | ⟨filled, left, runs⟩
  · simp [runs]
  · simp [runs]

end Runs

end Code

end CypherText
