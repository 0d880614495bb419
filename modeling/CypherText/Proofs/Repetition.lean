import Mathlib.Logic.Function.Iterate
import CypherText.Proofs.Counting
import CypherText.Proofs.Independence

/-!
# Loops with a condition, repeated

A condition that holds some number of times, and then not, makes its loop run the body so many times
and asks the condition once more. The state of the condition is its own: the answers depend on this
state only, and the body leaves it alone. So the loop has the effect of its body repeated, on the
buffer and on everything else in the world, and the next build finds the state where the last one
left it.
-/

namespace CypherText

variable {π β σ κ τ : Type}

/-- Whether a condition, from a state on, holds so many times and then does not. -/
def HoldsTimes (answer : κ → Except Failure Bool × κ) : Nat → κ → Prop
  | 0, s => (answer s).1 = .ok false
  | k + 1, s => (answer s).1 = .ok true ∧ HoldsTimes answer k (answer s).2

namespace Expr

theorem steps_sequence (exprs : List (Expr π β)) :
    (sequence exprs).steps = exprs.flatMap steps := by
  have behind (start : Expr π β) :
      (exprs.foldl andThen start).steps = start.steps ++ exprs.flatMap steps := by
    induction exprs generalizing start with
    | nil => simp
    | cons e rest ih =>
        rw [List.foldl_cons, ih, List.flatMap_cons, ← List.append_assoc]
        rfl
  exact behind empty

/-- The expression, so many times in a row. -/
def repeated (k : Nat) (e : Expr π β) : Expr π β :=
  sequence (List.replicate k e)

@[simp]
theorem steps_repeated_zero (e : Expr π β) : (repeated 0 e).steps = [] :=
  rfl

@[simp]
theorem steps_repeated_succ (k : Nat) (e : Expr π β) :
    (repeated (k + 1) e).steps = e.steps ++ (repeated k e).steps := by
  rw [repeated, steps_sequence, List.replicate_succ, List.flatMap_cons, ← steps_sequence]
  rfl

end Expr

namespace Host

/-- A body that always comes to an end does so when it is repeated. -/
theorem exists_ends_repeated_of_forall {host : Host π β σ} {body : Expr π β}
    (bodyEnds : ∀ buffer w, ∃ x, host.Ends body.steps buffer w x) (k : Nat) (buffer : Buffer)
    (w : World σ) : ∃ x, host.Ends (body.repeated k).steps buffer w x := by
  induction k generalizing buffer w with
  | zero => exact ⟨⟨.ok (), buffer, w⟩, ends_nil_iff.mpr rfl⟩
  | succ k ih =>
      rcases bodyEnds buffer w with ⟨turn, turnEnds⟩
      rw [Expr.steps_repeated_succ]
      exact exists_ends_append turnEnds fun _ => ih turn.buffer turn.world

/-- `host.Turns condition body k buffer w x`: the condition is asked and the body is run, `k` times,
and then the condition is asked once more; a body that fails is the end. -/
inductive Turns (host : Host π β σ) (condition : π) (body : List (Step π β)) :
    Nat → Buffer → World σ → Execution σ → Prop
  | last {buffer : Buffer} {w : World σ} :
      Turns host condition body 0 buffer w ⟨.ok (), buffer, host.asked condition w⟩
  | next {k : Nat} {buffer : Buffer} {w : World σ} {turn x : Execution σ}
      (ends : host.Ends body buffer (host.asked condition w) turn)
      (finished : turn.outcome = .ok ())
      (others : Turns host condition body k turn.buffer turn.world x) :
      Turns host condition body (k + 1) buffer w x
  | failed {k : Nat} {buffer : Buffer} {w : World σ} {turn : Execution σ} {failure : Failure}
      (ends : host.Ends body buffer (host.asked condition w) turn)
      (fails : turn.outcome = .error (.failed failure)) :
      Turns host condition body (k + 1) buffer w turn

/-- Whether a condition has a state of its own: it answers by this state alone, and asking it
changes nothing in the rest of the world. -/
structure Owns (host : Host π β σ) (condition : π) (answer : κ → Except Failure Bool × κ)
    (own : σ → κ) (rest : World σ → τ) : Prop where
  answers : ∀ w, (host.ask condition w).1 = (answer (own w.state)).1.mapError .failed
  moves : ∀ w, own (host.asked condition w).state = (answer (own w.state)).2
  keeps : ∀ w, rest (host.asked condition w) = rest w

/-- What a condition with a state of its own answers from a state in which it does not fail. -/
theorem Owns.ask_eq_ok {host : Host π β σ} {condition : π} {answer : κ → Except Failure Bool × κ}
    {own : σ → κ} {rest : World σ → τ} (owns : host.Owns condition answer own rest) {w : World σ}
    {holds : Bool} (answered : (answer (own w.state)).1 = .ok holds) :
    (host.ask condition w).1 = .ok holds := by
  rw [owns.answers, answered]
  rfl

/-- A loop takes as many turns as its condition holds, if the body does not change its state. -/
theorem ends_whileLoop_iff {host : Host π β σ} {condition : π}
    {answer : κ → Except Failure Bool × κ} {own : σ → κ} {rest : World σ → τ}
    {body : List (Step π β)} (owns : host.Owns condition answer own rest)
    (keeps : ∀ buffer w x, host.Ends body buffer w x → own x.world.state = own w.state) {k : Nat}
    {buffer : Buffer} {w : World σ} {x : Execution σ} (holds : HoldsTimes answer k (own w.state)) :
    host.Ends [.whileLoop condition body] buffer w x ↔
      host.Turns condition body k buffer w x := by
  induction k generalizing buffer w with
  | zero =>
      rw [ends_whileLoop_of_false (owns.ask_eq_ok holds)]
      constructor
      · rintro rfl
        exact .last
      · rintro ⟨⟩
        rfl
  | succ k ih =>
      rcases holds with ⟨first, others⟩
      have goesOn {turn : Execution σ}
          (ends : host.Ends body buffer (host.asked condition w) turn) :
          HoldsTimes answer k (own turn.world.state) := by
        rw [keeps buffer (host.asked condition w) turn ends]
        exact owns.moves w ▸ others
      rw [ends_whileLoop_of_true (owns.ask_eq_ok first)]
      constructor
      · rintro ⟨turn, ends, more⟩
        rcases Execution.finished_or_failed ends.1 with finished | ⟨failure, fails⟩
        · rw [Execution.goesOn_of_ok finished] at more
          exact .next ends finished ((ih (goesOn ends)).mp more)
        · rw [Execution.goesOn_of_error fails] at more
          subst x
          exact .failed ends fails
      · intro turns
        cases turns with
        | @next _ _ _ turn _ ends finished more =>
            exact ⟨turn, ends,
              (Execution.goesOn_of_ok finished).mpr ((ih (goesOn ends)).mpr more)⟩
        | failed ends fails => exact ⟨x, ends, (Execution.goesOn_of_error fails).mpr rfl⟩

variable [DecidableEq π]

/-- Whether some steps leave a condition alone: they neither ask it nor change its state, and what
they do depends on the rest of the world alone. -/
structure Spares (host : Host π β σ) (condition : π) (own : σ → κ) (rest : World σ → τ)
    (steps : List (Step π β)) : Prop where
  quiet : ∀ buffer w x, host.Ends steps buffer w x →
    host.EndsAsking condition steps buffer w 0 x
  keeps : ∀ buffer w x, host.Ends steps buffer w x → own x.world.state = own w.state
  alike : ∀ buffer w v x, rest w = rest v → host.Ends steps buffer w x →
    ∃ y, host.Ends steps buffer v y ∧ x.IsLike (fun w v => rest w = rest v) y

/-- Whether the steps with a loop end in `y` as the steps with its body repeated do in `x`: in the
same way, with the same buffer and the same rest of the world. On the way the condition is asked `n`
times, which is once more than its body is run if nothing fails, and its state moves on as often. -/
structure EndsLike (host : Host π β σ) (condition : π) (next : κ → κ) (own : σ → κ)
    (rest : World σ → τ) (steps : List (Step π β)) (buffer : Buffer) (w : World σ) (k : Nat)
    (x : Execution σ) (n : Nat) (y : Execution σ) : Prop where
  ends : host.Ends steps buffer w y
  asks : host.EndsAsking condition steps buffer w n y
  like : x.IsLike (fun w v => rest w = rest v) y
  moved : own y.world.state = next^[n] (own w.state)
  atMost : n ≤ k + 1
  ofFinished : x.outcome = .ok () → n = k + 1

variable {host : Host π β σ} {condition : π} {answer : κ → Except Failure Bool × κ} {own : σ → κ}
  {rest : World σ → τ} {body : Expr π β} {before after : List (Step π β)} {buffer : Buffer}
  {w v : World σ} {x : Execution σ} {k : Nat}

/-- Where a body that is repeated comes to an end, the loop comes to the same end. -/
theorem exists_endsLike (owns : host.Owns condition answer own rest)
    (spares : host.Spares condition own rest body.steps) (holds : HoldsTimes answer k (own w.state))
    (same : rest v = rest w) (ends : host.Ends (body.repeated k).steps buffer v x) :
    ∃ n y, host.EndsLike condition (fun s => (answer s).2) own rest
      [.whileLoop condition body.steps] buffer w k x n y := by
  induction k generalizing buffer w v with
  | zero =>
      rw [Expr.steps_repeated_zero, ends_nil_iff] at ends
      have asks : host.EndsAsking condition [.whileLoop condition body.steps] buffer w 1 _ :=
        endsAsking_whileLoop_of_false (owns.ask_eq_ok holds)
      subst x
      exact ⟨1, _, asks.ends, asks, ⟨rfl, rfl, same.trans (owns.keeps w).symm⟩, owns.moves w,
        Nat.le_refl 1, fun _ => rfl⟩
  | succ k ih =>
      rcases holds with ⟨first, others⟩
      have asked := owns.ask_eq_ok first
      rw [Expr.steps_repeated_succ, ends_append_iff] at ends
      rcases ends with ⟨turn, turnEnds, goesOn⟩
      -- The loop runs the body when it has asked, so in another state of the condition.
      rcases spares.alike buffer v (host.asked condition w) turn
        (same.trans (owns.keeps w).symm) turnEnds with ⟨mine, mineEnds, like⟩
      have quiet := spares.quiet buffer (host.asked condition w) mine mineEnds
      have kept : own mine.world.state = (answer (own w.state)).2 :=
        (spares.keeps buffer (host.asked condition w) mine mineEnds).trans (owns.moves w)
      cases outcome : turn.outcome with
      | error halt =>
          rw [Execution.goesOn_of_error outcome] at goesOn
          subst x
          have asks := endsAsking_whileLoop_of_true asked
            (quiet.append_of_error (like.outcome.symm.trans outcome) _)
          exact ⟨1, mine, asks.ends, asks, like, kept, by omega, by simp [outcome]⟩
      | ok =>
          rw [Execution.goesOn_of_ok outcome, like.buffer] at goesOn
          rw [← kept] at others
          rcases ih others like.worlds goesOn with ⟨n, y, again⟩
          have asks := endsAsking_whileLoop_of_true asked
            (quiet.append_of_ok (like.outcome.symm.trans outcome) again.asks)
          rw [Nat.zero_add] at asks
          refine ⟨n + 1, y, asks.ends, asks, again.like, ?_, ?_, ?_⟩
          · rw [again.moved, kept, Function.iterate_succ_apply]
          · exact Nat.succ_le_succ again.atMost
          · intro finished
            rw [again.ofFinished finished]

/-- Where the turns come to an end, so does the body that is repeated. -/
theorem Turns.exists_ends_repeated (turns : host.Turns condition body.steps k buffer w x)
    (owns : host.Owns condition answer own rest)
    (spares : host.Spares condition own rest body.steps) (same : rest w = rest v) :
    ∃ y, host.Ends (body.repeated k).steps buffer v y := by
  induction turns generalizing v with
  | @last buffer w => exact ⟨⟨.ok (), buffer, v⟩, ends_nil_iff.mpr rfl⟩
  | @next k buffer w turn x ends finished _ ih =>
      rcases spares.alike buffer _ v turn ((owns.keeps w).trans same) ends with
        ⟨other, otherEnds, like⟩
      rw [Expr.steps_repeated_succ]
      apply exists_ends_append otherEnds
      intro _
      rw [← like.buffer]
      exact ih like.worlds
  | @failed k buffer w turn failure ends fails =>
      rcases spares.alike buffer _ v turn ((owns.keeps w).trans same) ends with
        ⟨other, otherEnds, like⟩
      rw [Expr.steps_repeated_succ]
      apply exists_ends_append otherEnds
      intro finished
      rw [← like.outcome, fails] at finished
      contradiction

/-- Steps behind a loop that leave its condition alone change nothing about this. -/
theorem exists_endsLike_append {next : κ → κ} {steps unrolled : List (Step π β)}
    (like : ∀ x, host.Ends unrolled buffer w x →
      ∃ n y, host.EndsLike condition next own rest steps buffer w k x n y)
    (spares : host.Spares condition own rest after)
    (ends : host.Ends (unrolled ++ after) buffer w x) :
    ∃ n y, host.EndsLike condition next own rest (steps ++ after) buffer w k x n y := by
  rw [ends_append_iff] at ends
  rcases ends with ⟨turns, turnsEnd, goesOn⟩
  rcases like turns turnsEnd with ⟨n, looped, loop⟩
  cases outcome : turns.outcome with
  | error halt =>
      rw [Execution.goesOn_of_error outcome] at goesOn
      subst x
      have asks := loop.asks.append_of_error (loop.like.outcome.symm.trans outcome) after
      exact ⟨n, looped, asks.ends, asks, loop.like, loop.moved, loop.atMost, loop.ofFinished⟩
  | ok =>
      rw [Execution.goesOn_of_ok outcome, loop.like.buffer] at goesOn
      rcases spares.alike _ _ _ _ loop.like.worlds goesOn with ⟨y, yEnds, alike⟩
      have asks := loop.asks.append_of_ok (loop.like.outcome.symm.trans outcome)
        (spares.quiet _ _ _ yEnds)
      rw [Nat.add_zero] at asks
      have moved := (spares.keeps _ _ _ yEnds).trans loop.moved
      exact ⟨n, y, asks.ends, asks, alike, moved, loop.atMost, fun _ => loop.ofFinished outcome⟩

/-- Steps in front of a loop that leave its condition alone change nothing about this. -/
theorem exists_endsLike_prepend {next : κ → κ} {steps unrolled : List (Step π β)}
    (like : ∀ buffer v x, own v.state = own w.state → host.Ends unrolled buffer v x →
      ∃ n y, host.EndsLike condition next own rest steps buffer v k x n y)
    (spares : host.Spares condition own rest before)
    (ends : host.Ends (before ++ unrolled) buffer w x) :
    ∃ n y, host.EndsLike condition next own rest (before ++ steps) buffer w k x n y := by
  rw [ends_append_iff] at ends
  rcases ends with ⟨ready, readyEnds, goesOn⟩
  have quiet := spares.quiet buffer w ready readyEnds
  have kept := spares.keeps buffer w ready readyEnds
  cases outcome : ready.outcome with
  | error halt =>
      rw [Execution.goesOn_of_error outcome] at goesOn
      subst x
      have asks := quiet.append_of_error outcome steps
      exact ⟨0, ready, asks.ends, asks, ⟨rfl, rfl, rfl⟩, kept, Nat.zero_le _, by simp [outcome]⟩
  | ok =>
      rw [Execution.goesOn_of_ok outcome] at goesOn
      rcases like ready.buffer ready.world x kept goesOn with ⟨n, y, loop⟩
      have asks := quiet.append_of_ok outcome loop.asks
      rw [Nat.zero_add] at asks
      exact ⟨n, y, asks.ends, asks, loop.like, kept ▸ loop.moved, loop.atMost, loop.ofFinished⟩

/-- So a loop can be repeated among steps that leave its condition alone. -/
theorem exists_endsLike_among (owns : host.Owns condition answer own rest)
    (spares : host.Spares condition own rest body.steps)
    (sparesBefore : host.Spares condition own rest before)
    (sparesAfter : host.Spares condition own rest after)
    (holds : HoldsTimes answer k (own w.state))
    (ends : host.Ends (before ++ ((body.repeated k).steps ++ after)) buffer w x) :
    ∃ n y, host.EndsLike condition (fun s => (answer s).2) own rest
      (before ++ ([.whileLoop condition body.steps] ++ after)) buffer w k x n y := by
  apply exists_endsLike_prepend _ sparesBefore ends
  intro buffer v x sameState ends
  apply exists_endsLike_append _ sparesAfter ends
  intro x ends
  rw [← sameState] at holds
  exact exists_endsLike owns spares holds rfl ends

end Host

namespace Code

/-- Everything in the world but the state of one condition. -/
def others (condition : π) (w : World (π → κ)) :
    List Event × ({ other : π // other ≠ condition } → κ) :=
  (w.log, fun other => w.state other)

theorem others_eq_iff {condition : π} {w v : World (π → κ)} :
    others condition w = others condition v ↔
      w.log = v.log ∧ ∀ other, other ≠ condition → w.state other = v.state other := by
  simp [others, funext_iff]

variable [DecidableEq π]

/-- In code in which only conditions have state, each condition has its own. -/
theorem owns (code : Code π β κ) (condition : π) :
    code.host.Owns condition (code.answer condition) (fun s => s condition) (others condition) := by
  constructor
  · intro w
    rfl
  · intro w
    exact Function.update_self ..
  · intro w
    rw [others_eq_iff]
    constructor
    · rfl
    · intro other differs
      exact Function.update_of_ne differs ..

/-- Steps without loops that have the condition, at any depth, leave it alone. -/
theorem spares_of_not_has (code : Code π β κ) {steps : List (Step π β)} {condition : π}
    (hasNot : ¬ code.Has steps condition) :
    code.host.Spares condition (fun s => s condition) (others condition) steps := by
  have within : ∀ step ∈ steps, ∀ inner, code.Contains step inner → inner ≠ condition := by
    rintro step among inner contains rfl
    exact hasNot ⟨step, among, contains⟩
  constructor
  · intro buffer w x ends start
    have simulates : code.host.Simulates (code.host.counting condition)
        (fun w v => v = w.counted start) fun step =>
          ∀ inner, code.Contains step inner → inner ≠ condition := by
      apply code.simulates
      · rintro body w _ rfl
        rw [Host.evalExpr_counting]
        exact ⟨rfl, rfl⟩
      · rintro inner differs w _ rfl
        exact ⟨rfl, Host.asked_counting_of_ne differs w start⟩
    rcases simulates.exists_ends within rfl ends with ⟨⟨outcome, filled, left⟩, counted, like⟩
    rcases like with ⟨rfl, rfl, rfl⟩
    exact counted
  · rintro buffer w _ ⟨_, fuel, rfl⟩
    exact code.state_run_of_not_has fuel buffer w hasNot
  · intro buffer w v x same ends
    have simulates : code.host.Simulates code.host
        (fun w v => others condition w = others condition v) fun step =>
          ∀ inner, code.Contains step inner → inner ≠ condition := by
      apply code.simulates
      · intro body w v same
        rw [others_eq_iff] at same ⊢
        rw [code.evalExpr_host, code.evalExpr_host]
        exact ⟨rfl, congrArg (· ++ _) same.1, same.2⟩
      · intro inner differs w v same
        rw [others_eq_iff] at same ⊢
        rcases code.ask_agree same.2 differs with ⟨sameAnswer, stillAgree⟩
        exact ⟨sameAnswer, same.1, stillAgree⟩
    exact simulates.exists_ends within same ends

/-- Whether a step always comes to its end: loops over bodies are nested up to some depth only, and
every condition holds some number of times from each of its states, and is no condition in the body
of its own loop. -/
inductive IsBounded (code : Code π β κ) : Step π β → Prop
  | clause (clause : Clause) : IsBounded code (.clause clause)
  | forEach {bodies : List β} (all : ∀ body ∈ bodies, ∀ e, (code.exprOf body).result = .ok e →
      ∀ step ∈ e.steps, IsBounded code step) : IsBounded code (.forEach bodies)
  | whileLoop {condition : π} {body : List (Step π β)} (hasNot : ¬ code.Has body condition)
      (holds : ∀ s, ∃ k, HoldsTimes (code.answer condition) k s)
      (all : ∀ step ∈ body, IsBounded code step) : IsBounded code (.whileLoop condition body)

theorem IsBounded.exists_ends {code : Code π β κ} {step : Step π β} (bounded : code.IsBounded step)
    (buffer : Buffer) (w : World (π → κ)) : ∃ x, code.host.Ends [step] buffer w x := by
  induction bounded generalizing buffer w with
  | clause clause => exact ⟨_, Host.ends_clause_iff.mpr rfl⟩
  | @forEach bodies all ih =>
      clear all
      induction bodies generalizing buffer w with
      | nil => exact ⟨_, Host.ends_forEach_nil_iff.mpr rfl⟩
      | cons body bodies others =>
          rw [List.forall_mem_cons] at ih
          have evaluates := code.evalExpr_host body w
          cases outcome : (code.exprOf body).result with
          | error failure =>
              rw [outcome] at evaluates
              exact ⟨_, (Host.ends_forEach_cons_of_error evaluates).mpr ⟨by simp, rfl⟩⟩
          | ok e =>
              rw [outcome] at evaluates
              simp only [Host.ends_forEach_cons_of_ok evaluates, ← Host.ends_append_iff]
              rcases Host.exists_ends_of_forall_mem (ih.1 e outcome) buffer
                (w.record (code.exprOf body).events) with ⟨x, ends⟩
              exact Host.exists_ends_append ends fun _ => others ih.2 x.buffer x.world
  | @whileLoop condition body hasNot holds _ ih =>
      rcases holds (w.state condition) with ⟨k, holdsTimes⟩
      have bodyEnds : ∀ buffer w, ∃ x, code.host.Ends (Expr.mk body).steps buffer w x :=
        Host.exists_ends_of_forall_mem ih
      rcases Host.exists_ends_repeated_of_forall bodyEnds k buffer w with ⟨x, ends⟩
      rcases Host.exists_endsLike (code.owns condition) (code.spares_of_not_has hasNot) holdsTimes
        rfl ends with ⟨n, y, loop⟩
      exact ⟨y, loop.ends⟩

end Code

/-- A loop whose condition holds `k` times, from its current state on, and then does not, takes `k`
turns, if its body does not change the state of the condition: before each turn, and once more
behind the last one, the condition is asked. If the body leaves the condition alone, so that it does
not ask it and does not depend on its state either, these turns are the body repeated `k` times. The
loop comes to an end exactly if the repeated body does, and so always if the body always does; both
end in the same way, with the same buffer and the same rest of the world, and unless the body fails
the loop has asked its condition `k + 1` times. A builder with the loop among steps that leave the
condition alone gives the text that it gives with the repeated body, and each later build of it goes
on from the state of the condition that the build before it left. In code in which only conditions
have state, any body without a loop on the condition, at any depth, leaves the condition alone, and
bounded loops, nested to any depth, always come to an end. -/
theorem whileLoop_repeats :
    (∀ {π β σ κ τ : Type} [DecidableEq π] {host : Host π β σ} {condition : π}
      {answer : κ → Except Failure Bool × κ} {own : σ → κ} {rest : World σ → τ} {body : Expr π β},
      host.Owns condition answer own rest →
      let loop := Expr.whileLoop condition body
      let next (s : κ) := (answer s).2
      ((∀ buffer w x, host.Ends body.steps buffer w x → own x.world.state = own w.state) →
        ∀ k buffer w x, HoldsTimes answer k (own w.state) →
          (host.Ends loop.steps buffer w x ↔ host.Turns condition body.steps k buffer w x)) ∧
      (host.Spares condition own rest body.steps → ∀ k buffer w, HoldsTimes answer k (own w.state) →
        (∀ x, host.Ends (body.repeated k).steps buffer w x →
          ∃ n y, host.EndsLike condition next own rest loop.steps buffer w k x n y) ∧
        (∀ y, host.Ends loop.steps buffer w y →
          ∃ x, host.Ends (body.repeated k).steps buffer w x) ∧
        ((∀ buffer w, ∃ x, host.Ends body.steps buffer w x) →
          ∃ y, host.Ends loop.steps buffer w y)) ∧
      ∀ before after, host.Spares condition own rest body.steps →
        host.Spares condition own rest before →
        host.Spares condition own rest after →
        let among (e : Expr π β) : Expr π β := ⟨before ++ (e.steps ++ after)⟩
        ∀ separator w k x, HoldsTimes answer k (own w.state) →
          host.Ends (among (body.repeated k)).steps (.empty separator) w x →
          x.outcome = .ok () →
          ∃ left, (∃ cost, ∀ fuel, host.render (cost + fuel) separator (among loop) w =
              (.ok x.buffer.text, left)) ∧
            own left.state = next^[k + 1] (own w.state) ∧
            ∀ again v j z, own v.state = own left.state →
              HoldsTimes answer j (next^[k + 1] (own w.state)) →
              host.Ends (among (body.repeated j)).steps (.empty again) v z →
              ∃ n y, host.EndsLike condition next own rest (among loop).steps (.empty again) v j
                  z n y ∧
                ∃ cost, ∀ fuel, host.render (cost + fuel) again (among loop) v = y.rendered) ∧
    ∀ {π β κ : Type} [DecidableEq π] (code : Code π β κ),
      (∀ condition, code.host.Owns condition (code.answer condition) (fun s => s condition)
        (Code.others condition)) ∧
      (∀ condition steps, ¬ code.Has steps condition →
        code.host.Spares condition (fun s => s condition) (Code.others condition) steps) ∧
      ∀ steps, (∀ step ∈ steps, code.IsBounded step) →
        ∀ buffer w, ∃ x, code.host.Ends steps buffer w x := by
  constructor
  · intro π β σ κ τ _ host condition answer own rest body owns loop next
    refine ⟨?_, ?_, ?_⟩
    · intro keeps k buffer w x holds
      exact Host.ends_whileLoop_iff owns keeps holds
    · intro spares k buffer w holds
      have forwards (x : Execution σ) (ends : host.Ends (body.repeated k).steps buffer w x) :=
        Host.exists_endsLike owns spares holds rfl ends
      refine ⟨forwards, ?_, ?_⟩
      · intro y ends
        have turns := (Host.ends_whileLoop_iff owns spares.keeps holds).mp ends
        exact turns.exists_ends_repeated owns spares rfl
      · intro bodyEnds
        rcases Host.exists_ends_repeated_of_forall bodyEnds k buffer w with ⟨x, ends⟩
        rcases forwards x ends with ⟨n, y, like⟩
        exact ⟨y, like.ends⟩
    · intro before after spares sparesBefore sparesAfter among separator w k x holds ends finished
      have amongSteps {k : Nat} {buffer : Buffer} {w : World σ} {x : Execution σ} :=
        @Host.exists_endsLike_among _ _ _ _ _ _ host condition answer own rest body before after
          buffer w x k owns spares sparesBefore sparesAfter
      rcases amongSteps holds ends with ⟨n, y, like⟩
      have finishedLike : y.outcome = .ok () := like.like.outcome.symm.trans finished
      rcases @Host.Ends.exists_render _ _ _ host w y (among loop) separator like.ends with
        ⟨cost, renders⟩
      rw [Execution.rendered_of_ok finishedLike, ← like.like.buffer] at renders
      have moved := like.moved
      rw [like.ofFinished finished] at moved
      refine ⟨_, ⟨cost, renders⟩, moved, ?_⟩
      intro again v j z sameState holdsAgain endsAgain
      have foundState : own v.state = next^[k + 1] (own w.state) := sameState.trans moved
      rw [← foundState] at holdsAgain
      rcases amongSteps holdsAgain endsAgain with ⟨m, later, likeAgain⟩
      exact ⟨m, later, likeAgain,
        @Host.Ends.exists_render _ _ _ host v later (among loop) again likeAgain.ends⟩
  · intro π β κ _ code
    refine ⟨code.owns, fun _ _ => code.spares_of_not_has, ?_⟩
    intro steps bounded
    apply Host.exists_ends_of_forall_mem
    intro step isAmong
    exact (bounded step isAmong).exists_ends

namespace Session

/-- A body with a loop of each kind. -/
def mixedBody : Expr String String :=
  ⟨[.clause ⟨.raw, "A"⟩, .whileLoop "y" [.clause ⟨.raw, "B"⟩], .forEach ["C"]]⟩

/-- A builder with a clause and then some steps. -/
def behindMatch (steps : List (Step String String)) : Expr String String :=
  ⟨[.clause ⟨.matching, "MATCH (n)"⟩] ++ (steps ++ [])⟩

/-- The loop of the builder counts from two, and the loop in its body from one. -/
theorem whileLoop_of_counters :
    ∃ left, (∃ cost, ∀ fuel,
        counters.host.render (cost + fuel) "\n" (behindMatch (Expr.whileLoop "x" mixedBody).steps)
          branches.world = (.ok "MATCH (n)\nA\nB\nC\nA\nC", left)) ∧
      left.state "x" = 0 := by
  have spares {steps : List (Step String String)} (hasNot : ¬ counters.Has steps "x") :=
    (whileLoop_repeats.2 counters).2.1 "x" steps hasNot
  have sparesBody : ¬ counters.Has mixedBody.steps "x" := by
    simp [mixedBody, exprOf_counters, Logged.ofExcept, Expr.clause]
  have holds : HoldsTimes (counters.answer "x") 2 (branches.world.state "x") := ⟨rfl, rfl, rfl⟩
  have finished : (counters.host.run 20 (behindMatch (mixedBody.repeated 2).steps).steps
      (.empty "\n") branches.world).outcome = .ok () :=
    rfl
  rcases (whileLoop_repeats.1 ((whileLoop_repeats.2 counters).1 "x")).2.2
    [.clause ⟨.matching, "MATCH (n)"⟩] [] (spares sparesBody) (spares (by simp))
    (spares (by simp)) "\n" branches.world 2 _ holds (Host.ends_run_of_ok finished) finished with
    ⟨left, renders, moved, _⟩
  exact ⟨left, renders, moved⟩

end Session

end CypherText
