import CypherText.Proofs.Origin
import CypherText.Proofs.Label

/-!
# Scopes of extractors in scripts

A program of moves makes builders, calls operations on them and joins them, in any order and with
any sharing between them. A chart notes for every register what its builder comes from. It is drawn
from the program alone, and after every move each register holds the builder that its origin gives:
so the clauses in it were written with the extractors that were in force on their chains, whatever
was done to any builder since.
-/

namespace CypherText.Script

open Effect

/-- What a move does. -/
inductive Deed where
  /-- It makes a builder. -/
  | fresh (extractor : Extractor)
  | call (operation : Call)
  /-- It joins the builder in the register. -/
  | andThen (other : String)
  /-- It adds the builder in the register. -/
  | plus (other : String)

/-- A move in a program that only makes, extends and joins builders: the register that it works on,
the register that gets its result, and what it does. -/
structure Move where
  source : String
  out : String
  deed : Deed

variable {ι : Type}

/-- What a move does as an action. -/
def Deed.action : Deed → Action ι
  | fresh extractor => .fresh extractor
  | call operation => .call operation
  | andThen other => .andThen (.register other)
  | plus other => .plus (.register other)

/-- The move as a statement. -/
def Move.statement (move : Move) : Statement ι :=
  .on move.source move.out move.deed.action

/-! ## Charts -/

/-- What the builders in registers come from. -/
abbrev Chart (ι : Type) := Entries (Origin Condition (Body ι))

/-- The origin of what a move makes, unless it fails. -/
def Move.origin? (env : Env) (chart : Chart ι) (move : Move) :
    Option (Origin Condition (Body ι)) :=
  match move.deed with
  | .fresh extractor => some (.first ⟨.empty, extractor⟩)
  | .call operation => do
    let on ← chart.get? move.source
    ((Origin.called on operation).build? env).map fun _ => .called on operation
  | .andThen other => do
    let on ← chart.get? move.source
    return .joined on (← chart.get? other)
  | .plus other => do
    let on ← chart.get? move.source
    return .joined on (← chart.get? other)

/-- The chart after a move. A move that fails leaves it as it is. -/
def Chart.after (env : Env) (chart : Chart ι) (move : Move) : Chart ι :=
  match move.origin? env chart with
  | some origin => chart.put move.out origin
  | none => chart

/-- The chart after a program. -/
def Chart.afterAll (env : Env) (chart : Chart ι) (program : List Move) : Chart ι :=
  program.foldl (Chart.after env) chart

/-- The registers of the outermost script. -/
def Store.registers (s : Store ι) : Registers ι :=
  s.frames.getD 0 []

/-- The object is the builder that an origin gives. -/
def Thing.ComesFrom (env : Env) (origin : Origin Condition (Body ι)) (thing : Thing ι) : Prop :=
  ∃ b, origin.build? env = some b ∧ thing.IsBuilder b

/-- Each register holds the builder whose origin is charted, and registers without an origin hold
nothing. -/
structure Chart.Fits (env : Env) (chart : Chart ι) (s : Store ι) : Prop where
  hasFrame : 0 < s.frames.size
  registers : ∀ name, Option.Rel (Thing.ComesFrom env) (chart.get? name) (s.registers.get? name)

/-- A builder as a first one. -/
def Thing.origin : Thing ι → Origin Condition (Body ι)
  | builder _ _ b => .first b
  | _ => .first .empty

/-- The chart in which all builders are first ones. -/
def Store.chart (s : Store ι) : Chart ι :=
  s.registers.map fun entry => (entry.1, entry.2.origin)

/-- A program can start from any builders. -/
theorem Store.fits_chart (env : Env) {s : Store ι} (hasFrame : 0 < s.frames.size)
    (builders : ∀ name thing, s.registers.get? name = some thing → ∃ b, thing.IsBuilder b) :
    s.chart.Fits env s where
  hasFrame := hasFrame
  registers := by
    intro name
    rw [Store.chart, Entries.get?_map]
    cases held : s.registers.get? name with
    | none => exact .none
    | some thing =>
        obtain ⟨b, id, exprId, rfl⟩ := builders name thing held
        exact .some ⟨b, rfl, id, exprId, rfl⟩

theorem Store.exists_isBuilder_of_initial (name : String) (thing : Thing ι)
    (held : (Store.initial : Store ι).registers.get? name = some thing) :
    ∃ b, thing.IsBuilder b := by
  have registers : (Store.initial : Store ι).registers = [("b", Thing.firstBuilder)] := rfl
  rw [registers, Entries.get?, List.lookup_cons] at held
  split at held
  · exact ⟨_, _, _, (Option.some.inj held).symm⟩
  · contradiction

/-! ## Moves -/

theorem run_register_of_some {frame : Nat} {name : String} {thing : Thing ι}
    {w : World (Store ι)} (holds : (w.state.frames.getD frame []).get? name = some thing) :
    (register frame name).run.run w = (.ok thing, w) := by
  have looked : (look fun s : Store ι => s.frames.getD frame []).run.run w =
      (.ok (w.state.frames.getD frame []), w) :=
    rfl
  rw [register, run_bind_of_ok looked, holds]
  rfl

theorem run_register_of_none {frame : Nat} {name : String} {w : World (Store ι)}
    (holds : (w.state.frames.getD frame []).get? name = none) :
    (register frame name).run.run w = (.error (.failed (.unknownName name)), w) := by
  have looked : (look fun s : Store ι => s.frames.getD frame []).run.run w =
      (.ok (w.state.frames.getD frame []), w) :=
    rfl
  rw [register, run_bind_of_ok looked, holds]
  rfl

/-- What a move does to make its result. -/
def Move.effect (env : Env) (move : Move) : Effect ι (Thing ι) :=
  match move.deed with
  | .fresh extractor => makeBuilder Thing.emptyExprId ⟨.empty, extractor⟩
  | .call operation => do performCall env operation (← register 0 move.source)
  | .andThen other => do
    let thing ← register 0 move.source
    join thing (← register 0 other)
  | .plus other => do
    let thing ← register 0 move.source
    add thing (← register 0 other)

/-- A move makes its result and puts it into a register. -/
theorem exec_statement (env : Env) (fuel : Nat) (move : Move) :
    exec env (fuel + 2) 0 (move.statement : Statement ι) =
      move.effect env >>= keep 0 move.out := by
  obtain ⟨source, out, deed⟩ := move
  cases deed with
  | fresh extractor => simp [Move.statement, Deed.action, Move.effect, exec]
  | call operation => simp [Move.statement, Deed.action, Move.effect, exec]
  | andThen other => simp [Move.statement, Deed.action, Move.effect, exec, evalRef]
  | plus other => simp [Move.statement, Deed.action, Move.effect, exec, evalRef]

/-- How an effect that makes a thing runs: it fails exactly where there is no origin, and makes what
comes from the origin otherwise. No register changes. -/
def MakesFrom (env : Env) (x : Effect ι (Thing ι)) (w : World (Store ι)) :
    Option (Origin Condition (Body ι)) → Prop
  | some origin => ∃ thing after, x.run.run w = (.ok thing, after) ∧
      after.state.frames = w.state.frames ∧ thing.ComesFrom env origin
  | none => ∃ halt after, x.run.run w = (.error halt, after) ∧ after.state.frames = w.state.frames

/-- An effect that always makes the builder of an origin. -/
theorem MakesFrom.of_makes {env : Env} {x : Effect ι (Thing ι)} {b : Builder Condition (Body ι)}
    {origin : Origin Condition (Body ι)} (makes : Makes (Thing.IsBuilder b) x)
    (built : origin.build? env = some b) (w : World (Store ι)) :
    MakesFrom env x w (some origin) := by
  obtain ⟨thing, next, ran, isBuilder⟩ := makes w
  exact ⟨thing, _, ran, rfl, b, built, isBuilder⟩

/-- After an effect that changes no register. -/
theorem MakesFrom.bind {α : Type} {env : Env} {x : Effect ι α} {next : α → Effect ι (Thing ι)}
    {w middle : World (Store ι)} {a : α} {origin? : Option (Origin Condition (Body ι))}
    (ran : x.run.run w = (.ok a, middle)) (sameFrames : middle.state.frames = w.state.frames)
    (makes : MakesFrom env (next a) middle origin?) : MakesFrom env (x >>= next) w origin? := by
  cases origin? with
  | none =>
      obtain ⟨halt, after, failed, same⟩ := makes
      exact ⟨halt, after, (run_bind_of_ok ran next).trans failed, same.trans sameFrames⟩
  | some origin =>
      obtain ⟨thing, after, made, same, comesFrom⟩ := makes
      exact ⟨thing, after, (run_bind_of_ok ran next).trans made, same.trans sameFrames, comesFrom⟩

/-- Where an effect fails that changes no register, nothing is made. -/
theorem MakesFrom.of_error {α : Type} {env : Env} {x : Effect ι α}
    {next : α → Effect ι (Thing ι)} {w middle : World (Store ι)} {halt : Halt}
    (failed : x.run.run w = (.error halt, middle))
    (sameFrames : middle.state.frames = w.state.frames) :
    MakesFrom env (x >>= next) w none :=
  ⟨halt, middle, run_bind_of_error failed next, sameFrames⟩

theorem makes_makeBuilder (exprId : Nat) (b : Builder Condition (Body ι)) :
    Makes (Thing.IsBuilder b) (makeBuilder exprId b) := by
  refine makes_bind makes_freshId ?_
  intro id _
  exact makes_pure ⟨id, exprId, rfl⟩

theorem makesFrom_fresh (env : Env) (extractor : Extractor) (w : World (Store ι)) :
    MakesFrom env (makeBuilder Thing.emptyExprId ⟨.empty, extractor⟩) w
      (some (.first ⟨.empty, extractor⟩)) :=
  .of_makes (makes_makeBuilder Thing.emptyExprId ⟨.empty, extractor⟩) rfl w

theorem makesFrom_call {env : Env} {on : Origin Condition (Body ι)} {thing : Thing ι}
    (comesFrom : thing.ComesFrom env on) (operation : Call) (w : World (Store ι)) :
    MakesFrom env (performCall env operation thing) w
      (((Origin.called on operation).build? env).map fun _ => .called on operation) := by
  obtain ⟨b, built, id, exprId, rfl⟩ := comesFrom
  have ran := run_perform (operation.apply env b) w
  have result := Origin.toOption_result_apply built operation
  cases applied : (operation.apply env b).result with
  | error failure =>
      rw [applied] at ran result
      rw [← result]
      exact .of_error ran rfl
  | ok made =>
      rw [applied] at ran result
      rw [← result]
      refine .bind ran rfl (.of_makes ?_ result.symm _)
      -- A call that appends nothing keeps the number of the expression.
      split
      · exact makes_makeBuilder exprId made
      · exact makes_bind makes_freshId fun number _ => makes_makeBuilder number made

theorem makesFrom_join {env : Env} {on other : Origin Condition (Body ι)} {thing extra : Thing ι}
    (comesFrom : thing.ComesFrom env on) (extraComesFrom : extra.ComesFrom env other)
    (w : World (Store ι)) : MakesFrom env (join thing extra) w (some (.joined on other)) := by
  obtain ⟨b, built, id, exprId, rfl⟩ := comesFrom
  obtain ⟨more, moreBuilt, isBuilder⟩ := extraComesFrom
  exact .of_makes (makes_joinToBuilder exprId b isBuilder.has)
    (Origin.build?_joined built moreBuilt) w

/-- What is in a register, and what it comes from. -/
theorem Chart.Fits.get? {env : Env} {chart : Chart ι} {s : Store ι} (fits : chart.Fits env s)
    (name : String) :
    (chart.get? name = none ∧ s.registers.get? name = none) ∨
      ∃ origin thing, chart.get? name = some origin ∧ s.registers.get? name = some thing ∧
        thing.ComesFrom env origin := by
  have related := fits.registers name
  cases charted : chart.get? name with
  | none =>
      rw [charted] at related
      cases held : s.registers.get? name with
      | none => exact .inl ⟨rfl, rfl⟩
      | some thing =>
          rw [held] at related
          cases related
  | some origin =>
      rw [charted] at related
      cases held : s.registers.get? name with
      | none =>
          rw [held] at related
          cases related
      | some thing =>
          rw [held] at related
          cases related with
          | some comesFrom => exact .inr ⟨origin, thing, rfl, rfl, comesFrom⟩

/-- Where two registers are joined. -/
theorem makesFrom_joining {env : Env} {chart : Chart ι} {w : World (Store ι)}
    (fits : chart.Fits env w.state) (source other : String)
    {combine : Thing ι → Thing ι → Effect ι (Thing ι)}
    (asJoin : ∀ thing extra b more, thing.IsBuilder b → extra.IsBuilder more →
      combine thing extra = join thing extra) :
    MakesFrom env (do
        let thing ← register 0 source
        combine thing (← register 0 other)) w
      (do
        let on ← chart.get? source
        return .joined on (← chart.get? other)) := by
  rcases fits.get? source with ⟨uncharted, absent⟩ | ⟨on, thing, charted, held, comesFrom⟩
  · rw [uncharted]
    exact .of_error (run_register_of_none absent) rfl
  rcases fits.get? other with ⟨otherUncharted, otherAbsent⟩ | ⟨origin, extra, otherCharted,
    otherHeld, extraComesFrom⟩
  · rw [charted, otherUncharted]
    have fails : MakesFrom env (do combine thing (← register 0 other)) w none :=
      .of_error (run_register_of_none otherAbsent) rfl
    exact .bind (run_register_of_some held) rfl fails
  · rw [charted, otherCharted]
    have makes := makesFrom_join comesFrom extraComesFrom w
    obtain ⟨b, _, isBuilder⟩ := comesFrom
    obtain ⟨more, _, moreIsBuilder⟩ := extraComesFrom
    rw [← asJoin thing extra b more isBuilder moreIsBuilder] at makes
    exact .bind (run_register_of_some held) rfl (.bind (run_register_of_some otherHeld) rfl makes)

/-- A move makes what the chart says, and fails where it says nothing. -/
theorem makesFrom_effect {env : Env} {chart : Chart ι} {w : World (Store ι)}
    (fits : chart.Fits env w.state) (move : Move) :
    MakesFrom env (move.effect env) w (move.origin? env chart) := by
  obtain ⟨source, out, deed⟩ := move
  cases deed with
  | fresh extractor => exact makesFrom_fresh env extractor w
  | call operation =>
      rcases fits.get? source with ⟨uncharted, absent⟩ | ⟨on, thing, charted, held, comesFrom⟩
      · simp only [Move.effect, Move.origin?, uncharted]
        exact .of_error (run_register_of_none absent) rfl
      · simp only [Move.effect, Move.origin?, charted]
        exact .bind (run_register_of_some held) rfl (makesFrom_call comesFrom operation w)
  | andThen other => exact makesFrom_joining fits source other fun _ _ _ _ _ _ => rfl
  | plus other =>
      refine makesFrom_joining fits source other ?_
      rintro _ _ _ _ ⟨id, exprId, rfl⟩ ⟨otherId, otherExprId, rfl⟩
      rfl

/-! ## Programs -/

/-- The world after a move. -/
def worldAfter (env : Env) (fuel : Nat) (w : World (Store ι)) (move : Move) : World (Store ι) :=
  ((exec env (fuel + 2) 0 move.statement).run.run { w with log := [] }).2

/-- The world after a program. -/
def worldAfterAll (env : Env) (fuel : Nat) (w : World (Store ι)) (program : List Move) :
    World (Store ι) :=
  program.foldl (worldAfter env fuel) w

/-- What follows a program goes on from the world after it. -/
theorem runFrom_append (env : Env) (fuel : Nat) (w : World (Store ι)) (program : List Move)
    (rest : List (Statement ι)) :
    ∃ outcomes, outcomes.length = program.length ∧
      runFrom env (fuel + 2) w (program.map Move.statement ++ rest) =
        outcomes ++ runFrom env (fuel + 2) (worldAfterAll env fuel w program) rest := by
  induction program generalizing w with
  | nil => exact ⟨[], rfl, rfl⟩
  | cons move program ih =>
      obtain ⟨outcomes, sameLength, goesOn⟩ := ih (worldAfter env fuel w move)
      rw [List.map_cons, List.cons_append, runFrom]
      exact ⟨_ :: outcomes, congrArg (· + 1) sameLength, congrArg (List.cons _) goesOn⟩

theorem Store.registers_modify {s t : Store ι} (hasFrame : 0 < s.frames.size)
    {change : Registers ι → Registers ι} (frames : t.frames = s.frames.modify 0 change) :
    t.registers = change s.registers := by
  simp [registers, frames, hasFrame, Array.getElem_modify]

/-- A move puts what it makes into its register, and leaves all others as they are. -/
theorem fits_worldAfter {env : Env} {chart : Chart ι} {w : World (Store ι)}
    (fits : chart.Fits env w.state) (fuel : Nat) (move : Move) :
    (chart.after env move).Fits env (worldAfter env fuel w move).state ∧
      ∀ name, move.out ≠ name →
        (worldAfter env fuel w move).state.registers.get? name = w.state.registers.get? name := by
  have makes := @makesFrom_effect ι env chart { w with log := [] } fits move
  unfold worldAfter Chart.after
  rw [exec_statement]
  cases charted : move.origin? env chart with
  | none =>
      rw [charted] at makes
      obtain ⟨halt, after, failed, sameFrames⟩ := makes
      have sameRegisters : after.state.registers = w.state.registers :=
        congrArg (·.getD 0 []) sameFrames
      rw [run_bind_of_error failed]
      refine ⟨⟨?_, ?_⟩, ?_⟩
      · rw [sameFrames]
        exact fits.hasFrame
      · rw [sameRegisters]
        exact fits.registers
      · intro name _
        rw [sameRegisters]
  | some origin =>
      rw [charted] at makes
      obtain ⟨thing, after, made, sameFrames, comesFrom⟩ := makes
      have hasFrame : 0 < after.state.frames.size := by
        rw [sameFrames]
        exact fits.hasFrame
      have sameRegisters : after.state.registers = w.state.registers :=
        congrArg (·.getD 0 []) sameFrames
      have kept : ((keep 0 move.out thing).run.run after).2.state.frames =
          after.state.frames.modify 0 (·.put move.out thing) := rfl
      have registers := Store.registers_modify hasFrame kept
      rw [run_bind_of_ok made]
      refine ⟨⟨?_, ?_⟩, ?_⟩
      · rw [kept, Array.size_modify]
        exact hasFrame
      · intro name
        rw [registers, sameRegisters, Entries.get?_put, Entries.get?_put]
        by_cases isOut : name = move.out
        · rw [if_pos isOut, if_pos isOut]
          exact .some comesFrom
        · rw [if_neg isOut, if_neg isOut]
          exact fits.registers name
      · intro name isOther
        rw [registers, sameRegisters, Entries.get?_put, if_neg isOther.symm]

/-- After a program every register holds the builder of its origin, and registers that no move
writes hold what they held before. -/
theorem fits_worldAfterAll {env : Env} {chart : Chart ι} {w : World (Store ι)}
    (fits : chart.Fits env w.state) (fuel : Nat) (program : List Move) :
    (chart.afterAll env program).Fits env (worldAfterAll env fuel w program).state ∧
      ∀ name, (∀ move ∈ program, move.out ≠ name) →
        (worldAfterAll env fuel w program).state.registers.get? name =
          w.state.registers.get? name := by
  induction program generalizing chart w with
  | nil => exact ⟨fits, fun _ _ => rfl⟩
  | cons move program ih =>
      obtain ⟨fitsAfter, kept⟩ := fits_worldAfter fits fuel move
      obtain ⟨fitsAll, keptAll⟩ := ih fitsAfter
      refine ⟨fitsAll, ?_⟩
      intro name unwritten
      obtain ⟨notFirst, notLater⟩ := List.forall_mem_cons.mp unwritten
      exact (keptAll name notLater).trans (kept name notFirst)

/-- Extractors are scoped by the chain on which they are set. A program of moves may start with any
builders, which the chart takes as first ones. After it, and for whatever follows it, each register
holds the builder of the origin that the chart notes for it, and a register that no move writes
still holds the same object. The builder of an origin goes on with the extractor that the latest
call on its chain has set, or with that of its first builder if no call has. Its steps are those of
first builders and the clauses of calls, and each call has written its clauses with the extractor
that was in force on its own chain when it was made. Where the same one is in force on two chains,
it makes no difference whether an operation that appends to the second builder comes before or
after it is joined to the first one. -/
theorem clauses_are_written_in_scope (env : Env) :
    (∀ {ι : Type} (s : Store ι), 0 < s.frames.size →
      (∀ name thing, s.registers.get? name = some thing → ∃ b, thing.IsBuilder b) →
        s.chart.Fits env s) ∧
    (∀ {ι : Type} (fuel : Nat) (w : World (Store ι)) (chart : Chart ι) (program : List Move),
      chart.Fits env w.state →
        let after := worldAfterAll env fuel w program
        (∀ rest, ∃ outcomes, outcomes.length = program.length ∧
          runFrom env (fuel + 2) w (program.map Move.statement ++ rest) =
            outcomes ++ runFrom env (fuel + 2) after rest) ∧
        (chart.afterAll env program).Fits env after.state ∧
        ∀ name, (∀ move ∈ program, move.out ≠ name) →
          after.state.registers.get? name = w.state.registers.get? name) ∧
    ∀ {π β : Type},
      (∀ (origin : Origin π β) (b : Builder π β), origin.build? env = some b →
        b.extractor =
          ((origin.chain.filterMap Call.setting?).getLast?).getD origin.root.extractor ∧
        ∃ parts, List.Forall₂ (Origin.Piece.Gives env) origin.pieces parts ∧
          b.expr.steps = parts.flatten) ∧
      (∀ (on other : Origin π β) (call : Call), on.inForce = other.inForce →
        call.setting? = none →
          (Origin.called (.joined on other) call).build? env =
            (Origin.joined on (.called other call)).build? env) ∧
      ∀ a b : Builder π β, a.extractor = b.extractor →
        (∀ call : Call, (∀ extractor, call ≠ .withExtractor extractor) →
          a.andThen (.builder b) >>= call.apply env =
            call.apply env b >>= fun made => a.andThen (.builder made)) ∧
        (∀ bodies, (a.andThen (.builder b) >>= fun sum => .ofExcept (.ok (sum.forEach bodies))) =
          a.andThen (.builder (b.forEach bodies))) ∧
        ∀ condition body, a.andThen (.builder b) >>= Builder.whileLoop condition body =
          Builder.whileLoop condition body b >>= fun made => a.andThen (.builder made) := by
  refine ⟨?_, ?_, ?_⟩
  · intro ι s hasFrame builders
    exact Store.fits_chart env hasFrame builders
  · intro ι fuel w chart program fits after
    obtain ⟨fitsAfter, kept⟩ := fits_worldAfterAll fits fuel program
    exact ⟨runFrom_append env fuel w program, fitsAfter, kept⟩
  · intro π β
    refine ⟨?_, ?_, ?_⟩
    · intro origin b built
      exact ⟨Origin.extractor_of_build? built, Origin.exists_steps_of_build? built⟩
    · intro on other call same setsNone
      exact Origin.build?_called_joined env same setsNone
    · intro a b same
      refine ⟨?_, ?_, ?_⟩
      · intro call setsNone
        exact (Builder.isAppending_apply env setsNone).andThen_bind same
      · intro bodies
        exact (Builder.isAppending_forEach bodies).andThen_bind same
      · intro condition body
        exact (Builder.isAppending_whileLoop condition body).andThen_bind same

/-- A program of five moves: a branch sets an extractor and creates a node, the trunk takes it up
and creates another one, and the branch sets a different extractor. -/
def branches : List Move :=
  let thing : EntitySource := .ready (Builder.bareInstance (.text "Thing"))
  [⟨"b", "branch", .call (.withExtractor (.relabel "Pet"))⟩,
    ⟨"branch", "node", .call (.create (.plain "n") thing)⟩,
    ⟨"b", "sum", .plus "node"⟩,
    ⟨"sum", "both", .call (.create (.plain "m") thing)⟩,
    ⟨"branch", "branch", .call (.withExtractor .reversed)⟩]

/-- The node of the branch has the label of the branch and that of the trunk the label of the trunk.
An operation of the trunk could as well have come before. -/
theorem clauses_of_branches :
    (∃ thing b, (worldAfterAll ⟨"\n", "", ⟨0, 900⟩⟩ 0 ⟨[], (Store.initial : Store Unit)⟩
        branches).state.registers.get? "both" = some thing ∧ thing.IsBuilder b ∧
      b.expr.steps = [.clause ⟨.create, "CREATE (n:Pet)"⟩,
        .clause ⟨.create, "CREATE (m:Thing)"⟩]) ∧
    ((Builder.empty : Builder Unit Unit).andThen (.builder .empty) >>=
        (Call.raw "RETURN 1").apply ⟨"\n", "", ⟨0, 900⟩⟩ =
      (Call.raw "RETURN 1").apply ⟨"\n", "", ⟨0, 900⟩⟩ Builder.empty >>= fun made =>
        Builder.empty.andThen (.builder made)) := by
  obtain ⟨starts, runs, builders⟩ := clauses_are_written_in_scope ⟨"\n", "", ⟨0, 900⟩⟩
  obtain ⟨_, fits, _⟩ := runs 0 ⟨[], (Store.initial : Store Unit)⟩ _ branches
    (starts _ Nat.zero_lt_one Store.exists_isBuilder_of_initial)
  refine ⟨?_, (builders.2.2 _ _ rfl).1 (.raw "RETURN 1") nofun⟩
  rcases fits.get? "both" with ⟨uncharted, _⟩ | ⟨origin, thing, charted, held, comesFrom⟩
  · contradiction
  · cases charted
    obtain ⟨b, built, isBuilder⟩ := comesFrom
    cases built
    exact ⟨thing, _, held, isBuilder, rfl⟩

end CypherText.Script
