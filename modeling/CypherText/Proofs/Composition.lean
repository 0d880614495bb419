import CypherText.Proofs.Script.Effect
import CypherText.Proofs.Sequence
import Mathlib.Data.List.Forall2

/-!
# Composition

Expressions and builders are composed with `then`, `+` and sequences, nested in any way. A builder
takes both kinds on its right, an expression only expressions, and a sequence takes all. Every
composition that this admits gives one object, whose steps are those of the operands in order.
Operands without steps and the way of bracketing leave no trace: the result runs as the operands do
one after the other.
-/

namespace CypherText

namespace Expr

variable {π β : Type}

/-- The expression with the steps of several expressions in order. -/
def joined (exprs : List (Expr π β)) : Expr π β :=
  ⟨exprs.flatMap steps⟩

@[simp]
theorem joined_nil : (joined [] : Expr π β) = empty :=
  rfl

theorem joined_cons (e : Expr π β) (exprs : List (Expr π β)) :
    joined (e :: exprs) = e ++ joined exprs :=
  rfl

theorem append_empty (e : Expr π β) : e ++ empty = e :=
  congrArg mk (List.append_nil e.steps)

theorem append_assoc (first second third : Expr π β) :
    first ++ second ++ third = first ++ (second ++ third) :=
  congrArg mk (List.append_assoc first.steps second.steps third.steps)

@[simp]
theorem joined_singleton (e : Expr π β) : joined [e] = e := by
  simp [joined]

@[simp]
theorem joined_append (first second : List (Expr π β)) :
    joined (first ++ second) = joined first ++ joined second := by
  simp only [joined, List.flatMap_append]
  rfl

/-- Expressions without steps add nothing. -/
theorem joined_filter (exprs : List (Expr π β)) :
    joined (exprs.filter fun e => !e.isEmpty) = joined exprs := by
  induction exprs with
  | nil => rfl
  | cons e exprs ih =>
      simp only [joined, Expr.mk.injEq] at ih ⊢
      cases isEmpty : e.isEmpty with
      | true =>
          have noSteps : e.steps = [] := List.isEmpty_iff.mp isEmpty
          rw [List.filter_cons_of_neg (by simp [isEmpty]), ih, List.flatMap_cons, noSteps,
            List.nil_append]
      | false =>
          rw [List.filter_cons_of_pos (by simp [isEmpty]), List.flatMap_cons, ih,
            List.flatMap_cons]

end Expr

namespace Script

/-- The two kinds of objects that are composed. -/
inductive Kind where
  | expr
  | builder
  deriving DecidableEq, Repr

/-- The kind that an object of the first kind gives with one of the second on its right. -/
def Kind.join : Kind → Kind → Option Kind
  | .builder, _ => some .builder
  | .expr, .expr => some .expr
  | .expr, .builder => none

variable {ι : Type}

namespace Thing

/-- The object is of the kind and has the expression. -/
inductive Has (e : Expr Condition (Body ι)) : Kind → Thing ι → Prop
  | expr (id : Nat) : Has e .expr (.expr id e)
  | builder (id exprId : Nat) (extractor : Extractor) :
      Has e .builder (.builder id exprId ⟨e, extractor⟩)

/-- The object is a builder. -/
def IsBuilder (b : Builder Condition (Body ι)) (thing : Thing ι) : Prop :=
  ∃ id exprId, thing = .builder id exprId b

theorem IsBuilder.has {b : Builder Condition (Body ι)} {thing : Thing ι}
    (isBuilder : thing.IsBuilder b) : thing.Has b.expr .builder := by
  obtain ⟨id, exprId, rfl⟩ := isBuilder
  exact .builder id exprId b.extractor

theorem Has.toExpr {kind : Kind} {thing : Thing ι} {e : Expr Condition (Body ι)}
    (has : thing.Has e kind) : thing.part.toExpr = .ofExcept (.ok e) := by
  cases has with
  | expr id => rfl
  | builder id exprId extractor => rfl

end Thing

/-- An object is joined to an expression only if it is one. -/
theorem makes_joinToExpr {second : Thing ι} {e more : Expr Condition (Body ι)} (id : Nat)
    (hasSecond : second.Has more .expr) :
    Effect.Makes (Thing.Has (e ++ more) .expr) (joinToExpr id e second) := by
  cases hasSecond with
  | expr otherId =>
      refine Effect.makes_bind (Effect.makes_joinId id e otherId more) ?_
      intro joinedId _
      exact Effect.makes_pure (.expr joinedId)

/-- A builder that is joined to keeps its extractor. -/
theorem makes_joinToBuilder {second : Thing ι} {more : Expr Condition (Body ι)} {other : Kind}
    (exprId : Nat) (b : Builder Condition (Body ι)) (hasSecond : second.Has more other) :
    Effect.Makes (Thing.IsBuilder (b.extend more)) (joinToBuilder exprId b second) := by
  refine Effect.makes_bind (Effect.makes_perform hasSecond.toExpr rfl) ?_
  rintro _ rfl
  refine Effect.makes_bind (Effect.makes_joinId exprId b.expr second.exprId _) ?_
  intro joinedId _
  refine Effect.makes_bind Effect.makes_freshId ?_
  intro id _
  exact Effect.makes_pure ⟨id, joinedId, rfl⟩

/-- Two kinds that can be joined give an object of the kind that they give, with the steps of one
after those of the other. -/
theorem makes_join {first second : Thing ι} {e more : Expr Condition (Body ι)}
    {kind other made : Kind} (hasFirst : first.Has e kind) (hasSecond : second.Has more other)
    (joins : kind.join other = some made) :
    Effect.Makes (Thing.Has (e ++ more) made) (join first second) := by
  cases hasFirst with
  | expr id =>
      cases other with
      | expr =>
          cases joins
          exact makes_joinToExpr id hasSecond
      | builder => contradiction
  | builder id exprId extractor =>
      cases joins
      exact (makes_joinToBuilder exprId ⟨e, extractor⟩ hasSecond).imp fun _ => Thing.IsBuilder.has

/-- Adding does what joining does. -/
theorem add_eq_join {first second : Thing ι} {e more : Expr Condition (Body ι)}
    {kind other made : Kind} (hasFirst : first.Has e kind) (hasSecond : second.Has more other)
    (joins : kind.join other = some made) : add first second = join first second := by
  cases hasFirst with
  | expr id =>
      cases hasSecond with
      | expr otherId => rfl
      | builder otherId exprId extractor => contradiction
  | builder id exprId extractor =>
      cases hasSecond with
      | expr otherId => rfl
      | builder otherId exprId extractor => rfl

/-- Other kinds are refused. -/
theorem refuses_join {first second : Thing ι} {e more : Expr Condition (Body ι)} {kind other : Kind}
    (hasFirst : first.Has e kind) (hasSecond : second.Has more other)
    (differ : kind.join other = none) : Effect.Refuses (join first second) := by
  cases hasFirst with
  | expr id =>
      cases hasSecond with
      | expr otherId => contradiction
      | builder otherId exprId extractor => exact Effect.refuses_fail .unsupported
  | builder id exprId extractor => contradiction

theorem refuses_add {first second : Thing ι} {e more : Expr Condition (Body ι)} {kind other : Kind}
    (hasFirst : first.Has e kind) (hasSecond : second.Has more other)
    (differ : kind.join other = none) : Effect.Refuses (add first second) := by
  cases hasFirst with
  | expr id =>
      cases hasSecond with
      | expr otherId => contradiction
      | builder otherId exprId extractor => exact Effect.refuses_fail .meaningless
  | builder id exprId extractor => contradiction

/-- A sequence takes objects of both kinds, in any order. -/
theorem makes_sequence {things : List (Thing ι)} {exprs : List (Expr Condition (Body ι))}
    (parts : List.Forall₂ (fun e thing => ∃ kind, thing.Has e kind) exprs things) :
    Effect.Makes (Thing.Has (.joined exprs) .expr) (sequence things) := by
  unfold sequence
  -- What is done so far is any expression, so that the induction can go on from it.
  suffices goesOn : ∀ id done, Effect.Makes (Thing.Has (done ++ .joined exprs) .expr)
      (things.foldlM _ (.expr id done)) from goesOn Thing.emptyExprId .empty
  induction parts with
  | nil =>
      intro id done
      rw [Expr.joined_nil, Expr.append_empty]
      exact Effect.makes_pure (.expr id)
  | @cons e thing exprs things first _ ih =>
      obtain ⟨kind, has⟩ := first
      intro id done
      rw [List.foldlM_cons]
      refine @Effect.makes_bind _ _ _ (Thing.Has (done ++ e) .expr) _ _ _ ?_ ?_
      · refine Effect.makes_bind (Effect.makes_perform has.toExpr rfl) ?_
        rintro _ rfl
        refine Effect.makes_bind (Effect.makes_joinId id done thing.exprId _) ?_
        intro joinedId _
        exact Effect.makes_pure (.expr joinedId)
      · rintro _ ⟨joinedId⟩
        rw [Expr.joined_cons, ← Expr.append_assoc]
        exact ih joinedId (done ++ e)

/-- A way to compose expressions and builders. -/
inductive Composition (ι : Type) where
  | expr (id : Nat) (e : Expr Condition (Body ι))
  | builder (id exprId : Nat) (b : Builder Condition (Body ι))
  | andThen (first second : Composition ι)
  | plus (first second : Composition ι)
  | sequence (parts : List (Composition ι))

namespace Composition

mutual

/-- The object that a composition gives. Operands are evaluated from left to right. -/
def eval : Composition ι → Effect ι (Thing ι)
  | expr id e => pure (.expr id e)
  | builder id exprId b => pure (.builder id exprId b)
  | andThen first second => do
    let thing ← first.eval
    join thing (← second.eval)
  | plus first second => do
    let thing ← first.eval
    add thing (← second.eval)
  | sequence parts => do Script.sequence (← evalEach parts)

/-- The objects that several compositions give. -/
def evalEach : List (Composition ι) → Effect ι (List (Thing ι))
  | [] => pure []
  | part :: rest => do
    let thing ← part.eval
    let things ← evalEach rest
    return thing :: things

end

mutual

/-- The kind of the object that a composition gives, if it is admitted. -/
def kind? : Composition ι → Option Kind
  | expr _ _ => some .expr
  | builder _ _ _ => some .builder
  | andThen first second => do (← first.kind?).join (← second.kind?)
  | plus first second => do (← first.kind?).join (← second.kind?)
  | sequence parts => if areAdmitted parts then some .expr else none

/-- Whether all of several compositions are admitted. -/
def areAdmitted : List (Composition ι) → Bool
  | [] => true
  | part :: rest => part.kind?.isSome && areAdmitted rest

end

mutual

/-- The expressions that are composed, from left to right. -/
def operands : Composition ι → List (Expr Condition (Body ι))
  | expr _ e => [e]
  | builder _ _ b => [b.expr]
  | andThen first second => first.operands ++ second.operands
  | plus first second => first.operands ++ second.operands
  | sequence parts => operandsOfEach parts

/-- The expressions that are composed in several compositions. -/
def operandsOfEach : List (Composition ι) → List (Expr Condition (Body ι))
  | [] => []
  | part :: rest => part.operands ++ operandsOfEach rest

end

/-- What two operands give whose objects are joined by `combine`, if they can be joined. -/
theorem makes_combined {combine : Thing ι → Thing ι → Effect ι (Thing ι)}
    {first second : Effect ι (Thing ι)} {e more : Expr Condition (Body ι)} {kind other made : Kind}
    (makesFirst : Effect.Makes (Thing.Has e kind) first)
    (makesSecond : Effect.Makes (Thing.Has more other) second)
    (joins : kind.join other = some made)
    (asJoin : ∀ thing extra, thing.Has e kind → extra.Has more other →
      combine thing extra = join thing extra) :
    Effect.Makes (Thing.Has (e ++ more) made)
      (do let thing ← first; combine thing (← second)) := by
  refine Effect.makes_bind makesFirst ?_
  intro thing hasFirst
  refine Effect.makes_bind makesSecond ?_
  intro extra hasSecond
  rw [asJoin thing extra hasFirst hasSecond]
  exact makes_join hasFirst hasSecond joins

mutual

/-- An admitted composition gives an object of its kind with the steps of its operands. -/
theorem makes_eval {c : Composition ι} {kind : Kind} (admitted : c.kind? = some kind) :
    Effect.Makes (Thing.Has (.joined c.operands) kind) c.eval := by
  cases c with
  | expr id e =>
      cases admitted
      rw [operands, Expr.joined_singleton]
      exact Effect.makes_pure (.expr id)
  | builder id exprId b =>
      cases admitted
      rw [operands, Expr.joined_singleton]
      exact Effect.makes_pure (.builder id exprId b.extractor)
  | andThen first second =>
      obtain ⟨kind, admittedFirst, admitted⟩ := Option.bind_eq_some_iff.mp admitted
      obtain ⟨other, admittedSecond, joins⟩ := Option.bind_eq_some_iff.mp admitted
      rw [operands, Expr.joined_append]
      exact makes_combined (makes_eval admittedFirst) (makes_eval admittedSecond) joins
        fun _ _ _ _ => rfl
  | plus first second =>
      obtain ⟨kind, admittedFirst, admitted⟩ := Option.bind_eq_some_iff.mp admitted
      obtain ⟨other, admittedSecond, joins⟩ := Option.bind_eq_some_iff.mp admitted
      rw [operands, Expr.joined_append]
      exact makes_combined (makes_eval admittedFirst) (makes_eval admittedSecond) joins
        fun _ _ hasFirst hasSecond => add_eq_join hasFirst hasSecond joins
  | sequence parts =>
      obtain ⟨allAdmitted, rfl⟩ : areAdmitted parts = true ∧ Kind.expr = kind := by
        simpa [kind?] using admitted
      refine Effect.makes_bind (makes_evalEach allAdmitted) ?_
      rintro things ⟨exprs, given, same⟩
      rw [operands, ← same]
      exact makes_sequence given

theorem makes_evalEach {parts : List (Composition ι)} (admitted : areAdmitted parts = true) :
    Effect.Makes
      (fun things => ∃ exprs, List.Forall₂ (fun e thing => ∃ kind, thing.Has e kind) exprs things ∧
        Expr.joined exprs = .joined (operandsOfEach parts))
      (evalEach parts) := by
  cases parts with
  | nil => exact Effect.makes_pure ⟨[], .nil, rfl⟩
  | cons part rest =>
      obtain ⟨partAdmitted, restAdmitted⟩ := Bool.and_eq_true_iff.mp admitted
      obtain ⟨kind, known⟩ := Option.isSome_iff_exists.mp partAdmitted
      refine Effect.makes_bind (makes_eval known) ?_
      intro thing has
      refine Effect.makes_bind (makes_evalEach restAdmitted) ?_
      rintro things ⟨exprs, given, same⟩
      refine Effect.makes_pure ⟨.joined part.operands :: exprs, .cons ⟨kind, has⟩ given, ?_⟩
      rw [operandsOfEach, Expr.joined_append, Expr.joined_cons, same]

end

/-- What two operands give whose objects `combine` refuses. -/
theorem refuses_combined {combine : Thing ι → Thing ι → Effect ι (Thing ι)}
    {first second : Composition ι}
    (refusesFirst : first.kind? = none → Effect.Refuses first.eval)
    (refusesSecond : second.kind? = none → Effect.Refuses second.eval)
    (refused : ∀ {thing extra e more kind other}, Thing.Has e kind thing →
      Thing.Has more other extra → kind.join other = none → Effect.Refuses (combine thing extra))
    (differ : (do (← first.kind?).join (← second.kind?)) = none) :
    Effect.Refuses (do let thing ← first.eval; combine thing (← second.eval)) := by
  cases firstKind : first.kind? with
  | none => exact Effect.refuses_bind_of_refuses (refusesFirst firstKind) _
  | some kind =>
      refine Effect.refuses_bind_of_makes (makes_eval firstKind) ?_
      intro thing hasFirst
      cases secondKind : second.kind? with
      | none => exact Effect.refuses_bind_of_refuses (refusesSecond secondKind) _
      | some other =>
          refine Effect.refuses_bind_of_makes (makes_eval secondKind) ?_
          intro extra hasSecond
          rw [firstKind, secondKind] at differ
          exact refused hasFirst hasSecond differ

mutual

/-- A composition that is not admitted is refused. -/
theorem refuses_eval {c : Composition ι} (refused : c.kind? = none) : Effect.Refuses c.eval := by
  cases c with
  | expr id e => contradiction
  | builder id exprId b => contradiction
  | andThen first second =>
      exact refuses_combined refuses_eval refuses_eval refuses_join refused
  | plus first second =>
      exact refuses_combined refuses_eval refuses_eval refuses_add refused
  | sequence parts =>
      have notAll : areAdmitted parts = false := by simpa [kind?] using refused
      exact Effect.refuses_bind_of_refuses (refuses_evalEach notAll) _

theorem refuses_evalEach {parts : List (Composition ι)} (refused : areAdmitted parts = false) :
    Effect.Refuses (evalEach parts) := by
  cases parts with
  | nil => contradiction
  | cons part rest =>
      cases known : part.kind? with
      | none => exact Effect.refuses_bind_of_refuses (refuses_eval known) _
      | some kind =>
          rw [areAdmitted, known] at refused
          refine Effect.refuses_bind_of_makes (makes_eval known) ?_
          intro thing _
          exact Effect.refuses_bind_of_refuses (refuses_evalEach refused) _

end

/-- A composition gives an object exactly if it is admitted. -/
theorem exists_run_eval_iff {c : Composition ι} {w : World (Store ι)} :
    (∃ thing after, c.eval.run.run w = (.ok thing, after)) ↔ c.kind?.isSome := by
  cases known : c.kind? with
  | none =>
      obtain ⟨failure, next, ran⟩ := refuses_eval known w
      refine iff_of_false ?_ Bool.false_ne_true
      rintro ⟨thing, after, made⟩
      cases ran.symm.trans made
  | some kind =>
      obtain ⟨thing, next, ran, _⟩ := makes_eval known w
      exact iff_of_true ⟨thing, _, ran⟩ rfl

/-- Composition is a monoid. Whatever the bracketing, and wherever operands without steps stand
between the given expressions, an admitted composition gives an object with the steps of these
expressions in order; nothing is logged. On every buffer, in every world and under every host the
object runs as the expressions do one after the other: the runs end in the same way, with the same
buffer and the same world, or neither comes to an end. -/
theorem eval_runs_as_operands {c : Composition ι} {kind : Kind} (admitted : c.kind? = some kind)
    {exprs : List (Expr Condition (Body ι))}
    (same : (c.operands.filter fun e => !e.isEmpty) = exprs.filter fun e => !e.isEmpty)
    (w : World (Store ι)) :
    ∃ thing e next, c.eval.run.run w = (.ok thing, Effect.withNextId w next) ∧ thing.Has e kind ∧
      e.steps = exprs.flatMap Expr.steps ∧
      ∀ {σ : Type} (host : Host Condition (Body ι) σ) (buffer : Buffer) (before : World σ)
        (x : Execution σ), x.outcome ≠ .error .exhausted →
          ((∃ fuel, host.run fuel e.steps buffer before = x) ↔
            ∃ fuel, host.runEach fuel exprs buffer before = x) := by
  have sameSteps : Expr.joined c.operands = .joined exprs := by
    rw [← Expr.joined_filter, same, Expr.joined_filter]
  obtain ⟨thing, next, ran, has⟩ := makes_eval admitted w
  rw [sameSteps] at has
  refine ⟨thing, .joined exprs, next, ran, has, rfl, ?_⟩
  intro σ host buffer before x ended
  exact Host.exists_run_flatMap_iff ended

/-- A builder without steps with an empty builder on its right, and behind both two clauses that
were added first. -/
def twoClauses : Composition Nat :=
  andThen (plus (builder 1 0 .empty) (builder 2 0 .empty))
    (plus (expr 3 (.clause .raw "a")) (expr 4 (.clause .raw "b")))

theorem eval_twoClauses_runs :
    ∃ thing e next, twoClauses.eval.run.run ⟨[], .initial⟩ =
        (.ok thing, Effect.withNextId ⟨[], .initial⟩ next) ∧ thing.Has e .builder ∧
      e.steps = [Expr.clause .raw "a", Expr.clause .raw "b"].flatMap Expr.steps ∧
      ∀ {σ : Type} (host : Host Condition (Body Nat) σ) (before : World σ),
        (∀ (buffer : Buffer) (x : Execution σ), x.outcome ≠ .error .exhausted →
          ((∃ fuel, host.run fuel e.steps buffer before = x) ↔
            ∃ fuel, host.runEach fuel [.clause .raw "a", .clause .raw "b"] buffer before = x)) ∧
        ∃ fuel, host.run fuel e.steps (.empty "\n") before =
          ⟨.ok (), ⟨"\n", "a\nb", #[.raw, .raw]⟩, before⟩ := by
  have admitted : twoClauses.kind? = some .builder := rfl
  have same : (twoClauses.operands.filter fun e => !e.isEmpty) =
      [Expr.clause .raw "a", .clause .raw "b"].filter fun e => !e.isEmpty := rfl
  obtain ⟨thing, e, next, ran, has, steps, runs⟩ :=
    eval_runs_as_operands admitted same ⟨[], .initial⟩
  refine ⟨thing, e, next, ran, has, steps, ?_⟩
  intro σ host before
  constructor
  · intro buffer x ended
    exact runs host buffer before x ended
  · exact (runs host (.empty "\n") before _ (by simp)).mpr ⟨1, rfl⟩

end Composition

end Script

end CypherText
