import CypherText.Proofs.Builder
import CypherText.Proofs.Composition

/-!
# Where builders come from

A builder is made from a first one by calls and by joining others to it. The calls that were made
on the way, without those that were made on what was joined, are its chain. An extractor is in force
from the call that sets it to the next call on the chain that sets another one, and before that it
is the one of the first builder. A call writes its clause with the extractor that is in force where
it is made. What is joined keeps its clauses, and brings no extractor along.
-/

namespace CypherText

theorem toOption_eq_some_iff {α : Type} {result : Except Failure α} {a : α} :
    result.toOption = some a ↔ result = .ok a := by
  cases result with
  | error failure => simp [Except.toOption]
  | ok b => simp [Except.toOption]

namespace Logged

universe u

theorem map_bind {α β γ : Type u} (f : β → γ) (first : Logged α) (next : α → Logged β) :
    f <$> (first >>= next) = first >>= fun a => f <$> next a := by
  obtain ⟨events, result⟩ := first
  cases result with
  | error failure => rfl
  | ok a =>
      change Logged.andThen (Logged.andThen ⟨events, .ok a⟩ next) _ =
        Logged.andThen ⟨events, .ok a⟩ fun a => Logged.andThen (next a) _
      cases last : (next a).result <;> simp [andThen, last]

end Logged

namespace Builder

variable {π β : Type}

/-- The builder with an expression in front of its own. -/
def behind (front : Expr π β) (b : Builder π β) : Builder π β :=
  ⟨front ++ b.expr, b.extractor⟩

theorem extend_behind (front more : Expr π β) (b : Builder π β) :
    (b.behind front).extend more = (b.extend more).behind front :=
  congrArg (Builder.mk · b.extractor) (Expr.append_assoc front b.expr more)

end Builder

namespace Extractor

/-- The type name that an extractor reads off an entity, and the block of the properties. -/
def reading? (extractor : Extractor) (env : Env) (entity : Entity) : Option (Name × String) := do
  let extracted ← (extractor entity).result.toOption
  let block ← (extracted.block env.platform).toOption
  return (extracted.typeName, block)

theorem reading?_eq_some_iff {extractor : Extractor} {env : Env} {entity : Entity}
    {typeName : Name} {block : String} :
    extractor.reading? env entity = some (typeName, block) ↔
      ∃ extracted, (extractor entity).result = .ok extracted ∧
        extracted.block env.platform = .ok block ∧ extracted.typeName = typeName := by
  simp only [reading?, Option.bind_eq_bind, Option.bind_eq_some_iff, toOption_eq_some_iff,
    Option.pure_def, Option.some.injEq, Prod.mk.injEq]
  constructor
  · rintro ⟨extracted, read, _, written, sameName, rfl⟩
    exact ⟨extracted, read, written, sameName⟩
  · rintro ⟨extracted, read, written, sameName⟩
    exact ⟨extracted, read, block, written, sameName, rfl⟩

end Extractor

namespace Call

variable {π β : Type}

/-- The clauses that a call appends if entities are read by `extractor`, unless it fails. -/
def clauses? (env : Env) (extractor : Extractor) : Call → Option (List Clause)
  | raw statement => some [⟨.raw, statement⟩]
  | matching pattern => some [⟨.matching, "MATCH " ++ pattern⟩]
  | optionalMatch pattern => some [⟨.optionalMatch, "OPTIONAL MATCH " ++ pattern⟩]
  | whereText condition => some [⟨.filter, "WHERE " ++ condition⟩]
  | wherePredicate predicate => do
    let _ ← (predicate.describe env.platform.room).toOption
    return [⟨.filter, "WHERE " ++ env.wherePlaceholder⟩]
  | returning [] => none
  | returning items => some [⟨.result, "RETURN " ++ ", ".intercalate items⟩]
  | createUniqueText statement => some [⟨.createUnique, "CREATE UNIQUE " ++ statement⟩]
  | createEmpty name label => some [⟨.create, "CREATE " ++ Builder.nodePattern name label ""⟩]
  | createTyped name label source => do
    let (_, block) ← extractor.reading? env (← source.make.toOption)
    return [⟨.create, "CREATE " ++ Builder.nodePattern name label block⟩]
  | create name source => do
    let (typeName, block) ← extractor.reading? env (← source.make.toOption)
    return [⟨.create, "CREATE " ++ Builder.nodePattern name typeName block⟩]
  | relate form term => do
    match ← term.eval.toOption with
    | .declaration d =>
      let (typeName, block) ← extractor.reading? env d.payload
      return [⟨form.kind,
        form.kind.keyword ++ " " ++ d.pattern (Identifier.token typeName) block⟩]
    | _ => none
  | withExtractor _ => some []
  | refused _ => none

/-- The extractor that a call sets, if it is one that does. -/
def setting? : Call → Option Extractor
  | withExtractor extractor => some extractor
  | _ => none

/-- The builder after a call that appends the clauses. -/
def extended (call : Call) (clauses : List Clause) (b : Builder π β) : Builder π β :=
  ⟨b.expr ++ ⟨clauses.map .clause⟩, call.setting?.getD b.extractor⟩

/-- A call appends what it writes with the extractor of the builder, and sets no other extractor
than its own. -/
theorem result_apply_eq_ok_iff {env : Env} {call : Call} {b made : Builder π β} :
    (call.apply env b).result = .ok made ↔
      ∃ clauses, call.clauses? env b.extractor = some clauses ∧ made = call.extended clauses b := by
  cases call with
  | raw _ | matching _ | optionalMatch _ | whereText _ | createUniqueText _ =>
      simp only [clauses?, Option.some.injEq, exists_eq_left']
      exact Builder.result_append_eq_ok_iff
  | wherePredicate predicate =>
      simp only [apply, Builder.wherePredicate, Logged.result_bind_eq_ok_iff,
        Logged.result_ofExcept, Builder.result_append_eq_ok_iff, clauses?, Option.bind_eq_bind,
        Option.bind_eq_some_iff, toOption_eq_some_iff, Option.pure_def, Option.some.injEq]
      constructor
      · rintro ⟨description, described, _, _, rfl⟩
        exact ⟨_, ⟨description, described, rfl⟩, rfl⟩
      · rintro ⟨_, ⟨description, described, rfl⟩, rfl⟩
        exact ⟨description, described, (), rfl, rfl⟩
  | returning items =>
      cases items with
      | nil => simp [apply, Builder.returning, Logged.raise, clauses?]
      | cons item items =>
          simp only [clauses?, Option.some.injEq, exists_eq_left']
          exact Builder.result_append_eq_ok_iff
  | createEmpty name label =>
      simp only [clauses?, Option.some.injEq, exists_eq_left']
      exact Builder.result_append_eq_ok_iff
  | createTyped name label source =>
      simp only [apply, Logged.result_bind_eq_ok_iff, Logged.result_ofExcept,
        Builder.result_createTyped_eq_ok_iff, clauses?, Option.bind_eq_bind,
        Option.bind_eq_some_iff, toOption_eq_some_iff, Option.pure_def, Option.some.injEq,
        Prod.exists, Extractor.reading?_eq_some_iff]
      constructor
      · rintro ⟨entity, ready, extracted, block, read, written, rfl⟩
        exact ⟨_, ⟨entity, ready, _, block, ⟨extracted, read, written, rfl⟩, rfl⟩, rfl⟩
      · rintro ⟨_, ⟨entity, ready, _, block, ⟨extracted, read, written, rfl⟩, rfl⟩, rfl⟩
        exact ⟨entity, ready, extracted, block, read, written, rfl⟩
  | create name source =>
      simp only [apply, Logged.result_bind_eq_ok_iff, Logged.result_ofExcept,
        Builder.result_create_eq_ok_iff, clauses?, Option.bind_eq_bind,
        Option.bind_eq_some_iff, toOption_eq_some_iff, Option.pure_def, Option.some.injEq,
        Prod.exists, Extractor.reading?_eq_some_iff]
      constructor
      · rintro ⟨entity, ready, extracted, block, read, written, rfl⟩
        exact ⟨_, ⟨entity, ready, _, block, ⟨extracted, read, written, rfl⟩, rfl⟩, rfl⟩
      · rintro ⟨_, ⟨entity, ready, _, block, ⟨extracted, read, written, rfl⟩, rfl⟩, rfl⟩
        exact ⟨entity, ready, extracted, block, read, written, rfl⟩
  | relate form term =>
      simp only [apply, Logged.result_bind_eq_ok_iff, Logged.result_ofExcept,
        Builder.result_relate_eq_ok_iff, clauses?, Option.bind_eq_bind,
        Option.bind_eq_some_iff, toOption_eq_some_iff]
      constructor
      · rintro ⟨_, evaluated, d, extracted, block, rfl, read, written, rfl⟩
        refine ⟨[⟨form.kind, _⟩], ⟨_, evaluated, ?_⟩, rfl⟩
        simp only [Extractor.reading?_eq_some_iff.mpr ⟨extracted, read, written, rfl⟩]
        rfl
      · rintro ⟨_, ⟨operand, evaluated, found⟩, rfl⟩
        cases operand with
        | declaration d =>
            simp only [Option.bind_eq_some_iff, Option.pure_def, Option.some.injEq, Prod.exists,
              Extractor.reading?_eq_some_iff] at found
            obtain ⟨_, block, ⟨extracted, read, written, rfl⟩, rfl⟩ := found
            exact ⟨_, evaluated, d, extracted, block, rfl, read, written, rfl⟩
        | value _ | rel _ | rightPartial _ _ | leftPartial _ _ | classItself _ => contradiction
  | withExtractor extractor =>
      have noClause : (withExtractor extractor).extended [] b = b.withExtractor extractor :=
        congrArg (Builder.mk · extractor) (Expr.append_empty b.expr)
      simp only [apply, Logged.result_pure, clauses?, Option.some.injEq, exists_eq_left', noClause,
        Except.ok.injEq]
      exact eq_comm
  | refused failure => simp [apply, clauses?]

/-- What stands in front of the steps of a builder makes no difference to a call. -/
theorem apply_behind (env : Env) (call : Call) (front : Expr π β) (b : Builder π β) :
    call.apply env (b.behind front) = Builder.behind front <$> call.apply env b := by
  have append (kind : ClauseKind) (text : String) :
      (b.behind front).append kind text = Builder.behind front <$> b.append kind text := by
    rw [Builder.append_eq, Builder.append_eq, Builder.extend_behind]
    rfl
  cases call with
  | raw _ | matching _ | optionalMatch _ | whereText _ | createUniqueText _ => exact append _ _
  | wherePredicate predicate =>
      simp only [apply, Builder.wherePredicate, Logged.map_bind, append]
  | returning items =>
      cases items with
      | nil => rfl
      | cons item items => exact append _ _
  | createEmpty name label =>
      simp only [apply, Builder.createEmpty, Builder.createNode, Logged.map_bind, append]
  | createTyped name label source =>
      simp only [apply, Builder.createTyped, Builder.createNode, Logged.map_bind, append]
      rfl
  | create name source =>
      simp only [apply, Builder.create, Builder.createNode, Logged.map_bind, append]
      rfl
  | relate form term =>
      simp only [apply, Logged.map_bind]
      congr 1
      funext operand
      cases operand with
      | declaration d =>
          simp only [Builder.relate, Logged.map_bind, append]
          rfl
      | value _ | rel _ | rightPartial _ _ | leftPartial _ _ | classItself _ => rfl
  | withExtractor _ => rfl
  | refused failure => rfl

end Call

/-- Where a builder comes from. -/
inductive Origin (π β : Type) where
  /-- It is a first builder. -/
  | first (b : Builder π β)
  /-- A call on a builder gives it. -/
  | called (on : Origin π β) (call : Call)
  /-- A builder with another one joined to it gives it. -/
  | joined (on other : Origin π β)

namespace Origin

variable {π β : Type}

/-- The first builder of the chain. -/
def root : Origin π β → Builder π β
  | first b => b
  | called on _ => on.root
  | joined on _ => on.root

/-- The calls on the chain, from the first one to the latest. -/
def chain : Origin π β → List Call
  | first _ => []
  | called on call => on.chain ++ [call]
  | joined on _ => on.chain

/-- The extractor that the latest call on the chain has set that sets one, and the one of the first
builder if there is none. -/
def inForce (origin : Origin π β) : Extractor :=
  ((origin.chain.filterMap Call.setting?).getLast?).getD origin.root.extractor

/-- The builder of an origin, unless a call fails: each call writes its clauses with the extractor
in force, and what is joined brings its steps. -/
def build? (env : Env) : Origin π β → Option (Builder π β)
  | first b => some b
  | called on call => do
    let b ← on.build? env
    let clauses ← call.clauses? env on.inForce
    return ⟨b.expr ++ ⟨clauses.map .clause⟩, (called on call).inForce⟩
  | joined on other => do
    let b ← on.build? env
    let more ← other.build? env
    return ⟨b.expr ++ more.expr, on.inForce⟩

@[simp]
theorem inForce_first (b : Builder π β) : (first b).inForce = b.extractor :=
  rfl

@[simp]
theorem inForce_joined (on other : Origin π β) : (joined on other).inForce = on.inForce :=
  rfl

/-- A call sets its own extractor, if it has one, and leaves the one that is in force otherwise. -/
@[simp]
theorem inForce_called (on : Origin π β) (call : Call) :
    (called on call).inForce = call.setting?.getD on.inForce := by
  have calls : (called on call).chain = on.chain ++ [call] := rfl
  have sameRoot : (called on call).root = on.root := rfl
  rw [inForce, calls, sameRoot, List.filterMap_append]
  cases setting : call.setting? with
  | none => simp [setting, inForce]
  | some extractor => simp [setting]

theorem build?_called_eq_some_iff {env : Env} {on : Origin π β} {call : Call} {b : Builder π β} :
    (called on call).build? env = some b ↔
      ∃ before clauses, on.build? env = some before ∧
        call.clauses? env on.inForce = some clauses ∧
        b = ⟨before.expr ++ ⟨clauses.map .clause⟩, call.setting?.getD on.inForce⟩ := by
  simp only [build?, Option.bind_eq_bind, Option.bind_eq_some_iff, Option.pure_def,
    Option.some.injEq, inForce_called]
  constructor
  · rintro ⟨before, beforeBuilt, clauses, writes, rfl⟩
    exact ⟨before, clauses, beforeBuilt, writes, rfl⟩
  · rintro ⟨before, clauses, beforeBuilt, writes, rfl⟩
    exact ⟨before, beforeBuilt, clauses, writes, rfl⟩

theorem build?_joined_eq_some_iff {env : Env} {on other : Origin π β} {b : Builder π β} :
    (joined on other).build? env = some b ↔
      ∃ before more, on.build? env = some before ∧ other.build? env = some more ∧
        b = ⟨before.expr ++ more.expr, on.inForce⟩ := by
  simp only [build?, Option.bind_eq_bind, Option.bind_eq_some_iff, Option.pure_def,
    Option.some.injEq]
  constructor
  · rintro ⟨before, beforeBuilt, more, moreBuilt, rfl⟩
    exact ⟨before, more, beforeBuilt, moreBuilt, rfl⟩
  · rintro ⟨before, more, beforeBuilt, moreBuilt, rfl⟩
    exact ⟨before, beforeBuilt, more, moreBuilt, rfl⟩

/-- A builder goes on with the extractor that is in force on its chain. -/
theorem extractor_of_build? {env : Env} {origin : Origin π β} {b : Builder π β}
    (built : origin.build? env = some b) : b.extractor = origin.inForce := by
  cases origin with
  | first given =>
      cases built
      rfl
  | called on call =>
      obtain ⟨before, clauses, _, _, rfl⟩ := build?_called_eq_some_iff.mp built
      rw [inForce_called]
  | joined on other =>
      obtain ⟨before, more, _, _, rfl⟩ := build?_joined_eq_some_iff.mp built
      rw [inForce_joined]

/-- A call on a builder gives the builder of the called origin, and fails where there is none. -/
theorem toOption_result_apply {env : Env} {on : Origin π β} {b : Builder π β}
    (built : on.build? env = some b) (call : Call) :
    ((call.apply env b).result).toOption = (called on call).build? env := by
  apply Option.ext
  intro made
  rw [toOption_eq_some_iff, Call.result_apply_eq_ok_iff, build?_called_eq_some_iff,
    extractor_of_build? built]
  constructor
  · rintro ⟨clauses, writes, rfl⟩
    exact ⟨b, clauses, built, writes, by rw [Call.extended, extractor_of_build? built]⟩
  · rintro ⟨before, clauses, beforeBuilt, writes, rfl⟩
    cases built.symm.trans beforeBuilt
    exact ⟨clauses, writes, by rw [Call.extended, extractor_of_build? built]⟩

theorem build?_joined {env : Env} {on other : Origin π β} {b more : Builder π β}
    (built : on.build? env = some b) (moreBuilt : other.build? env = some more) :
    (joined on other).build? env = some (b.extend more.expr) :=
  build?_joined_eq_some_iff.mpr
    ⟨b, more, built, moreBuilt, by rw [← extractor_of_build? built]; rfl⟩

/-- Where the same extractor is in force on both chains, a call that sets none can be made before or
after one builder is joined to the other. -/
theorem build?_called_joined (env : Env) {on other : Origin π β} (same : on.inForce = other.inForce)
    {call : Call} (setsNone : call.setting? = none) :
    (called (joined on other) call).build? env = (joined on (called other call)).build? env := by
  cases first : on.build? env with
  | none => simp [build?, first]
  | some b =>
      cases second : other.build? env with
      | none => simp [build?, second]
      | some more =>
          cases writes : call.clauses? env other.inForce with
          | none => simp [build?, second, same, writes]
          | some clauses =>
              simp [build?, first, second, same, writes, setsNone, Expr.append_assoc]

/-! ## What the steps of a builder come from -/

/-- Where some steps in a row come from. -/
inductive Piece (π β : Type) where
  /-- They are those of a first builder. -/
  | given (b : Builder π β)
  /-- They are what a call has appended to a builder of the origin. -/
  | written (on : Origin π β) (call : Call)

/-- The steps are those of the first builder, or the clauses that the call writes with the extractor
in force where it was made. -/
def Piece.Gives (env : Env) : Piece π β → List (Step π β) → Prop
  | given b, steps => steps = b.expr.steps
  | written on call, steps =>
    ∃ clauses, call.clauses? env on.inForce = some clauses ∧ steps = clauses.map .clause

/-- What the steps of a builder come from, in their order. -/
def pieces : Origin π β → List (Piece π β)
  | first b => [.given b]
  | called on call => on.pieces ++ [.written on call]
  | joined on other => on.pieces ++ other.pieces

/-- The steps of a builder are what its pieces give, in their order. -/
theorem exists_steps_of_build? {env : Env} {origin : Origin π β} {b : Builder π β}
    (built : origin.build? env = some b) :
    ∃ parts, List.Forall₂ (Piece.Gives env) origin.pieces parts ∧ b.expr.steps = parts.flatten := by
  induction origin generalizing b with
  | first given =>
      cases built
      exact ⟨[given.expr.steps], .cons rfl .nil, by simp⟩
  | called on call ih =>
      obtain ⟨before, clauses, beforeBuilt, writes, rfl⟩ := build?_called_eq_some_iff.mp built
      obtain ⟨parts, give, steps⟩ := ih beforeBuilt
      refine ⟨parts ++ [clauses.map .clause],
        List.rel_append give (.cons ⟨clauses, writes, rfl⟩ .nil), ?_⟩
      simp [← steps]
  | joined on other ih otherIh =>
      obtain ⟨before, more, beforeBuilt, moreBuilt, rfl⟩ := build?_joined_eq_some_iff.mp built
      obtain ⟨parts, give, steps⟩ := ih beforeBuilt
      obtain ⟨moreParts, moreGive, moreSteps⟩ := otherIh moreBuilt
      refine ⟨parts ++ moreParts, List.rel_append give moreGive, ?_⟩
      simp [← steps, ← moreSteps]

end Origin

namespace Builder

variable {π β : Type}

/-- An operation that only appends: what is in front makes no difference to it, and it keeps the
extractor. -/
structure IsAppending (operation : Builder π β → Logged (Builder π β)) : Prop where
  behind : ∀ front b, operation (b.behind front) = Builder.behind front <$> operation b
  keeps : ∀ {b made}, (operation b).result = .ok made → made.extractor = b.extractor

theorem isAppending_apply (env : Env) {call : Call}
    (setsNone : ∀ source, call ≠ .withExtractor source) :
    IsAppending (π := π) (β := β) (call.apply env) where
  behind := call.apply_behind env
  keeps := by
    intro b made applied
    obtain ⟨clauses, _, rfl⟩ := Call.result_apply_eq_ok_iff.mp applied
    cases call with
    | withExtractor source => exact absurd rfl (setsNone source)
    | _ => rfl

theorem isAppending_forEach (bodies : List β) :
    IsAppending (π := π) fun b => .ofExcept (.ok (b.forEach bodies)) where
  behind := by
    intro front b
    rw [forEach, extend_behind]
    rfl
  keeps := by
    rintro b _ ⟨⟩
    rfl

theorem isAppending_whileLoop (condition : π) (body : Part π β) :
    IsAppending (whileLoop condition body) where
  behind := by
    intro front b
    simp only [whileLoop, Logged.map_bind, extend_behind]
    rfl
  keeps := by
    intro b made applied
    obtain ⟨e, _, appended⟩ := Logged.result_bind_eq_ok_iff.mp applied
    cases appended
    rfl

/-- Joining a builder with the same extractor puts the steps in front of its own. -/
theorem andThen_eq_behind {a b : Builder π β} (same : a.extractor = b.extractor) :
    a.andThen (.builder b) = .ofExcept (.ok (b.behind a.expr)) := by
  obtain ⟨e, extractor⟩ := a
  cases same
  rfl

/-- An operation that only appends can be performed before or after its builder is joined to one
with the same extractor. -/
theorem IsAppending.andThen_bind {operation : Builder π β → Logged (Builder π β)}
    (isAppending : IsAppending operation) {a b : Builder π β} (same : a.extractor = b.extractor) :
    a.andThen (.builder b) >>= operation =
      operation b >>= fun made => a.andThen (.builder made) := by
  have joinedFirst : a.andThen (.builder b) >>= operation = operation (b.behind a.expr) := by
    rw [andThen_eq_behind same]
    rfl
  rw [joinedFirst, isAppending.behind]
  cases outcome : (operation b).result with
  | error failure => rw [Logged.bind_of_error outcome]; exact Logged.bind_of_error outcome _
  | ok made =>
      have sameAfter : a.extractor = made.extractor := same.trans (isAppending.keeps outcome).symm
      rw [Logged.bind_of_ok outcome, andThen_eq_behind sameAfter]
      exact Logged.bind_of_ok outcome _

end Builder

end CypherText
