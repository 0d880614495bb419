import CypherText.Proofs.Origin
import CypherText.Proofs.Progress
import CypherText.Proofs.Rendering
import CypherText.Proofs.Trace

/-!
# Kinds and texts

The operations that write clauses give a kind and a text, and most of them write the keyword on
their own. Still the text of every clause starts with the keyword of its kind, unless the kind is
that of raw statements. The same holds for all that is made with these operations, by joining
builders and by loops over builders: whatever is executed at any time, the buffer has the kind of
each clause at the place of its text.
-/

namespace CypherText

/-- Whether the text of a clause is the keyword of its kind, a space and something more. Raw
statements can have any text. -/
def Clause.IsTagged (clause : Clause) : Prop :=
  clause.kind ≠ .raw → ∃ rest, clause.text = clause.kind.keyword ++ " " ++ rest

namespace Clause

theorem isTagged_raw (text : String) : (mk .raw text).IsTagged :=
  fun notRaw => absurd rfl notRaw

theorem isTagged_of_keyword (kind : ClauseKind) (rest : String) :
    (mk kind (kind.keyword ++ " " ++ rest)).IsTagged :=
  fun _ => ⟨rest, rfl⟩

end Clause

namespace Call

/-- The kind of the clause that a call writes, if it writes one. -/
def kind? : Call → Option ClauseKind
  | raw _ => some .raw
  | matching _ => some .matching
  | optionalMatch _ => some .optionalMatch
  | whereText _ => some .filter
  | wherePredicate _ => some .filter
  | returning _ => some .result
  | createUniqueText _ => some .createUnique
  | createEmpty _ _ => some .create
  | createTyped _ _ _ => some .create
  | create _ _ => some .create
  | relate form _ => some form.kind
  | withExtractor _ => none
  | refused _ => none

/-- A call writes nothing, or one clause of its kind that starts with the keyword of the kind. -/
theorem clauses?_cases {env : Env} {extractor : Extractor} {call : Call} {clauses : List Clause}
    (writes : call.clauses? env extractor = some clauses) :
    (call.kind? = none ∧ clauses = []) ∨
      ∃ clause : Clause, call.kind? = some clause.kind ∧ clause.IsTagged ∧ clauses = [clause] := by
  cases call with
  | raw statement =>
      cases writes
      exact .inr ⟨_, rfl, Clause.isTagged_raw statement, rfl⟩
  | matching pattern =>
      cases writes
      exact .inr ⟨_, rfl, Clause.isTagged_of_keyword .matching pattern, rfl⟩
  | optionalMatch pattern =>
      cases writes
      exact .inr ⟨_, rfl, Clause.isTagged_of_keyword .optionalMatch pattern, rfl⟩
  | whereText condition =>
      cases writes
      exact .inr ⟨_, rfl, Clause.isTagged_of_keyword .filter condition, rfl⟩
  | createUniqueText statement =>
      cases writes
      exact .inr ⟨_, rfl, Clause.isTagged_of_keyword .createUnique statement, rfl⟩
  | wherePredicate predicate =>
      rcases Option.bind_eq_some_iff.mp writes with ⟨description, _, written⟩
      cases written
      exact .inr ⟨_, rfl, Clause.isTagged_of_keyword .filter env.wherePlaceholder, rfl⟩
  | returning items =>
      cases items with
      | nil => contradiction
      | cons item items =>
          cases writes
          exact .inr ⟨_, rfl, Clause.isTagged_of_keyword .result _, rfl⟩
  | createEmpty name label =>
      cases writes
      exact .inr ⟨_, rfl, Clause.isTagged_of_keyword .create _, rfl⟩
  | createTyped _ _ source | create _ source =>
      rcases Option.bind_eq_some_iff.mp writes with ⟨entity, _, read⟩
      rcases Option.bind_eq_some_iff.mp read with ⟨⟨typeName, block⟩, _, written⟩
      cases written
      exact .inr ⟨_, rfl, Clause.isTagged_of_keyword .create _, rfl⟩
  | relate form term =>
      rcases Option.bind_eq_some_iff.mp writes with ⟨operand, _, found⟩
      cases operand with
      | declaration d =>
          rcases Option.bind_eq_some_iff.mp found with ⟨⟨typeName, block⟩, _, written⟩
          cases written
          exact .inr ⟨_, rfl, Clause.isTagged_of_keyword form.kind _, rfl⟩
      | value _ | rel _ | rightPartial _ _ | leftPartial _ _ | classItself _ => contradiction
  | withExtractor _ =>
      cases writes
      exact .inl ⟨rfl, rfl⟩
  | refused failure => contradiction

variable {env : Env} {extractor : Extractor} {call : Call} {clauses : List Clause}

theorem isTagged_of_clauses? (writes : call.clauses? env extractor = some clauses) :
    ∀ clause ∈ clauses, clause.IsTagged := by
  rcases clauses?_cases writes with ⟨_, rfl⟩ | ⟨clause, _, isTagged, rfl⟩
  · exact List.forall_mem_nil _
  · exact List.forall_mem_singleton.mpr isTagged

theorem kinds_of_clauses? (writes : call.clauses? env extractor = some clauses) :
    clauses.map Clause.kind = call.kind?.toList := by
  rcases clauses?_cases writes with ⟨none, rfl⟩ | ⟨clause, isKind, _, rfl⟩
  · rw [none]
    rfl
  · rw [isKind]
    rfl

end Call

/-! ## Builders that are made with the operations -/

namespace Part

variable {π β : Type} {part : Part π β} {e : Expr π β}

theorem result_toExpr_eq_ok_iff : part.toExpr.result = .ok e ↔ part.expr? = some e := by
  unfold toExpr
  cases part.expr? with
  | none => simp [Logged.raise]
  | some found => simp

end Part

namespace Builder

variable {π β : Type}

/-- The builders that are made from the empty one with calls, other extractors of any kind, the
parts that stand for such builders, loops with such a part as their body, and loops whose bodies are
good. -/
inductive IsMade (env : Env) (good : β → Prop) : Builder π β → Prop
  | empty : IsMade env good .empty
  | called {b made : Builder π β} (on : IsMade env good b) {call : Call}
      (applied : (call.apply env b).result = .ok made) : IsMade env good made
  | withExtractor {b : Builder π β} (on : IsMade env good b) (extractor : Extractor) :
      IsMade env good (b.withExtractor extractor)
  | joined {b other made : Builder π β} (on : IsMade env good b) (more : IsMade env good other)
      {part : Part π β} (stands : part.expr? = some other.expr)
      (applied : (b.andThen part).result = .ok made) : IsMade env good made
  | forEach {b : Builder π β} (on : IsMade env good b) {bodies : List β}
      (all : ∀ body ∈ bodies, good body) : IsMade env good (b.forEach bodies)
  | whileLoop {b other made : Builder π β} (on : IsMade env good b) (condition : π)
      (turn : IsMade env good other) {body : Part π β} (stands : body.expr? = some other.expr)
      (applied : (b.whileLoop condition body).result = .ok made) : IsMade env good made

/-- Every clause that stands in such a builder starts with the keyword of its kind. -/
theorem IsMade.writesOnly {env : Env} {good : β → Prop} {b : Builder π β}
    (made : b.IsMade env good) : b.expr.WritesOnly Clause.IsTagged good := by
  induction made with
  | empty => exact Expr.writesOnly_empty
  | called _ applied ih =>
      rcases Call.result_apply_eq_ok_iff.mp applied with ⟨clauses, writes, rfl⟩
      exact ih.append (Expr.writesOnly_clauses (Call.isTagged_of_clauses? writes))
  | withExtractor _ _ ih => exact ih
  | joined _ _ stands applied ih others =>
      rcases Logged.result_bind_eq_ok_iff.mp applied with ⟨e, converted, extended⟩
      cases (Part.result_toExpr_eq_ok_iff.mp converted).symm.trans stands
      cases extended
      exact ih.append others
  | forEach _ all ih => exact ih.append (Expr.writesOnly_forEach all)
  | whileLoop _ condition _ stands applied ih turn =>
      rcases Logged.result_bind_eq_ok_iff.mp applied with ⟨e, converted, extended⟩
      cases (Part.result_toExpr_eq_ok_iff.mp converted).symm.trans stands
      cases extended
      exact ih.append (turn.whileLoop condition)

end Builder

namespace Host

variable {π β σ : Type} {host : Host π β σ} {env : Env} {good : β → Prop}

/-- Whether each good body gives, in any world, a part that stands for a builder made with the
operations, if it stands for an expression at all. -/
def GivesMade (host : Host π β σ) (env : Env) (good : β → Prop) : Prop :=
  ∀ body, good body → ∀ w part evaluated, host.eval body w = (.ok part, evaluated) →
    ∀ e, part.expr? = some e → ∃ b : Builder π β, b.IsMade env good ∧ b.expr = e

theorem GivesMade.writesOnly (givesMade : host.GivesMade env good) {body : β} (isGood : good body)
    {w evaluated : World σ} {e : Expr π β} (gives : host.evalExpr body w = (.ok e, evaluated)) :
    e.WritesOnly Clause.IsTagged good := by
  rcases given : host.eval body w with ⟨result, after⟩
  simp only [evalExpr, given] at gives
  cases result with
  | error halt => cases gives
  | ok part =>
      have converted := Halt.eq_ok_of_mapError (congrArg Prod.fst gives)
      rcases givesMade body isGood w part after given e
        (Part.result_toExpr_eq_ok_iff.mp converted) with ⟨b, made, rfl⟩
      exact made.writesOnly

end Host

/-- Whatever a builder executes that is made with the operations, at any time of any run, is a
clause that starts with the keyword of its kind, unless it is raw. And whenever a run stops, because
it has ended, failed or used up its fuel, the buffer has the text of just the clauses executed by
then, and the kind of each of them at its place. -/
theorem Builder.IsMade.tags_agree_with_texts {π β σ : Type} {host : Host π β σ} {env : Env}
    {good : β → Prop} {b : Builder π β} (givesMade : host.GivesMade env good)
    (made : b.IsMade env good) (w : World σ) :
    (∀ clauses, host.Executes b.expr.steps w clauses → ∀ clause ∈ clauses, clause.IsTagged) ∧
    ∀ fuel separator,
      let stopped := host.run fuel b.expr.steps (.empty separator) w
      ∃ clauses, host.Executes b.expr.steps w clauses ∧
        (stopped.outcome = .ok () → ∃ left, host.Completes b.expr.steps w clauses left) ∧
        stopped.buffer.text = Clause.joined separator clauses ∧
        stopped.buffer.kinds.size = clauses.length ∧
        ∀ (i : Nat) (clause : Clause), clauses[i]? = some clause →
          stopped.buffer.kinds[i]? = some clause.kind ∧ clause.IsTagged := by
  have areTagged : ∀ clauses, host.Executes b.expr.steps w clauses →
      ∀ clause ∈ clauses, clause.IsTagged := by
    intro clauses executed
    apply executed.forall_mem _ made.writesOnly
    intro body isGood w e evaluated gives
    exact givesMade.writesOnly isGood gives
  constructor
  · exact areTagged
  · intro fuel separator stopped
    rcases host.exists_executed_of_run fuel separator b.expr.steps w with
      ⟨clauses, executed, completed, filled⟩
    have holds : stopped.buffer =
        ⟨separator, Clause.joined separator clauses, (clauses.map Clause.kind).toArray⟩ := filled
    rw [holds]
    refine ⟨clauses, executed, completed, rfl, by simp, ?_⟩
    intro i clause found
    constructor
    · simp [found]
    · exact areTagged clauses executed clause (List.mem_of_getElem? found)

/-- A raw statement in a loop need not have the keyword of anything, also where it looks like one of
another kind. -/
theorem Builder.IsMade.tags_agree_with_texts_of_countdown :
    let env : Env := ⟨"\n", "true", ⟨0, 900⟩⟩
    let turn : Builder Unit String := Builder.empty.extend (.clause .filter "WHERE true")
    let b : Builder Unit String :=
      ((Builder.empty.extend (.clause .matching "MATCH (a)")).forEach ["RETURN"]).extend
        (.whileLoop () turn.expr)
    let clauses : List Clause :=
      [⟨.matching, "MATCH (a)"⟩, ⟨.raw, "RETURN"⟩, ⟨.filter, "WHERE true"⟩]
    let stopped := Host.countdown.run 7 b.expr.steps (.empty "\n") ⟨[], 1⟩
    b.IsMade env (fun _ => True) ∧ Host.countdown.Executes b.expr.steps ⟨[], 1⟩ clauses ∧
      (∀ clause ∈ clauses, clause.IsTagged) ∧
      stopped.outcome = .ok () ∧ stopped.buffer.text = "MATCH (a)\nRETURN\nWHERE true" ∧
      stopped.buffer.kinds.size = clauses.length ∧
      ∀ (i : Nat) (clause : Clause), clauses[i]? = some clause →
        stopped.buffer.kinds[i]? = some clause.kind ∧ clause.IsTagged := by
  intro env turn b clauses stopped
  have givesMade : Host.countdown.GivesMade env fun _ => True := by
    intro text _ w part evaluated given e stands
    have applied : ((Call.raw text).apply env (.empty : Builder Unit String)).result =
        .ok (Builder.empty.extend (.clause .raw text)) := rfl
    cases given
    cases stands
    exact ⟨_, .called .empty applied, rfl⟩
  have made : b.IsMade env fun _ => True := by
    have turnApplied : ((Call.wherePredicate (.function "isOld")).apply env
        (.empty : Builder Unit String)).result = .ok turn := rfl
    have firstApplied : ((Call.matching "(a)").apply env (.empty : Builder Unit String)).result =
        .ok (Builder.empty.extend (.clause .matching "MATCH (a)")) := rfl
    have good : ∀ text ∈ ["RETURN"], True := fun _ _ => trivial
    have stands : (Part.builder turn).expr? = some turn.expr := rfl
    exact ((IsMade.called .empty firstApplied).forEach good).whileLoop ()
      (.called .empty turnApplied) stands rfl
  have loop := Host.completes_countdown_loop ⟨.filter, "WHERE true"⟩ [] 1
  have done : Host.countdown.Completes b.expr.steps ⟨[], 1⟩ clauses ⟨[], 0⟩ :=
    .clause (.forEachCons rfl (.clause .nil) (.forEachNil loop))
  have finished : stopped.outcome = .ok () := rfl
  rcases made.tags_agree_with_texts givesMade ⟨[], 1⟩ with ⟨areTagged, stops⟩
  rcases stops 7 "\n" with ⟨executed, _, completes, text, size, tags⟩
  rcases completes finished with ⟨left, completed⟩
  rcases completed.unique done with ⟨rfl, _⟩
  exact ⟨made, done.executes, areTagged clauses done.executes, finished, text, size, tags⟩

end CypherText
