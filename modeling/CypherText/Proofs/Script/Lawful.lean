import CypherText.Proofs.Script.Conduct

/-!
# Lawful effects

An effect is lawful if from every store that obeys it does the same whatever has been logged: it
writes permitted records, then the report of its failure if it fails, and leaves a store that obeys
again. Everything that statements are made of is lawful, and so is what is put together from lawful
effects.
-/

namespace CypherText.Script

variable {ι α β : Type}

/-- Whether an effect is traced from every store that obeys `p`, with records that `q` allows, keeps
the store obeying, and gives only results that are `good`. -/
def Effect.IsLawful (p q : Permission) (good : α → Prop) (x : Effect ι α) : Prop :=
  IsTraced q.Allows (Store.Obeys p) good x.run.run

namespace Effect

variable {p q : Permission} {good : α → Prop} {fine : β → Prop}

section Bind

variable {x : Effect ι α} {next : α → Effect ι β} {s : Store ι} {t : Trace (Store ι) α}

theorem run_bind_halting (runs : ∀ log, x.run.run ⟨log, s⟩ = (t.result, t.world log))
    {reason : Halt} (failed : t.result = .error reason) (log : List Event) :
    (x >>= next).run.run ⟨log, s⟩ =
      ((t.halting reason : Trace _ β).result, (t.halting reason : Trace _ β).world log) := by
  have halted := runs log
  rw [failed] at halted
  rw [run_bind_of_error halted, Trace.world_halting failed]
  rfl

theorem run_bind_after (runs : ∀ log, x.run.run ⟨log, s⟩ = (t.result, t.world log)) {a : α}
    (ok : t.result = .ok a) {last : Trace (Store ι) β}
    (ends : ∀ log, (next a).run.run ⟨log, t.state⟩ = (last.result, last.world log))
    (log : List Event) :
    (x >>= next).run.run ⟨log, s⟩ = ((t.after last).result, (t.after last).world log) := by
  have succeeded := runs log
  rw [ok] at succeeded
  rw [run_bind_of_ok succeeded, Trace.world_after ok]
  exact ends _

end Bind

namespace IsLawful

theorem pure {a : α} (isGood : good a) : IsLawful p q good (pure a : Effect ι α) := by
  intro s obeys
  refine ⟨.success a s, Trace.isSound_success obeys isGood, ?_⟩
  intro log
  rw [Trace.world_success]
  rfl

theorem halt (reason : Halt) (silent : reason.records = []) :
    IsLawful p q good (throw reason : Effect ι α) := by
  intro s obeys
  refine ⟨.halt reason s, Trace.isSound_halt reason obeys, ?_⟩
  intro log
  simp only [Trace.halt, Trace.world, Halt.recordsOf, silent, List.append_nil]
  rfl

theorem exhausted : IsLawful p q good (throw .exhausted : Effect ι α) :=
  halt .exhausted rfl

theorem fail {failure : Failure} (isSilent : failure.IsSilent) :
    IsLawful p q good (fail failure : Effect ι α) :=
  halt (.failed failure) isSilent.records_eq

theorem bind {x : Effect ι α} {next : α → Effect ι β} (starts : IsLawful p q good x)
    (goesOn : ∀ a, good a → IsLawful p q fine (next a)) : IsLawful p q fine (x >>= next) := by
  intro s obeys
  obtain ⟨t, sound, runs⟩ := starts s obeys
  cases outcome : t.result with
  | error reason => exact ⟨t.halting reason, sound.halting reason, run_bind_halting runs outcome⟩
  | ok a =>
      obtain ⟨last, lastSound, ends⟩ := goesOn a (sound.isGood a outcome) t.state sound.keeps
      exact ⟨t.after last, sound.after lastSound, run_bind_after runs outcome ends⟩

/-- Reading the state. -/
theorem look {f : Store ι → α} (isGood : ∀ s, s.Obeys p → good (f s)) :
    IsLawful p q good (look f : Effect ι α) := by
  intro s obeys
  refine ⟨.success (f s) s, Trace.isSound_success obeys (isGood s obeys), ?_⟩
  intro log
  rw [Trace.world_success]
  rfl

theorem read (f : Store ι → α) :
    IsLawful p q (fun _ => True) (Effect.look f : Effect ι α) :=
  look fun _ _ => trivial

/-- Changing the state. -/
theorem change {f : Store ι → Store ι} (keeps : ∀ s, s.Obeys p → (f s).Obeys p) :
    IsLawful p q (fun _ => True) (change f : Effect ι Unit) := by
  intro s obeys
  refine ⟨.success () (f s), Trace.isSound_success (keeps s obeys) trivial, ?_⟩
  intro log
  rw [Trace.world_success]
  rfl

/-- An orderly operation. -/
theorem perform {operation : Logged α} (isOrderly : operation.IsOrderly)
    (isGood : ∀ a, operation.result = .ok a → good a) :
    IsLawful p q good (perform operation : Effect ι α) := by
  intro s obeys
  obtain ⟨t, result, state, routine, records⟩ := isOrderly.exists_trace s
  refine ⟨t, ⟨?_, ?_, ?_⟩, ?_⟩
  · intro e among
    exact q.allows_of_isRoutine e (routine e among)
  · rw [state]
    exact obeys
  · intro a given
    rw [result] at given
    exact isGood a (Halt.eq_ok_of_mapError given)
  · intro log
    rw [run_perform, records, result]

theorem ofExcept {result : Except Failure α} (faultless : Faultless result)
    (isGood : ∀ a, result = .ok a → good a) :
    IsLawful p q good (ofExcept result : Effect ι α) := by
  cases result with
  | ok a => exact pure (isGood a rfl)
  | error failure => exact fail faultless.isSilent

end IsLawful

/-! ## Objects and registers -/

theorem isLawful_freshId : IsLawful p q (fun _ => True) (freshId : Effect ι Nat) := by
  refine IsLawful.bind (IsLawful.read _) ?_
  intro id _
  refine IsLawful.bind (IsLawful.change ?_) fun _ _ => IsLawful.pure trivial
  intro s obeys
  exact obeys

theorem isLawful_register (frame : Nat) (name : String) :
    IsLawful p q (Thing.Obeys p) (register frame name : Effect ι (Thing ι)) := by
  refine IsLawful.bind (IsLawful.look fun s obeys => obeys.registers frame) ?_
  intro registers obey
  split
  · rename_i thing found
    exact IsLawful.pure (obey.of_get? found)
  · exact IsLawful.fail (Failure.isSilent_unknownName _)

theorem isLawful_setRegister (frame : Nat) (name : String) {thing : Thing ι}
    (obeys : thing.Obeys p) :
    IsLawful p q (fun _ => True) (setRegister frame name thing : Effect ι Unit) :=
  IsLawful.change fun _ all => all.modify frame fun _ obey => obey.put obeys name

theorem isLawful_nestedFrame (frame : Nat) :
    IsLawful p q (fun _ => True) (nestedFrame frame : Effect ι Nat) := by
  refine IsLawful.bind (IsLawful.look fun s obeys => obeys.registers frame) ?_
  intro registers obey
  refine IsLawful.bind (IsLawful.read _) ?_
  intro number _
  refine IsLawful.bind (IsLawful.change ?_) fun _ _ => IsLawful.pure trivial
  intro s all
  exact all.push (obey.put (Thing.firstBuilder_obeys p) "b")

theorem isLawful_itemsOf (items : Items ι) :
    IsLawful p q (fun _ => True) (itemsOf items : Effect ι (List ι)) := by
  cases items with
  | given items => exact IsLawful.pure trivial
  | shared name => exact IsLawful.read fun s => (s.lists.get? name).getD []

theorem isLawful_conditionOf (source : ConditionSource) :
    IsLawful p q (fun _ => True) (conditionOf source : Effect ι Condition) := by
  cases source with
  | counter name => exact IsLawful.pure trivial
  | answers answers =>
      refine IsLawful.bind (IsLawful.read _) ?_
      intro index _
      refine IsLawful.bind (IsLawful.change ?_) fun _ _ => IsLawful.pure trivial
      intro s obeys
      exact obeys

theorem isLawful_makeBuilder (exprId : Nat) {b : Builder Condition (Body ι)}
    (isGood : (Part.builder b).IsGood (Body.Obeys p)) :
    IsLawful p q (Thing.Obeys p) (makeBuilder exprId b) :=
  IsLawful.bind isLawful_freshId fun _ _ => IsLawful.pure isGood

theorem isLawful_makeExpr {e : Expr Condition (Body ι)} (each : e.Each (Body.Obeys p)) :
    IsLawful p q (Thing.Obeys p) (makeExpr e) :=
  IsLawful.bind isLawful_freshId fun _ _ => IsLawful.pure each

theorem isLawful_joinId (firstId : Nat) (first : Expr Condition (Body ι)) (secondId : Nat)
    (second : Expr Condition (Body ι)) :
    IsLawful p q (fun _ => True) (joinId firstId first secondId second) := by
  unfold joinId
  split
  · exact IsLawful.pure trivial
  · split
    · exact IsLawful.pure trivial
    · exact isLawful_freshId

/-- The expression that a part stands for. -/
theorem isLawful_toExpr {part : Part Condition (Body ι)} (isGood : part.IsGood (Body.Obeys p)) :
    IsLawful p q (Expr.Each (Body.Obeys p)) (perform part.toExpr : Effect ι _) :=
  IsLawful.perform part.onlyReports_toExpr.isOrderly fun _ converted => isGood.each converted

end Effect

open Effect

variable {p q : Permission}

/-! ## Composition -/

theorem isLawful_joinToExpr (id : Nat) {e : Expr Condition (Body ι)} {other : Thing ι}
    (each : e.Each (Body.Obeys p)) (obeys : other.Obeys p) :
    IsLawful p q (Thing.Obeys p) (joinToExpr id e other) := by
  cases other with
  | expr otherId more =>
      exact IsLawful.bind (isLawful_joinId _ _ _ _) fun _ _ => IsLawful.pure (each.append obeys)
  | builder _ _ _ | holder _ | foreign _ => exact IsLawful.fail Failure.isSilent_unsupported

theorem isLawful_joinToBuilder (exprId : Nat) {b : Builder Condition (Body ι)} {other : Thing ι}
    (isGood : (Part.builder b).IsGood (Body.Obeys p)) (obeys : other.Obeys p) :
    IsLawful p q (Thing.Obeys p) (joinToBuilder exprId b other) := by
  refine IsLawful.bind (isLawful_toExpr obeys) ?_
  intro more each
  refine IsLawful.bind (isLawful_joinId _ _ _ _) ?_
  intro joinedId _
  exact isLawful_makeBuilder joinedId ⟨isGood.1.append each, isGood.2⟩

theorem isLawful_join {thing other : Thing ι} (obeys : thing.Obeys p)
    (otherObeys : other.Obeys p) : IsLawful p q (Thing.Obeys p) (join thing other) := by
  cases thing with
  | expr id e => exact isLawful_joinToExpr id obeys otherObeys
  | builder id exprId b => exact isLawful_joinToBuilder exprId obeys otherObeys
  | holder _ | foreign _ => exact IsLawful.fail Failure.isSilent_unsupported

theorem isLawful_add {thing other : Thing ι} (obeys : thing.Obeys p)
    (otherObeys : other.Obeys p) : IsLawful p q (Thing.Obeys p) (add thing other) := by
  unfold add
  split
  · exact isLawful_joinToExpr _ obeys otherObeys
  · exact isLawful_joinToBuilder _ obeys otherObeys
  · exact isLawful_joinToBuilder _ obeys otherObeys
  · exact IsLawful.fail Failure.isSilent_meaningless

theorem isLawful_sequence {things : List (Thing ι)} (all : ∀ thing ∈ things, thing.Obeys p) :
    IsLawful p q (Thing.Obeys p) (sequence things) := by
  unfold sequence
  have isExpr : (Thing.expr Thing.emptyExprId .empty : Thing ι).Obeys p := Expr.each_empty
  revert isExpr
  generalize Thing.expr Thing.emptyExprId Expr.empty = done
  intro doneObeys
  induction things generalizing done with
  | nil => exact IsLawful.pure doneObeys
  | cons thing things ih =>
      obtain ⟨obeys, others⟩ := List.forall_mem_cons.mp all
      rw [List.foldlM_cons]
      refine IsLawful.bind ?_ fun made madeObeys => ih others made madeObeys
      refine IsLawful.bind (isLawful_toExpr obeys) ?_
      intro more each
      split
      · refine IsLawful.bind (isLawful_joinId _ _ _ _) ?_
        intro joinedId _
        exact IsLawful.pure (Expr.Each.append doneObeys each)
      · exact IsLawful.fail Failure.isSilent_unsupported

/-! ## Calls -/

theorem isLawful_performCall (env : Env) {call : Call} (isSilent : call.IsSilent) {thing : Thing ι}
    (obeys : thing.Obeys p) : IsLawful p q (Thing.Obeys p) (performCall env call thing) := by
  cases thing with
  | builder id exprId b =>
      have performed : IsLawful p q (fun made => (Part.builder made).IsGood (Body.Obeys p))
          (perform (call.apply env b) : Effect ι _) := by
        refine IsLawful.perform (call.isOrderly_apply env isSilent obeys.2) ?_
        intro made applied
        rcases Call.apply_cases applied with ⟨kind, text, rfl⟩ | ⟨extractor, rfl, rfl⟩
        · exact ⟨obeys.1.append (Expr.each_clause kind text), obeys.2⟩
        · exact ⟨obeys.1, isSilent⟩
      refine IsLawful.bind performed ?_
      intro made isGood
      split
      · exact isLawful_makeBuilder exprId isGood
      · exact IsLawful.bind isLawful_freshId fun _ _ => isLawful_makeBuilder _ isGood
  | expr _ _ | holder _ | foreign _ => exact IsLawful.fail isSilent.failureElsewhere

theorem isLawful_whileLoop (condition : Condition) {b : Builder Condition (Body ι)}
    {body : Part Condition (Body ι)} (isGood : (Part.builder b).IsGood (Body.Obeys p))
    (bodyGood : body.IsGood (Body.Obeys p)) :
    IsLawful p q (fun made => (Part.builder made).IsGood (Body.Obeys p))
      (perform (b.whileLoop condition body) : Effect ι _) := by
  refine IsLawful.perform (b.onlyReports_whileLoop condition body).isOrderly ?_
  intro made looped
  obtain ⟨e, converted, looped⟩ := Logged.result_bind_eq_ok_iff.mp looped
  cases looped
  exact ⟨isGood.1.append ((bodyGood.each converted).whileLoop condition), isGood.2⟩

/-! ## Looking at objects -/

theorem isLawful_exprOf {thing : Thing ι} (obeys : thing.Obeys p) :
    IsLawful p q (Expr.Each (Body.Obeys p)) (exprOf thing) := by
  cases thing with
  | expr id e => exact IsLawful.pure obeys
  | builder id exprId b => exact IsLawful.pure obeys.1
  | holder _ | foreign _ => exact IsLawful.fail Failure.isSilent_unsupported

theorem isLawful_builderOf {thing : Thing ι} (obeys : thing.Obeys p) :
    IsLawful p q (fun b => (Part.builder b).IsGood (Body.Obeys p)) (builderOf thing) := by
  cases thing with
  | builder id exprId b => exact IsLawful.pure obeys
  | expr _ _ | holder _ | foreign _ => exact IsLawful.fail Failure.isSilent_unsupported

theorem isLawful_describe (env : Env) {extractor : Extractor} {entity : EntitySource}
    (onlyReports : extractor.OnlyReports) (isSilent : entity.IsSilent) :
    IsLawful p q (fun _ => True) (describe env extractor entity : Effect ι Answer) := by
  refine IsLawful.bind (IsLawful.ofExcept isSilent.faultless_make fun _ _ => trivial) ?_
  intro made _
  refine IsLawful.bind (IsLawful.perform (onlyReports made).isOrderly fun _ _ => trivial) ?_
  intro extracted _
  refine IsLawful.bind (IsLawful.ofExcept (extracted.faultless_literals _) fun _ _ => trivial) ?_
  intro literals _
  exact IsLawful.pure trivial

theorem isLawful_keep (frame : Nat) (out : String) {thing : Thing ι} (obeys : thing.Obeys p) :
    IsLawful p q (fun _ => True) (keep frame out thing) :=
  IsLawful.bind (isLawful_setRegister frame out obeys) fun _ _ => IsLawful.pure trivial

/-- What makes an object and keeps it. -/
theorem Effect.IsLawful.kept {x : Effect ι (Thing ι)} (makes : IsLawful p q (Thing.Obeys p) x)
    (frame : Nat) (out : String) :
    IsLawful p q (fun _ => True) (do keep frame out (← x)) :=
  IsLawful.bind makes fun _ obeys => isLawful_keep frame out obeys

end CypherText.Script
