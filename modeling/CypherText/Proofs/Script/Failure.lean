import CypherText.Proofs.Script.Run

/-!
# Failures in scripts

A call of a clause or of a composition that fails leaves the world as it was, but for the report of
its failure; so every later statement, each build among them, gives what it would have given without
the call. A build that fails in a loop body ends with the same report and renders nothing itself.
What stands before the report comes from the bodies, so it holds a rendered query only if a body
builds one, and another report only if a body keeps a failure.
-/

namespace CypherText

namespace Event

/-- Whether a record tells that a query was rendered. -/
def IsRendered : Event → Prop
  | rendered _ _ => True
  | _ => False

/-- Whether a record is the report of a failure. -/
def IsProblem : Event → Prop
  | problem _ _ => True
  | _ => False

end Event

/-- How a failure is reported. A fault of the library has one record, with the severity of its
category, its message, its code and its details without the time; any other failure has none. -/
structure Failure.IsReportedBy (failure : Failure) (records : List Event) : Prop where
  ofFault : ∀ f, failure = .fault f → ∃ record, records = [record] ∧ record.IsProblem ∧
    record.isVisible Severity.debug.number = true ∧
    record.logger = f.component.name ∧ record.severity = f.report.category.severity ∧
    record.message = f.report.message ∧
    record.fields =
      ("error_code", .text f.report.category.code.value) :: f.report.details.fields
  ofOther : failure.IsSilent → records = []

theorem Failure.isReportedBy_records (failure : Failure) :
    failure.IsReportedBy failure.records where
  ofFault f equal := by
    cases equal
    exact ⟨.ofFault f, rfl, trivial, Event.isVisible_debug _, rfl, rfl, rfl, rfl⟩
  ofOther isSilent := isSilent.records_eq

theorem Failure.not_isRendered_of_mem_records {failure : Failure} {e : Event}
    (among : e ∈ failure.records) : ¬ e.IsRendered := by
  cases failure with
  | fault f =>
      cases List.mem_singleton.mp among
      exact id
  | _ => contradiction

namespace Script

variable {ι α : Type} {env : Env} {p q : Permission}

open Effect

/-! ## Worlds that scripts reach -/

namespace Effect.IsLawful

variable {good : α → Prop} {x : Effect ι α} {w : World (Store ι)}

theorem obeys_state (isLawful : IsLawful p q good x) (obeys : w.state.Obeys p) :
    (x.run.run w).2.state.Obeys p := by
  obtain ⟨t, sound, runs⟩ := isLawful w.state obeys
  rw [runs w.log]
  exact sound.keeps

/-- What has been logged before plays no part in the result. -/
theorem fst_run_record (isLawful : IsLawful p q good x) (obeys : w.state.Obeys p)
    (records : List Event) : (x.run.run (w.record records)).1 = (x.run.run w).1 := by
  obtain ⟨t, sound, runs⟩ := isLawful w.state obeys
  exact (congrArg Prod.fst (runs (w.log ++ records))).trans (congrArg Prod.fst (runs w.log)).symm

end Effect.IsLawful

/-- The worlds that scripts reach whose loop bodies are permitted by `p`: the first one, and those
that are left by statements in any frame, by entering nested scripts, and by making and asking the
conditions of loops. -/
inductive Reached (env : Env) (p : Permission) : World (Store ι) → Prop
  | start : Reached env p ⟨[], .initial⟩
  | exec {w : World (Store ι)} {statement : Statement ι} (before : Reached env p w)
      (obeys : statement.action.Obeys p .all) (fuel frame : Nat) :
      Reached env p ((exec env fuel frame statement).run.run w).2
  | enter {w : World (Store ι)} (before : Reached env p w) (frame : Nat) :
      Reached env p ((nestedFrame frame).run.run w).2
  | condition {w : World (Store ι)} (before : Reached env p w) (source : ConditionSource) :
      Reached env p ((conditionOf source).run.run w).2
  | ask {w : World (Store ι)} (before : Reached env p w) (condition : Condition) :
      Reached env p { w with state := (w.state.ask condition).2 }
  | log {w : World (Store ι)} (before : Reached env p w) (log : List Event) :
      Reached env p { w with log := log }

/-- All loops and extractors in such a world obey. -/
theorem Reached.obeys {w : World (Store ι)} (reached : Reached env p w) : w.state.Obeys p := by
  induction reached with
  | start => exact Store.initial_obeys p
  | exec _ obeys fuel frame ih => exact ((laws fuel).exec p.isWithin_all obeys frame).obeys_state ih
  | enter _ frame ih => exact (isLawful_nestedFrame (q := p) frame).obeys_state ih
  | condition _ source ih => exact (isLawful_conditionOf (q := p) source).obeys_state ih
  | ask _ condition ih => exact Store.ask_obeys condition ih
  | log _ _ ih => exact ih

/-- Every outcome of a script is that of one of its statements in a world that it reaches. -/
theorem exists_reached_of_mem_runFrom {fuel : Nat} {w : World (Store ι)} (reached : Reached env p w)
    {statements : List (Statement ι)}
    (all : ∀ statement ∈ statements, statement.action.Obeys p .all) {outcome : Outcome}
    (among : outcome ∈ runFrom env fuel w statements) :
    ∃ statement ∈ statements, ∃ before : World (Store ι), Reached env p before ∧ before.log = [] ∧
      outcome = ⟨((exec env fuel 0 statement).run.run before).1,
        ((exec env fuel 0 statement).run.run before).2.log⟩ := by
  induction statements generalizing w with
  | nil => contradiction
  | cons statement rest ih =>
      obtain ⟨first, others⟩ := List.forall_mem_cons.mp all
      have emptied : Reached env p { w with log := [] } := reached.log []
      rcases List.mem_cons.mp among with rfl | among
      · exact ⟨statement, List.mem_cons_self, _, emptied, rfl, rfl⟩
      · obtain ⟨later, within, before, reachedBefore, empty, equal⟩ :=
          ih (emptied.exec first fuel 0) others among
        exact ⟨later, List.mem_cons_of_mem _ within, before, reachedBefore, empty, equal⟩

/-- What a statement of a script logs that fails ends with the report of its failure. -/
theorem exists_log_of_mem_run {fuel : Nat} {statements : List (Statement ι)}
    (all : ∀ statement ∈ statements, statement.action.Obeys p .all) {outcome : Outcome}
    (among : outcome ∈ run env fuel statements) {failure : Failure}
    (failed : outcome.result = .error (.failed failure)) :
    ∃ before, outcome.log = before ++ failure.records := by
  obtain ⟨statement, within, w, reached, empty, rfl⟩ :=
    exists_reached_of_mem_runFrom .start all among
  obtain ⟨t, _, runs⟩ :=
    (laws fuel).exec p.isWithin_all (all statement within) 0 w.state reached.obeys
  have ran : (exec env fuel 0 statement).run.run w = (t.result, t.world w.log) := runs w.log
  rw [ran] at failed
  have halted : t.result = .error (.failed failure) := failed
  refine ⟨t.before, ?_⟩
  simp [ran, Trace.world, halted, empty, Halt.recordsOf, Halt.records]

/-! ## One operation that fails -/

theorem Permission.Allows.not_isRendered {e : Event} (allowed : p.Allows e)
    (noBuilds : p.builds = false) : ¬ e.IsRendered := by
  cases e with
  | rendered kinds query => exact absurd allowed (by simp [Permission.Allows, noBuilds])
  | appending _ | placeholder _ | problem _ _ => exact id

theorem Permission.Allows.not_isProblem {e : Event} (allowed : p.Allows e)
    (noneKept : p.keepsFailures = false) : ¬ e.IsProblem := by
  cases e with
  | problem logger report => exact absurd allowed (by simp [Permission.Allows, noneKept])
  | appending _ | placeholder _ | rendered _ _ => exact id

/-- Only a build that comes to its end tells that it rendered a query. -/
theorem exists_trace_bind_renderWith {x : Effect ι (Expr Condition (Body ι))}
    (gives : IsLawful p p (Expr.Each (Body.Obeys p)) x) (fuel : Nat) (separator : String)
    {s : Store ι} (sound : s.Obeys p) :
    ∃ t : Trace (Store ι) Answer,
      (∀ record ∈ t.before, p.Allows record ∨
        ∃ kinds text, record = .rendered kinds text ∧ t.result = .ok (.text text)) ∧
      ∀ log, (x >>= renderWith (host env fuel) fuel separator).run.run ⟨log, s⟩ =
        (t.result, t.world log) := by
  obtain ⟨t, traceSound, runs⟩ := gives s sound
  cases outcome : t.result with
  | error reason =>
      refine ⟨t.halting reason, ?_, run_bind_halting runs outcome⟩
      exact fun record among => .inl (traceSound.isAllowed record among)
  | ok e =>
      obtain ⟨last, _, records, renders⟩ :=
        exists_trace_renderWith (laws fuel : Laws ι env p fuel).host fuel separator
          (traceSound.isGood e outcome) traceSound.keeps
      refine ⟨t.after last, ?_, run_bind_after runs outcome renders⟩
      intro record among
      rcases List.mem_append.mp among with among | among
      · exact .inl (traceSound.isAllowed record among)
      · exact records record among

/-- A build that fails leaves what the bodies wrote, and then the report of its failure. -/
theorem exists_log_of_build {invocation : Invocation ι} (obeys : invocation.Obeys p)
    (isBuild : invocation.IsBuild) {fuel frame : Nat} {out : String} {w after : World (Store ι)}
    (sound : w.state.Obeys p) {failure : Failure}
    (failed : (invocation.perform env fuel frame out).run.run w =
      (.error (.failed failure), after)) :
    ∃ before, after.log = w.log ++ (before ++ failure.records) ∧
      ∀ record ∈ before, p.Allows record := by
  have traced : ∃ t : Trace (Store ι) Answer,
      (∀ record ∈ t.before, p.Allows record ∨
        ∃ kinds text, record = .rendered kinds text ∧ t.result = .ok (.text text)) ∧
      ∀ log, (invocation.perform env fuel frame out).run.run ⟨log, w.state⟩ =
        (t.result, t.world log) := by
    cases invocation with
    | build thing separator =>
        exact exists_trace_bind_renderWith (isLawful_exprOf obeys) fuel _ sound
    | buildPart part separator =>
        exact exists_trace_bind_renderWith (isLawful_toExpr obeys) fuel _ sound
    | call _ _ | forEach _ _ | forEachExpr _ | whileLoop _ _ _ | whileExpr _ _ | andThen _ _
    | plus _ _ => contradiction
  obtain ⟨t, records, runs⟩ := traced
  have ran := (runs w.log).symm.trans failed
  obtain ⟨halted, left⟩ := Prod.mk.inj ran
  refine ⟨t.before, ?_, ?_⟩
  · rw [← left, Trace.world, halted]
    rfl
  · intro record among
    rcases records record among with allowed | ⟨_, _, _, finished⟩
    · exact allowed
    · cases halted.symm.trans finished

/-- A body that fails in a call of its own. -/
def failingBody : Ref Nat :=
  .script [.on "b" "b" (.call (.returning []))] (.register "b")

/-- The surroundings of the examples. -/
def plainEnv : Env :=
  ⟨"\n", "true", ⟨0, 900⟩⟩

/-- The world with a builder that loops over the body. -/
def loopWorld : World (Store Nat) :=
  ((exec plainEnv 1 0 (.on "b" "b" (.forEach (.given [1]) fun _ => failingBody))).run.run
    ⟨[], .initial⟩).2

/-- The build of this loop. -/
def loopBuild : Invocation Nat :=
  .build (.builder 3 2 (Builder.empty.forEach [⟨0, failingBody⟩])) none

/-- A body that builds a query of its own before it fails. -/
def buildingBody : Ref Nat :=
  .script
    [.on "b" "b" (.call (.raw "x")), .on "b" "b" (.build none), .on "b" "b" (.call (.returning []))]
    (.register "b")

/-- An extractor that refuses everything with a fault of the library, but does not report it. -/
def mute : Extractor :=
  fun _ => .ofExcept (.error (.fault (.unextractable "tests.Person")))

end Script

end CypherText
