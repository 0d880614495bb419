import CypherText.Proofs.Announcement

/-!
# What a build logs

The bodies of loops are routines: they make calls on builders, join parts and start loops, and then
give a part. A routine announces its calls when a build evaluates it, and again when another build
does. So the log of a build tells first what the routines announce that it evaluates, in the order
of their evaluation, and at last the rendered query with the kinds of all clauses.
-/

namespace CypherText

variable {π β σ : Type}

/-- What can be done with a builder. -/
inductive Operation (π β : Type) where
  | call (given : Call)
  | andThen (other : Part π β)
  | forEach (bodies : List β)
  | whileLoop (condition : π) (body : Part π β)

namespace Operation

/-- Performs an operation on a builder. -/
def apply (env : Env) (operation : Operation π β) (b : Builder π β) : Logged (Builder π β) :=
  match operation with
  | call given => given.apply env b
  | andThen other => b.andThen other
  | forEach bodies => pure (b.forEach bodies)
  | whileLoop condition body => b.whileLoop condition body

/-- The call that an operation makes, if it is one. -/
def call? : Operation π β → Option Call
  | call given => some given
  | _ => none

variable {env : Env} {operation : Operation π β} {b made : Builder π β}

/-- Only the call of an operation is announced. -/
theorem events_apply (onlyReports : b.extractor.OnlyReports)
    (applied : (operation.apply env b).result = .ok made) :
    (operation.apply env b).events = operation.call?.toList.flatMap (Call.announcements env) := by
  cases operation with
  | call given =>
      have announced : (Operation.apply env (call given) b).events = given.announcements env :=
        Call.events_apply onlyReports applied
      simpa [call?] using announced
  | andThen other =>
      rcases other.onlyReports_toExpr.isQuiet.exists_events_bind applied with ⟨_, _, _, events⟩
      exact events
  | forEach bodies => rfl
  | whileLoop condition body =>
      rcases body.onlyReports_toExpr.isQuiet.exists_events_bind applied with ⟨_, _, _, events⟩
      exact events

/-- An operation leaves an extractor in force that only reports failures, if one was in force and it
gives no other. -/
theorem onlyReports_of_apply (onlyReports : b.extractor.OnlyReports)
    (reports : ∀ extractor, operation = call (.withExtractor extractor) → extractor.OnlyReports)
    (applied : (operation.apply env b).result = .ok made) : made.extractor.OnlyReports := by
  cases operation with
  | call given =>
      refine Call.extractor_of_apply onlyReports (fun extractor gives => ?_) applied
      exact reports extractor (congrArg call gives)
  | andThen other =>
      rcases Logged.result_bind_eq_ok_iff.mp applied with ⟨e, _, extended⟩
      cases extended
      exact onlyReports
  | forEach bodies =>
      cases applied
      exact onlyReports
  | whileLoop condition body =>
      rcases Logged.result_bind_eq_ok_iff.mp applied with ⟨e, _, extended⟩
      cases extended
      exact onlyReports

end Operation

/-- The code of a loop body. It performs operations on builders, each with what the ones before have
made at hand, and gives a part at last. -/
inductive Routine (π β : Type) where
  | give (part : Part π β)
  | perform (operation : Operation π β) (on : Builder π β) (next : Builder π β → Routine π β)

namespace Routine

/-- What a routine logs and gives. -/
def outcome (env : Env) : Routine π β → Logged (Part π β)
  | give part => pure part
  | perform operation on next => operation.apply env on >>= fun made => outcome env (next made)

/-- The calls that a routine makes, in their order, until it ends or an operation fails. -/
def calls (env : Env) : Routine π β → List Call
  | give _ => []
  | perform operation on next =>
    operation.call?.toList ++
      match (operation.apply env on).result with
      | .ok made => calls env (next made)
      | .error _ => []

/-- Whether the operations of a routine are performed on builders whose extractors only report
failures, as all do that are made with operations from the empty one unless one of these gives
another extractor. -/
def IsPlain (env : Env) : Routine π β → Prop
  | give _ => True
  | perform operation on next =>
    on.extractor.OnlyReports ∧
      ∀ made, (operation.apply env on).result = .ok made → IsPlain env (next made)

/-- A routine that gives a part has logged what its calls announce. -/
theorem events_outcome {env : Env} {routine : Routine π β} (isPlain : routine.IsPlain env)
    {part : Part π β} (gives : (routine.outcome env).result = .ok part) :
    (routine.outcome env).events = (routine.calls env).flatMap (Call.announcements env) := by
  induction routine with
  | give given => rfl
  | perform operation on next ih =>
      rcases isPlain with ⟨onlyReports, others⟩
      rcases Logged.result_bind_eq_ok_iff.mp gives with ⟨made, applied, goesOn⟩
      have rest := ih made (others made applied) goesOn
      rw [outcome, Logged.bind_of_ok applied, calls, applied, List.flatMap_append, ← rest,
        Operation.events_apply onlyReports applied]

end Routine

/-- Whether a record is the one of a rendered query: it has the names of the kinds of all clauses,
and the text. -/
structure Event.IsOfQuery (record : Event) (clauses : List Clause) (text : String) : Prop where
  message : record.message = "Rendered Cypher query"
  fields : record.fields =
    [("clauses", .list (clauses.map fun clause => .text clause.kind.name)), ("query", .text text)]

theorem Event.isOfQuery_rendered (clauses : List Clause) (text : String) :
    (Event.rendered (clauses.map Clause.kind) text).IsOfQuery clauses text where
  message := rfl
  fields := by simp [Event.fields]

/-! ## The bodies that a run evaluates -/

namespace World

/-- The world with notes beside its state. -/
def noted {ν : Type} (w : World σ) (notes : ν) : World (σ × ν) :=
  ⟨w.log, (w.state, notes)⟩

end World

namespace Host

/-- The same host, which also notes the bodies that it evaluates, in their order, each with the
state in which it does. -/
def noting (host : Host π β σ) : Host π β (σ × List (β × σ)) where
  ask condition w :=
    ((host.ask condition ⟨w.log, w.state.1⟩).1,
      (host.ask condition ⟨w.log, w.state.1⟩).2.noted w.state.2)
  eval body w :=
    ((host.eval body ⟨w.log, w.state.1⟩).1,
      (host.eval body ⟨w.log, w.state.1⟩).2.noted (w.state.2 ++ [(body, w.state.1)]))

/-- Whether bodies that give something do what their routines do, and these are plain. Which routine
a body is may depend on the state. Conditions that give an answer log nothing. -/
structure Follows (host : Host π β σ) (env : Env) (routine : β → σ → Routine π β) : Prop where
  isPlain : ∀ body s, (routine body s).IsPlain env
  gives : ∀ body w part evaluated, host.eval body w = (.ok part, evaluated) →
    ((routine body w.state).outcome env).result = .ok part ∧
      evaluated.log = w.log ++ ((routine body w.state).outcome env).events
  answers : ∀ condition w answer asked, host.ask condition w = (.ok answer, asked) →
    asked.log = w.log

/-- What evaluated bodies announce. -/
def announced (env : Env) (routine : β → σ → Routine π β) (evaluated : List (β × σ)) :
    List Event :=
  evaluated.flatMap fun note => ((routine note.1 note.2).calls env).flatMap (Call.announcements env)

variable {host : Host π β σ} {env : Env} {routine : β → σ → Routine π β}

theorem isRoutine_of_mem_announced {evaluated : List (β × σ)} {event : Event}
    (among : event ∈ announced env routine evaluated) : event.IsRoutine := by
  rcases List.mem_flatMap.mp among with ⟨note, _, amongCalls⟩
  rcases List.mem_flatMap.mp amongCalls with ⟨call, _, amongOne⟩
  exact Call.isRoutine_of_mem_announcements amongOne

/-- A body that gives an expression is noted, and has logged what its calls announce. -/
theorem Follows.evalExpr (follows : host.Follows env routine) {body : β} {e : Expr π β}
    {w after : World σ} (gives : host.evalExpr body w = (.ok e, after))
    (notes : List (β × σ)) :
    host.noting.evalExpr body (w.noted notes) =
        (.ok e, after.noted (notes ++ [(body, w.state)])) ∧
      after.log = w.log ++ announced env routine [(body, w.state)] := by
  rcases given : host.eval body w with ⟨result, evaluated⟩
  cases result with
  | error halt => simp [Host.evalExpr, given] at gives
  | ok part =>
      simp only [Host.evalExpr, given, Prod.mk.injEq] at gives
      rcases gives with ⟨converted, rfl⟩
      have silent : part.toExpr.events = [] :=
        part.onlyReports_toExpr.isQuiet e (Halt.eq_ok_of_mapError converted)
      rcases follows.gives body w part evaluated given with ⟨outcome, log⟩
      have events := Routine.events_outcome (follows.isPlain body w.state) outcome
      constructor
      · simp [Host.evalExpr, noting, given, converted, World.noted, World.record]
      · simp [silent, log, events, announced]

theorem ask_noting {condition : π} {w asked : World σ} {answer : Bool}
    (answers : host.ask condition w = (.ok answer, asked)) (notes : List (β × σ)) :
    host.noting.ask condition (w.noted notes) = (.ok answer, asked.noted notes) := by
  simp [noting, World.noted, answers]

/-- A run that comes to its end has logged what the bodies announce that it has evaluated. -/
theorem Follows.exists_completes_noting (follows : host.Follows env routine)
    {steps : List (Step π β)} {w left : World σ} {clauses : List Clause}
    (done : host.Completes steps w clauses left) (notes : List (β × σ)) :
    ∃ evaluated, host.noting.Completes steps (w.noted notes) clauses
        (left.noted (notes ++ evaluated)) ∧
      left.log = w.log ++ announced env routine evaluated := by
  induction done generalizing notes with
  | nil => exact ⟨[], by simpa using .nil, by simp [announced]⟩
  | clause _ ih =>
      rcases ih notes with ⟨evaluated, noted, log⟩
      exact ⟨evaluated, .clause noted, log⟩
  | forEachNil _ ih =>
      rcases ih notes with ⟨evaluated, noted, log⟩
      exact ⟨evaluated, .forEachNil noted, log⟩
  -- A body is noted and logs in front of the bodies of its own loops, and these in front of the
  -- bodies that are left.
  | @forEachCons body _ _ _ w _ _ _ _ _ given _ _ turn tail =>
      rcases follows.evalExpr given notes with ⟨noted, log⟩
      rcases turn (notes ++ [(body, w.state)]) with ⟨inner, turnNoted, turnLog⟩
      rcases tail (notes ++ [(body, w.state)] ++ inner) with ⟨others, tailNoted, tailLog⟩
      refine ⟨(body, w.state) :: (inner ++ others), ?_, ?_⟩
      · have order : notes ++ (body, w.state) :: (inner ++ others) =
            notes ++ [(body, w.state)] ++ inner ++ others := by simp
        rw [order]
        exact .forEachCons noted turnNoted tailNoted
      · rw [tailLog, turnLog, log]
        simp [announced]
  | whileTrue holds _ _ turn tail =>
      rcases turn notes with ⟨inner, turnNoted, turnLog⟩
      rcases tail (notes ++ inner) with ⟨others, tailNoted, tailLog⟩
      refine ⟨inner ++ others, ?_, ?_⟩
      · rw [← List.append_assoc]
        exact .whileTrue (ask_noting holds notes) turnNoted tailNoted
      · rw [tailLog, turnLog, follows.answers _ _ _ _ holds]
        simp [announced]
  | whileFalse fails _ ih =>
      rcases ih notes with ⟨evaluated, noted, log⟩
      rw [follows.answers _ _ _ _ fails] at log
      exact ⟨evaluated, .whileFalse (ask_noting fails notes) noted, log⟩

/-- What a build logs that gives a text: what the bodies announce that it evaluates, in the order of
their evaluation, and then one record of the rendered query. A build that starts later, in the world
that an earlier one has left, logs all this again. For a builder that was made from the empty one
with calls alone, none of which gives an extractor that itself logs records of clauses, the clauses
were announced at once, and a build only logs the record, which names them. All these records are
visible where debugging is on. -/
theorem Follows.log_mirrors_query (follows : host.Follows env routine) :
    (∀ (e : Expr π β) (w after : World σ) (fuel : Nat) (separator text : String),
      host.render fuel separator e w = (.ok text, after) →
      ∃ (clauses : List Clause) (evaluated : List (β × σ)) (left : World σ) (record : Event),
        host.Completes e.steps w clauses left ∧
        host.noting.Completes e.steps (w.noted []) clauses (left.noted evaluated) ∧
        text = Clause.joined separator clauses ∧
        after.log = w.log ++ (announced env routine evaluated ++ [record]) ∧
        (∀ event ∈ announced env routine evaluated, event.IsRoutine) ∧
        record.IsOfQuery clauses text ∧
        ∀ event ∈ announced env routine evaluated ++ [record],
          event.isVisible Severity.debug.number = true) ∧
    ∀ (calls : List Call) (b : Builder π β),
      (∀ extractor, Call.withExtractor extractor ∈ calls → extractor.NamesNoClause) →
      (Call.applyAll env calls .empty).result = .ok b →
      ∃ clauses : List Clause, b.expr.steps = clauses.map .clause ∧
        (Call.applyAll env calls (.empty : Builder π β)).events.filterMap Event.clauseName? =
          clauses.map (fun clause => .text clause.kind.name) ∧
        ∀ (separator : String) (w : World σ), ∃ cost record,
          record.IsOfQuery clauses (Clause.joined separator clauses) ∧
          ∀ fuel, host.render (cost + fuel) separator b.expr w =
            (.ok (Clause.joined separator clauses), w.record [record]) := by
  constructor
  · intro e w after fuel separator text rendered
    rcases exists_completes_of_render rendered with ⟨clauses, left, done, joined, rfl⟩
    rcases follows.exists_completes_noting done [] with ⟨evaluated, noted, log⟩
    have isOfQuery := Event.isOfQuery_rendered clauses text
    refine ⟨clauses, evaluated, left, _, done, noted, joined, ?_, ?_, isOfQuery, ?_⟩
    · rw [World.log_record, log, List.append_assoc]
    · intro event among
      exact isRoutine_of_mem_announced among
    · intro event _
      exact event.isVisible_debug
  · intro calls b given applied
    have namesNone : Extractor.standard.NamesNoClause :=
      Extractor.onlyReports_standard.namesNoClause
    rcases Call.exists_clauses_of_applyAll namesNone given applied with ⟨clauses, steps, named⟩
    have onlyClauses : b.expr.steps = clauses.map .clause := steps
    refine ⟨clauses, onlyClauses, named, ?_⟩
    intro separator w
    have done := completes_clauses host clauses w
    rw [← onlyClauses] at done
    rcases done.exists_render separator with ⟨cost, renders⟩
    exact ⟨cost, _, Event.isOfQuery_rendered .., renders⟩

/-- A host whose bodies do what their routines do, and leave the state as it is. Its conditions log
nothing. -/
def ofRoutines (env : Env) (ask : π → σ → Except Failure Bool × σ) (routine : β → σ → Routine π β) :
    Host π β σ where
  ask condition w :=
    ((ask condition w.state).1.mapError .failed, { w with state := (ask condition w.state).2 })
  eval body w :=
    (((routine body w.state).outcome env).result.mapError .failed,
      w.record ((routine body w.state).outcome env).events)

theorem follows_ofRoutines {ask : π → σ → Except Failure Bool × σ}
    (isPlain : ∀ body s, (routine body s).IsPlain env) :
    (ofRoutines env ask routine).Follows env routine where
  isPlain := isPlain
  gives := by
    intro body w part evaluated given
    rcases Prod.mk.inj given with ⟨outcome, rfl⟩
    exact ⟨Halt.eq_ok_of_mapError outcome, rfl⟩
  answers := by
    intro condition w answer asked answered
    rcases Prod.mk.inj answered with ⟨_, rfl⟩
    rfl

/-- A body makes a clause that is in use nowhere, and gives a builder with two others. All three are
announced while the query is built, and the record of the query names the two and what follows.
Where such clauses are appended by calls alone, among which is one for an extractor, they are
announced at once. -/
theorem log_mirrors_query_of_countdown :
    let env : Env := ⟨"\n", "true", ⟨0, 900⟩⟩
    let routine (text : String) (_ : Nat) : Routine Unit String :=
      .perform (.call (.raw text)) .empty fun _ =>
        .perform (.call (.matching text)) .empty fun first =>
          .perform (.call (.wherePredicate (.function "isOld"))) first fun made =>
            .give (.builder made)
    let host := ofRoutines env (fun _ n => (.ok (0 < n), n - 1)) routine
    let e : Expr Unit String := .forEach ["(a)"] ++ .whileLoop () (.clause .raw "A")
    let calls : List Call := [.matching "(a)", .withExtractor (.constant ⟨.plain "T", []⟩),
      .wherePredicate (.function "isOld")]
    (∃ record, (host.render 7 "\n" e ⟨[], 1⟩).2.log =
        [.appending .raw, .appending .matching, .placeholder "isOld", .appending .filter, record] ∧
      record.IsOfQuery [⟨.matching, "MATCH (a)"⟩, ⟨.filter, "WHERE true"⟩, ⟨.raw, "A"⟩]
        "MATCH (a)\nWHERE true\nA") ∧
    ∃ clauses : List Clause,
      clauses.map (fun clause => Datum.text clause.kind.name) = [.text "MATCH", .text "WHERE"] ∧
      (Call.applyAll env calls (.empty : Builder Unit String)).events.filterMap
          Event.clauseName? = clauses.map fun clause => .text clause.kind.name := by
  intro env routine host e calls
  have follows : host.Follows env routine := by
    apply follows_ofRoutines
    intro text n
    refine ⟨Extractor.onlyReports_standard, ?_⟩
    intro _ _
    refine ⟨Extractor.onlyReports_standard, ?_⟩
    intro first applied
    refine ⟨Operation.onlyReports_of_apply Extractor.onlyReports_standard ?_ applied,
      fun _ _ => trivial⟩
    intro _ gives
    cases gives
  have rendered : host.render 7 "\n" e ⟨[], 1⟩ =
      (.ok "MATCH (a)\nWHERE true\nA", (host.render 7 "\n" e ⟨[], 1⟩).2) := by
    rfl
  rcases follows.log_mirrors_query.1 e _ _ _ _ _ rendered with
    ⟨clauses, evaluated, left, record, _, noted, _, log, _, isOfQuery, _⟩
  have done : host.noting.Completes e.steps ((⟨[], 1⟩ : World Nat).noted [])
      [⟨.matching, "MATCH (a)"⟩, ⟨.filter, "WHERE true"⟩, ⟨.raw, "A"⟩] _ :=
    .forEachCons rfl (.clause (.clause .nil))
      (.forEachNil (.whileTrue rfl (.clause .nil) (.whileFalse rfl .nil)))
  rcases noted.unique done with ⟨rfl, same⟩
  have notes : evaluated = [("(a)", 1)] := congrArg (fun w => w.state.2) same
  rw [notes] at log
  refine ⟨⟨record, log, isOfQuery⟩, ?_⟩
  have namesNone : ∀ extractor, Call.withExtractor extractor ∈ calls → extractor.NamesNoClause := by
    intro extractor among
    have isConstant : extractor = .constant ⟨.plain "T", []⟩ := by simpa [calls] using among
    exact isConstant ▸ (Extractor.onlyReports_constant _).namesNoClause
  rcases follows.log_mirrors_query.2 calls _ namesNone rfl with ⟨appended, steps, announced, _⟩
  refine ⟨appended, ?_, announced⟩
  rw [← announced]
  rfl

end Host

end CypherText
