import CypherText.Proofs.Script.Invocation

/-!
# Running scripts is lawful

By one induction on the fuel every reference, every statement and every loop body that obeys is
lawful. So a script never leaves the stores that obey, and whatever fails in it is reported once, by
the last record that it writes.
-/

namespace CypherText

namespace Script

variable {ι : Type} {env : Env} {p q : Permission}

open Effect

/-! ## Building and running -/

section Host

variable {host : Host Condition (Body ι) (Store ι)}

theorem run_renderWith (host : Host Condition (Body ι) (Store ι)) (fuel : Nat) (separator : String)
    (e : Expr Condition (Body ι)) (w : World (Store ι)) :
    (renderWith host fuel separator e).run.run w =
      ((host.render fuel separator e w).1.map .text, (host.render fuel separator e w).2) := by
  have got : (get : Effect ι (World (Store ι))).run.run w = (.ok w, w) := rfl
  rw [renderWith, run_bind_of_ok got]
  cases rendered : (host.render fuel separator e w).1 with
  | ok text =>
      simp only [rendered]
      rfl
  | error reason =>
      simp only [rendered]
      rfl

/-- A build that fails leaves only what the bodies wrote before the report of the failure. -/
theorem exists_trace_renderWith (sound : host.IsSound p.Allows (Store.Obeys p) (Body.Obeys p))
    (fuel : Nat) (separator : String) {e : Expr Condition (Body ι)} (each : e.Each (Body.Obeys p))
    {s : Store ι} (obeys : s.Obeys p) :
    ∃ t : Trace (Store ι) Answer, t.state.Obeys p ∧
      (∀ record ∈ t.before, p.Allows record ∨
        ∃ kinds text, record = .rendered kinds text ∧ t.result = .ok (.text text)) ∧
      ∀ log, (renderWith host fuel separator e).run.run ⟨log, s⟩ = (t.result, t.world log) := by
  obtain ⟨t, kept, records, renders⟩ :=
    sound.render p.allows_of_isRoutine fuel separator each obeys
  refine ⟨t.map .text, kept, ?_, ?_⟩
  · intro record among
    rcases records record among with allowed | ⟨kinds, text, rfl, result⟩
    · exact .inl allowed
    · exact .inr ⟨kinds, text, rfl, congrArg (Except.map Answer.text) result⟩
  · intro log
    rw [run_renderWith, renders, Trace.world_map, Trace.map]

theorem isLawful_renderWith (sound : host.IsSound p.Allows (Store.Obeys p) (Body.Obeys p))
    (isWithin : p.IsWithin q) (builds : q.builds = true) (fuel : Nat) (separator : String)
    {e : Expr Condition (Body ι)} (each : e.Each (Body.Obeys p)) :
    IsLawful p q (fun _ => True) (renderWith host fuel separator e) := by
  intro s obeys
  obtain ⟨t, kept, records, renders⟩ := exists_trace_renderWith sound fuel separator each obeys
  refine ⟨t, ⟨?_, kept, fun _ _ => trivial⟩, renders⟩
  intro record among
  rcases records record among with allowed | ⟨kinds, text, rfl, _⟩
  · exact isWithin.allows allowed
  · exact builds

/-- Running an expression several times into one buffer is traced like one run. -/
theorem exists_trace_runTimes (sound : host.IsSound p.Allows (Store.Obeys p) (Body.Obeys p))
    (fuel : Nat) {e : Expr Condition (Body ι)} (each : e.Each (Body.Obeys p)) (times : Nat)
    (buffer : Buffer) {s : Store ι} (obeys : s.Obeys p) :
    ∃ (t : Trace (Store ι) Unit) (filled : Buffer),
      t.IsSound p.Allows (Store.Obeys p) (fun _ => True) ∧
      ∀ log, runTimes host fuel e times buffer ⟨log, s⟩ = ⟨t.result, filled, t.world log⟩ := by
  induction times generalizing buffer s with
  | zero =>
      refine ⟨.success () s, buffer, Trace.isSound_success obeys trivial, ?_⟩
      intro log
      rw [Trace.world_success]
      rfl
  | succ times ih =>
      obtain ⟨t, filled, traceSound, runs⟩ :=
        sound.run p.allows_of_isRoutine fuel each buffer s obeys
      cases outcome : t.result with
      | error reason =>
          refine ⟨t, filled, traceSound, ?_⟩
          intro log
          simp [runTimes, runs, outcome]
      | ok done =>
          obtain ⟨last, written, lastSound, others⟩ := ih filled traceSound.keeps
          refine ⟨t.after last, written, traceSound.after lastSound, ?_⟩
          intro log
          rw [Trace.world_after outcome]
          simp only [runTimes, runs, outcome]
          exact others _

theorem run_runWith (host : Host Condition (Body ι) (Store ι)) (fuel : Nat) (separator : String)
    (times : Nat) (e : Expr Condition (Body ι)) (w : World (Store ι)) :
    (runWith host fuel separator times e).run.run w =
      let execution := runTimes host fuel e times (.empty separator) w
      let buffer := execution.buffer
      ((match execution.outcome with
        | .ok () => .ok (.run buffer.text buffer.kinds.toList none)
        | .error (.failed failure) => .ok (.run buffer.text buffer.kinds.toList (some failure))
        | .error .exhausted => .error .exhausted), execution.world) := by
  have got : (get : Effect ι (World (Store ι))).run.run w = (.ok w, w) := rfl
  rw [runWith, run_bind_of_ok got]
  dsimp only
  generalize runTimes host fuel e times (.empty separator) w = execution
  obtain ⟨outcome, buffer, after⟩ := execution
  cases outcome with
  | ok done => rfl
  | error reason =>
      cases reason with
      | failed failure => rfl
      | exhausted => rfl

/-- The report of a failure that is kept counts among the records before the end. -/
theorem isLawful_runWith (sound : host.IsSound p.Allows (Store.Obeys p) (Body.Obeys p))
    (isWithin : p.IsWithin q) (keeps : q.keepsFailures = true) (fuel : Nat) (separator : String)
    (times : Nat) {e : Expr Condition (Body ι)} (each : e.Each (Body.Obeys p)) :
    IsLawful p q (fun _ => True) (runWith host fuel separator times e) := by
  intro s obeys
  obtain ⟨t, filled, traceSound, runs⟩ :=
    exists_trace_runTimes sound fuel each times (.empty separator) obeys
  have allowed (record : Event) (among : record ∈ t.before) : q.Allows record :=
    isWithin.allows (traceSound.isAllowed record among)
  cases outcome : t.result with
  | ok done =>
      refine ⟨⟨.ok (.run filled.text filled.kinds.toList none), t.before, t.state⟩,
        ⟨allowed, traceSound.keeps, fun _ _ => trivial⟩, ?_⟩
      intro log
      rw [run_runWith]
      simp [runs, outcome, Trace.world, Halt.recordsOf]
  | error reason =>
      cases reason with
      | failed failure =>
          refine ⟨⟨.ok (.run filled.text filled.kinds.toList (some failure)),
            t.before ++ failure.records, t.state⟩, ⟨?_, traceSound.keeps, fun _ _ => trivial⟩, ?_⟩
          · intro record among
            rcases List.mem_append.mp among with among | among
            · exact allowed record among
            · exact Permission.allows_of_mem_records keeps among
          · intro log
            rw [run_runWith]
            simp [runs, outcome, Trace.world, Halt.recordsOf, Halt.records]
      | exhausted =>
          refine ⟨⟨.error .exhausted, t.before, t.state⟩,
            ⟨allowed, traceSound.keeps, fun _ _ => trivial⟩, ?_⟩
          intro log
          rw [run_runWith]
          simp [runs, outcome, Trace.world, Halt.recordsOf, Halt.records]

/-- What an operation does that is ready to take place. -/
theorem isLawful_perform {fuel : Nat}
    (sound : (Script.host env fuel : Host Condition (Body ι) (Store ι)).IsSound p.Allows
      (Store.Obeys p) (Body.Obeys p))
    (isWithin : p.IsWithin q) {invocation : Invocation ι} (obeys : invocation.Obeys p)
    (builds : invocation.IsBuild → q.builds = true) (frame : Nat) (out : String) :
    IsLawful p q (fun _ => True) (invocation.perform env fuel frame out) := by
  cases invocation with
  | call made thing => exact (isLawful_performCall env obeys.1 obeys.2).kept frame out
  | forEach thing bodies =>
      refine IsLawful.bind (isLawful_builderOf obeys.1) ?_
      intro b isGood
      refine IsLawful.bind isLawful_freshId ?_
      intro exprId _
      have looped : (Part.builder (b.forEach bodies)).IsGood (Body.Obeys p) :=
        ⟨isGood.1.append (Expr.each_forEach obeys.2), isGood.2⟩
      exact (isLawful_makeBuilder exprId looped).kept frame out
  | forEachExpr bodies => exact (isLawful_makeExpr (Expr.each_forEach obeys)).kept frame out
  | whileLoop condition body thing =>
      refine IsLawful.bind (isLawful_builderOf obeys.2) ?_
      intro b isGood
      refine IsLawful.bind (isLawful_whileLoop condition isGood obeys.1) ?_
      intro made madeGood
      refine IsLawful.bind isLawful_freshId ?_
      intro exprId _
      exact (isLawful_makeBuilder exprId madeGood).kept frame out
  | whileExpr condition body =>
      refine IsLawful.bind (isLawful_toExpr obeys) ?_
      intro e each
      exact (isLawful_makeExpr (each.whileLoop condition)).kept frame out
  | andThen thing other => exact (isLawful_join obeys.1 obeys.2).kept frame out
  | plus thing other => exact (isLawful_add obeys.1 obeys.2).kept frame out
  | build thing separator =>
      refine IsLawful.bind (isLawful_exprOf obeys) ?_
      intro e each
      exact isLawful_renderWith sound isWithin (builds trivial) fuel _ each
  | buildPart part separator =>
      refine IsLawful.bind (isLawful_toExpr obeys) ?_
      intro e each
      exact isLawful_renderWith sound isWithin (builds trivial) fuel _ each

end Host

/-! ## Statements -/

/-- With so much fuel all that obeys is lawful. -/
structure Laws (ι : Type) (env : Env) (p : Permission) (fuel : Nat) : Prop where
  evalRef : ∀ {q : Permission} {ref : Ref ι}, p.IsWithin q → ref.Obeys p q → ∀ frame,
    IsLawful p q (Thing.Obeys p) (evalRef env fuel frame ref)
  evalAll : ∀ {q : Permission} {refs : List (Ref ι)}, p.IsWithin q →
    (∀ ref ∈ refs, ref.Obeys p q) → ∀ frame,
    IsLawful p q (fun things => ∀ thing ∈ things, thing.Obeys p) (evalAll env fuel frame refs)
  execAll : ∀ {q : Permission} {statements : List (Statement ι)}, p.IsWithin q →
    (∀ statement ∈ statements, statement.action.Obeys p q) → ∀ frame,
    IsLawful p q (fun _ => True) (execAll env fuel frame statements)
  exec : ∀ {q : Permission} {statement : Statement ι}, p.IsWithin q →
    statement.action.Obeys p q → ∀ frame,
    IsLawful p q (fun _ => True) (exec env fuel frame statement)
  host : (host env fuel : Host Condition (Body ι) (Store ι)).IsSound p.Allows (Store.Obeys p)
    (Body.Obeys p)

/-- Asking a condition logs nothing, and keeps the objects in the registers. -/
theorem isTraced_askIn (condition : Condition) :
    IsTraced p.Allows (Store.Obeys p) (fun _ => True)
      (askIn condition : World (Store ι) → Except Halt Bool × World (Store ι)) := by
  intro s obeys
  refine ⟨.success (s.ask condition).1 (s.ask condition).2,
    Trace.isSound_success (Store.ask_obeys condition obeys) trivial, ?_⟩
  intro log
  rw [Trace.world_success]
  rfl

theorem laws_zero : Laws ι env p 0 where
  evalRef _ _ _ := by
    rw [evalRef]
    exact IsLawful.exhausted
  evalAll _ _ _ := by
    rw [evalAll]
    exact IsLawful.exhausted
  execAll _ _ _ := by
    rw [execAll]
    exact IsLawful.exhausted
  exec _ _ _ := by
    rw [exec]
    exact IsLawful.exhausted
  host := {
    ask := isTraced_askIn
    eval := by
      intro _ _ s obeys
      refine ⟨.halt .exhausted s, Trace.isSound_halt .exhausted obeys, ?_⟩
      intro log
      simp [host, Trace.halt, Trace.world, Halt.recordsOf, Halt.records] }

variable {fuel : Nat}

theorem isLawful_evalRef (laws : Laws ι env p fuel) (isWithin : p.IsWithin q) {ref : Ref ι}
    (obeys : ref.Obeys p q) (frame : Nat) :
    IsLawful p q (Thing.Obeys p) (evalRef env (fuel + 1) frame ref) := by
  cases obeys with
  | register =>
      rw [evalRef]
      exact isLawful_register frame _
  | value =>
      rw [evalRef]
      exact IsLawful.pure trivial
  | holder obeys =>
      rw [evalRef]
      exact IsLawful.bind (laws.evalRef isWithin obeys frame) fun _ held => IsLawful.pure held
  | script all gives =>
      rw [evalRef]
      refine IsLawful.bind (isLawful_nestedFrame frame) ?_
      intro inner _
      refine IsLawful.bind (laws.execAll isWithin all inner) ?_
      intro _ _
      exact laws.evalRef isWithin gives inner
  | refused isSilent =>
      rw [evalRef]
      exact IsLawful.fail isSilent

theorem isLawful_evalAll (laws : Laws ι env p fuel) (isWithin : p.IsWithin q)
    {refs : List (Ref ι)} (all : ∀ ref ∈ refs, ref.Obeys p q) (frame : Nat) :
    IsLawful p q (fun things => ∀ thing ∈ things, thing.Obeys p)
      (evalAll env (fuel + 1) frame refs) := by
  cases refs with
  | nil =>
      rw [evalAll]
      exact IsLawful.pure (List.forall_mem_nil _)
  | cons ref rest =>
      obtain ⟨first, others⟩ := List.forall_mem_cons.mp all
      rw [evalAll]
      refine IsLawful.bind (laws.evalRef isWithin first frame) ?_
      intro thing obeys
      refine IsLawful.bind (laws.evalAll isWithin others frame) ?_
      intro things allObey
      exact IsLawful.pure (List.forall_mem_cons.mpr ⟨obeys, allObey⟩)

theorem isLawful_execAll (laws : Laws ι env p fuel) (isWithin : p.IsWithin q)
    {statements : List (Statement ι)} (all : ∀ statement ∈ statements, statement.action.Obeys p q)
    (frame : Nat) : IsLawful p q (fun _ => True) (execAll env (fuel + 1) frame statements) := by
  cases statements with
  | nil =>
      rw [execAll]
      exact IsLawful.pure trivial
  | cons statement rest =>
      obtain ⟨first, others⟩ := List.forall_mem_cons.mp all
      rw [execAll]
      exact IsLawful.bind (laws.exec isWithin first frame) fun _ _ =>
        laws.execAll isWithin others frame

/-- What a body gives is what its reference means. -/
theorem isSound_host (laws : Laws ι env p fuel) :
    (host env (fuel + 1) : Host Condition (Body ι) (Store ι)).IsSound p.Allows (Store.Obeys p)
      (Body.Obeys p) where
  ask := isTraced_askIn
  eval body isGood := by
    intro s obeys
    obtain ⟨t, sound, runs⟩ := laws.evalRef p.isWithin_self isGood body.frame s obeys
    refine ⟨t.map Thing.part, sound.map fun _ good => good, ?_⟩
    intro log
    rw [Trace.world_map]
    simp [host, runs, Trace.map]

/-- What a statement that calls an operation refers to is evaluated lawfully. -/
theorem isLawful_receive (laws : Laws ι env p fuel) (isWithin : p.IsWithin q) {action : Action ι}
    (obeys : action.Obeys p q) {frame : Nat} {source : String}
    {received : Effect ι (Invocation ι)}
    (receives : action.receive env fuel frame source = some received) :
    IsLawful p q
      (fun invocation => invocation.Obeys p ∧ (invocation.IsBuild → q.builds = true)) received := by
  obtain ⟨isSilent, isPermitted, operands, bodies⟩ := obeys
  have operand (ref : Ref ι) (given : action.operands = [ref]) :
      IsLawful p q (Thing.Obeys p) (evalRef env fuel frame ref) := by
    refine laws.evalRef isWithin (operands ref ?_) frame
    rw [given]
    exact List.mem_cons_self
  have makesBodies (body : ι → Ref ι) (given : action.body? = some body) (items : List ι) :
      ∀ made ∈ items.map fun item => (⟨frame, body item⟩ : Body ι), made.Obeys p := by
    intro made among
    obtain ⟨item, _, rfl⟩ := List.mem_map.mp among
    exact bodies body given item
  cases action with
  | call made =>
      cases receives
      refine IsLawful.bind (isLawful_register frame source) ?_
      intro thing obeys
      exact IsLawful.pure ⟨⟨isSilent, obeys⟩, nofun⟩
  | forEach items body =>
      cases receives
      refine IsLawful.bind (isLawful_register frame source) ?_
      intro thing obeys
      refine IsLawful.bind (isLawful_itemsOf items) ?_
      intro items _
      exact IsLawful.pure ⟨⟨obeys, makesBodies body rfl items⟩, nofun⟩
  | forEachExpr items body =>
      cases receives
      refine IsLawful.bind (isLawful_itemsOf items) ?_
      intro items _
      exact IsLawful.pure ⟨makesBodies body rfl items, nofun⟩
  | whileLoop condition body =>
      cases receives
      refine IsLawful.bind (isLawful_conditionOf condition) ?_
      intro condition _
      refine IsLawful.bind (operand body rfl) ?_
      intro thing obeys
      refine IsLawful.bind (isLawful_register frame source) ?_
      intro target targetObeys
      exact IsLawful.pure ⟨⟨obeys, targetObeys⟩, nofun⟩
  | whileExpr condition body =>
      cases receives
      refine IsLawful.bind (isLawful_conditionOf condition) ?_
      intro condition _
      refine IsLawful.bind (operand body rfl) ?_
      intro thing obeys
      exact IsLawful.pure ⟨obeys, nofun⟩
  | andThen other | plus other =>
      cases receives
      refine IsLawful.bind (isLawful_register frame source) ?_
      intro thing obeys
      refine IsLawful.bind (operand other rfl) ?_
      intro more moreObeys
      exact IsLawful.pure ⟨⟨obeys, moreObeys⟩, nofun⟩
  | build separator =>
      cases receives
      refine IsLawful.bind (isLawful_register frame source) ?_
      intro thing obeys
      exact IsLawful.pure ⟨obeys, fun _ => isPermitted⟩
  | buildPart part separator =>
      cases receives
      refine IsLawful.bind (operand part rfl) ?_
      intro thing obeys
      exact IsLawful.pure ⟨obeys, fun _ => isPermitted⟩
  | _ => contradiction

theorem isLawful_exec (laws : Laws ι env p fuel) (isWithin : p.IsWithin q)
    {statement : Statement ι} (obeys : statement.action.Obeys p q) (frame : Nat) :
    IsLawful p q (fun _ => True) (exec env (fuel + 1) frame statement) := by
  obtain ⟨source, out, action⟩ := statement
  cases receives : action.receive env fuel frame source with
  | some received =>
      rw [exec_eq_receive receives]
      refine IsLawful.bind (isLawful_receive laws isWithin obeys receives) ?_
      intro invocation ready
      exact isLawful_perform laws.host isWithin ready.1 ready.2 frame out
  | none =>
      obtain ⟨isSilent, isPermitted, operands, _⟩ := obeys
      cases action with
      | fresh extractor =>
          have onlyReports : extractor.OnlyReports := isSilent
          rw [exec]
          exact (isLawful_makeBuilder _ ⟨Expr.each_empty, onlyReports⟩).kept frame out
      | clause kind text =>
          rw [exec]
          exact (isLawful_makeExpr (Expr.each_clause kind text)).kept frame out
      | empty =>
          rw [exec]
          exact isLawful_keep frame out Expr.each_empty
      | sequence parts =>
          rw [exec]
          refine IsLawful.bind (laws.evalAll isWithin operands frame) ?_
          intro things all
          exact (isLawful_sequence all).kept frame out
      | expr =>
          rw [exec]
          refine IsLawful.bind (isLawful_register frame source) ?_
          intro thing obeys
          refine IsLawful.bind (isLawful_builderOf obeys) ?_
          intro b isGood
          exact isLawful_keep frame out isGood.1
      | wrap extractor =>
          rw [exec]
          refine IsLawful.bind (isLawful_register frame source) ?_
          intro thing obeys
          cases thing with
          | expr id e =>
              have onlyReports : extractor.OnlyReports := isSilent
              have wrapped : (Part.builder ⟨e, extractor⟩).IsGood (Body.Obeys p) :=
                ⟨obeys, onlyReports⟩
              exact (isLawful_makeBuilder id wrapped).kept frame out
          | builder _ _ _ | holder _ | foreign _ => exact IsLawful.fail Failure.isSilent_unsupported
      | run separator times =>
          rw [exec]
          refine IsLawful.bind (isLawful_register frame source) ?_
          intro thing obeys
          refine IsLawful.bind (isLawful_exprOf obeys) ?_
          intro e each
          exact isLawful_runWith laws.host isWithin isPermitted fuel separator times each
      | inspect =>
          rw [exec]
          refine IsLawful.bind (isLawful_register frame source) ?_
          intro thing obeys
          exact IsLawful.bind (isLawful_builderOf obeys) fun _ _ => IsLawful.pure trivial
      | same other =>
          rw [exec]
          refine IsLawful.bind (isLawful_register frame source) ?_
          intro thing _
          refine IsLawful.bind (laws.evalRef isWithin (operands other List.mem_cons_self) frame) ?_
          intro more _
          exact IsLawful.pure trivial
      | truth =>
          rw [exec]
          exact IsLawful.bind (isLawful_register frame source) fun _ _ => IsLawful.pure trivial
      | extract entity =>
          rw [exec]
          refine IsLawful.bind (isLawful_register frame source) ?_
          intro thing obeys
          refine IsLawful.bind (isLawful_builderOf obeys) ?_
          intro b isGood
          exact isLawful_describe env isGood.2 isSilent
      | setCounter _ _ | setList _ _ =>
          rw [exec]
          refine IsLawful.bind (IsLawful.change fun _ obeys => obeys) ?_
          intro _ _
          exact IsLawful.pure trivial
      | getCounter name =>
          rw [exec]
          exact IsLawful.bind (IsLawful.read _) fun _ _ => IsLawful.pure trivial
      | appendList name item =>
          rw [exec]
          refine IsLawful.bind (IsLawful.read _) ?_
          intro items _
          refine IsLawful.bind (IsLawful.change fun _ obeys => obeys) ?_
          intro _ _
          exact IsLawful.pure trivial
      | refuse failure =>
          rw [exec]
          exact IsLawful.fail isSilent
      | _ => contradiction

/-- Whatever the fuel, all that obeys is lawful. -/
theorem laws (fuel : Nat) : Laws ι env p fuel := by
  induction fuel with
  | zero => exact laws_zero
  | succ fuel ih =>
      exact {
        evalRef := fun isWithin obeys => isLawful_evalRef ih isWithin obeys
        evalAll := fun isWithin all => isLawful_evalAll ih isWithin all
        execAll := fun isWithin all => isLawful_execAll ih isWithin all
        exec := fun isWithin obeys => isLawful_exec ih isWithin obeys
        host := isSound_host ih }

end Script

end CypherText
