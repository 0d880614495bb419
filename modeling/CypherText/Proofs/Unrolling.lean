import CypherText.Proofs.Replacement
import CypherText.Proofs.Script.Effect

/-!
# Loops over items, unrolled

Making a loop over items evaluates no body: the loop only keeps which body there is for each item. A
run of the loop evaluates the body of an item when the clauses of all items before it are written,
and runs what the body gives. So it ends as the items do in turn, whatever stands around the loop,
and the first item whose body or clauses fail is the last that is evaluated.
-/

namespace CypherText

variable {π β σ α : Type}

namespace Host

variable {host : Host π β σ} {body : α → β} {items done later : List α} {item : α}
  {buffer filled : Buffer} {w middle : World σ} {x : Execution σ}

/-- `host.InTurn body items buffer w x`: one item after the other is evaluated in the world that
those before it left, and what it gives is run into the buffer that they left, until there are no
more items or one gives nothing or fails. -/
inductive InTurn (host : Host π β σ) (body : α → β) :
    List α → Buffer → World σ → Execution σ → Prop
  | nil {buffer : Buffer} {w : World σ} : InTurn host body [] buffer w ⟨.ok (), buffer, w⟩
  | cons {item : α} {later : List α} {buffer : Buffer} {w evaluated : World σ} {e : Expr π β}
      {turn x : Execution σ} (gives : host.evalExpr (body item) w = (.ok e, evaluated))
      (ends : host.Ends e.steps buffer evaluated turn) (finished : turn.outcome = .ok ())
      (tail : InTurn host body later turn.buffer turn.world x) :
      InTurn host body (item :: later) buffer w x
  | refused {item : α} {later : List α} {buffer : Buffer} {w evaluated : World σ}
      {failure : Failure}
      (refuses : host.evalExpr (body item) w = (.error (.failed failure), evaluated)) :
      InTurn host body (item :: later) buffer w ⟨.error (.failed failure), buffer, evaluated⟩
  | failed {item : α} {later : List α} {buffer : Buffer} {w evaluated : World σ} {e : Expr π β}
      {turn : Execution σ} {failure : Failure}
      (gives : host.evalExpr (body item) w = (.ok e, evaluated))
      (ends : host.Ends e.steps buffer evaluated turn)
      (fails : turn.outcome = .error (.failed failure)) :
      InTurn host body (item :: later) buffer w turn

/-- A loop over items ends as the items do in turn. -/
theorem ends_forEach_iff :
    host.Ends [.forEach (items.map body)] buffer w x ↔ host.InTurn body items buffer w x := by
  constructor
  · intro ends
    induction items generalizing buffer w with
    | nil =>
        rw [List.map_nil, ends_forEach_nil_iff] at ends
        rw [ends]
        exact .nil
    | cons item later ih =>
        rcases given : host.evalExpr (body item) w with ⟨result, evaluated⟩
        cases result with
        | error halt =>
            rcases (ends_forEach_cons_of_error given).mp ends with ⟨notExhausted, rfl⟩
            cases halt with
            | failed failure => exact .refused given
            | exhausted => exact absurd rfl notExhausted
        | ok e =>
            rcases (ends_forEach_cons_of_ok given).mp ends with ⟨turn, turnEnds, goesOn⟩
            rcases Execution.finished_or_failed turnEnds.1 with finished | ⟨failure, fails⟩
            · exact .cons given turnEnds finished (ih ((Execution.goesOn_of_ok finished).mp goesOn))
            · rw [(Execution.goesOn_of_error fails).mp goesOn]
              exact .failed given turnEnds fails
  · intro inTurn
    induction inTurn with
    | nil => exact ends_forEach_nil_iff.mpr rfl
    | cons gives ends finished _ ih =>
        exact (ends_forEach_cons_of_ok gives).mpr
          ⟨_, ends, (Execution.goesOn_of_ok finished).mpr ih⟩
    | refused refuses => exact (ends_forEach_cons_of_error refuses).mpr ⟨by simp, rfl⟩
    | failed gives ends fails =>
        exact (ends_forEach_cons_of_ok gives).mpr
          ⟨_, ends, (Execution.goesOn_of_error fails).mpr rfl⟩

/-- Steps around a loop over items end as those in front, then the items in turn, then those behind.
-/
theorem ends_around_forEach_iff {before after : List (Step π β)} :
    host.Ends (before ++ ([.forEach (items.map body)] ++ after)) buffer w x ↔
      ∃ y, host.Ends before buffer w y ∧ y.GoesOn (fun filled middle x =>
        ∃ turns, host.InTurn body items filled middle turns ∧
          turns.GoesOn (host.Ends after) x) x := by
  have goesOn : host.Ends ([.forEach (items.map body)] ++ after) = fun filled middle x =>
      ∃ turns, host.InTurn body items filled middle turns ∧
        turns.GoesOn (host.Ends after) x := by
    funext filled middle x
    simp only [ends_append_iff, ends_forEach_iff]
  rw [ends_append_iff, goesOn]

/-- Items go on in turn behind others that have finished. -/
theorem InTurn.append (inTurn : host.InTurn body done buffer w ⟨.ok (), filled, middle⟩)
    (goesOn : host.InTurn body later filled middle x) :
    host.InTurn body (done ++ later) buffer w x := by
  generalize finish : (⟨.ok (), filled, middle⟩ : Execution σ) = y at inTurn
  induction inTurn with
  | nil =>
      cases finish
      exact goesOn
  | cons gives ends finished _ ih => exact .cons gives ends finished (ih finish)
  | refused => cases finish
  | failed _ _ fails =>
      rw [← finish] at fails
      contradiction

/-- An item that gives nothing or fails ends the turns, whatever items there are behind it. -/
theorem InTurn.of_failed {failure : Failure} (inTurn : host.InTurn body [item] buffer w x)
    (fails : x.outcome = .error (.failed failure)) (later : List α) :
    host.InTurn body (item :: later) buffer w x := by
  cases inTurn with
  | cons gives ends finished tail =>
      cases tail
      contradiction
  | refused refuses => exact .refused refuses
  | failed gives ends fails => exact .failed gives ends fails

/-! ## One loop for each item -/

/-- A loop over one body ends as what the body gives. -/
theorem ends_forEach_singleton_of_ok {body : β} {e : Expr π β} {evaluated : World σ}
    (gives : host.evalExpr body w = (.ok e, evaluated)) :
    host.Ends [.forEach [body]] buffer w x ↔ host.Ends e.steps buffer evaluated x := by
  have same : host.SameEnds (e.steps ++ [.forEach []]) (e.steps ++ []) := by
    apply (sameEnds_refl e.steps).append
    intro buffer w x
    rw [ends_forEach_nil_iff, ends_nil_iff]
  rw [ends_forEach_cons_of_ok gives, ← ends_append_iff, same, List.append_nil]

/-- A loop ends as loops over one body each, one after the other. -/
theorem sameEnds_forEach (bodies : List β) :
    host.SameEnds [.forEach bodies] (bodies.map fun body => .forEach [body]) := by
  induction bodies with
  | nil =>
      intro buffer w x
      rw [ends_forEach_nil_iff, List.map_nil, ends_nil_iff]
  | cons body bodies ih =>
      intro buffer w x
      apply Iff.trans _ ((sameEnds_refl [.forEach [body]]).append ih buffer w x)
      rw [ends_append_iff]
      rcases given : host.evalExpr body w with ⟨result, evaluated⟩
      cases result with
      | error halt =>
          simp only [ends_forEach_cons_of_error given]
          constructor
          · rintro ⟨notExhausted, rfl⟩
            exact ⟨_, ⟨notExhausted, rfl⟩, (Execution.goesOn_of_error rfl).mpr rfl⟩
          · rintro ⟨y, ⟨notExhausted, rfl⟩, goesOn⟩
            exact ⟨notExhausted, (Execution.goesOn_of_error rfl).mp goesOn⟩
      | ok e =>
          simp only [ends_forEach_singleton_of_ok given]
          exact ends_forEach_cons_of_ok given

end Host

namespace Script

open Effect

variable {ι : Type}

/-- The items of a loop that is made in this state. -/
def Items.current (s : Store ι) : Items ι → List ι
  | .given items => items
  | .shared name => (s.lists.get? name).getD []

/-- The state with an object in a register, and with another number for the next object. -/
def Store.keep (s : Store ι) (frame : Nat) (out : String) (thing : Thing ι) (next : Nat) :
    Store ι :=
  { s with frames := s.frames.modify frame (·.put out thing), nextId := next }

/-- The body for each item: a reference that is evaluated in the frame, when the loop is run. -/
def bodiesOf (frame : Nat) (items : List ι) (body : ι → Ref ι) : List (Body ι) :=
  items.map fun item => ⟨frame, body item⟩

/-- Making a loop over items takes the items as they are, and leaves their bodies for later. -/
theorem run_exec_forEachExpr (env : Env) (fuel frame : Nat) (source out : String)
    (items : Items ι) (body : ι → Ref ι) (w : World (Store ι)) :
    (exec env (fuel + 1) frame (.on source out (.forEachExpr items body))).run.run w =
      (.ok (.expr 1), ⟨w.log, w.state.keep frame out
        (.expr w.state.nextId (.forEach (bodiesOf frame (items.current w.state) body)))
          (w.state.nextId + 1)⟩) := by
  cases items with
  | given items => rfl
  | shared name => rfl

/-- The loop of a builder is made like the loop that stands alone. -/
theorem run_exec_forEach (env : Env) (fuel frame : Nat) {source : String} (out : String)
    (items : Items ι) (body : ι → Ref ι) {w : World (Store ι)} {id exprId : Nat}
    {b : Builder Condition (Body ι)}
    (holds : (w.state.frames.getD frame []).get? source = some (.builder id exprId b)) :
    (exec env (fuel + 1) frame (.on source out (.forEach items body))).run.run w =
      (.ok (.builder (b.expr.size + 1)), ⟨w.log, w.state.keep frame out
        (.builder (w.state.nextId + 1) w.state.nextId
          (b.forEach (bodiesOf frame (items.current w.state) body))) (w.state.nextId + 2)⟩) := by
  have looked : (look fun s : Store ι => s.frames.getD frame []).run.run w =
      (.ok (w.state.frames.getD frame []), w) :=
    rfl
  have found : (register frame source).run.run w = (.ok (.builder id exprId b), w) := by
    rw [register, run_bind_of_ok looked, holds]
    rfl
  have sized : (b.expr ++ Expr.forEach (bodiesOf frame (items.current w.state) body)).size =
      b.expr.size + 1 :=
    List.length_append
  rw [exec, run_bind_of_ok found, ← sized]
  cases items with
  | given items => rfl
  | shared name => rfl

/-- A loop over items is its unrolling. Making the loop, on its own or for a builder, evaluates no
body: it logs nothing and changes nothing but the register for the result and the number of the next
object. Run behind any steps and before any others, and from every buffer, the loop ends as its
items do in turn: each body is evaluated in the world that the clauses of the items before it left,
and what it gives is run into their buffer. In any surroundings, at any depth in other loops, it can
be replaced by one loop for each item. And where the items in front have finished and an item fails,
this failure is the end of the whole run and of the build, which is the same whatever items and
steps are behind it. -/
theorem forEach_runs_in_turn :
    (∀ {ι : Type} (env : Env) (fuel frame : Nat) (source out : String) (items : Items ι)
      (body : ι → Ref ι) (w : World (Store ι)),
      let bodies := bodiesOf frame (items.current w.state) body
      let number := w.state.nextId
      (exec env (fuel + 1) frame (.on source out (.forEachExpr items body))).run.run w =
          (.ok (.expr 1),
            ⟨w.log, w.state.keep frame out (.expr number (.forEach bodies)) (number + 1)⟩) ∧
        ∀ id exprId b, (w.state.frames.getD frame []).get? source = some (.builder id exprId b) →
          (exec env (fuel + 1) frame (.on source out (.forEach items body))).run.run w =
            (.ok (.builder (b.expr.size + 1)), ⟨w.log, w.state.keep frame out
              (.builder (number + 1) number (b.forEach bodies)) (number + 2)⟩)) ∧
    ∀ {π β σ α : Type} (host : Host π β σ) (body : α → β),
      (∀ (items : List α) before after buffer w x,
        host.Ends (before ++ ([.forEach (items.map body)] ++ after)) buffer w x ↔
          ∃ y, host.Ends before buffer w y ∧ y.GoesOn (fun filled middle x =>
            ∃ turns, host.InTurn body items filled middle turns ∧
              turns.GoesOn (host.Ends after) x) x) ∧
      (∀ (items : List α) (around : Surrounding π β), host.SameEnds
        (around.fill [.forEach (items.map body)])
        (around.fill (items.map fun item => .forEach [body item]))) ∧
      ∀ before buffer w ready start (done : List α) filled middle (item : α) last left failure,
        host.Ends before buffer w ⟨.ok (), ready, start⟩ →
        host.InTurn body done ready start ⟨.ok (), filled, middle⟩ →
        host.InTurn body [item] filled middle ⟨.error (.failed failure), last, left⟩ →
        ∀ (later : List α) (after : List (Step π β)),
          let steps := before ++ ([.forEach ((done ++ item :: later).map body)] ++ after)
          host.Ends steps buffer w ⟨.error (.failed failure), last, left⟩ ∧
            ∀ separator, buffer = .empty separator → ∃ cost, ∀ fuel,
              host.render (cost + fuel) separator ⟨steps⟩ w = (.error (.failed failure), left) := by
  constructor
  · intro ι env fuel frame source out items body w
    constructor
    · exact run_exec_forEachExpr env fuel frame source out items body w
    · intro id exprId b holds
      exact run_exec_forEach env fuel frame out items body holds
  · intro π β σ α host body
    refine ⟨fun _ _ _ _ _ _ => Host.ends_around_forEach_iff, ?_, ?_⟩
    · intro items around
      have unrolled : host.SameEnds [.forEach (items.map body)] _ :=
        Host.sameEnds_forEach (items.map body)
      rw [List.map_map] at unrolled
      exact unrolled.fill around
    · intro before buffer w ready start done filled middle item last left failure beforeEnds
        doneEnds itemFails later after steps
      have ends : host.Ends steps buffer w ⟨.error (.failed failure), last, left⟩ := by
        have turns := doneEnds.append (itemFails.of_failed rfl later)
        apply Host.ends_around_forEach_iff.mpr
        exact ⟨_, beforeEnds, (Execution.goesOn_of_ok rfl).mpr
          ⟨_, turns, (Execution.goesOn_of_error rfl).mpr rfl⟩⟩
      constructor
      · exact ends
      · rintro separator rfl
        exact @Host.Ends.exists_render _ _ _ host w _ ⟨steps⟩ separator ends

/-- Bodies are texts. A text is written as a clause, the empty text is no part of a query, and the
state counts how many of them were evaluated. -/
def tally : Host Unit String Nat where
  ask _ w := (.ok false, w)
  eval text w := (.ok (if text = "" then .foreign "Blank" else .expr (.clause .raw text)),
    { w with state := w.state + 1 })

/-- Of three items the second one is no text. -/
theorem forEach_of_blank : ∃ cost, ∀ fuel,
    tally.render (cost + fuel) "\n"
        ⟨[.clause ⟨.raw, "A"⟩] ++ ([.forEach (["B", "", "C"].map id)] ++ [])⟩ ⟨[], 0⟩ =
      (.error (.failed (.fault (.notAnExpression "Blank"))),
        ⟨[.ofFault (.notAnExpression "Blank")], 2⟩) := by
  have written : tally.Ends [.clause ⟨.raw, "A"⟩] (.empty "\n") ⟨[], 0⟩
      ⟨.ok (), (Buffer.empty "\n").write ⟨.raw, "A"⟩, ⟨[], 0⟩⟩ :=
    Host.ends_clause_iff.mpr rfl
  have first : tally.InTurn id ["B"] ((Buffer.empty "\n").write ⟨.raw, "A"⟩) ⟨[], 0⟩
      ⟨.ok (), ((Buffer.empty "\n").write ⟨.raw, "A"⟩).write ⟨.raw, "B"⟩, ⟨[], 1⟩⟩ :=
    .cons rfl (Host.ends_clause_iff.mpr rfl) rfl .nil
  have blank : tally.InTurn id [""]
      (((Buffer.empty "\n").write ⟨.raw, "A"⟩).write ⟨.raw, "B"⟩) ⟨[], 1⟩
      ⟨.error (.failed (.fault (.notAnExpression "Blank"))), _,
        ⟨[.ofFault (.notAnExpression "Blank")], 2⟩⟩ :=
    .refused rfl
  exact ((forEach_runs_in_turn.2 tally id).2.2 _ _ _ _ _ _ _ _ _ _ _ _ written first blank
    ["C"] []).2 "\n" rfl

end Script

end CypherText
