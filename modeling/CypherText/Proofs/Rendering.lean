import CypherText.Proofs.Execution

/-!
# The text of an expression

What a buffer holds after several clauses depends on their texts only: leading empty ones leave
no trace, and all others stand in a row with the separator between them. So an expression is
rendered as the clauses that it executes, and the record of it names the kinds of them all.
-/

namespace CypherText

/-- The texts of the clauses behind the leading empty ones, with the separator between them. -/
def Clause.joined (separator : String) (clauses : List Clause) : String :=
  separator.intercalate ((clauses.map Clause.text).dropWhile String.isEmpty)

namespace Buffer

@[simp]
theorem separator_writeAll (b : Buffer) (clauses : List Clause) :
    (b.writeAll clauses).separator = b.separator := by
  induction clauses generalizing b with
  | nil => rfl
  | cons clause clauses ih => rw [writeAll_cons, ih, separator_write]

/-- The kinds of all clauses are kept, also of those whose texts leave no trace. -/
@[simp]
theorem toList_kinds_writeAll (b : Buffer) (clauses : List Clause) :
    (b.writeAll clauses).kinds.toList = b.kinds.toList ++ clauses.map Clause.kind := by
  induction clauses generalizing b with
  | nil => simp
  | cons clause clauses ih => simp [ih]

/-- Behind other text every clause gets a separator, also an empty one. -/
theorem text_writeAll_of_not_isEmpty {b : Buffer} (notEmpty : b.text.isEmpty = false)
    (clauses : List Clause) :
    (b.writeAll clauses).text = b.separator.intercalate (b.text :: clauses.map Clause.text) := by
  induction clauses generalizing b with
  | nil => simp
  | cons clause clauses ih =>
      have written := text_write_of_not_isEmpty notEmpty clause
      have stillNotEmpty : (b.write clause).text.isEmpty = false := by
        rw [written]
        simp_all
      rw [writeAll_cons, ih stillNotEmpty, separator_write, written, List.map_cons,
        String.intercalate_cons_append, String.intercalate_cons_cons]

/-- Into a buffer without text the clauses are written from the first one on that has a text. -/
theorem text_writeAll_of_isEmpty {b : Buffer} (isEmpty : b.text = "") (clauses : List Clause) :
    (b.writeAll clauses).text = Clause.joined b.separator clauses := by
  induction clauses generalizing b with
  | nil => simp [isEmpty, Clause.joined]
  | cons clause clauses ih =>
      have written : (b.write clause).text = clause.text := by
        rw [text_write_of_isEmpty (by simp [isEmpty]), isEmpty, String.empty_append]
      rw [writeAll_cons]
      cases trace : clause.text.isEmpty with
      | true =>
          rw [ih (written.trans (String.isEmpty_iff.mp trace)), separator_write]
          simp [Clause.joined, trace]
      | false =>
          -- From this clause on the buffer has text, and the separator is written.
          rw [text_writeAll_of_not_isEmpty (by rw [written, trace]), separator_write, written]
          simp [Clause.joined, trace]

theorem writeAll_empty (separator : String) (clauses : List Clause) :
    (empty separator).writeAll clauses =
      ⟨separator, Clause.joined separator clauses, (clauses.map Clause.kind).toArray⟩ := by
  have text := text_writeAll_of_isEmpty (b := empty separator) rfl clauses
  have kinds := toList_kinds_writeAll (empty separator) clauses
  have kept := separator_writeAll (empty separator) clauses
  generalize (empty separator).writeAll clauses = filled at text kinds kept
  cases filled
  simp_all [empty, ← Array.toList_inj]

end Buffer

namespace Host

variable {π β σ : Type} {host : Host π β σ} {e : Expr π β} {w left : World σ}
  {clauses : List Clause}

theorem render_of_run {fuel : Nat} {separator : String}
    (finished : host.run fuel e.steps (.empty separator) w =
      ⟨.ok (), (Buffer.empty separator).writeAll clauses, left⟩) :
    host.render fuel separator e w =
      (.ok (Clause.joined separator clauses),
        left.record [.rendered (clauses.map Clause.kind) (Clause.joined separator clauses)]) := by
  simp [render, finished, Buffer.writeAll_empty]

/-- An expression whose loops all come to an end is rendered, if there is fuel for all steps. -/
theorem Completes.exists_render (done : host.Completes e.steps w clauses left)
    (separator : String) :
    ∃ cost, ∀ fuel, host.render (cost + fuel) separator e w =
      (.ok (Clause.joined separator clauses),
        left.record [.rendered (clauses.map Clause.kind) (Clause.joined separator clauses)]) := by
  obtain ⟨cost, finishes⟩ := done.exists_run (.empty separator)
  exact ⟨cost, fun fuel => render_of_run (finishes fuel)⟩

theorem Completes.exists_text (done : host.Completes e.steps w clauses left) (separator : String) :
    ∃ cost, ∀ fuel,
      (host.render (cost + fuel) separator e w).1 = .ok (Clause.joined separator clauses) := by
  obtain ⟨cost, renders⟩ := done.exists_render separator
  exact ⟨cost, fun fuel => congrArg Prod.fst (renders fuel)⟩

/-- Whatever is returned is the text of an execution. -/
theorem exists_completes_of_render {fuel : Nat} {separator text : String} {after : World σ}
    (returned : host.render fuel separator e w = (.ok text, after)) :
    ∃ clauses left, host.Completes e.steps w clauses left ∧
      text = Clause.joined separator clauses ∧
      after = left.record [.rendered (clauses.map Clause.kind) text] := by
  cases ended : (host.run fuel e.steps (.empty separator) w).outcome with
  | error halt => simp [render, ended] at returned
  | ok =>
      obtain ⟨clauses, done, wrote⟩ := exists_completes_of_run ended
      simp only [render, ended, wrote, Buffer.writeAll_empty, Prod.mk.injEq,
        Except.ok.injEq] at returned
      obtain ⟨rfl, rfl⟩ := returned
      exact ⟨clauses, _, done, rfl, rfl⟩

/-- No other text is returned, whatever the fuel. -/
theorem Completes.eq_joined (done : host.Completes e.steps w clauses left) {fuel : Nat}
    {separator text : String} (returned : (host.render fuel separator e w).1 = .ok text) :
    text = Clause.joined separator clauses := by
  obtain ⟨others, _, also, equal, _⟩ := exists_completes_of_render (Prod.ext returned rfl)
  rw [equal, (also.unique done).1]

theorem completes_clauses (host : Host π β σ) (clauses : List Clause) (w : World σ) :
    host.Completes (clauses.map .clause) w clauses w := by
  induction clauses with
  | nil => exact .nil
  | cons clause clauses ih => exact .clause ih

/-- Single clauses are rendered, if there is fuel for each of them. -/
theorem exists_render_clauses (host : Host π β σ) (steps : e.steps = clauses.map .clause)
    (separator : String) (w : World σ) :
    ∃ fuel, (host.render fuel separator e w).1 = .ok (Clause.joined separator clauses) := by
  have done := completes_clauses host clauses w
  rw [← steps] at done
  obtain ⟨cost, renders⟩ := done.exists_text separator
  exact ⟨cost, renders 0⟩

theorem eq_joined_of_render {fuel : Nat} {separator text : String}
    (steps : e.steps = clauses.map .clause)
    (returned : (host.render fuel separator e w).1 = .ok text) :
    text = Clause.joined separator clauses := by
  have done := completes_clauses host clauses w
  rw [← steps] at done
  exact done.eq_joined returned

/-- A host on a counter: its conditions hold until they have counted down to zero, and a body is
the text of a statement. -/
def countdown : Host Unit String Nat where
  ask _ w := (.ok (decide (0 < w.state)), { w with state := w.state - 1 })
  eval text w := (.ok (.expr (.clause .raw text)), w)

theorem completes_countdown_loop (clause : Clause) (log : List Event) (n : Nat) :
    countdown.Completes [.whileLoop () [.clause clause]] ⟨log, n⟩ (List.replicate n clause)
      ⟨log, 0⟩ := by
  induction n with
  | zero => exact .whileFalse rfl .nil
  | succ n ih =>
      rw [List.replicate_succ, ← List.singleton_append]
      exact .whileTrue rfl (.clause .nil) ih

/-- An expression whose loops all come to an end is rendered, for every separator and with all
fuel from some amount on, as the texts of the clauses that it executes, in the order of the
execution: the leading empty texts are dropped and the others stand in a row with the separator
between them. The buffer and the log have the kinds of all clauses. No amount of fuel gives
another text. -/
theorem render_of_completes (done : host.Completes e.steps w clauses left) (separator : String) :
    (∃ cost, ∀ fuel,
      (host.run (cost + fuel) e.steps (.empty separator) w).buffer.kinds.toList =
        clauses.map Clause.kind ∧
      host.render (cost + fuel) separator e w =
        (.ok (Clause.joined separator clauses),
          left.record [.rendered (clauses.map Clause.kind) (Clause.joined separator clauses)])) ∧
    ∀ fuel text after, host.render fuel separator e w = (.ok text, after) →
      text = Clause.joined separator clauses := by
  obtain ⟨cost, finishes⟩ := done.exists_run (.empty separator)
  constructor
  · refine ⟨cost, ?_⟩
    intro fuel
    constructor
    · rw [finishes fuel, Buffer.toList_kinds_writeAll]
      rfl
    · exact render_of_run (finishes fuel)
  · intro fuel text after returned
    obtain ⟨others, _, also, rfl, -⟩ := exists_completes_of_render returned
    rw [(also.unique done).1]

/-- An empty text at the start leaves no trace, and one behind another text is a line. -/
theorem render_countdown :
    let e : Expr Unit String :=
      .clause .raw "" ++ .forEach ["A", ""] ++ .whileLoop () (.clause .filter "B")
    countdown.Completes e.steps ⟨[], 2⟩
      [⟨.raw, ""⟩, ⟨.raw, "A"⟩, ⟨.raw, ""⟩, ⟨.filter, "B"⟩, ⟨.filter, "B"⟩] ⟨[], 0⟩ ∧
    ∃ cost, ∀ fuel, (countdown.render (cost + fuel) "\n" e ⟨[], 2⟩).1 = .ok "A\n\nB\nB" := by
  intro e
  have loop := completes_countdown_loop ⟨.filter, "B"⟩ [] 2
  have done : countdown.Completes e.steps ⟨[], 2⟩
      (⟨.raw, ""⟩ :: ([⟨.raw, "A"⟩] ++ ([⟨.raw, ""⟩] ++ List.replicate 2 ⟨.filter, "B"⟩)))
      ⟨[], 0⟩ :=
    .clause (.forEachCons rfl (.clause .nil)
      (.forEachCons rfl (.clause .nil) (.forEachNil loop)))
  obtain ⟨cost, renders⟩ := (render_of_completes done "\n").1
  refine ⟨done, cost, ?_⟩
  intro fuel
  rw [(renders fuel).2]
  exact congrArg Except.ok (by decide)

end Host

end CypherText
