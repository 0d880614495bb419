import CypherText.Proofs.Call
import CypherText.Proofs.Rendering

/-!
# Reading whole queries

A query that was made by creating nodes and relationships is read back clause by clause, with any
separator between the clauses and also with none. So its text tells what was created: two lists of
calls that give the same text create the same, in the same order.
-/

namespace CypherText

namespace Call

variable {π β : Type}

/-- Performs calls one after the other. -/
def applyAll (env : Env) (calls : List Call) (b : Builder π β) : Logged (Builder π β) :=
  calls.foldlM (fun b call => call.apply env b) b

/-- Plain calls that all succeed append the clauses of what they create, one for each call. -/
theorem exists_written_of_applyAll {env : Env} {calls : List Call} {b extended : Builder π β}
    (isStandard : b.extractor = Extractor.standard) (arePlain : ∀ call ∈ calls, call.IsPlain)
    (applied : (applyAll env calls b).result = .ok extended) :
    ∃ creations,
      List.Forall₂ (fun call creation => call.written env.platform = .ok creation) calls
        creations ∧
      (∀ creation ∈ creations, creation.entity.HasTokens) ∧
      extended.expr.steps =
        b.expr.steps ++ (creations.map Creation.clause).map .clause := by
  induction calls generalizing b with
  | nil =>
      cases applied
      exact ⟨[], .nil, by simp, by simp⟩
  | cons call calls ih =>
      rw [applyAll, List.foldlM_cons] at applied
      obtain ⟨next, first, others⟩ := Logged.result_bind_eq_ok_iff.mp applied
      obtain ⟨creation, isWritten, tokens, rfl⟩ :=
        exists_written_of_apply isStandard (arePlain call List.mem_cons_self) first
      have stays : (b.extend ⟨[.clause creation.clause]⟩).extractor = Extractor.standard :=
        isStandard
      obtain ⟨creations, areWritten, allTokens, steps⟩ :=
        ih stays (fun other among => arePlain other (List.mem_cons_of_mem call among)) others
      refine ⟨creation :: creations, .cons isWritten areWritten, ?_, ?_⟩
      · simpa using ⟨tokens, allTokens⟩
      · simp [steps]

end Call

namespace Query

/-- Reads a whole query. -/
def read (separator text : String) : Option (List (Creation String Written)) :=
  if text.isEmpty then
    some []
  else
    match Separated.read Creation.read separator text.toList with
    | some (creations, []) => some creations
    | _ => none

theorem text_clause_ne_empty (creation : Creation String Written) :
    creation.clause.text ≠ "" := by
  cases creation <;> simp [Creation.clause]

/-- No clause of what is created is empty, so none is left out of the text. -/
theorem joined_clauses (separator : String) (creations : List (Creation String Written)) :
    Clause.joined separator (creations.map Creation.clause) =
      separator.intercalate (creations.map fun creation => creation.clause.text) := by
  cases creations with
  | nil => rfl
  | cons creation creations =>
      simp [Clause.joined, text_clause_ne_empty creation, Function.comp_def]

/-- A query is read back from its text, whatever the separator is. -/
theorem read_joined (separator : String) {creations : List (Creation String Written)}
    (tokens : ∀ creation ∈ creations, creation.entity.HasTokens) :
    read separator (Clause.joined separator (creations.map Creation.clause)) =
      some creations := by
  rw [joined_clauses]
  cases creations with
  | nil => rfl
  | cons creation creations =>
      have found := Separated.read_whole text_clause_ne_empty separator
        (fun other among rest => Creation.read_append (tokens other among) rest)
      have notEmpty := Separated.length_le_length_text text_clause_ne_empty separator
        (creation :: creations)
      generalize separator.intercalate ((creation :: creations).map fun creation =>
        creation.clause.text) = text at found notEmpty ⊢
      have filled : text.isEmpty = false := by
        cases isEmpty : text.isEmpty with
        | false => rfl
        | true =>
            rw [String.isEmpty_iff.mp isEmpty] at notEmpty
            contradiction
      simp [read, filled, found]

example : read "" "CREATE (a:B)CREATE UNIQUE (a)<-[:\x60]->(\x60 \x7b k: \")\" \x7d]-(c)" =
    some [.node "a" ⟨"B", []⟩,
      .relationship .unique .left "a" "c" ⟨"]->(", [("k", "\")\"")]⟩] := by
  decide

/-- What plain calls have built is read back from the rendered text. -/
theorem read_render {π β σ : Type} {host : Host π β σ} {env : Env} {calls : List Call}
    {b : Builder π β} {fuel : Nat} {separator text : String} {w : World σ}
    (arePlain : ∀ call ∈ calls, call.IsPlain)
    (built : (Call.applyAll env calls .empty).result = .ok b)
    (rendered : (host.render fuel separator b.expr w).1 = .ok text) :
    ∃ creations, read separator text = some creations ∧
      List.Forall₂ (fun call creation => call.written env.platform = .ok creation) calls
        creations := by
  obtain ⟨creations, areWritten, tokens, steps⟩ :=
    Call.exists_written_of_applyAll rfl arePlain built
  rw [Host.eq_joined_of_render steps rendered]
  exact ⟨creations, read_joined separator tokens, areWritten⟩

variable {π β σ : Type} {host other : Host π β σ} {env envOther : Env} {calls others : List Call}
  {b bOther : Builder π β} {fuel fuelOther : Nat} {separator text : String} {w wOther : World σ}

/-- Two lists of calls that create nodes and relationships, and give the same text with the same
separator, create the same: they are equally long, and at each place the form, the names, the
label or the direction and the type, and the property names with the literals of their values are
those that are read from the text there. -/
theorem written_eq_of_render_eq (arePlain : ∀ call ∈ calls, call.IsPlain)
    (othersPlain : ∀ call ∈ others, call.IsPlain)
    (built : (Call.applyAll env calls .empty).result = .ok b)
    (othersBuilt : (Call.applyAll envOther others .empty).result = .ok bOther)
    (rendered : (host.render fuel separator b.expr w).1 = .ok text)
    (othersRendered : (other.render fuelOther separator bOther.expr wOther).1 = .ok text) :
    ∃ creations, read separator text = some creations ∧
      List.Forall₂ (fun call creation => call.written env.platform = .ok creation) calls
        creations ∧
      List.Forall₂ (fun call creation => call.written envOther.platform = .ok creation) others
        creations := by
  obtain ⟨creations, found, areWritten⟩ := read_render arePlain built rendered
  obtain ⟨same, foundAlso, othersWritten⟩ := read_render othersPlain othersBuilt othersRendered
  cases found.symm.trans foundAlso
  exact ⟨creations, found, areWritten, othersWritten⟩

/-- A node without properties can be created in two ways, and the text does not tell which. -/
theorem written_eq_of_two_ways :
    let link : Call := .relate .unique (.declare .left (.plain "a b")
      (.ready (.extracted ⟨.plain "T", [("k", .text "x")]⟩)) (.plain "c"))
    let calls : List Call := [.createEmpty (.plain "a b") (.plain "L"), link]
    let others : List Call :=
      [.createTyped (.plain "a b") (.plain "L") (.ready (.extracted ⟨.plain "M", []⟩)), link]
    ∃ text creations, read "" text = some creations ∧
      List.Forall₂ (fun call creation => call.written ⟨0, 900⟩ = .ok creation) calls creations ∧
      List.Forall₂ (fun call creation => call.written ⟨0, 900⟩ = .ok creation) others
        creations := by
  intro link calls others
  let env : Env := ⟨"\n", "", ⟨0, 900⟩⟩
  have linkPlain : link.IsPlain :=
    ⟨_, rfl, rfl, rfl, rfl, by simp [Value.ShowsNumber, Value.content, Value.isBareNumber]⟩
  have arePlain : ∀ call ∈ calls, call.IsPlain := by
    simp only [calls, List.forall_mem_cons]
    exact ⟨⟨_, rfl, rfl, rfl, by simp⟩, linkPlain, by simp⟩
  have othersPlain : ∀ call ∈ others, call.IsPlain := by
    simp only [others, List.forall_mem_cons]
    exact ⟨⟨_, rfl, rfl, rfl, by simp⟩, linkPlain, by simp⟩
  obtain ⟨b, built⟩ : ∃ b : Builder Unit String,
      (Call.applyAll env calls .empty).result = .ok b := ⟨_, rfl⟩
  have othersBuilt : (Call.applyAll env others (.empty : Builder Unit String)).result = .ok b :=
    built
  obtain ⟨_, _, _, steps⟩ := Call.exists_written_of_applyAll rfl arePlain built
  obtain ⟨fuel, rendered⟩ := Host.countdown.exists_render_clauses steps "" ⟨[], 0⟩
  obtain ⟨creations, found, both⟩ :=
    written_eq_of_render_eq arePlain othersPlain built othersBuilt rendered rendered
  exact ⟨_, creations, found, both⟩

end Query

end CypherText
