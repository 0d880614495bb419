import CypherText.Builder

/-!
# What operations of builders append

An operation that succeeds extends the expression by one clause. These laws say which clause that
is, so that nothing that follows has to look into the operations again: the extractor reads the
entity, the block of the properties is written, and the clause is put together from both.
-/

namespace CypherText

namespace Logged

universe u

/-- The result of two operations in a row is that of the second one on the result of the first. -/
theorem result_bind {α β : Type u} (first : Logged α) (next : α → Logged β) :
    (first >>= next).result = first.result >>= fun a => (next a).result := by
  cases outcome : first.result with
  | error failure => rw [bind_of_error outcome]; rfl
  | ok a => rw [bind_of_ok outcome]; rfl

/-- Two operations in a row succeed exactly if the first one does, and the second one on its
result. -/
theorem result_bind_eq_ok_iff {α β : Type u} {first : Logged α} {next : α → Logged β} {b : β} :
    (first >>= next).result = .ok b ↔
      ∃ a, first.result = .ok a ∧ (next a).result = .ok b := by
  cases outcome : first.result with
  | error failure => simp [bind_of_error outcome]
  | ok a => simp [bind_of_ok outcome]

@[simp]
theorem result_ofExcept {α : Type u} (result : Except Failure α) :
    (ofExcept result).result = result :=
  rfl

end Logged

namespace Builder

variable {π β : Type}

theorem result_append_eq_ok_iff {kind : ClauseKind} {text : String} {b extended : Builder π β} :
    (b.append kind text).result = .ok extended ↔ extended = b.extend (.clause kind text) := by
  rw [append_eq, Except.ok.injEq]
  exact eq_comm

theorem result_createNode_eq_ok_iff {env : Env} {name label : Name} {properties : Properties}
    {b extended : Builder π β} :
    (b.createNode env name label properties).result = .ok extended ↔
      ∃ block, properties.block env.platform = .ok block ∧
        extended = b.extend (.clause .create ("CREATE " ++ nodePattern name label block)) := by
  simp only [createNode, Logged.result_bind_eq_ok_iff, Logged.result_ofExcept,
    result_append_eq_ok_iff]

theorem result_create_eq_ok_iff {env : Env} {name : Name} {entity : Entity}
    {b extended : Builder π β} :
    (b.create env name entity).result = .ok extended ↔
      ∃ extracted block, (b.extractor entity).result = .ok extracted ∧
        extracted.block env.platform = .ok block ∧
        extended =
          b.extend (.clause .create ("CREATE " ++ nodePattern name extracted.typeName block)) := by
  simp only [create, Logged.result_bind_eq_ok_iff, result_createNode_eq_ok_iff, Extracted.block]
  constructor
  · rintro ⟨extracted, read, block, written, appended⟩
    exact ⟨extracted, block, read, written, appended⟩
  · rintro ⟨extracted, block, read, written, appended⟩
    exact ⟨extracted, read, block, written, appended⟩

theorem result_createTyped_eq_ok_iff {env : Env} {name label : Name} {entity : Entity}
    {b extended : Builder π β} :
    (b.createTyped env name label entity).result = .ok extended ↔
      ∃ extracted block, (b.extractor entity).result = .ok extracted ∧
        extracted.block env.platform = .ok block ∧
        extended = b.extend (.clause .create ("CREATE " ++ nodePattern name label block)) := by
  simp only [createTyped, Logged.result_bind_eq_ok_iff, result_createNode_eq_ok_iff,
    Extracted.block]
  constructor
  · rintro ⟨extracted, read, block, written, appended⟩
    exact ⟨extracted, block, read, written, appended⟩
  · rintro ⟨extracted, block, read, written, appended⟩
    exact ⟨extracted, read, block, written, appended⟩

/-- The clause of a relationship. Only a finished declaration has one. -/
theorem result_relate_eq_ok_iff {env : Env} {form : RelateForm} {declaration : Operand}
    {b extended : Builder π β} :
    (b.relate env form declaration).result = .ok extended ↔
      ∃ d extracted block, declaration = .declaration d ∧
        (b.extractor d.payload).result = .ok extracted ∧
        extracted.block env.platform = .ok block ∧
        extended = b.extend (.clause form.kind
          (form.kind.keyword ++ " " ++
            d.pattern (Identifier.token extracted.typeName) block)) := by
  cases declaration with
  | declaration d =>
      simp only [relate, Declaration.text, Logged.result_bind_eq_ok_iff, Logged.result_ofExcept,
        Logged.result_pure, result_append_eq_ok_iff, Except.ok.injEq]
      constructor
      · rintro ⟨_, ⟨extracted, read, block, written, rfl⟩, appended⟩
        exact ⟨d, extracted, block, rfl, read, written, appended⟩
      · rintro ⟨_, extracted, block, equal, read, written, appended⟩
        cases equal
        exact ⟨_, ⟨extracted, read, block, written, rfl⟩, appended⟩
  | value _ | rel _ | rightPartial _ _ | leftPartial _ _ | classItself _ =>
      simp [relate, Logged.raise]

end Builder

end CypherText
