import CypherText.Call
import CypherText.Proofs.Builder
import CypherText.Proofs.Creation
import CypherText.Proofs.Value.Literal

/-!
# What calls write

A call that creates a node or a relationship is given by what it creates: the names, the form and
the direction it has, and the type name and properties that the extractor reads off its entity.
Where all names show their own characters and all numbers the text of their values, the clause
that the call appends is made from the texts of the names and from the literals, which are tokens.
-/

namespace CypherText

namespace Name

/-- Whether a name shows its own characters. -/
def IsPlain (name : Name) : Prop :=
  name.shown = name.text

theorem IsPlain.token_eq {name : Name} (isPlain : name.IsPlain) :
    Identifier.token name = Identifier.tokenOf name.text := by
  obtain ⟨text, shown⟩ := name
  cases isPlain
  rfl

end Name

namespace Extracted

/-- Whether the type name is plain and every value that is a number shows that number. -/
def IsPlain (e : Extracted) : Prop :=
  e.typeName.IsPlain ∧ ∀ property ∈ e.properties, property.2.ShowsNumber

/-- The entity as it stands in a query. -/
def written (platform : Platform) (e : Extracted) : Except Failure Written := do
  let literals ← e.literals platform
  return ⟨e.typeName.text, literals⟩

/-- The literals of values that show their numbers are tokens. -/
theorem isToken_of_mem_literals {platform : Platform} {typeName : Name} {properties : Properties}
    {made : Entries String} (shows : ∀ property ∈ properties, property.2.ShowsNumber)
    (all : literals platform ⟨typeName, properties⟩ = .ok made) :
    ∀ property ∈ made, Literal.IsToken property.2.toList := by
  induction properties generalizing made with
  | nil =>
      cases all
      intro property among
      contradiction
  | cons first properties ih =>
      rw [literals_cons] at all
      obtain ⟨literal, written, all⟩ := Except.bind_eq_ok_iff.mp all
      obtain ⟨others, rest, all⟩ := Except.bind_eq_ok_iff.mp all
      have tokens := ih (fun property among => shows property (List.mem_cons_of_mem _ among)) rest
      cases all
      intro property among
      rcases List.mem_cons.mp among with rfl | among
      · exact Value.isToken_of_showsNumber written (shows first List.mem_cons_self)
      · exact tokens property among

/-- The block of a plain entity is that of its literals, which are tokens. -/
theorem exists_written_of_block {platform : Platform} {e : Extracted} {block : String}
    (isPlain : e.IsPlain) (made : e.block platform = .ok block) :
    ∃ entity : Written, e.written platform = .ok entity ∧ entity.HasTokens ∧
      Identifier.token e.typeName ++ block = entity.text := by
  rw [block_eq] at made
  cases all : e.literals platform with
  | error failure => simp [all] at made
  | ok literals =>
      rw [all] at made
      refine ⟨⟨e.typeName.text, literals⟩, ?_, isToken_of_mem_literals isPlain.2 all, ?_⟩
      · rw [written, all]
        rfl
      · rw [← Except.ok.inj made, isPlain.1.token_eq]
        rfl

end Extracted

namespace Creation

/-- Whether all names are plain, and the entity is. -/
def IsPlain : Creation Name Extracted → Prop
  | node name entity => name.IsPlain ∧ entity.IsPlain
  | relationship _ _ left right entity => left.IsPlain ∧ right.IsPlain ∧ entity.IsPlain

/-- What is created as it stands in a query: the characters of the names, and the literals of the
values. -/
def written (platform : Platform) :
    Creation Name Extracted → Except Failure (Creation String Written)
  | node name entity => do
    let entity ← entity.written platform
    return node name.text entity
  | relationship form direction left right entity => do
    let entity ← entity.written platform
    return relationship form direction left.text right.text entity

/-- The clause of what is created, with the block of its properties. -/
def clauseWith (block : String) : Creation Name Extracted → Clause
  | node name entity => ⟨.create, "CREATE " ++ Builder.nodePattern name entity.typeName block⟩
  | relationship form direction left right entity =>
    ⟨form.kind, form.kind.keyword ++ " " ++
      Declaration.pattern ⟨direction, left, right, .extracted entity⟩
        (Identifier.token entity.typeName) block⟩

/-- The clause of something plain is made from the texts of its names and from literals that are
tokens. -/
theorem exists_written_of_block {platform : Platform} {creation : Creation Name Extracted}
    {block : String} (isPlain : creation.IsPlain)
    (made : creation.entity.block platform = .ok block) :
    ∃ found, creation.written platform = .ok found ∧ found.entity.HasTokens ∧
      found.clause = creation.clauseWith block := by
  cases creation with
  | node name e =>
      obtain ⟨namePlain, entityPlain⟩ := isPlain
      obtain ⟨entity, written, tokens, text⟩ := Extracted.exists_written_of_block entityPlain made
      refine ⟨node name.text entity, ?_, tokens, ?_⟩
      · rw [Creation.written, written]
        rfl
      · apply congrArg (Clause.mk .create)
        apply String.toList_injective
        simp [opening, RelateForm.kind, ClauseKind.keyword, Builder.nodePattern,
          namePlain.token_eq, ← text]
  | relationship form direction left right e =>
      obtain ⟨leftPlain, rightPlain, entityPlain⟩ := isPlain
      obtain ⟨entity, written, tokens, text⟩ := Extracted.exists_written_of_block entityPlain made
      refine ⟨relationship form direction left.text right.text entity, ?_, tokens, ?_⟩
      · rw [Creation.written, written]
        rfl
      · apply congrArg (Clause.mk form.kind)
        apply String.toList_injective
        cases direction with
        | left =>
            simp [opening, arrowStart, arrowEnd, Declaration.pattern, leftPlain.token_eq,
              rightPlain.token_eq, ← text]
        | right =>
            simp [opening, arrowStart, arrowEnd, Declaration.pattern, leftPlain.token_eq,
              rightPlain.token_eq, ← text]

end Creation

namespace Call

variable {π β : Type}

/-- What a call creates, with what `extractor` reads off the entity. Other calls create nothing.
-/
def creation (extractor : Extractor) : Call → Except Failure (Creation Name Extracted)
  | createEmpty name label => .ok (.node name ⟨label, []⟩)
  | createTyped name label source => do
    let entity ← source.make
    let extracted ← (extractor entity).result
    return .node name ⟨label, extracted.properties⟩
  | create name source => do
    let entity ← source.make
    let extracted ← (extractor entity).result
    return .node name extracted
  | relate form term => do
    match ← term.eval with
    | .declaration d =>
      let extracted ← (extractor d.payload).result
      return .relationship form d.direction d.left d.right extracted
    | _ => .error .meaningless
  | _ => .error .unsupported

/-- A call that creates something appends one clause, with the block of what the extractor has
read. -/
theorem exists_block_of_apply {env : Env} {call : Call} {creation : Creation Name Extracted}
    {b extended : Builder π β} (made : call.creation b.extractor = .ok creation)
    (applied : (call.apply env b).result = .ok extended) :
    ∃ block, creation.entity.block env.platform = .ok block ∧
      extended = b.extend ⟨[.clause (creation.clauseWith block)]⟩ := by
  cases call with
  | createEmpty name label =>
      cases made
      exact Builder.result_createNode_eq_ok_iff.mp applied
  | createTyped name label source =>
      obtain ⟨entity, ready, made⟩ := Except.bind_eq_ok_iff.mp made
      obtain ⟨extracted, read, made⟩ := Except.bind_eq_ok_iff.mp made
      cases made
      obtain ⟨again, readyAgain, applied⟩ := Logged.result_bind_eq_ok_iff.mp applied
      cases ready.symm.trans readyAgain
      obtain ⟨found, block, readAgain, blockMade, appended⟩ :=
        Builder.result_createTyped_eq_ok_iff.mp applied
      cases read.symm.trans readAgain
      exact ⟨block, blockMade, appended⟩
  | create name source =>
      obtain ⟨entity, ready, made⟩ := Except.bind_eq_ok_iff.mp made
      obtain ⟨extracted, read, made⟩ := Except.bind_eq_ok_iff.mp made
      cases made
      obtain ⟨again, readyAgain, applied⟩ := Logged.result_bind_eq_ok_iff.mp applied
      cases ready.symm.trans readyAgain
      obtain ⟨found, block, readAgain, blockMade, appended⟩ :=
        Builder.result_create_eq_ok_iff.mp applied
      cases read.symm.trans readAgain
      exact ⟨block, blockMade, appended⟩
  | relate form term =>
      obtain ⟨operand, evaluated, made⟩ := Except.bind_eq_ok_iff.mp made
      obtain ⟨again, evaluatedAgain, applied⟩ := Logged.result_bind_eq_ok_iff.mp applied
      cases evaluated.symm.trans evaluatedAgain
      obtain ⟨d, found, block, rfl, read, blockMade, appended⟩ :=
        Builder.result_relate_eq_ok_iff.mp applied
      obtain ⟨extracted, readAgain, made⟩ := Except.bind_eq_ok_iff.mp made
      cases made
      cases read.symm.trans readAgain
      exact ⟨block, blockMade, appended⟩
  | raw _ | matching _ | optionalMatch _ | whereText _ | wherePredicate _ | returning _
  | createUniqueText _ | withExtractor _ | refused _ => contradiction

/-- Whether a call creates something plain. -/
def IsPlain (call : Call) : Prop :=
  ∃ creation, call.creation .standard = .ok creation ∧ creation.IsPlain

/-- What a call creates as it stands in a query. -/
def written (platform : Platform) (call : Call) : Except Failure (Creation String Written) := do
  let creation ← call.creation .standard
  creation.written platform

/-- A plain call that succeeds appends the clause of what it creates. -/
theorem exists_written_of_apply {env : Env} {call : Call} {b extended : Builder π β}
    (isStandard : b.extractor = Extractor.standard) (isPlain : call.IsPlain)
    (applied : (call.apply env b).result = .ok extended) :
    ∃ creation, call.written env.platform = .ok creation ∧ creation.entity.HasTokens ∧
      extended = b.extend ⟨[.clause creation.clause]⟩ := by
  obtain ⟨creation, made, isPlain⟩ := isPlain
  have readable := made
  rw [← isStandard] at readable
  obtain ⟨block, blockMade, rfl⟩ := exists_block_of_apply readable applied
  obtain ⟨found, written, tokens, clause⟩ :=
    Creation.exists_written_of_block isPlain blockMade
  refine ⟨found, ?_, tokens, ?_⟩
  · rw [Call.written, made]
    exact written
  · rw [clause]

end Call

end CypherText
