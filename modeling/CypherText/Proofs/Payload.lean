import CypherText.Proofs.PropertyBlock
import CypherText.Proofs.Relationship

/-!
# Explicit payloads

An explicit payload is a type name with named properties. Two names are taken by the parameters of
the call that makes it, and a property that has one of these is refused. Otherwise properties with
different names are all kept, in order, whether the payload stands for itself or is put into a
relationship, and every clause that is made from it has all of them in its block.
-/

namespace CypherText

namespace Entries

variable {α : Type}

/-- A new name is put behind all others. -/
theorem put_of_not_mem {entries : Entries α} {name : String}
    (absent : name ∉ entries.map Prod.fst) (value : α) :
    entries.put name value = entries ++ [(name, value)] := by
  induction entries with
  | nil => rfl
  | cons entry rest ih =>
      rcases entry with ⟨other, old⟩
      rw [List.map_cons, List.mem_cons, not_or] at absent
      rw [put, if_neg (Ne.symm absent.1), ih absent.2]
      rfl

/-- Entries whose names are new and different are put one behind the other. -/
theorem foldl_put_of_nodup {done entries : Entries α}
    (distinct : ((done ++ entries).map Prod.fst).Nodup) :
    entries.foldl (fun done entry => done.put entry.1 entry.2) done = done ++ entries := by
  induction entries generalizing done with
  | nil => rw [List.foldl_nil, List.append_nil]
  | cons entry rest ih =>
      have absent : entry.1 ∉ done.map Prod.fst := by
        rw [List.map_append, List.map_cons, List.nodup_append] at distinct
        intro among
        exact distinct.2.2 _ among _ List.mem_cons_self rfl
      rw [List.append_cons] at distinct
      rw [List.foldl_cons, put_of_not_mem absent, ih distinct, ← List.append_cons]

/-- Entries with different names stay as they are. -/
theorem merged_of_nodup {entries : Entries α} (distinct : (entries.map Prod.fst).Nodup) :
    entries.merged = entries :=
  foldl_put_of_nodup distinct

end Entries

namespace Extracted

variable {typeName : String} {properties : Properties}

/-- No name among some properties is taken exactly if each of them differs from both names that are.
-/
theorem clash?_eq_none_iff :
    clash? properties = none ↔
      ∀ property ∈ properties, property.1 ≠ "cls" ∧ property.1 ≠ "type_name" := by
  simp [clash?, reserved]

/-- A payload is made of free and different names, with all properties. -/
theorem explicit_of_clash?_eq_none (distinct : (properties.map Prod.fst).Nodup)
    (free : clash? properties = none) :
    explicit typeName properties = .ok ⟨.plain typeName, properties⟩ := by
  rw [explicit, free, Entries.merged_of_nodup distinct]

theorem explicit_of_clash?_eq_some {name : String} (taken : clash? properties = some name) :
    explicit typeName properties = .error (.reservedProperty name) := by
  rw [explicit, taken]

end Extracted

/-- `source.Feeds payload call creation`: the call creates this from the payload that `source`
makes, as a node, or as a relationship that is declared with operators or without. -/
inductive EntitySource.Feeds (source : EntitySource) (payload : Extracted) :
    Call → Creation Name Extracted → Prop
  | node (name : Name) : Feeds source payload (.create name source) (.node name payload)
  | typedNode (name label : Name) :
      Feeds source payload (.createTyped name label source) (.node name ⟨label, payload.properties⟩)
  | rightward (form : RelateForm) {a b : Term} {left right : Name} (first : a.IsName left)
      (second : b.IsName right) :
      Feeds source payload
        (.relate form (.apply .shiftRight (.apply .minus a (.rel source)) b))
        (.relationship form .right left right payload)
  | leftward (form : RelateForm) {a b : Term} {left right : Name} (first : a.IsName left)
      (second : b.IsName right) :
      Feeds source payload
        (.relate form (.apply .shiftLeft a (.apply .minus (.rel source) b)))
        (.relationship form .left left right payload)
  | declared (form : RelateForm) (direction : Direction) (left right : Name) :
      Feeds source payload (.relate form (.declare direction left source right))
        (.relationship form direction left right payload)

namespace EntitySource

/-- The standard extractor reads an explicit payload as it is. -/
theorem Feeds.creation_eq {source : EntitySource} {payload : Extracted} {call : Call}
    {creation : Creation Name Extracted} (feeds : source.Feeds payload call creation)
    (makes : source.make = .ok (.extracted payload)) :
    call.creation .standard = .ok creation := by
  cases feeds with
  | node name =>
      rw [Call.creation, makes]
      rfl
  | typedNode name label =>
      rw [Call.creation, makes]
      rfl
  | rightward form first second =>
      have evaluated := Term.Declares.eval_eq (.rightward first (.made makes) second)
      rw [Call.creation, evaluated]
      rfl
  | leftward form first second =>
      have evaluated := Term.Declares.eval_eq (.leftward first (.made makes) second)
      rw [Call.creation, evaluated]
      rfl
  | declared form direction left right =>
      rw [Call.creation, Term.eval, makes]
      rfl

theorem Feeds.properties_eq {source : EntitySource} {payload : Extracted} {call : Call}
    {creation : Creation Name Extracted} (feeds : source.Feeds payload call creation) :
    creation.entity.properties = payload.properties := by
  cases feeds with
  | node | typedNode | rightward | leftward | declared => rfl

end EntitySource

/-- A call that creates something whose block can be written appends the clause with this block. -/
theorem Call.apply_eq_of_block {π β : Type} {env : Env} {call : Call}
    {creation : Creation Name Extracted} {b : Builder π β} {block : String}
    (made : call.creation b.extractor = .ok creation)
    (written : creation.entity.block env.platform = .ok block) :
    (call.apply env b).result = .ok (b.extend ⟨[.clause (creation.clauseWith block)]⟩) := by
  cases applied : (call.apply env b).result with
  | error failure =>
      have failed := (Call.result_apply_eq_error_iff made).mp applied
      cases written.symm.trans failed
  | ok extended =>
      obtain ⟨found, foundWritten, rfl⟩ := exists_block_of_apply made applied
      cases written.symm.trans foundWritten
      rfl

namespace Extracted

variable {typeName : String} {properties : Properties}

/-- The payload for itself is the explicit payload. -/
theorem make_explicit_eq (typeName : String) (properties : Properties) :
    (EntitySource.explicit typeName properties).make =
      Entity.extracted <$> explicit typeName properties :=
  rfl

/-- A property with a name that is taken is the reason why there is no payload. -/
theorem exists_make_explicit_eq_error
    (taken : ¬ ∀ property ∈ properties, property.1 ≠ "cls" ∧ property.1 ≠ "type_name") :
    ∃ name, (EntitySource.explicit typeName properties).make =
      .error (.reservedProperty name) := by
  cases clash : clash? properties with
  | none => exact absurd (clash?_eq_none_iff.mp clash) taken
  | some name =>
      use name
      rw [make_explicit_eq, explicit_of_clash?_eq_some clash]
      rfl

/-- Different names make a payload with all properties exactly if all of them are free. -/
theorem make_explicit_eq_ok_iff (distinct : (properties.map Prod.fst).Nodup) :
    (EntitySource.explicit typeName properties).make =
        .ok (.extracted ⟨.plain typeName, properties⟩) ↔
      ∀ property ∈ properties, property.1 ≠ "cls" ∧ property.1 ≠ "type_name" := by
  constructor
  · intro makes
    by_contra taken
    rcases exists_make_explicit_eq_error taken with ⟨name, refuses⟩
    rw [refuses] at makes
    contradiction
  · intro free
    rw [make_explicit_eq, explicit_of_clash?_eq_none distinct (clash?_eq_none_iff.mpr free)]
    rfl

/-- In a relationship a payload is made as it is for itself. -/
theorem eval_rel_eq_ok_iff {source : EntitySource} {entity : Entity} :
    (Term.rel source).eval = .ok (.rel entity) ↔ source.make = .ok entity := by
  rw [Term.eval, Failure.map_eq_ok_iff]
  simp

/-- Properties with different names make an explicit payload, on its own and in a relationship,
exactly if none of them has a name that a parameter of the call takes; if one has, the call is
refused. The payload has the given type name and all properties in order, and a clause that creates
something from it, under the standard extractor, has the block with the names and literals of them
all. -/
theorem make_explicit_iff (distinct : (properties.map Prod.fst).Nodup) :
    let payload : Extracted := ⟨.plain typeName, properties⟩
    let source : EntitySource := .explicit typeName properties
    let free : Prop := ∀ property ∈ properties, property.1 ≠ "cls" ∧ property.1 ≠ "type_name"
    (source.make = .ok (.extracted payload) ↔ free) ∧
    ((Term.rel source).eval = .ok (.rel (.extracted payload)) ↔ free) ∧
    (¬ free → ∃ name, source.make = .error (.reservedProperty name) ∧
      (Term.rel source).eval = .error (.reservedProperty name)) ∧
    (free → ∀ {π β : Type} (env : Env) (b : Builder π β) (call : Call)
      (creation : Creation Name Extracted), b.extractor = .standard →
      source.Feeds payload call creation →
      ∀ written, properties.IsWritten env.platform written →
        (call.apply env b).result = .ok (b.extend
          ⟨[.clause (creation.clauseWith (Properties.blockText written))]⟩)) := by
  intro payload source free
  refine ⟨make_explicit_eq_ok_iff distinct, ?_, ?_, ?_⟩
  · exact eval_rel_eq_ok_iff.trans (make_explicit_eq_ok_iff distinct)
  · intro taken
    rcases exists_make_explicit_eq_error taken with ⟨name, refuses⟩
    use name
    constructor
    · exact refuses
    · rw [Term.eval, refuses]
      rfl
  · intro isFree π β env b call creation isStandard feeds written isWritten
    have made := feeds.creation_eq ((make_explicit_eq_ok_iff distinct).mpr isFree)
    rw [← isStandard] at made
    apply Call.apply_eq_of_block made
    rw [block, feeds.properties_eq]
    exact Properties.block_eq_ok_iff.mpr ⟨written, isWritten, rfl⟩

/-- The parameter that stands for the object itself takes no name. -/
theorem make_explicit_of_self :
    let properties : Properties := [("self", .bool true), ("since", .text "1999")]
    (properties.map Prod.fst).Nodup ∧
      ((Call.relate .unique (.apply .shiftRight (.apply .minus (.operand (.value (.text "a")))
        (.rel (.explicit "KNOWS" properties))) (.operand (.value (.text "b"))))).apply
          ⟨"\n", "", ⟨0, 900⟩⟩ (.empty : Builder Unit Unit)).result =
        .ok (Builder.empty.extend (.clause .createUnique
          "CREATE UNIQUE (a)-[:KNOWS \x7b self: true, since: \"1999\" \x7d]->(b)")) := by
  intro properties
  have distinct : (properties.map Prod.fst).Nodup := by decide
  have isFree : ∀ property ∈ properties, property.1 ≠ "cls" ∧ property.1 ≠ "type_name" := by decide
  have isWritten : properties.IsWritten ⟨0, 900⟩ [("self", "true"), ("since", "\"1999\"")] :=
    .cons ⟨rfl, rfl⟩ (.cons ⟨rfl, rfl⟩ .nil)
  have clause : Creation.clauseWith
      (Properties.blockText [("self", "true"), ("since", "\"1999\"")])
      (.relationship .unique .right (.plain "a") (.plain "b") ⟨.plain "KNOWS", properties⟩) =
        ⟨.createUnique,
          "CREATE UNIQUE (a)-[:KNOWS \x7b self: true, since: \"1999\" \x7d]->(b)"⟩ := by
    decide
  have kept := (@make_explicit_iff "KNOWS" properties distinct).2.2.2 isFree ⟨"\n", "", ⟨0, 900⟩⟩
    (.empty : Builder Unit Unit) _ _ rfl
    (.rightward .unique (.value (Value.name?_text "a")) (.value (Value.name?_text "b"))) _ isWritten
  constructor
  · exact distinct
  · rw [kept, clause]
    rfl

/-- A property can have a name that makes the payload impossible. -/
theorem exists_explicit_refused :
    ∃ (typeName : String) (properties : Properties), (properties.map Prod.fst).Nodup ∧
      ∀ payload, explicit typeName properties ≠ .ok payload := by
  refine ⟨"KNOWS", [("cls", .bool true)], by decide, ?_⟩
  intro payload made
  contradiction

end Extracted

end CypherText
