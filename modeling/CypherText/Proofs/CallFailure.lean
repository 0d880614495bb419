import CypherText.Proofs.Call
import CypherText.Proofs.Value.Causes

/-!
# Calls that cannot be written

What is made from literals cannot be written exactly if one of the literals cannot: a property
block, and every call that creates a node or a relationship, once the extractor has read the type
name and the properties. It fails by what the first of these literals fails by.
-/

namespace CypherText

namespace Failure

variable {α β : Type} {failure : Failure}

/-- A last step that cannot fail leaves the failures as they are. -/
theorem bind_ok_eq_error_iff {result : Except Failure α} (f : α → β) :
    (result >>= fun a => .ok (f a)) = .error failure ↔ result = .error failure := by
  cases result with
  | error other => simp [Bind.bind, Except.bind]
  | ok a => simp [Bind.bind, Except.bind]

/-- The first element with a property is the head of a list or is found behind it. -/
theorem exists_first_cons_iff {P Q : α → Prop} {item : α} {items : List α} :
    (∃ before a after, item :: items = before ++ a :: after ∧ (∀ b ∈ before, P b) ∧ Q a) ↔
      Q item ∨ P item ∧ ∃ before a after, items = before ++ a :: after ∧ (∀ b ∈ before, P b) ∧
        Q a := by
  constructor
  · rintro ⟨before, a, after, equal, all, found⟩
    cases before with
    | nil =>
        cases equal
        exact .inl found
    | cons b before =>
        cases equal
        obtain ⟨first, others⟩ := List.forall_mem_cons.mp all
        exact .inr ⟨first, before, a, after, rfl, others, found⟩
  · rintro (found | ⟨first, before, a, after, rfl, others, found⟩)
    · exact ⟨[], item, items, rfl, nofun, found⟩
    · exact ⟨item :: before, a, after, rfl, List.forall_mem_cons.mpr ⟨first, others⟩, found⟩

/-- Some computations in a row fail by what the first one fails by that does. -/
theorem mapM_eq_error_iff {f : α → Except Failure β} {items : List α} :
    items.mapM f = .error failure ↔
      ∃ before a after, items = before ++ a :: after ∧ (∀ b ∈ before, ∃ r, f b = .ok r) ∧
        f a = .error failure := by
  induction items with
  | nil => simp [pure, Except.pure]
  | cons item items ih =>
      rw [List.mapM_cons, exists_first_cons_iff, ← ih]
      cases made : f item with
      | error other => simp [Bind.bind, Except.bind]
      | ok r =>
          have rest : (Except.ok r >>= fun r => items.mapM f >>= fun rs => .ok (r :: rs)) =
              .error failure ↔ items.mapM f = .error failure :=
            bind_ok_eq_error_iff (r :: ·)
          refine rest.trans ?_
          simp

end Failure

namespace Properties

/-- Whether one of the values has no literal for the given reason, while all before it have one. -/
def FirstFailsBy (platform : Platform) (properties : Properties) (failure : Failure) : Prop :=
  ∃ before property after, properties = before ++ property :: after ∧
    (∀ earlier ∈ before, ∃ text, earlier.2.literal platform = .ok text) ∧
    property.2.literal platform = .error failure

theorem pair_eq_error_iff {platform : Platform} {property : String × Value} {failure : Failure} :
    pair platform property = .error failure ↔ property.2.literal platform = .error failure :=
  Failure.bind_ok_eq_error_iff fun literal => Identifier.tokenOf property.1 ++ ": " ++ literal

theorem exists_pair_eq_ok_iff {platform : Platform} {property : String × Value} :
    (∃ text, pair platform property = .ok text) ↔
      ∃ text, property.2.literal platform = .ok text := by
  cases made : property.2.literal platform with
  | error failure => simp [pair, made, Bind.bind, Except.bind]
  | ok text => simp [pair, made, Bind.bind, Except.bind, pure, Except.pure]

/-- A block fails by what the first of its literals fails by. -/
theorem block_eq_error_iff {platform : Platform} {properties : Properties} {failure : Failure} :
    properties.block platform = .error failure ↔ properties.FirstFailsBy platform failure := by
  cases properties with
  | nil => simp [block, FirstFailsBy]
  | cons property properties =>
      rw [block]
      · refine (Failure.bind_ok_eq_error_iff fun pairs : List String =>
          " \x7b " ++ ", ".intercalate pairs ++ " \x7d").trans (Failure.mapM_eq_error_iff.trans ?_)
        simp only [pair_eq_error_iff, exists_pair_eq_ok_iff]
        rfl
      · intro empty
        contradiction

end Properties

namespace Builder

variable {π β : Type} {failure : Failure}

/-- A step that only gives a result, in front of one that always succeeds. -/
theorem result_append_bind_eq_error_iff {made : Logged String} {kind : ClauseKind}
    {clause : String → String} {b : Builder π β} :
    (made >>= fun text => b.append kind (clause text)).result = .error failure ↔
      made.result = .error failure := by
  rw [Logged.result_bind]
  exact Failure.bind_ok_eq_error_iff fun text => b.extend (.clause kind (clause text))

theorem result_createNode_eq_error_iff {env : Env} {name label : Name} {properties : Properties}
    {b : Builder π β} :
    (b.createNode env name label properties).result = .error failure ↔
      properties.block env.platform = .error failure :=
  result_append_bind_eq_error_iff

/-- A node that is made from an entity that is read is written unless its block cannot be. -/
theorem result_read_eq_error_iff {env : Env} {name : Name} {label : Extracted → Name}
    {entity : Entity} {b : Builder π β} {extracted : Extracted}
    (read : (b.extractor entity).result = .ok extracted) :
    (b.extractor entity >>= fun extracted =>
      b.createNode env name (label extracted) extracted.properties).result = .error failure ↔
        extracted.properties.block env.platform = .error failure := by
  rw [Logged.result_bind, read]
  exact result_createNode_eq_error_iff

/-- A declaration whose payload is read is written unless its block cannot be. -/
theorem result_relate_eq_error_iff {env : Env} {form : RelateForm} {d : Declaration}
    {b : Builder π β} {extracted : Extracted}
    (read : (b.extractor d.payload).result = .ok extracted) :
    (b.relate env form (.declaration d)).result = .error failure ↔
      extracted.properties.block env.platform = .error failure := by
  have text : (d.text env.platform b.extractor).result =
      (extracted.properties.block env.platform >>= fun block =>
        .ok (d.pattern (Identifier.token extracted.typeName) block)) := by
    rw [Declaration.text, Logged.result_bind, read]
    change Logged.result (_ >>= _) = _
    rw [Logged.result_bind]
    rfl
  rw [relate, result_append_bind_eq_error_iff, text]
  exact Failure.bind_ok_eq_error_iff _

end Builder

namespace Call

variable {π β : Type} {failure : Failure}

/-- A call that creates something whose properties are read fails by what their block fails by. -/
theorem result_apply_eq_error_iff {env : Env} {call : Call} {b : Builder π β}
    {creation : Creation Name Extracted} (made : call.creation b.extractor = .ok creation) :
    (call.apply env b).result = .error failure ↔
      creation.entity.properties.block env.platform = .error failure := by
  cases call with
  | createEmpty name label =>
      cases made
      exact Builder.result_createNode_eq_error_iff
  | createTyped name label source =>
      obtain ⟨entity, ready, made⟩ := Except.bind_eq_ok_iff.mp made
      obtain ⟨extracted, read, made⟩ := Except.bind_eq_ok_iff.mp made
      cases made
      rw [apply, ready, Logged.result_bind, Logged.result_ofExcept]
      exact (Builder.result_read_eq_error_iff read).trans Iff.rfl
  | create name source =>
      obtain ⟨entity, ready, made⟩ := Except.bind_eq_ok_iff.mp made
      obtain ⟨extracted, read, made⟩ := Except.bind_eq_ok_iff.mp made
      cases made
      rw [apply, ready, Logged.result_bind, Logged.result_ofExcept]
      exact Builder.result_read_eq_error_iff read
  | relate form term =>
      obtain ⟨operand, evaluated, made⟩ := Except.bind_eq_ok_iff.mp made
      cases operand with
      | declaration d =>
          obtain ⟨extracted, read, made⟩ := Except.bind_eq_ok_iff.mp made
          cases made
          rw [apply, evaluated, Logged.result_bind, Logged.result_ofExcept]
          exact Builder.result_relate_eq_error_iff read
      | value _ | rel _ | rightPartial _ _ | leftPartial _ _ | classItself _ => contradiction
  | raw _ | matching _ | optionalMatch _ | whereText _ | wherePredicate _ | returning _
  | createUniqueText _ | withExtractor _ | refused _ => contradiction

end Call

namespace Value

/-- With enough room for its text, a value fails as one that is too long exactly if its text holds
the numeral of such an integer. -/
theorem literal_eq_numeralTooLong_iff {platform : Platform} {v : Value}
    (flat : v.writtenDepth ≤ platform.room) :
    v.literal platform = .error .numeralTooLong ↔
      ∃ n, v.Writes n ∧ 4300 < (Numeral.digits n.natAbs).length := by
  have literal := v.failsFor_literal platform
  constructor
  · intro failed
    generalize reason : Failure.numeralTooLong = failure at failed
    cases literal.due failure failed with
    | numeral writes tooLong => exact ⟨_, writes, tooLong⟩
    | depth deep => exact absurd flat (Nat.not_le_of_lt deep)
    | timestamp content converted refused notOfValue =>
        subst reason
        contradiction
    | @bytes kind data _ content broken =>
        subst reason
        cases kind with
        | view layout => cases layout <;> contradiction
        | immutable => contradiction
        | mutable => contradiction
  · rintro ⟨n, writes, tooLong⟩
    have shows : v.content.ShowsTooLong := ⟨n, writes.2, tooLong⟩
    obtain ⟨failure, failed⟩ := literal.fails _ (.numeral writes tooLong)
    cases literal.due failure failed with
    | numeral _ _ => exact failed
    | depth deep => exact absurd flat (Nat.not_le_of_lt deep)
    | timestamp content converted refused notOfValue =>
        simp [content, showsTooLong_iff_of_ne_int, parts] at shows
    | bytes content broken => simp [content, showsTooLong_iff_of_ne_int, parts] at shows

end Value

/-- When literals, and what is made from them, cannot be written. A literal fails exactly if there
is an obstacle, and by what the obstacle leads to; with enough room for the text of the value it
fails as too long exactly if this text holds the numeral of an integer of more than 4300 digits. The
block of some properties, and every call that creates a node or a relationship from properties that
are read, fails by what the first of the values without a literal fails by. -/
theorem literal_block_apply_eq_error_iff (env : Env) :
    (∀ v : Value,
      (∀ failure, v.literal env.platform = .error failure → v.Obstacle env.platform failure) ∧
      (∀ failure, v.Obstacle env.platform failure →
        ∃ first, v.literal env.platform = .error first) ∧
      (v.writtenDepth ≤ env.platform.room →
        (v.literal env.platform = .error .numeralTooLong ↔
          ∃ n, v.Writes n ∧ 4300 < (Numeral.digits n.natAbs).length))) ∧
    (∀ (properties : Properties) (failure : Failure),
      properties.block env.platform = .error failure ↔
        properties.FirstFailsBy env.platform failure) ∧
    ∀ {π β : Type} (call : Call) (b : Builder π β) (creation : Creation Name Extracted),
      call.creation b.extractor = .ok creation →
      ∀ failure, (call.apply env b).result = .error failure ↔
        creation.entity.properties.FirstFailsBy env.platform failure := by
  refine ⟨?_, ?_, ?_⟩
  · intro v
    have literal := v.failsFor_literal env.platform
    exact ⟨literal.due, literal.fails, Value.literal_eq_numeralTooLong_iff⟩
  · intro properties failure
    exact Properties.block_eq_error_iff
  · intro π β call b creation made failure
    exact (Call.result_apply_eq_error_iff made).trans Properties.block_eq_error_iff

/-- Of three properties the second one holds an integer that is too long, and the third one, which
is not looked at any more, a view whose bytes lie apart. -/
theorem literal_block_apply_eq_error_of_second :
    let long : Value := .list [.int (Nat.pow 10 Numeral.digitLimit : Nat)]
    let properties : Properties :=
      [("a", .bool true), ("b", long), ("c", .bytes (.view .scattered) [97, 99])]
    let env : Env := ⟨"\n", "", ⟨0, 900⟩⟩
    ((Call.create (.plain "n") (.ready (.extracted ⟨.plain "T", properties⟩))).apply env
        (Builder.empty : Builder Unit Unit)).result = .error .numeralTooLong := by
  intro long properties env
  obtain ⟨literals, _, calls⟩ := literal_block_apply_eq_error_iff env
  refine (calls _ _ (.node (.plain "n") ⟨.plain "T", properties⟩) rfl _).mpr
    ⟨[("a", .bool true)], ("b", long), [("c", .bytes (.view .scattered) [97, 99])], rfl, ?_, ?_⟩
  · intro earlier among
    cases List.mem_singleton.mp among
    exact ⟨"true", rfl⟩
  · have positive : 0 < Numeral.digitLimit := by decide
    have writes : long.Writes (Nat.pow 10 Numeral.digitLimit : Nat) :=
      ⟨rfl, .part List.mem_cons_self .int⟩
    refine ((literals long).2.2 (by decide)).mpr ⟨_, writes, ?_⟩
    rw [Int.natAbs_natCast]
    refine Nat.lt_of_not_le fun short => ?_
    exact Nat.lt_irrefl _ ((Numeral.length_digits_le_iff _ _ positive).mp short)

namespace Value

/-- Members of enumerations, each the value of the next one. -/
def nestedMember : Nat → Value
  | 0 => int 1
  | n + 1 => member .bare ⟨"Color", "app.models.Color"⟩ "RED" (nestedMember n)

theorem depth_nestedMember (n : Nat) : (nestedMember n).depth = 3 * n := by
  induction n with
  | zero => rfl
  | succ n ih =>
      rw [nestedMember, depth, ih, memberLevels]
      omega

theorem eq_one_of_shows_nestedMember {k : Nat} {n : Int} (shows : (nestedMember k).Shows n) :
    n = 1 := by
  induction k with
  | zero =>
      cases shows with
      | int => rfl
      | part among _ => contradiction
  | succ k ih =>
      cases shows with
      | part among shows =>
          cases List.mem_singleton.mp among
          exact ih shows

theorem eq_one_of_writes_nestedMember {k : Nat} {n : Int}
    (writes : (list [nestedMember k]).Writes n) : n = 1 := by
  cases writes.2 with
  | part among shows =>
      cases List.mem_singleton.mp among
      exact eq_one_of_shows_nestedMember shows

/-- A member deep inside members has no text inside a list, though it holds only a short numeral. -/
theorem literal_nestedMember {platform : Platform} {k : Nat} (deep : platform.room < 3 * k + 1) :
    (list [nestedMember k]).literal platform = .error .tooDeep := by
  have literal := (list [nestedMember k]).failsFor_literal platform
  have isDeep : (list [nestedMember k]).Obstacle platform .tooDeep := by
    apply Obstacle.depth
    change platform.room < max (1 + (nestedMember k).depth) 0
    rw [depth_nestedMember]
    omega
  obtain ⟨failure, failed⟩ := literal.fails _ isDeep
  cases literal.due failure failed with
  | depth _ => exact failed
  | numeral writes tooLong =>
      rw [eq_one_of_writes_nestedMember writes] at tooLong
      contradiction
  | timestamp content _ _ _ => contradiction
  | bytes content _ => contradiction

/-- Literals that fail although no integer is written in them but the number one: members that are
the values of members, a member that is a timestamp without an offset, and a view of every other
byte. -/
theorem exists_literal_eq_error_without_long_numeral :
    let platform : Platform := ⟨0, 990⟩
    let deep := list [nestedMember 340]
    let moment := member .named ⟨"Moment", "app.models.Moment"⟩ "START"
      (timestamp ⟨⟨2024, 1, 1⟩, ⟨12, 0, 0, 0, .naive, false⟩⟩)
    let everyOther := bytes (.view .scattered) [97, 99]
    (deep.literal platform = .error .tooDeep ∧ ∀ n, deep.Writes n → n = 1) ∧
    (moment.literal platform = .error .meaningless ∧ ∀ n, ¬ moment.Writes n) ∧
    (everyOther.literal platform = .error .scattered ∧ ∀ n, ¬ everyOther.Writes n) := by
  intro platform deep moment everyOther
  refine ⟨⟨literal_nestedMember (by decide), fun n => eq_one_of_writes_nestedMember⟩,
    ⟨by decide, ?_⟩, ⟨by decide, ?_⟩⟩
  · rintro n ⟨_, shows⟩
    cases shows with
    | part among _ => contradiction
  · rintro n ⟨_, shows⟩
    cases shows with
    | part among _ => contradiction

end Value

end CypherText
