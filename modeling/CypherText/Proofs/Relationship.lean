import CypherText.Proofs.Property
import CypherText.Proofs.Value.Literal
import CypherText.Relationship

/-!
# What the notation for relationships means

Over names and payloads the operators have a meaning in four shapes only: a name before or behind a
payload is one half of a declaration, and the arrow of its own direction with a name on the open
side completes it. Whatever else is built with the operators, in any bracketing, has no meaning.
With other operands there is also arithmetic, but it never gives a text, so the ends of a
relationship are always names that were written as such.
-/

namespace CypherText

namespace Failure

variable {α β : Type}

theorem map_eq_ok_iff {f : α → β} {result : Except Failure α} {b : β} :
    f <$> result = .ok b ↔ ∃ a, result = .ok a ∧ f a = b := by
  cases result with
  | error failure => simp
  | ok a => simp

theorem map_eq_error_iff {f : α → β} {result : Except Failure α} {failure : Failure} :
    f <$> result = .error failure ↔ result = .error failure := by
  cases result with
  | error failure => simp
  | ok a => simp

end Failure

/-! ## Arithmetic and texts -/

namespace Value

theorem text?_of_name? {v : Value} {name : Name} (counts : v.name? = some name) :
    v.text? = some name.text := by
  obtain ⟨chars, isText, rfl⟩ := Option.map_eq_some_iff.mp counts
  exact isText

theorem exists_of_inRange {α : Type} {make : α → Value} {result : Option α} {v : Value}
    (found : inRange (result.map make) = .ok v) : ∃ a, v = make a := by
  cases result with
  | none => contradiction
  | some a => exact ⟨a, (Except.ok.inj found).symm⟩

theorem text?_of_minus_number {m n : Number} {v : Value} (difference : m.minus n = .ok v) :
    v.text? = none := by
  unfold Number.minus at difference
  split at difference
  · cases difference
    rfl
  · cases difference
    rfl
  · obtain ⟨_, _, made⟩ := Except.bind_eq_ok_iff.mp difference
    cases made
    rfl
  · obtain ⟨_, _, made⟩ := Except.bind_eq_ok_iff.mp difference
    cases made
    rfl
  · obtain ⟨_, _, rfl⟩ := Failure.map_eq_ok_iff.mp difference
    rfl
  · obtain ⟨_, _, rfl⟩ := Failure.map_eq_ok_iff.mp difference
    rfl
  · obtain ⟨_, _, rfl⟩ := Failure.map_eq_ok_iff.mp difference
    rfl
  · contradiction
  · contradiction

theorem text?_of_minus {a b v : Value} (difference : a.minus b = .ok v) : v.text? = none := by
  unfold minus at difference
  split at difference
  · split at difference
    · cases difference
      rfl
    · contradiction
  · obtain ⟨_, rfl⟩ := exists_of_inRange difference
    rfl
  · cases difference
    rfl
  · obtain ⟨_, rfl⟩ := exists_of_inRange difference
    rfl
  · obtain ⟨_, rfl⟩ := exists_of_inRange difference
    rfl
  · split at difference
    · exact text?_of_minus_number difference
    · contradiction

theorem text?_of_shiftWith {shift : Int → Int → Except Failure Int} {a b v : Value}
    (moved : shiftWith shift a b = .ok v) : v.text? = none := by
  unfold shiftWith at moved
  split at moved
  · obtain ⟨_, _, rfl⟩ := Failure.map_eq_ok_iff.mp moved
    rfl
  · contradiction

end Value

namespace Operator

/-- What an operator gives on values is never a name. -/
theorem name?_of_ofValues {op : Operator} {a b v : Value} (result : op.ofValues a b = .ok v) :
    v.name? = none := by
  have noText : v.text? = none := by
    cases op with
    | minus => exact Value.text?_of_minus result
    | shiftRight => exact Value.text?_of_shiftWith result
    | shiftLeft => exact Value.text?_of_shiftWith result
  simp [Value.name?, noText]

/-- Texts have no arithmetic. -/
theorem ofValues_of_text? {a b : Value} {chars more : String} (op : Operator)
    (left : a.text? = some chars) (right : b.text? = some more) :
    op.ofValues a b = .error .meaningless := by
  have first := Value.content_of_text? left
  have second := Value.content_of_text? right
  cases op <;> simp [ofValues, Value.minus, Value.shiftWith, Value.number?, first, second]

end Operator

/-! ## One operator -/

namespace Operand

/-- The ends of a relationship, or of one half of it. -/
def endpoints : Operand → List Name
  | rightPartial left _ => [left]
  | leftPartial right _ => [right]
  | declaration d => [d.left, d.right]
  | _ => []

@[simp]
theorem name?_rel (payload : Entity) : (rel payload).name? = none :=
  rfl

@[simp]
theorem name?_rightPartial (left : Name) (payload : Entity) :
    (rightPartial left payload).name? = none :=
  rfl

@[simp]
theorem name?_leftPartial (right : Name) (payload : Entity) :
    (leftPartial right payload).name? = none :=
  rfl

@[simp]
theorem name?_declaration (d : Declaration) : (declaration d).name? = none :=
  rfl

theorem exists_value_of_name? {x : Operand} {name : Name} (named : x.name? = some name) :
    ∃ v, x = value v ∧ v.name? = some name := by
  cases x with
  | value v => exact ⟨v, rfl, named⟩
  | rel _ | rightPartial _ _ | leftPartial _ _ | declaration _ | classItself _ => contradiction

/-- An operator has a result in five cases: a name before or behind a payload, the arrow that
completes one half of a declaration, and arithmetic. -/
theorem combine_eq_ok_iff {op : Operator} {a b x : Operand} :
    combine op a b = .ok x ↔
      (∃ left payload, op = .minus ∧ a.name? = some left ∧ b = rel payload ∧
        x = rightPartial left payload) ∨
      (∃ right payload, op = .minus ∧ a = rel payload ∧ b.name? = some right ∧
        x = leftPartial right payload) ∨
      (∃ left payload right, op = .shiftRight ∧ a = rightPartial left payload ∧
        b.name? = some right ∧ x = declaration (.rightward left payload right)) ∨
      (∃ left payload right, op = .shiftLeft ∧ a.name? = some left ∧
        b = leftPartial right payload ∧ x = declaration (.leftward left payload right)) ∨
      (∃ v w u, a = value v ∧ b = value w ∧ op.ofValues v w = .ok u ∧ x = value u) := by
  constructor
  · intro result
    unfold combine at result
    split at result
    · rename_i named
      cases result
      exact .inl ⟨_, _, rfl, named, rfl, rfl⟩
    · rename_i named
      cases result
      exact .inr (.inl ⟨_, _, rfl, rfl, named, rfl⟩)
    · rename_i named
      cases result
      exact .inr (.inr (.inl ⟨_, _, _, rfl, rfl, named, rfl⟩))
    · rename_i named
      cases result
      exact .inr (.inr (.inr (.inl ⟨_, _, _, rfl, named, rfl, rfl⟩)))
    · obtain ⟨u, calculated, equal⟩ := Failure.map_eq_ok_iff.mp result
      exact .inr (.inr (.inr (.inr ⟨_, _, u, rfl, rfl, calculated, equal.symm⟩)))
    · contradiction
  · rintro (⟨left, payload, rfl, named, rfl, rfl⟩ | ⟨right, payload, rfl, rfl, named, rfl⟩ |
      ⟨left, payload, right, rfl, rfl, named, rfl⟩ | ⟨left, payload, right, rfl, named, rfl, rfl⟩ |
      ⟨v, w, u, rfl, rfl, calculated, rfl⟩)
    · simp only [combine, named]
    · simp only [combine, named, name?_rel]
    · simp only [combine, named, name?_rightPartial]
    · simp only [combine, named, name?_leftPartial]
    · simp [combine, calculated]

/-- Whether an operand is a name, or has it as an end. -/
def Holds (x : Operand) (name : Name) : Prop :=
  x.name? = some name ∨ name ∈ x.endpoints

/-- The names of a result are names of its operands. -/
theorem Holds.of_combine {op : Operator} {a b x : Operand} {name : Name} (holds : x.Holds name)
    (result : combine op a b = .ok x) : a.Holds name ∨ b.Holds name := by
  rcases combine_eq_ok_iff.mp result with
    ⟨left, payload, rfl, named, rfl, rfl⟩ | ⟨right, payload, rfl, rfl, named, rfl⟩ |
    ⟨left, payload, right, rfl, rfl, named, rfl⟩ | ⟨left, payload, right, rfl, named, rfl, rfl⟩ |
    ⟨v, w, u, rfl, rfl, calculated, rfl⟩
  · have equal : name = left := by simpa [Holds, endpoints] using holds
    exact .inl (.inl (equal ▸ named))
  · have equal : name = right := by simpa [Holds, endpoints] using holds
    exact .inr (.inl (equal ▸ named))
  · have equal : name = left ∨ name = right := by
      simpa [Holds, endpoints, Declaration.rightward] using holds
    rcases equal with rfl | rfl
    · exact .inl (.inr (List.mem_singleton_self _))
    · exact .inr (.inl named)
  · have equal : name = left ∨ name = right := by
      simpa [Holds, endpoints, Declaration.leftward] using holds
    rcases equal with rfl | rfl
    · exact .inl (.inl named)
    · exact .inr (.inr (List.mem_singleton_self _))
  · have noName : (value u).name? = none := Operator.name?_of_ofValues calculated
    simp [Holds, endpoints, noName] at holds

/-- An operator without a result has no meaning, or is arithmetic that fails. -/
theorem combine_eq_error {op : Operator} {a b : Operand} {failure : Failure}
    (failed : combine op a b = .error failure) :
    failure = .meaningless ∨
      ∃ v w, a = value v ∧ b = value w ∧ op.ofValues v w = .error failure := by
  unfold combine at failed
  split at failed
  · contradiction
  · contradiction
  · contradiction
  · contradiction
  · right
    refine ⟨_, _, rfl, rfl, ?_⟩
    exact Failure.map_eq_error_iff.mp failed
  · left
    cases failed
    rfl

end Operand

/-! ## Expressions of the notation -/

namespace Term

/-- `t.IsName name`: the expression `t` is a value that counts as the text `name`. -/
inductive IsName : Term → Name → Prop
  | value {v : Value} {name : Name} (counts : v.name? = some name) :
      IsName (.operand (.value v)) name

/-- `t.IsPayload entity`: the expression `t` is a payload, or makes one. -/
inductive IsPayload : Term → Entity → Prop
  | ready {entity : Entity} : IsPayload (.operand (.rel entity)) entity
  | made {source : EntitySource} {entity : Entity} (makes : source.make = .ok entity) :
      IsPayload (.rel source) entity

/-- The expressions that are built with operators over names and payloads. -/
inductive IsNotation : Term → Prop
  | name {t : Term} {name : Name} (isName : t.IsName name) : IsNotation t
  | payload {t : Term} {entity : Entity} (isPayload : t.IsPayload entity) : IsNotation t
  | apply {op : Operator} {left right : Term} (first : IsNotation left)
      (second : IsNotation right) : IsNotation (.apply op left right)

/-- The four shapes with operators that have a meaning, and what they mean. -/
inductive Declares : Term → Operand → Prop
  | rightPartial {a b : Term} {left : Name} {payload : Entity} (first : a.IsName left)
      (second : b.IsPayload payload) :
      Declares (.apply .minus a b) (.rightPartial left payload)
  | leftPartial {a b : Term} {right : Name} {payload : Entity} (first : a.IsPayload payload)
      (second : b.IsName right) : Declares (.apply .minus a b) (.leftPartial right payload)
  | rightward {a b c : Term} {left right : Name} {payload : Entity} (first : a.IsName left)
      (second : b.IsPayload payload) (third : c.IsName right) :
      Declares (.apply .shiftRight (.apply .minus a b) c)
        (.declaration (.rightward left payload right))
  | leftward {a b c : Term} {left right : Name} {payload : Entity} (first : a.IsName left)
      (second : b.IsPayload payload) (third : c.IsName right) :
      Declares (.apply .shiftLeft a (.apply .minus b c))
        (.declaration (.leftward left payload right))

/-- Whether an expression applies an operator. -/
def IsApplied : Term → Prop
  | apply _ _ _ => True
  | _ => False

/-- The parts of an expression that apply no operator, from left to right. -/
def leaves : Term → List Term
  | apply _ left right => left.leaves ++ right.leaves
  | t => [t]

theorem eval_apply_eq_ok_iff {op : Operator} {left right : Term} {x : Operand} :
    (apply op left right).eval = .ok x ↔
      ∃ a b, left.eval = .ok a ∧ right.eval = .ok b ∧ Operand.combine op a b = .ok x := by
  simp only [eval, Except.bind_eq_ok_iff]
  constructor
  · rintro ⟨a, first, b, second, result⟩
    exact ⟨a, b, first, second, result⟩
  · rintro ⟨a, b, first, second, result⟩
    exact ⟨a, first, b, second, result⟩

/-- An application fails as its operands do, or as the operator does. -/
theorem eval_apply_eq_error {op : Operator} {left right : Term} {failure : Failure}
    (failed : (apply op left right).eval = .error failure) :
    left.eval = .error failure ∨ right.eval = .error failure ∨
      ∃ a b, left.eval = .ok a ∧ right.eval = .ok b ∧
        Operand.combine op a b = .error failure := by
  rw [eval] at failed
  cases first : left.eval with
  | error other =>
      rw [first] at failed
      cases failed
      exact .inl rfl
  | ok a =>
      rw [first] at failed
      cases second : right.eval with
      | error other =>
          simp only [second] at failed
          cases failed
          exact .inr (.inl rfl)
      | ok b =>
          simp only [second] at failed
          exact .inr (.inr ⟨a, b, rfl, rfl, failed⟩)

theorem IsName.eval_eq {t : Term} {name : Name} (isName : t.IsName name) :
    ∃ v, t.eval = .ok (.value v) ∧ v.name? = some name := by
  obtain ⟨counts⟩ := isName
  exact ⟨_, rfl, counts⟩

theorem IsPayload.eval_eq {t : Term} {entity : Entity} (isPayload : t.IsPayload entity) :
    t.eval = .ok (.rel entity) := by
  cases isPayload with
  | ready => rfl
  | made makes =>
      rw [eval, makes]
      rfl

/-- Each of the four shapes has its meaning. -/
theorem Declares.eval_eq {t : Term} {x : Operand} (declares : t.Declares x) :
    t.eval = .ok x := by
  cases declares with
  | rightPartial first second =>
      obtain ⟨v, evaluated, counts⟩ := first.eval_eq
      refine eval_apply_eq_ok_iff.mpr ⟨_, _, evaluated, second.eval_eq, ?_⟩
      exact Operand.combine_eq_ok_iff.mpr (.inl ⟨_, _, rfl, counts, rfl, rfl⟩)
  | leftPartial first second =>
      obtain ⟨v, evaluated, counts⟩ := second.eval_eq
      refine eval_apply_eq_ok_iff.mpr ⟨_, _, first.eval_eq, evaluated, ?_⟩
      exact Operand.combine_eq_ok_iff.mpr (.inr (.inl ⟨_, _, rfl, rfl, counts, rfl⟩))
  | rightward first second third =>
      obtain ⟨v, evaluated, counts⟩ := third.eval_eq
      have half := Declares.eval_eq (.rightPartial first second)
      refine eval_apply_eq_ok_iff.mpr ⟨_, _, half, evaluated, ?_⟩
      exact Operand.combine_eq_ok_iff.mpr (.inr (.inr (.inl ⟨_, _, _, rfl, rfl, counts, rfl⟩)))
  | leftward first second third =>
      obtain ⟨v, evaluated, counts⟩ := first.eval_eq
      have half := Declares.eval_eq (.leftPartial second third)
      refine eval_apply_eq_ok_iff.mpr ⟨_, _, evaluated, half, ?_⟩
      exact Operand.combine_eq_ok_iff.mpr
        (.inr (.inr (.inr (.inl ⟨_, _, _, rfl, counts, rfl, rfl⟩))))

/-- What an expression over names and payloads stands for: a leaf for itself, and everything else
for what its shape means. -/
inductive Denotes : Term → Operand → Prop
  | name {v : Value} {name : Name} (counts : v.name? = some name) :
      Denotes (.operand (.value v)) (.value v)
  | payload {t : Term} {entity : Entity} (isPayload : t.IsPayload entity) :
      Denotes t (.rel entity)
  | shape {t : Term} {x : Operand} (declares : t.Declares x) : Denotes t x

theorem Denotes.isName {t : Term} {x : Operand} {name : Name} (denotes : t.Denotes x)
    (named : x.name? = some name) : t.IsName name := by
  cases denotes with
  | name => exact .value named
  | payload => contradiction
  | shape declares => cases declares <;> contradiction

theorem Denotes.isPayload {t : Term} {entity : Entity} (denotes : t.Denotes (.rel entity)) :
    t.IsPayload entity := by
  cases denotes with
  | payload isPayload => exact isPayload
  | shape declares => cases declares

theorem Denotes.rightPartial {t : Term} {left : Name} {payload : Entity}
    (denotes : t.Denotes (.rightPartial left payload)) :
    ∃ a b, t = .apply .minus a b ∧ a.IsName left ∧ b.IsPayload payload := by
  cases denotes with
  | shape declares =>
      cases declares with
      | rightPartial first second => exact ⟨_, _, rfl, first, second⟩

theorem Denotes.leftPartial {t : Term} {right : Name} {payload : Entity}
    (denotes : t.Denotes (.leftPartial right payload)) :
    ∃ a b, t = .apply .minus a b ∧ a.IsPayload payload ∧ b.IsName right := by
  cases denotes with
  | shape declares =>
      cases declares with
      | leftPartial first second => exact ⟨_, _, rfl, first, second⟩

theorem Denotes.eval_eq {t : Term} {x : Operand} (denotes : t.Denotes x) : t.eval = .ok x := by
  cases denotes with
  | name => rfl
  | payload isPayload => exact isPayload.eval_eq
  | shape declares => exact declares.eval_eq

/-- A value among the results is a name, which has no arithmetic. -/
theorem Denotes.ofValues_eq {t u : Term} {v w : Value} (first : t.Denotes (.value v))
    (second : u.Denotes (.value w)) (op : Operator) : op.ofValues v w = .error .meaningless := by
  cases first with
  | name counts =>
      cases second with
      | name countsToo =>
          exact Operator.ofValues_of_text? op (Value.text?_of_name? counts)
            (Value.text?_of_name? countsToo)
      | shape declares => cases declares
  | shape declares => cases declares

/-- An expression over names and payloads evaluates to what it stands for. -/
theorem IsNotation.denotes {t : Term} {x : Operand} (isNotation : t.IsNotation)
    (evaluated : t.eval = .ok x) : t.Denotes x := by
  induction isNotation generalizing x with
  | name isName =>
      obtain ⟨counts⟩ := isName
      cases evaluated
      exact .name counts
  | payload isPayload =>
      cases isPayload.eval_eq.symm.trans evaluated
      exact .payload isPayload
  | apply _ _ leftDenotes rightDenotes =>
      obtain ⟨a, b, first, second, result⟩ := eval_apply_eq_ok_iff.mp evaluated
      have left := leftDenotes first
      have right := rightDenotes second
      rcases Operand.combine_eq_ok_iff.mp result with
        ⟨_, _, rfl, named, rfl, rfl⟩ | ⟨_, _, rfl, rfl, named, rfl⟩ |
        ⟨_, _, _, rfl, rfl, named, rfl⟩ | ⟨_, _, _, rfl, named, rfl, rfl⟩ |
        ⟨v, w, u, rfl, rfl, calculated, rfl⟩
      · exact .shape (.rightPartial (left.isName named) right.isPayload)
      · exact .shape (.leftPartial left.isPayload (right.isName named))
      · obtain ⟨_, _, rfl, isName, isPayload⟩ := left.rightPartial
        exact .shape (.rightward isName isPayload (right.isName named))
      · obtain ⟨_, _, rfl, isPayload, isName⟩ := right.leftPartial
        exact .shape (.leftward (left.isName named) isPayload isName)
      · rw [left.ofValues_eq right] at calculated
        contradiction

/-- Over names and payloads there is only one way to fail. -/
theorem IsNotation.eq_meaningless {t : Term} {failure : Failure} (isNotation : t.IsNotation)
    (failed : t.eval = .error failure) : failure = .meaningless := by
  induction isNotation with
  | name isName =>
      obtain ⟨v, equal, _⟩ := isName.eval_eq
      rw [equal] at failed
      contradiction
  | payload isPayload =>
      rw [isPayload.eval_eq] at failed
      contradiction
  | apply leftNotation rightNotation leftFails rightFails =>
      rcases eval_apply_eq_error failed with failed | failed | ⟨a, b, first, second, combined⟩
      · exact leftFails failed
      · exact rightFails failed
      · rcases Operand.combine_eq_error combined with equal | ⟨v, w, rfl, rfl, calculated⟩
        · exact equal
        · rw [(leftNotation.denotes first).ofValues_eq (rightNotation.denotes second)]
            at calculated
          exact (Except.error.inj calculated).symm

/-! ## Ends of relationships -/

/-- Every name in what an expression evaluates to stands at a leaf: as a text, or as an end of a
relationship that was made before. -/
theorem exists_leaf_of_holds {t : Term} {x : Operand} {name : Name} (evaluated : t.eval = .ok x)
    (holds : x.Holds name) :
    ∃ leaf ∈ t.leaves, leaf.IsName name ∨
      ∃ made, leaf.eval = .ok made ∧ name ∈ made.endpoints := by
  induction t generalizing x with
  | operand y =>
      cases evaluated
      refine ⟨operand y, List.mem_singleton_self _, ?_⟩
      rcases holds with named | isEnd
      · obtain ⟨v, rfl, counts⟩ := Operand.exists_value_of_name? named
        exact .inl (.value counts)
      · exact .inr ⟨y, rfl, isEnd⟩
  | rel source =>
      obtain ⟨entity, _, rfl⟩ := Failure.map_eq_ok_iff.mp evaluated
      rcases holds with named | isEnd <;> contradiction
  | declare direction left source right =>
      obtain ⟨entity, _, made⟩ := Except.bind_eq_ok_iff.mp evaluated
      cases made
      refine ⟨_, List.mem_singleton_self _, .inr ⟨_, evaluated, ?_⟩⟩
      exact holds.resolve_left (by simp)
  | apply op left right leftHas rightHas =>
      obtain ⟨a, b, first, second, result⟩ := eval_apply_eq_ok_iff.mp evaluated
      rcases holds.of_combine result with holds | holds
      · obtain ⟨leaf, among, isName⟩ := leftHas first holds
        exact ⟨leaf, List.mem_append_left _ among, isName⟩
      · obtain ⟨leaf, among, isName⟩ := rightHas second holds
        exact ⟨leaf, List.mem_append_right _ among, isName⟩
  | refused failure => contradiction

/-- The operators give the same as the declarations that are made without them. -/
theorem eval_operators_eq_declare {a c : Term} {left right : Name} (first : a.IsName left)
    (third : c.IsName right) (source : EntitySource) :
    (apply .shiftRight (apply .minus a (rel source)) c).eval =
        (declare .right left source right).eval ∧
      (apply .shiftLeft a (apply .minus (rel source) c)).eval =
        (declare .left left source right).eval := by
  obtain ⟨v, before, counts⟩ := first.eval_eq
  obtain ⟨w, behind, countsToo⟩ := third.eval_eq
  cases makes : source.make with
  | error failure =>
      simp only [eval, makes, before]
      exact ⟨rfl, rfl⟩
  | ok entity =>
      rw [(Declares.rightward first (.made makes) third).eval_eq,
        (Declares.leftward first (.made makes) third).eval_eq]
      simp [eval, makes, Declaration.rightward, Declaration.leftward]

/-- An expression over names and payloads evaluates to what it stands for, so with operators it is
a declaration in two shapes, one half of a declaration in two shapes, and has no meaning in any
other. The declarations are those that are made without operators. Whatever else stands at the
leaves, the ends of a relationship are texts that stand there, or ends of a relationship that
does. -/
theorem eval_eq_ok_iff_of_isNotation :
    (∀ t : Term, t.IsNotation →
      (∀ x, t.eval = .ok x ↔ t.Denotes x) ∧
      (∀ d, t.eval = .ok (.declaration d) ↔ t.Declares (.declaration d)) ∧
      (t.IsApplied → (∀ x, ¬ t.Declares x) → t.eval = .error .meaningless)) ∧
    (∀ (a c : Term) (left right : Name) (source : EntitySource),
      a.IsName left → c.IsName right →
      (apply .shiftRight (apply .minus a (rel source)) c).eval =
          (declare .right left source right).eval ∧
        (apply .shiftLeft a (apply .minus (rel source) c)).eval =
          (declare .left left source right).eval) ∧
    ∀ (t : Term) (x : Operand) (name : Name), t.eval = .ok x → name ∈ x.endpoints →
      ∃ leaf ∈ t.leaves, leaf.IsName name ∨
        ∃ made, leaf.eval = .ok made ∧ name ∈ made.endpoints := by
  refine ⟨?_, ?_, ?_⟩
  · intro t isNotation
    have evaluates (x : Operand) : t.eval = .ok x ↔ t.Denotes x :=
      ⟨isNotation.denotes, Denotes.eval_eq⟩
    refine ⟨evaluates, ?_, ?_⟩
    · intro d
      rw [evaluates]
      constructor
      · rintro (_ | _ | declares)
        exact declares
      · exact .shape
    · intro applied noShape
      cases result : t.eval with
      | error failure => rw [isNotation.eq_meaningless result]
      | ok x =>
          cases isNotation.denotes result with
          | name => contradiction
          | payload isPayload => cases isPayload <;> contradiction
          | shape declares => exact absurd declares (noShape x)
  · intro a c left right source first third
    exact eval_operators_eq_declare first third source
  · intro t x name evaluated isEnd
    exact exists_leaf_of_holds evaluated (.inr isEnd)

/-- A finished arrow is a declaration, and one half of it cannot take the place of a name. -/
theorem eval_of_fred_and_george :
    let fred : Term := .operand (.value (.text "fred"))
    let george : Term := .operand (.value (.text "george"))
    let payload : EntitySource := .explicit "KNOWS" [("Since", .int 2010)]
    let half : Term := .apply .minus fred (.rel payload)
    let arrow : Term := .apply .shiftRight half george
    let twice : Term := .apply .minus half george
    (arrow.IsNotation ∧ arrow.eval = .ok (.declaration (.rightward (.plain "fred")
      (.extracted ⟨.plain "KNOWS", [("Since", .int 2010)]⟩) (.plain "george")))) ∧
    (twice.IsNotation ∧ (∀ x, ¬ twice.Declares x) ∧ twice.eval = .error .meaningless) ∧
    arrow.eval = (declare .right (.plain "fred") payload (.plain "george")).eval ∧
    ∃ leaf ∈ arrow.leaves, leaf.IsName (.plain "george") ∨
      ∃ made, leaf.eval = .ok made ∧ .plain "george" ∈ made.endpoints := by
  intro fred george payload half arrow twice
  have isFred : fred.IsName (.plain "fred") := .value rfl
  have isGeorge : george.IsName (.plain "george") := .value rfl
  have isPayload : (rel payload).IsPayload
      (.extracted ⟨.plain "KNOWS", [("Since", .int 2010)]⟩) := .made rfl
  have halfNotation : half.IsNotation := .apply (.name isFred) (.payload isPayload)
  have arrowNotation : arrow.IsNotation := .apply halfNotation (.name isGeorge)
  have twiceNotation : twice.IsNotation := .apply halfNotation (.name isGeorge)
  have noShape (x : Operand) : ¬ twice.Declares x := by
    intro declares
    change Declares (.apply .minus (.apply .minus fred (.rel payload)) george) x at declares
    cases declares with
    | rightPartial first second => cases first
    | leftPartial first second => cases first
  have declared := (eval_eq_ok_iff_of_isNotation.1 arrow arrowNotation).2.1 _ |>.mpr
    (.rightward isFred isPayload isGeorge)
  refine ⟨⟨arrowNotation, declared⟩, ⟨twiceNotation, noShape, ?_⟩, ?_, ?_⟩
  · exact (eval_eq_ok_iff_of_isNotation.1 twice twiceNotation).2.2 trivial noShape
  · exact (eval_eq_ok_iff_of_isNotation.2.1 fred george _ _ payload isFred isGeorge).1
  · exact eval_eq_ok_iff_of_isNotation.2.2 arrow _ _ declared (.tail _ (.head _))

end Term

end CypherText
