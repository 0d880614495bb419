import CypherText.Call
import CypherText.Proofs.Builder
import CypherText.Proofs.Relationship
import CypherText.Proofs.Value.Causes

/-!
# Which failures are reported

Only a misuse of the library itself is reported and logged. Writing values, combining the operands
of a declaration and making entities can fail too, but never by such a fault, unless a fault is
already what stands in the place of something that could not be made.
-/

namespace CypherText

namespace Failure

/-- The records of a failure: that of its report if the library reports it, and otherwise none. -/
def records : Failure → List Event
  | fault f => [.ofFault f]
  | _ => []

/-- Whether the library does not report a failure. -/
def IsSilent (failure : Failure) : Prop :=
  ∀ f, failure ≠ fault f

theorem IsSilent.records_eq {failure : Failure} (isSilent : failure.IsSilent) :
    failure.records = [] := by
  cases failure with
  | fault f => exact absurd rfl (isSilent f)
  | _ => rfl

theorem isSilent_unsupported : unsupported.IsSilent :=
  nofun

theorem isSilent_meaningless : meaningless.IsSilent :=
  nofun

theorem isSilent_unknownName (name : String) : (unknownName name).IsSilent :=
  nofun

end Failure

/-- Whether a computation does not fail by a fault. -/
def Faultless {α : Type} (result : Except Failure α) : Prop :=
  ∀ f, result ≠ .error (.fault f)

namespace Faultless

variable {α β : Type}

theorem ok (a : α) : Faultless (.ok a : Except Failure α) := by
  intro f failed
  cases failed

theorem error {failure : Failure} (isSilent : failure.IsSilent) :
    Faultless (.error failure : Except Failure α) := by
  intro f failed
  exact isSilent f (Except.error.inj failed)

theorem isSilent {failure : Failure} (faultless : Faultless (.error failure : Except Failure α)) :
    failure.IsSilent := by
  intro f failed
  exact faultless f (congrArg Except.error failed)

/-- Two steps in a row do not fail by a fault if neither does. -/
theorem bind {first : Except Failure α} {next : α → Except Failure β} (starts : Faultless first)
    (goesOn : ∀ a, Faultless (next a)) : Faultless (first >>= next) := by
  cases first with
  | error failure => exact error starts.isSilent
  | ok a => exact goesOn a

theorem map {result : Except Failure α} (f : α → β) (faultless : Faultless result) :
    Faultless (f <$> result) := by
  cases result with
  | error failure => exact error faultless.isSilent
  | ok a => exact ok (f a)

theorem mapM {f : α → Except Failure β} (faultless : ∀ a, Faultless (f a)) (items : List α) :
    Faultless (items.mapM f) := by
  induction items with
  | nil => exact ok []
  | cons a items ih =>
      rw [List.mapM_cons]
      exact (faultless a).bind fun b => ih.bind fun bs => ok (b :: bs)

end Faultless

/-! ## Texts of values -/

/-- What fails only for causes that the library does not report does not fail by a fault. -/
theorem FailsFor.faultless {α : Type} {causes : Failure → Prop} {result : Except Failure α}
    (fails : FailsFor causes result) (areSilent : ∀ failure, causes failure → failure.IsSilent) :
    Faultless result := by
  intro f failed
  exact areSilent _ (fails.due _ failed) f rfl

theorem FailsText.faultless {α : Type} {tooLong tooDeep : Prop} {result : Except Failure α}
    (fails : FailsText tooLong tooDeep result) : Faultless result := by
  refine FailsFor.faultless fails ?_
  rintro failure (⟨rfl, _⟩ | ⟨rfl, _⟩)
  · exact nofun
  · exact nofun

namespace Value

/-- Nothing that keeps a value from being written is reported. -/
theorem Obstacle.isSilent {platform : Platform} {v : Value} {failure : Failure}
    (obstacle : v.Obstacle platform failure) : failure.IsSilent := by
  cases obstacle with
  | numeral _ _ => exact nofun
  | depth _ => exact nofun
  | @timestamp t failure isOther content converted refused notOfValue =>
      rintro f rfl
      contradiction
  | @bytes kind data failure content broken =>
      rintro f rfl
      cases kind with
      | immutable => contradiction
      | mutable => contradiction
      | view layout => cases layout <;> exact nomatch broken

theorem faultless_literal (platform : Platform) (v : Value) : Faultless (v.literal platform) :=
  (v.failsFor_literal platform).faultless fun _ obstacle => obstacle.isSilent

end Value

theorem Properties.faultless_block (platform : Platform) (properties : Properties) :
    Faultless (properties.block platform) := by
  have pair (property : String × Value) : Faultless (Properties.pair platform property) :=
    (property.2.faultless_literal platform).bind fun _ => .ok _
  cases properties with
  | nil => exact .ok ""
  | cons property properties => exact (Faultless.mapM pair _).bind fun _ => .ok _

theorem Extracted.faultless_literals (platform : Platform) (e : Extracted) :
    Faultless (e.literals platform) :=
  .mapM (fun property => (property.2.faultless_literal platform).bind fun _ => .ok _) _

theorem Predicate.faultless_describe (room : Nat) (predicate : Predicate) :
    Faultless (predicate.describe room) := by
  cases predicate with
  | function name => exact .ok name
  | value v => exact (v.failsText_inspect room).faultless

/-! ## Operators -/

theorem Decimal.faultless_rounded (coefficient exponent : Int) :
    Faultless (rounded coefficient exponent) := by
  unfold rounded
  dsimp only
  split
  · exact .error nofun
  · exact .ok _

theorem Decimal.faultless_subtract (d e : Decimal) : Faultless (d.subtract e) := by
  unfold subtract
  split
  case h_5 => split <;> first | exact .ok _ | exact .error nofun
  case h_8 => exact faultless_rounded _ _
  all_goals first | exact .ok _ | exact .error nofun

namespace Value

theorem faultless_toDouble (n : Int) : Faultless (toDouble n) := by
  unfold toDouble
  split
  · exact .ok _
  · exact .error nofun

theorem Number.faultless_minus (m n : Number) : Faultless (m.minus n) := by
  unfold minus
  split
  · exact .ok _
  · exact .ok _
  · exact (faultless_toDouble _).bind fun _ => .ok _
  · exact (faultless_toDouble _).bind fun _ => .ok _
  · exact (Decimal.faultless_subtract _ _).map _
  · exact (Decimal.faultless_subtract _ _).map _
  · exact (Decimal.faultless_subtract _ _).map _
  · exact .error nofun
  · exact .error nofun

theorem faultless_shiftLeft (n places : Int) : Faultless (shiftLeft n places) := by
  unfold shiftLeft
  repeat' split
  all_goals first | exact .ok _ | exact .error nofun

theorem faultless_shiftRight (n places : Int) : Faultless (shiftRight n places) := by
  unfold shiftRight
  repeat' split
  all_goals first | exact .ok _ | exact .error nofun

theorem faultless_shiftWith {shift : Int → Int → Except Failure Int}
    (faultless : ∀ n places, Faultless (shift n places)) (a b : Value) :
    Faultless (shiftWith shift a b) := by
  unfold shiftWith
  split
  · exact (faultless _ _).map _
  · exact .error nofun

theorem faultless_inRange (result : Option Value) : Faultless (inRange result) := by
  cases result with
  | none => exact .error nofun
  | some v => exact .ok v

theorem faultless_minus (a b : Value) : Faultless (a.minus b) := by
  unfold minus
  split
  case h_2 => exact faultless_inRange _
  case h_4 => exact faultless_inRange _
  case h_5 => exact faultless_inRange _
  case h_6 =>
    split
    · exact Number.faultless_minus _ _
    · exact .error nofun
  case h_1 =>
    split
    · exact .ok _
    · exact .error nofun
  case h_3 => exact .ok _

end Value

theorem Operator.faultless_ofValues (op : Operator) (a b : Value) :
    Faultless (op.ofValues a b) := by
  cases op with
  | minus => exact a.faultless_minus b
  | shiftRight => exact Value.faultless_shiftWith Value.faultless_shiftRight a b
  | shiftLeft => exact Value.faultless_shiftWith Value.faultless_shiftLeft a b

theorem Operand.faultless_combine (op : Operator) (a b : Operand) :
    Faultless (combine op a b) := by
  intro f failed
  rcases combine_eq_error failed with meaningless | ⟨v, w, _, _, calculated⟩
  · contradiction
  · exact op.faultless_ofValues v w f calculated

/-! ## What calls are given -/

/-- Whether an entity is not one that is refused by a fault. -/
def EntitySource.IsSilent : EntitySource → Prop
  | refused failure => failure.IsSilent
  | _ => True

theorem EntitySource.IsSilent.faultless_make {source : EntitySource} (isSilent : source.IsSilent) :
    Faultless source.make := by
  cases source with
  | ready entity => exact .ok entity
  | explicit typeName properties =>
      refine Faultless.map _ ?_
      unfold Extracted.explicit
      split
      · exact .error nofun
      · exact .ok _
  | refused failure => exact .error isSilent

/-- Whether no part of an expression of the notation is refused by a fault. -/
def Term.IsSilent : Term → Prop
  | operand _ => True
  | rel payload => payload.IsSilent
  | declare _ _ payload _ => payload.IsSilent
  | apply _ left right => left.IsSilent ∧ right.IsSilent
  | refused failure => failure.IsSilent

theorem Term.IsSilent.faultless_eval {t : Term} (isSilent : t.IsSilent) : Faultless t.eval := by
  induction t with
  | operand x => exact .ok x
  | rel payload => exact (EntitySource.IsSilent.faultless_make isSilent).map _
  | declare direction left payload right =>
      exact (EntitySource.IsSilent.faultless_make isSilent).bind fun _ => .ok _
  | apply op left right leftFaultless rightFaultless =>
      exact (leftFaultless isSilent.1).bind fun a =>
        (rightFaultless isSilent.2).bind fun b => Operand.faultless_combine op a b
  | refused failure => exact .error isSilent

end CypherText
